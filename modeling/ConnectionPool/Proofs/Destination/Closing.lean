import ConnectionPool.Proofs.Client.Uninterrupted
import ConnectionPool.Proofs.Destination.ServiceOrder

/-!
# Closing a destination

To close a destination is to close its idle connections, then its active ones, to free every slot,
and to fail every exchange that waits, in the order of the queue. Where no callback calls back,
nothing else happens, whether or not the client runs. Main statement: what the client is after that,
written out with everything that happened on the way (`Client.Reached.closes_exactly`); no exchange
that a connection took is among those that fail.
-/

set_option autoImplicit false

namespace ConnectionPool

/-- The destination without connections and without waiting exchanges, and with every slot free. -/
def Destination.emptied (D : Destination) : Destination where
  address := D.address
  slots := .empty D.slots.limit
  queue := .empty D.queue.capacity
  idle := .empty D.idle.capacity
  active := .empty D.active.capacity

namespace Client

variable {allowed : Client → Operation → Prop} {w : Client} {d : DestinationId} {D : Destination}
  {rest : List Frame}

/-- What happens while a destination is closed, in order: the idle connections are closed, then the
active ones, and then the exchanges that wait fail one after another. -/
def closingEvents (listeners : Nat) (d : DestinationId) (D : Destination) : List Event :=
  D.idle.items.map (fun c => .called (.close c)) ++
    D.active.items.map (fun c => .called (.close c)) ++
      D.queue.items.flatMap (closeEvents listeners d)

/-- No call that is made while a destination is closed is about an exchange that does not wait. -/
theorem exchange_of_closingEvents {listeners : Nat} {c : Call} {e : Exchange}
    (made : .called c ∈ closingEvents listeners d D) (about : c.exchange? = some e) :
    e ∈ D.queue.items := by
  simp only [closingEvents, List.mem_append, List.mem_map, List.mem_flatMap] at made
  rcases made with (⟨k, -, same⟩ | ⟨k, -, same⟩) | ⟨e', waits, told⟩
  · cases same
    cases about
  · cases same
    cases about
  · simp only [closeEvents, alarmCalls, List.map_append, List.map_map, List.mem_cons,
      List.mem_append, List.mem_map, List.map_cons, List.map_nil, List.not_mem_nil,
      or_false] at told
    rcases told with same | ⟨i, -, same⟩ | same | same
    · cases same
    · cases same
      cases about
    · cases same
      cases about
      exact waits
    · cases same
      cases about
      exact waits

/-! ## The three parts of a closing -/

theorem turn_closeIdle (top : w.agenda = .closeIdle d :: rest)
    (here : w.destinations[d]? = some D) : w.turn = { w with
      destinations := w.destinations.set d { D with idle := .empty D.idle.capacity }
      agenda := D.idle.items.map (fun c => .call (.close c)) ++ .closeActive d :: rest } := by
  rw [turn_eq top rfl here (.closeIdle here)]
  simp [push, putDestination, BoundedQueue.drain]

theorem turn_closeActive (top : w.agenda = .closeActive d :: rest)
    (here : w.destinations[d]? = some D) : w.turn = { w with
      destinations := w.destinations.set d { D with active := .empty D.active.capacity }
      agenda := D.active.items.map (fun c => .call (.close c)) ++ .failQueued d :: rest } := by
  rw [turn_eq top rfl here (.closeActive here)]
  simp [push, putDestination, BoundedQueue.drain]

theorem turn_failQueued (top : w.agenda = .failQueued d :: rest)
    (here : w.destinations[d]? = some D) : w.turn = { w with
      destinations := w.destinations.set d
        { D with slots := .empty D.slots.limit, queue := .empty D.queue.capacity }
      agenda := D.queue.items.map (fun e => .fail d e .closed) ++ rest } := by
  exact turn_eq top rfl here (.failQueued here)

/-- Connections are closed one after another. -/
theorem leadsTo_hungUp {cs : List ConnectionId}
    (top : w.agenda = cs.map (fun c => .call (.close c)) ++ rest) :
    w.LeadsTo { w with
      agenda := rest
      history := (cs.map (fun c => Event.called (.close c))).reverse ++ w.history } := by
  have calls : w.agenda = (cs.map Call.close).map .call ++ rest := by
    rw [top, List.map_map]
    rfl
  have leads := leadsTo_calls calls
  rw [List.map_map] at leads
  exact leads

theorem leadsTo_failQueued (top : w.agenda = .failQueued d :: rest)
    (here : w.destinations[d]? = some D) :
    w.LeadsTo { w with
      destinations := w.destinations.set d
        { D with slots := .empty D.slots.limit, queue := .empty D.queue.capacity }
      agenda := rest
      history := (D.queue.items.flatMap (closeEvents w.listeners d)).reverse ++ w.history } := by
  apply LeadsTo.turn top (by simp) (by simp)
  rw [turn_failQueued top here]
  exact leadsTo_closed rfl

theorem leadsTo_closeActive (top : w.agenda = .closeActive d :: rest)
    (here : w.destinations[d]? = some D) :
    w.LeadsTo { w with
      destinations := w.destinations.set d
        { D with
          slots := .empty D.slots.limit
          queue := .empty D.queue.capacity
          active := .empty D.active.capacity }
      agenda := rest
      history := (D.active.items.map (fun c => Event.called (.close c)) ++
        D.queue.items.flatMap (closeEvents w.listeners d)).reverse ++ w.history } := by
  have there := List.getElem?_set_self (a := { D with active := .empty D.active.capacity })
    (List.getElem?_eq_some_iff.1 here).1
  have failed := leadsTo_failQueued (w := { w with
    destinations := w.destinations.set d { D with active := .empty D.active.capacity }
    agenda := .failQueued d :: rest
    history := (D.active.items.map fun c => Event.called (.close c)).reverse ++ w.history })
    rfl there
  -- the queue is failed at the destination that has no active connection left
  rw [List.set_set] at failed
  apply LeadsTo.turn top (by simp) (by simp)
  rw [turn_closeActive top here, List.reverse_append, List.append_assoc]
  exact (leadsTo_hungUp rfl).trans failed

/-- A destination that is closed is emptied, and nothing happens but what that takes. -/
theorem leadsTo_emptied (top : w.agenda = .closeIdle d :: rest)
    (here : w.destinations[d]? = some D) :
    w.LeadsTo { w with
      destinations := w.destinations.set d D.emptied
      agenda := rest
      history := (closingEvents w.listeners d D).reverse ++ w.history } := by
  have there := List.getElem?_set_self (a := { D with idle := .empty D.idle.capacity })
    (List.getElem?_eq_some_iff.1 here).1
  have closed := leadsTo_closeActive (w := { w with
    destinations := w.destinations.set d { D with idle := .empty D.idle.capacity }
    agenda := .closeActive d :: rest
    history := (D.idle.items.map fun c => Event.called (.close c)).reverse ++ w.history })
    rfl there
  -- the rest is closed at the destination that has no idle connection left
  rw [List.set_set] at closed
  apply LeadsTo.turn top (by simp) (by simp)
  rw [turn_closeIdle top here, closingEvents, List.append_assoc, List.reverse_append,
    List.append_assoc]
  exact (leadsTo_hungUp rfl).trans closed

/-! ## Exchanges that do not wait -/

/-- An exchange that a connection took waits nowhere. -/
theorem Reached.not_waiting_of_taken (run : Reached allowed w) (here : w.destinations[d]? = some D)
    {e : Exchange} (took : e ∈ taken w.history) : e ∉ D.queue.items := by
  intro waits
  -- it stands in the line of the destination where it was taken
  obtain ⟨ev, happened, takes⟩ := List.mem_filterMap.1 took
  cases ev with
  | assigned d' c e' deferred =>
      cases takes
      have own : .assigned d' c e deferred ∈ w.eventsAt d' :=
        List.mem_filter.2 ⟨happened, by simp [Event.isAt, Event.destination?]⟩
      have there : e ∈ taken (w.eventsAt d') := List.mem_filterMap.2 ⟨_, own, rfl⟩
      have first : e ∈ w.line d' := List.mem_append_left _ (List.mem_reverse.2 there)
      have second : e ∈ w.line d := List.mem_append_right _ (waiting_of_here here ▸ waits)
      cases run.ordered.apart d' d e first e second rfl
      -- and there it would stand before itself
      have sorted := run.ordered.sorted d
      rw [line, waiting_of_here here] at sorted
      have before := (List.pairwise_append.1 sorted).2.2 e (List.mem_reverse.2 there) e waits
      exact Nat.lt_irrefl _ before
  | _ => cases takes

/-! ## The operation -/

theorem start_close (here : w.destinations[d]? = some D) :
    w.start (.close d) = (.done, w.push [.closeIdle d]) := by
  rw [start, here]

/-- To close a destination, where no callback calls back, closes its idle connections in order, then
the active ones, and fails the exchanges that wait, in order. It leaves the destination empty, and
everything else as it was: attempts, tasks, metrics, and the running flag, whatever that is. No call
is about an exchange that a connection took. -/
theorem Reached.closes_exactly (run : Reached Anything w) (waits : w.awaits = true)
    (here : w.destinations[d]? = some D) :
    (w.invoke (.close d)).1 = .done ∧
      (w.invoke (.close d)).2.settle = { w with
        destinations := w.destinations.set d D.emptied
        history := .returned (.close d) :: ((closingEvents w.listeners d D).reverse ++
          .invoked (.close d) .done :: w.history) } ∧
      ∀ e ∈ taken w.history, ∀ c, .called c ∈ closingEvents w.listeners d D →
        c.exchange? ≠ some e := by
  have begun : w.invoke (.close d) = (.done, { w with
      agenda := .closeIdle d :: .finish (.close d) :: w.agenda
      history := .invoked (.close d) .done :: w.history }) :=
    invoke_of_start (start_close (w := w.push [.finish (.close d)]) here)
  rw [begun]
  refine ⟨rfl, ?_, ?_⟩
  · have emptied := leadsTo_emptied (w := { w with
      agenda := .closeIdle d :: .finish (.close d) :: w.agenda
      history := .invoked (.close d) .done :: w.history }) rfl here
    exact (emptied.trans (leadsTo_finish rfl)).settle waits
  · intro e took c made about
    exact run.not_waiting_of_taken here took (exchange_of_closingEvents made about)

/-- A client that may hold two connections, with one request listener. -/
def paired : Client := .lone "paired" ⟨2, 4⟩ 1 ⟨"http", "localhost", 80⟩

/-- One connection is at work, the other is idle, and the request listener is being told that a
third request was queued. -/
def pairedTelling : Client :=
  let w := (paired.invoke (.send 0 (narrowRequest 0) 0)).2.settle
  let w := (w.invoke (.send 0 (narrowRequest 1) 1)).2.settle
  let w := (w.invoke (.settle 0 (.connected 7))).2.settle
  let w := (w.invoke (.settle 1 (.connected 8))).2.settle
  let w := (w.invoke (.release 0 8)).2.settle
  (w.invoke (.send 0 (narrowRequest 2) 2)).2.turn

theorem reached_pairedTelling : Reached Anything pairedTelling := by
  have new : Reached Anything paired := .initial (.lone _ _ _ _)
  have first := (new.invoke (.send 0 (narrowRequest 0) 0) (by decide) trivial).settle
  have second := (first.invoke (.send 0 (narrowRequest 1) 1) (by decide) trivial).settle
  have made := (second.invoke (.settle 0 (.connected 7)) (by decide) trivial).settle
  have both := (made.invoke (.settle 1 (.connected 8)) (by decide) trivial).settle
  have released := (both.invoke (.release 0 8) (by decide) trivial).settle
  exact (released.invoke (.send 0 (narrowRequest 2) 2) (by decide) trivial).step
    (.turn (by decide))

/-- A close from within that callback closes both connections and fails the third request. -/
theorem pairedTelling_closes : Reached Anything pairedTelling ∧ pairedTelling.awaits = true ∧
    ∃ D, pairedTelling.destinations[0]? = some D ∧
      closingEvents pairedTelling.listeners 0 D =
        [.called (.close 8), .called (.close 7), .failed 0 ⟨2, narrowRequest 2, 2⟩ .closed,
          .called (.requestFailed 0 (narrowRequest 2) .asynchronousClose),
          .called (.responseFailed ⟨2, narrowRequest 2, 2⟩ .asynchronousClose),
          .called (.completed ⟨2, narrowRequest 2, 2⟩ (.failed (narrowRequest 2) .asynchronousClose
            (some (narrowRequest 2)) .asynchronousClose))] ∧
      (pairedTelling.invoke (.close 0)).2.settle = { pairedTelling with
        destinations := pairedTelling.destinations.set 0 D.emptied
        history := .returned (.close 0) :: ((closingEvents pairedTelling.listeners 0 D).reverse ++
          .invoked (.close 0) .done :: pairedTelling.history) } := by
  have waits : pairedTelling.awaits = true := by decide
  have here : pairedTelling.destinations[0]? =
      some (pairedTelling.destinations.get ⟨0, by decide⟩) := List.getElem?_eq_getElem _
  exact ⟨reached_pairedTelling, waits, _, here, by decide,
    (reached_pairedTelling.closes_exactly waits here).2.1⟩

end Client

end ConnectionPool
