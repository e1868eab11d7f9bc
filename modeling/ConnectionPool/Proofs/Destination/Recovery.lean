import ConnectionPool.Proofs.Destination.Closing
import ConnectionPool.Proofs.Destination.Dispatch
import ConnectionPool.Proofs.Destination.SlotAccounting

/-!
# Removals while exchanges wait

A connection that is removed gives its slot back, whether or not it held one. So there is a free
slot whenever a removal looks for another connection: if the destination allows a connection at all,
the search never ends at the limit. Main statement: a removal that leaves exchanges waiting puts an
idle connection to work, or asks for a new one if no connection is idle; no course of the client is
past the removal before that is done, and where no callback calls back there is nothing else to it
(`Client.Reached.recovers`).
-/

set_option autoImplicit false

namespace ConnectionPool

/-- Where a connection was forgotten a slot is free. -/
theorem Destination.exists_reserve_forget (D : Destination) (c : ConnectionId)
    (allows : 1 ≤ D.slots.limit) :
    ∃ slots, (D.forget c).slots.reserve? = some slots ∧ slots.limit = D.slots.limit ∧
      slots.used = D.slots.used - 1 + 1 := by
  have bound := D.slots.used_le
  have free : (D.forget c).slots.used < (D.forget c).slots.limit := by
    show D.slots.used - 1 < D.slots.limit
    omega
  exact ⟨⟨D.slots.limit, D.slots.used - 1 + 1, free⟩,
    SlotCounter.reserve?_eq_some_iff.2 ⟨free, rfl, rfl⟩, rfl, rfl⟩

namespace Client

variable {allowed : Client → Operation → Prop} {w u v : Client} {d : DestinationId}
  {D : Destination} {c c' : ConnectionId} {rest : List Frame}

/-! ## The turns of a removal -/

/-- The client after a connection was removed that left exchanges waiting. -/
def searching (w : Client) (d : DestinationId) (D : Destination) (c : ConnectionId)
    (rest : List Frame) : Client :=
  { w with
    destinations := w.destinations.set d (D.forget c)
    metrics.connectionsRemoved := w.metrics.connectionsRemoved + 1
    agenda := .acquire d :: rest }

theorem turn_removeMore (top : w.agenda = .remove d c :: rest)
    (here : w.destinations[d]? = some D) (waiting : D.queue.items ≠ []) :
    w.turn = w.searching d D c rest := by
  exact turn_eq top rfl here (.removeMore here waiting)

theorem here_searching (here : w.destinations[d]? = some D) :
    (w.searching d D c rest).destinations[d]? = some (D.forget c) :=
  List.getElem?_set_self (List.getElem?_eq_some_iff.1 here).1

/-- An idle connection is taken in hand. -/
theorem turn_acquire_idle {idle : BoundedQueue ConnectionId} (top : w.agenda = .acquire d :: rest)
    (here : w.destinations[d]? = some D) (head : D.idle.poll = some (c, idle)) : w.turn = { w with
      destinations := w.destinations.set d { D with idle := idle }
      agenda := .serve d c false :: rest } := by
  exact turn_eq top rfl here (.acquireIdle here head)

/-- Where no connection is idle, none is taken. -/
theorem leadsTo_takeIdle (top : w.agenda = .takeIdle d :: rest)
    (here : w.destinations[d]? = some D) (nothing : D.idle.items = []) :
    w.LeadsTo { w with agenda := rest } := by
  apply LeadsTo.turn top (by simp) (by simp)
  rw [turn_takeIdle top here nothing]
  exact .refl _

/-- The client that has removed `c` and has the idle connection `c'` in hand, so that `idle` is
left. -/
def holding (w : Client) (d : DestinationId) (D : Destination) (c c' : ConnectionId)
    (idle : BoundedQueue ConnectionId) (rest : List Frame) : Client :=
  { w with
    destinations := w.destinations.set d { D.forget c with idle := idle }
    metrics.connectionsRemoved := w.metrics.connectionsRemoved + 1
    agenda := .serve d c' false :: rest }

/-- The client that has removed `c` and is about to ask for a new connection. -/
def asking (w : Client) (d : DestinationId) (D : Destination) (c : ConnectionId)
    (slots : SlotCounter) (rest : List Frame) : Client :=
  { w with
    destinations := w.destinations.set d { D.forget c with slots := slots }
    attempts := w.attempts ++ [{ destination := d, pooled := true }]
    metrics.connectionsRemoved := w.metrics.connectionsRemoved + 1
    agenda := .call (.connect d w.attempts.length) :: .takeIdle d :: rest }

theorem turn_searching_idle {idle : BoundedQueue ConnectionId}
    (here : w.destinations[d]? = some D) (head : (D.forget c).idle.poll = some (c', idle)) :
    (w.searching d D c rest).turn = w.holding d D c c' idle rest := by
  rw [turn_acquire_idle rfl (here_searching here) head, searching, List.set_set]
  rfl

theorem turn_searching_new {slots : SlotCounter} (here : w.destinations[d]? = some D)
    (none : (D.forget c).idle.items = []) (free : (D.forget c).slots.reserve? = some slots) :
    (w.searching d D c rest).turn = w.asking d D c slots rest := by
  rw [turn_acquire_free rfl (here_searching here) none free, searching, List.set_set]
  rfl

/-! ## What comes before anything else -/

/-- No course goes below `rest` before the client was `u` and what is on top there was carried
out. -/
def Passes (w u : Client) (rest : List Frame) : Prop :=
  ∀ past v, Course Anything w past v → v.agenda.length ≤ rest.length →
    u ∈ past ∧ ∃ later, Course Anything u.turn later v

/-- What is on top of `rest` is carried out before a course goes below `rest`. -/
theorem Course.turned_above {past : List Client} {f : Frame} {l : List Frame}
    (course : Course allowed w past v) (top : w.agenda = f :: (l ++ rest))
    (outside : ∀ c, f ≠ .within c) (ends : v.agenda.length ≤ rest.length) :
    w ∈ past ∧ ∃ later, Course allowed w.turn later v ∧ ∀ x ∈ later, x ∈ past := by
  refine course.turned (not_awaits_iff.2 ⟨f, _, top, outside⟩) ?_
  rintro rfl
  rw [top, List.length_cons, List.length_append] at ends
  omega

theorem passes_self {f : Frame} {l : List Frame} (top : w.agenda = f :: (l ++ rest))
    (outside : ∀ c, f ≠ .within c) : w.Passes w rest := by
  intro past v course ends
  obtain ⟨left, later, goesOn, -⟩ := course.turned_above top outside ends
  exact ⟨left, later, goesOn⟩

theorem Passes.of_turn {f : Frame} {l : List Frame} (passes : w.turn.Passes u rest)
    (top : w.agenda = f :: (l ++ rest)) (outside : ∀ c, f ≠ .within c) : w.Passes u rest := by
  intro past v course ends
  obtain ⟨-, later, goesOn, left⟩ := course.turned_above top outside ends
  obtain ⟨passed, after⟩ := passes later v goesOn ends
  exact ⟨left u passed, after⟩

/-- A removal that leaves exchanges waiting is followed by the search for a connection, and that by
what the search comes to. -/
theorem LeadsTo.search (top : w.agenda = .remove d c :: rest)
    (here : w.destinations[d]? = some D) (waiting : D.queue.items ≠ [])
    (goesOn : (w.searching d D c rest).turn.LeadsTo v) : w.LeadsTo v := by
  apply LeadsTo.turn top (by simp) (by simp)
  rw [turn_removeMore top here waiting]
  exact LeadsTo.turn rfl (by simp) (by simp) goesOn

theorem Passes.search (top : w.agenda = .remove d c :: rest)
    (here : w.destinations[d]? = some D) (waiting : D.queue.items ≠ [])
    (passes : (w.searching d D c rest).turn.Passes u rest) : w.Passes u rest := by
  apply Passes.of_turn (l := []) _ top (by simp)
  rw [turn_removeMore top here waiting]
  exact passes.of_turn (l := []) rfl (by simp)

/-! ## The main statement -/

/-- What a removal of `c` at `d` comes to that is on top of `rest` while exchanges wait: it puts the
first idle connection to work, or asks for one new connection if none is idle. Either is done before
`rest` is gone on with; and where no callback calls back, that is all. -/
inductive Recovers (w : Client) (d : DestinationId) (D : Destination) (c : ConnectionId)
    (rest : List Frame) : Prop
  | takesIdle {c' : ConnectionId} {idle : BoundedQueue ConnectionId}
      {queue : BoundedQueue Exchange} {v : Client}
      (first : (D.forget c).idle.items = c' :: idle.items)
      (kept : idle.capacity = D.idle.capacity)
      (comes : w.Passes (w.holding d D c c' idle rest) rest)
      (left : queue.items = D.queue.items.dropWhile fun e => w.isMarked e.request.id)
      (sized : queue.capacity = D.queue.capacity)
      (placed : Placed
        ((w.holding d D c c' idle rest).passing d { D.forget c with idle := idle }
          (D.queue.items.takeWhile fun e => w.isMarked e.request.id) queue)
        d { D.forget c with idle := idle, queue := queue } c' rest false v)
      (leads : w.LeadsTo v) (same : v.attempts = w.attempts)
  | asksForOne {slots : SlotCounter} (none : (D.forget c).idle.items = [])
      (limit : slots.limit = D.slots.limit) (used : slots.used = D.slots.used - 1 + 1)
      (comes : w.Passes (w.asking d D c slots rest) rest)
      (leads : w.LeadsTo { w with
        destinations := w.destinations.set d { D.forget c with slots := slots }
        attempts := w.attempts ++ [{ destination := d, pooled := true }]
        metrics.connectionsRemoved := w.metrics.connectionsRemoved + 1
        agenda := rest
        history := .called (.connect d w.attempts.length) :: w.history })

/-- No attempt is made while a connection in hand is placed. -/
theorem Placed.attempts {deferred : Bool} (placed : w.Placed d D c rest deferred v) :
    v.attempts = w.attempts := by
  cases placed <;> rfl

theorem recovers_idle (top : w.agenda = .remove d c :: rest)
    (here : w.destinations[d]? = some D) (waiting : D.queue.items ≠ [])
    {idle : BoundedQueue ConnectionId} (head : (D.forget c).idle.poll = some (c', idle)) :
    w.Recovers d D c rest := by
  have takes : (w.searching d D c rest).turn = w.holding d D c c' idle rest :=
    turn_searching_idle here head
  have leads : w.LeadsTo (w.holding d D c c' idle rest) := by
    refine LeadsTo.search top here waiting ?_
    rw [takes]
    exact .refl _
  have comes : w.Passes (w.holding d D c c' idle rest) rest := by
    refine Passes.search top here waiting ?_
    rw [takes]
    exact passes_self (l := []) rfl (by simp)
  have there : (w.holding d D c c' idle rest).destinations[d]? =
      some { D.forget c with idle := idle } :=
    List.getElem?_set_self (List.getElem?_eq_some_iff.1 here).1
  obtain ⟨queue, _, v, left, sized, rfl, passes, goesOn, placed⟩ := exists_placed rfl there
  obtain ⟨first, kept⟩ := BoundedQueue.poll_eq_some_iff.1 head
  exact .takesIdle first (kept.trans (BoundedQueue.capacity_discard _ _)) comes left sized placed
    (leads.trans (passes.trans goesOn)) placed.attempts

theorem recovers_new (top : w.agenda = .remove d c :: rest)
    (here : w.destinations[d]? = some D) (waiting : D.queue.items ≠ [])
    (allows : 1 ≤ D.slots.limit) (none : (D.forget c).idle.items = []) :
    w.Recovers d D c rest := by
  obtain ⟨slots, free, limit, used⟩ := D.exists_reserve_forget c allows
  have asks : (w.searching d D c rest).turn = w.asking d D c slots rest :=
    turn_searching_new here none free
  have comes : w.Passes (w.asking d D c slots rest) rest := by
    refine Passes.search top here waiting ?_
    rw [asks]
    exact passes_self (l := [_]) rfl (by simp)
  refine .asksForOne none limit used comes (LeadsTo.search top here waiting ?_)
  rw [asks]
  -- no connection has become idle while the new one was asked for
  have there : (w.asking d D c slots rest).destinations[d]? =
      some { D.forget c with slots := slots } :=
    List.getElem?_set_self (List.getElem?_eq_some_iff.1 here).1
  exact (leadsTo_call rfl).trans (leadsTo_takeIdle rfl there none)

/-- Where a destination allows a connection at all, a removal that leaves exchanges waiting gets one
of them a connection: an idle one, or a new one, of which it asks for one and no more. This holds of
every client that is reached, whatever becomes of its connections and attempts, for connections of
the pool as for any other, and also of the removal that is part of a release. -/
theorem Reached.recovers (run : Reached Anything w) (here : w.destinations[d]? = some D)
    (allows : 1 ≤ w.limits.connections) (waiting : D.queue.items ≠ []) (c : ConnectionId) :
    (∀ rest, w.agenda = .remove d c :: rest → w.Recovers d D c rest) ∧
      (w.awaits = true → (w.invoke (.remove d c)).1 = .done ∧
        (w.invoke (.remove d c)).2.Recovers d D c (.finish (.remove d c) :: w.agenda)) := by
  have limit : D.slots.limit = w.limits.connections := (run.accounted here).sized.slots
  have general {v : Client} {rest : List Frame} (top : v.agenda = .remove d c :: rest)
      (there : v.destinations[d]? = some D) : v.Recovers d D c rest := by
    cases head : (D.forget c).idle.poll with
    | none =>
        exact recovers_new top there waiting (limit ▸ allows) (BoundedQueue.poll_eq_none_iff.1 head)
    | some taken => exact recovers_idle top there waiting head
  refine ⟨fun rest top => general top here, fun waits => ?_⟩
  have begun : w.invoke (.remove d c) = (.done, { w with
      agenda := .remove d c :: .finish (.remove d c) :: w.agenda
      history := .invoked (.remove d c) .done :: w.history }) :=
    invoke_of_start (start_remove (w := w.push [.finish (.remove d c)]) here c)
  rw [begun]
  exact ⟨rfl, general rfl here⟩

/-- Both slots of this client are in use while its request listener is told of a third request. To
remove the idle connection from within that callback has a new one asked for; to remove a connection
that is not pooled puts the idle one to work. -/
theorem pairedTelling_recovers : ∃ D, pairedTelling.destinations[0]? = some D ∧
    D.queue.items = [⟨2, narrowRequest 2, 2⟩] ∧ D.slots.used = D.slots.limit ∧
    (D.forget 8).idle.items = [] ∧
    (pairedTelling.invoke (.remove 0 8)).2.Recovers 0 D 8
      (.finish (.remove 0 8) :: pairedTelling.agenda) ∧
    D.Strays 9 ∧ (D.forget 9).idle.items = [8] ∧
    (pairedTelling.invoke (.remove 0 9)).2.Recovers 0 D 9
      (.finish (.remove 0 9) :: pairedTelling.agenda) := by
  have here : pairedTelling.destinations[0]? =
      some (pairedTelling.destinations.get ⟨0, by decide⟩) := List.getElem?_eq_getElem _
  have recovers := reached_pairedTelling.recovers here (by decide) (by decide)
  exact ⟨_, here, by decide, by decide, by decide, ((recovers 8).2 (by decide)).2,
    ⟨by decide, by decide⟩, by decide, ((recovers 9).2 (by decide)).2⟩

end Client

end ConnectionPool
