import ConnectionPool.Proofs.Client.Routing
import ConnectionPool.Proofs.Client.Tariff

/-!
# Operations written out

Where no callback calls back, an operation takes a client that has nothing to do to another such
client, and often both can be written out. A client is driven turn by turn (`drive_call`,
`drive_turn`), and each turn has its equation. Main statements, for a client that runs and has no
request listeners: what it leaves of a request that finds no room (`AtEase.submit_full`), of one
that finds room while no connection is idle (`AtEase.submit_free`, `AtEase.submit_busy`), of a
search for a destination that is known (`AtEase.locate_known`) and of an abort that finds its
request (`AtEase.abort`).
-/

set_option autoImplicit false

namespace ConnectionPool.Client

variable {σ : Type} {note : Client → Call → σ → σ} {w v : Client} {s : σ} {f : Frame}
  {rest : List Frame}

/-! ## Driving a client turn by turn -/

theorem driveFor_eq {n m : Nat} (enough : w.workload ≤ n) (also : w.workload ≤ m) :
    w.driveFor note n s = w.driveFor note m s := by
  induction n generalizing m w s with
  | zero =>
      have none := agenda_nil_of_workload (Nat.le_zero.1 enough)
      cases m with
      | zero => rfl
      | succ m => rw [driveFor, driveFor, none]
  | succ n ih =>
      cases m with
      | zero =>
          have none := agenda_nil_of_workload (Nat.le_zero.1 also)
          rw [driveFor, driveFor, none]
      | succ m =>
          rw [driveFor.eq_def note (n + 1), driveFor.eq_def note (m + 1)]
          dsimp only
          split
          · rfl
          · rfl
          · next c rest top =>
              have cost := workload_called top
              exact ih (by omega) (by omega)
          · next f rest inside uncalled top =>
              have cost := workload_turn top (fun c own => uncalled c (own ▸ rfl))
                (fun c own => inside c (own ▸ rfl))
              exact ih (by omega) (by omega)

theorem drive_nil (quiet : w.agenda = []) : w.drive note s = (w, s) := by
  rw [drive]
  cases w.workload with
  | zero => rfl
  | succ n => rw [driveFor, quiet]

theorem drive_call {c : Call} (top : w.agenda = .call c :: rest) : w.drive note s =
    (({ w with agenda := rest } : Client).record (.called c)).drive note (note w c s) := by
  have cost := workload_called top
  rw [← resume_turn top, drive, ← cost, driveFor, top]
  exact driveFor_eq (by omega) (Nat.le_refl _)

theorem drive_turn (top : w.agenda = f :: rest) (uncalled : ∀ c, f ≠ .call c)
    (outside : ∀ c, f ≠ .within c) : w.drive note s = w.turn.drive note s := by
  have cost := workload_turn top uncalled outside
  obtain ⟨n, split⟩ : ∃ n, w.workload = n + 1 := ⟨w.workload - 1, by omega⟩
  rw [drive, split, driveFor]
  split
  · next none => cases top.symm.trans none
  · next inside =>
      cases top.symm.trans inside
      exact absurd rfl (outside _)
  · next calls =>
      cases top.symm.trans calls
      exact absurd rfl (uncalled _)
  · exact driveFor_eq (by omega) (Nat.le_refl _)

/-! ## Turns written out -/

/-- The end of an operation is noted. -/
theorem turn_finish {op : Operation} (top : w.agenda = .finish op :: rest) :
    w.turn = { w with agenda := rest, history := .returned op :: w.history } := by
  rw [turn, top]
  rfl

theorem drive_finish {op : Operation} (last : w.agenda = [.finish op]) : w.drive note s =
    ({ w with agenda := [], history := .returned op :: w.history }, s) := by
  rw [drive_turn last (by simp) (by simp), turn_finish last]
  exact drive_nil rfl

variable {d : DestinationId} {D : Destination}

/-- Where no connection is idle, none is taken. -/
theorem turn_takeIdle (top : w.agenda = .takeIdle d :: rest) (here : w.destinations[d]? = some D)
    (nothing : D.idle.items = []) : w.turn = { w with agenda := rest } := by
  exact turn_eq top rfl here (.takeNone here (BoundedQueue.poll_eq_none_iff.2 nothing))

/-- Where no connection is idle and no slot is free, there is nothing to acquire. -/
theorem turn_acquire_full (top : w.agenda = .acquire d :: rest)
    (here : w.destinations[d]? = some D) (nothing : D.idle.items = [])
    (full : D.slots.reserve? = none) : w.turn = { w with agenda := .takeIdle d :: rest } := by
  exact turn_eq top rfl here (.acquireFull here (BoundedQueue.poll_eq_none_iff.2 nothing) full)

/-- Where no connection is idle and a slot is free, a new connection is asked for. -/
theorem turn_acquire_free {slots : SlotCounter} (top : w.agenda = .acquire d :: rest)
    (here : w.destinations[d]? = some D) (nothing : D.idle.items = [])
    (free : D.slots.reserve? = some slots) : w.turn = { w with
      destinations := w.destinations.set d { D with slots := slots }
      attempts := w.attempts ++ [{ destination := d, pooled := true }]
      agenda := .call (.connect d w.attempts.length) :: .takeIdle d :: rest } := by
  exact turn_eq top rfl here (.acquireNew here (BoundedQueue.poll_eq_none_iff.2 nothing) free)

/-- An exchange that is given up is counted, and its listener is going to be told. -/
theorem turn_fail_aborted {e : Exchange} {reason : String}
    (top : w.agenda = .fail d e (.aborted reason) :: rest) : w.turn = { w with
      metrics.requestsAborted := w.metrics.requestsAborted + 1
      agenda := .call (.responseFailed e (Cause.aborted reason).responseFailure) ::
        .call (.completed e (.ofCause e.request (.aborted reason))) :: rest
      history := .failed d e (.aborted reason) :: w.history } := by
  rw [turn, top]
  rfl

theorem drive_fail_aborted {op : Operation} {e : Exchange} {reason : String}
    (top : w.agenda = [.fail d e (.aborted reason), .finish op]) :
    ∃ u u', w.drive note s = ({ w with
      metrics.requestsAborted := w.metrics.requestsAborted + 1
      agenda := []
      history := .returned op :: .called (.completed e (.ofCause e.request (.aborted reason))) ::
        .called (.responseFailed e (Cause.aborted reason).responseFailure) ::
        .failed d e (.aborted reason) :: w.history },
      note u (.completed e (.ofCause e.request (.aborted reason)))
        (note u' (.responseFailed e (Cause.aborted reason).responseFailure) s)) := by
  rw [drive_turn top (by simp) (by simp), turn_fail_aborted top, drive_call rfl, drive_call rfl]
  exact ⟨_, _, drive_finish rfl⟩

/-- An operation that only looks for an idle connection ends where there is none. -/
theorem drive_takeIdle {op : Operation} (top : w.agenda = [.takeIdle d, .finish op])
    (here : w.destinations[d]? = some D) (nothing : D.idle.items = []) : w.drive note s =
      ({ w with agenda := [], history := .returned op :: w.history }, s) := by
  rw [drive_turn top (by simp) (by simp), turn_takeIdle top here nothing]
  exact drive_finish rfl

theorem drive_acquire_full {op : Operation} (top : w.agenda = [.acquire d, .finish op])
    (here : w.destinations[d]? = some D) (nothing : D.idle.items = [])
    (full : D.slots.reserve? = none) : w.drive note s =
      ({ w with agenda := [], history := .returned op :: w.history }, s) := by
  rw [drive_turn top (by simp) (by simp), turn_acquire_full top here nothing full]
  exact drive_takeIdle (w := { w with agenda := [.takeIdle d, .finish op] }) rfl here nothing

theorem drive_acquire_free {op : Operation} {slots : SlotCounter}
    (top : w.agenda = [.acquire d, .finish op]) (here : w.destinations[d]? = some D)
    (nothing : D.idle.items = []) (free : D.slots.reserve? = some slots) :
    ∃ v, w.drive note s = ({ w with
      destinations := w.destinations.set d { D with slots := slots }
      attempts := w.attempts ++ [{ destination := d, pooled := true }]
      agenda := []
      history := .returned op :: .called (.connect d w.attempts.length) :: w.history },
      note v (.connect d w.attempts.length) s) := by
  have reserved : (w.destinations.set d { D with slots := slots })[d]? =
      some { D with slots := slots } := by
    simp [(List.getElem?_eq_some_iff.1 here).1]
  rw [drive_turn top (by simp) (by simp), turn_acquire_free top here nothing free, drive_call rfl]
  exact ⟨_, drive_takeIdle rfl reserved nothing⟩

/-! ## Operations written out -/

/-- The client has nothing to do, it runs and nothing else is foreseen, and nobody is told of every
request. -/
structure AtEase (w : Client) : Prop where
  quiet : w.agenda = []
  runs : w.running = true
  calm : w.foreseen = []
  unheard : w.listeners = 0

section Send

variable {r : Request} {l : ListenerId} {a : Address}

/-- A queue that is full takes no request. -/
theorem send_full (runs : w.running = true) (calm : w.foreseen = [])
    (meant : D.mismatch? r = none) (full : D.queue.items.length = D.queue.capacity) :
    w.send d D r l = (.refused (.queueFull D.queue.capacity),
      { w with metrics.requestsRejected := w.metrics.requestsRejected + 1 }) := by
  have refuses : D.queue.offer ⟨w.nextTicket, r, l⟩ = .error ⟨w.nextTicket, r, l⟩ :=
    BoundedQueue.offer_eq_error_iff.2 ⟨full, rfl⟩
  simp only [send, meant, checkRunning, calm, runs, refuses, countRejected]

/-- A request that finds room is queued, and then a connection is looked for. -/
theorem send_room {queue : BoundedQueue Exchange} (runs : w.running = true)
    (calm : w.foreseen = []) (unheard : w.listeners = 0) (meant : D.mismatch? r = none)
    (room : D.queue.offer ⟨w.nextTicket, r, l⟩ = .ok queue) :
    w.send d D r l = (.done, { w with
      destinations := w.destinations.set d { D with queue := queue }
      nextTicket := w.nextTicket + 1
      metrics.requestsQueued := w.metrics.requestsQueued + 1
      agenda := .acquire d :: w.agenda
      history := .accepted d ⟨w.nextTicket, r, l⟩ :: w.history }) := by
  simp [send, meant, checkRunning, calm, runs, unheard, room, putDestination, record, countQueued,
    push]

/-- A destination that is not known is made. -/
theorem locate_of_unknown (unknown : w.registry.lookup a = none) : w.locate a =
    (w.destinations.length, { w with
      destinations := w.destinations ++ [.fresh a w.limits]
      registry := w.registry ++ [(a, w.destinations.length)] }) := by
  simp only [Client.locate]
  rw [unknown]

theorem AtEase.locate (h : w.AtEase) (found : w.locate a = (d, v)) : v.AtEase := by
  simp only [Client.locate] at found
  split at found
  · cases found
    exact h
  · cases found
    exact ⟨h.quiet, h.runs, h.calm, h.unheard⟩

/-- To submit a request is to send it to the destination that was found for it. -/
theorem AtEase.start_submit (h : w.AtEase) (meets : r.address? = some a)
    (found : w.locate a = (d, v)) (here : v.destinations[d]? = some D) (mark : Frame) :
    (w.push [mark]).start (.submit r l) = (v.push [mark]).send d D r l := by
  have found : (w.push [mark]).locate a = (d, v.push [mark]) := by
    rw [locate_push, found]
  have begins := start_submit_calm (w := w.push [mark]) (l := l) h.calm h.runs meets
  rw [begins, found]
  exact start_send here

/-- A request that finds room is queued, and then a connection is looked for. -/
theorem AtEase.invoke_submit (h : w.AtEase) {queue : BoundedQueue Exchange}
    (meets : r.address? = some D.address) (found : w.locate D.address = (d, v))
    (here : v.destinations[d]? = some D)
    (room : D.queue.offer ⟨v.nextTicket, r, l⟩ = .ok queue) :
    w.invoke (.submit r l) = (.done, { v with
      destinations := v.destinations.set d { D with queue := queue }
      nextTicket := v.nextTicket + 1
      metrics.requestsQueued := v.metrics.requestsQueued + 1
      agenda := [.acquire d, .finish (.submit r l)]
      history := .invoked (.submit r l) .done :: .accepted d ⟨v.nextTicket, r, l⟩ ::
        v.history }) := by
  have ease := h.locate found
  have starts := h.start_submit meets found here (.finish (.submit r l)) (l := l)
  rw [send_room (w := v.push _) ease.runs ease.calm ease.unheard
    (Destination.mismatch?_of_address meets) room] at starts
  have last : (v.push [.finish (.submit r l)]).agenda = [.finish (.submit r l)] :=
    congrArg (_ :: ·) ease.quiet
  rw [last] at starts
  exact invoke_of_start starts

/-- The destination whose queue was replaced. -/
theorem here_queued (here : v.destinations[d]? = some D) (queue : BoundedQueue Exchange) :
    (v.destinations.set d { D with queue := queue })[d]? = some { D with queue := queue } := by
  simp [(List.getElem?_eq_some_iff.1 here).1]

variable (note s)

/-- A request that finds no room is refused, and nothing is called. -/
theorem AtEase.submit_full (h : w.AtEase) (meets : r.address? = some D.address)
    (found : w.locate D.address = (d, v)) (here : v.destinations[d]? = some D)
    (full : D.queue.items.length = D.queue.capacity) :
    (w.invoke (.submit r l)).1 = .refused (.queueFull D.queue.capacity) ∧
      (w.invoke (.submit r l)).2.drive note s = ({ v with
        metrics.requestsRejected := v.metrics.requestsRejected + 1
        agenda := []
        history := .returned (.submit r l) ::
          .invoked (.submit r l) (.refused (.queueFull D.queue.capacity)) :: v.history }, s) := by
  have ease := h.locate found
  have starts := h.start_submit meets found here (.finish (.submit r l)) (l := l)
  rw [send_full (w := v.push _) ease.runs ease.calm (Destination.mismatch?_of_address meets) full]
    at starts
  rw [invoke_of_start starts]
  refine ⟨rfl, drive_finish ?_⟩
  show .finish (.submit r l) :: v.agenda = _
  rw [ease.quiet]

/-- A request that finds room is queued. While no connection is idle and no slot is free, nothing
else happens. -/
theorem AtEase.submit_busy (h : w.AtEase) {queue : BoundedQueue Exchange}
    (meets : r.address? = some D.address) (found : w.locate D.address = (d, v))
    (here : v.destinations[d]? = some D) (nothing : D.idle.items = [])
    (room : D.queue.offer ⟨v.nextTicket, r, l⟩ = .ok queue) (full : D.slots.reserve? = none) :
    (w.invoke (.submit r l)).1 = .done ∧
      (w.invoke (.submit r l)).2.drive note s = ({ v with
        destinations := v.destinations.set d { D with queue := queue }
        nextTicket := v.nextTicket + 1
        metrics.requestsQueued := v.metrics.requestsQueued + 1
        agenda := []
        history := .returned (.submit r l) :: .invoked (.submit r l) .done ::
          .accepted d ⟨v.nextTicket, r, l⟩ :: v.history }, s) := by
  rw [h.invoke_submit meets found here room]
  exact ⟨rfl, drive_acquire_full rfl (here_queued here queue) nothing full⟩

/-- A request that finds room is queued. While no connection is idle, but a slot is free, a new
connection is asked for. -/
theorem AtEase.submit_free (h : w.AtEase) {queue : BoundedQueue Exchange} {slots : SlotCounter}
    (meets : r.address? = some D.address) (found : w.locate D.address = (d, v))
    (here : v.destinations[d]? = some D) (nothing : D.idle.items = [])
    (room : D.queue.offer ⟨v.nextTicket, r, l⟩ = .ok queue)
    (free : D.slots.reserve? = some slots) :
    (w.invoke (.submit r l)).1 = .done ∧
      ∃ u, (w.invoke (.submit r l)).2.drive note s = ({ v with
        destinations := v.destinations.set d { D with queue := queue, slots := slots }
        attempts := v.attempts ++ [{ destination := d, pooled := true }]
        nextTicket := v.nextTicket + 1
        metrics.requestsQueued := v.metrics.requestsQueued + 1
        agenda := []
        history := .returned (.submit r l) :: .called (.connect d v.attempts.length) ::
          .invoked (.submit r l) .done :: .accepted d ⟨v.nextTicket, r, l⟩ :: v.history },
        note u (.connect d v.attempts.length) s) := by
  have both : v.destinations.set d { D with queue := queue, slots := slots } =
      (v.destinations.set d { D with queue := queue }).set d
        { D with queue := queue, slots := slots } :=
    (List.set_set ..).symm
  rw [h.invoke_submit meets found here room, both]
  exact ⟨rfl, drive_acquire_free (D := { D with queue := queue }) rfl (here_queued here queue)
    nothing free⟩

end Send

variable (note s)

/-- A search for a destination that is known finds it and changes nothing. -/
theorem AtEase.locate_known (h : w.AtEase) {scheme host : String} {port : Option UInt16}
    {a : Address} (meets : Address.resolve? scheme host port = some a)
    (known : w.registry.lookup a = some d) :
    (w.invoke (.locate scheme host port)).1 = .located d ∧
      (w.invoke (.locate scheme host port)).2.drive note s = ({ w with
        agenda := []
        history := .returned (.locate scheme host port) ::
          .invoked (.locate scheme host port) (.located d) :: w.history }, s) := by
  have starts := start_locate (w := w.push [.finish (.locate scheme host port)]) meets
  rw [locate_push, locate_of_lookup known] at starts
  rw [invoke_of_start starts]
  refine ⟨rfl, drive_finish ?_⟩
  show .finish (.locate scheme host port) :: w.agenda = _
  rw [h.quiet]

/-- An abort that finds its request takes the exchange off the queue and fails it. -/
theorem AtEase.abort (h : w.AtEase) {r : RequestId} {e : Exchange}
    {queue : BoundedQueue Exchange} (here : w.destinations[d]? = some D)
    (found : D.queue.removeFirst (·.isFor r) = some (e, queue)) (reason : String) :
    (w.invoke (.abort d r reason)).1 = .found true ∧
      ∃ u u', (w.invoke (.abort d r reason)).2.drive note s = ({ w with
        destinations := w.destinations.set d { D with queue := queue }
        metrics.requestsAborted := w.metrics.requestsAborted + 1
        agenda := []
        history := .returned (.abort d r reason) ::
          .called (.completed e (.ofCause e.request (.aborted reason))) ::
          .called (.responseFailed e (Cause.aborted reason).responseFailure) ::
          .failed d e (.aborted reason) ::
          .invoked (.abort d r reason) (.found true) :: w.history },
        note u (.completed e (.ofCause e.request (.aborted reason)))
          (note u' (.responseFailed e (Cause.aborted reason).responseFailure) s)) := by
  have starts := start_abort (w := w.push [.finish (.abort d r reason)]) here found reason
  rw [invoke_of_start starts]
  refine ⟨rfl, drive_fail_aborted ?_⟩
  show .fail d e (.aborted reason) :: .finish (.abort d r reason) :: w.agenda = _
  rw [h.quiet]

end ConnectionPool.Client
