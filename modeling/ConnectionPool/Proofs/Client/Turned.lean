import ConnectionPool.Client.Turn

/-!
# What a turn can do

What is said of every run of a client is said by cases on what the client did. This module says
once which cases a turn has: `Turned f w w'` lists what carrying out the frame `f` can do to the
client `w` from whose agenda it was taken, each case with the client it leaves and the conditions it
is taken under. Main statement: carrying out a frame does one of them (`turned_perform`), and where
the destination that the frame is about exists there is no other (`Turned.eq_perform`). No later
module unfolds `Client.perform`.
-/

set_option autoImplicit false

namespace ConnectionPool

/-- The destination that a frame is about. A call and the mark of an operation's end name none. -/
def Frame.destination? : Frame → Option DestinationId
  | .call _ => none
  | .within _ => none
  | .finish _ => none
  | .acquire d => some d
  | .takeIdle d => some d
  | .serve d _ _ => some d
  | .remove d _ => some d
  | .fail d _ _ => some d
  | .closeIdle d => some d
  | .closeActive d => some d
  | .failQueued d => some d

namespace Client

/-! ## Parts of a step -/

/-- The next check of the running flag succeeds. -/
def seesRunning (w : Client) : Bool := w.checkRunning.1

/-- The client after its running flag was checked. -/
def glance (w : Client) : Client := w.checkRunning.2

/-- The client after a failed exchange was counted. Only aborts are. -/
def countFate (w : Client) : Cause → Client
  | .aborted _ => w.countAborted
  | .unconnected _ => w
  | .closed => w

/-- A check of the running flag uses up what was foreseen, and nothing else. -/
theorem glance_eq (w : Client) : w.glance = { w with foreseen := w.foreseen.tail } := by
  simp only [glance, checkRunning]
  cases h : w.foreseen with
  | nil => cases w; cases h; rfl
  | cons b rest => rfl

/-- Whoever is told of a failed exchange is a listener. -/
theorem isGuarded_of_mem_failureCalls {w : Client} {e : Exchange} {cause : Cause} {c : Call}
    (told : c ∈ w.failureCalls e cause) : c.isGuarded = true := by
  rcases List.mem_append.1 told with request | own
  · split at request
    · obtain ⟨i, -, rfl⟩ := List.mem_map.1 request
      rfl
    · cases request
  · simp only [List.mem_cons, List.not_mem_nil, or_false] at own
    rcases own with rfl | rfl <;> rfl

/-- Where nothing was foreseen, a check sees the flag. -/
theorem seesRunning_of_foreseen_nil {w : Client} (h : w.foreseen = []) :
    w.seesRunning = w.running := by
  simp only [seesRunning, checkRunning]
  rw [h]

theorem seesRunning_of_checkRunning {w w' : Client} {b : Bool} (h : w.checkRunning = (b, w')) :
    w.seesRunning = b ∧ w.glance = w' :=
  ⟨congrArg Prod.fst h, congrArg Prod.snd h⟩

/-! ## Turns -/

/-- `Turned f w w'`: carrying out `f`, which was taken off the agenda of `w`, leaves `w'`. -/
inductive Turned : Frame → Client → Client → Prop
  | call {w : Client} (c : Call) : Turned (.call c) w ((w.record (.called c)).push [.within c])
  | within {w : Client} (c : Call) : Turned (.within c) w (w.push [.within c])
  | finish {w : Client} (op : Operation) : Turned (.finish op) w (w.record (.returned op))
  | fail {w : Client} (d : DestinationId) (e : Exchange) (cause : Cause) :
      Turned (.fail d e cause) w
        (((w.record (.failed d e cause)).countFate cause).push
          ((((w.record (.failed d e cause)).countFate cause).failureCalls e cause).map .call))
  /-- The frame is about a destination that does not exist. -/
  | adrift {w : Client} {f : Frame} {d : DestinationId} (names : f.destination? = some d)
      (missing : w.destinations[d]? = none) : Turned f w w
  | acquireIdle {w : Client} {d : DestinationId} {dest : Destination} {c : ConnectionId}
      {idle : BoundedQueue ConnectionId} (here : w.destinations[d]? = some dest)
      (head : dest.idle.poll = some (c, idle)) :
      Turned (.acquire d) w
        ((w.putDestination d { dest with idle := idle }).push [.serve d c false])
  | acquireNew {w : Client} {d : DestinationId} {dest : Destination} {slots : SlotCounter}
      (here : w.destinations[d]? = some dest) (nothing : dest.idle.poll = none)
      (free : dest.slots.reserve? = some slots) :
      Turned (.acquire d) w
        (((w.putDestination d { dest with slots := slots }).addAttempt d true).push
          [.call (.connect d w.attempts.length), .takeIdle d])
  | acquireFull {w : Client} {d : DestinationId} {dest : Destination}
      (here : w.destinations[d]? = some dest) (nothing : dest.idle.poll = none)
      (full : dest.slots.reserve? = none) : Turned (.acquire d) w (w.push [.takeIdle d])
  | takeIdle {w : Client} {d : DestinationId} {dest : Destination} {c : ConnectionId}
      {idle : BoundedQueue ConnectionId} (here : w.destinations[d]? = some dest)
      (head : dest.idle.poll = some (c, idle)) :
      Turned (.takeIdle d) w
        ((w.putDestination d { dest with idle := idle }).push [.serve d c false])
  | takeNone {w : Client} {d : DestinationId} {dest : Destination}
      (here : w.destinations[d]? = some dest) (nothing : dest.idle.poll = none) :
      Turned (.takeIdle d) w w
  | parkSurplus {w : Client} {d : DestinationId} {dest : Destination} {c : ConnectionId}
      {deferred : Bool} (here : w.destinations[d]? = some dest) (empty : dest.queue.poll = none)
      (full : dest.idle.offer c = .error c) :
      Turned (.serve d c deferred) w (w.push [.call (.close c)])
  | parkIdle {w : Client} {d : DestinationId} {dest : Destination} {c : ConnectionId}
      {deferred : Bool} {idle : BoundedQueue ConnectionId} (here : w.destinations[d]? = some dest)
      (empty : dest.queue.poll = none) (room : dest.idle.offer c = .ok idle)
      (runs : w.seesRunning = true) :
      Turned (.serve d c deferred) w (w.glance.putDestination d { dest with idle := idle })
  | parkStopped {w : Client} {d : DestinationId} {dest : Destination} {c : ConnectionId}
      {deferred : Bool} {idle : BoundedQueue ConnectionId} (here : w.destinations[d]? = some dest)
      (empty : dest.queue.poll = none) (room : dest.idle.offer c = .ok idle)
      (stopped : w.seesRunning = false) :
      Turned (.serve d c deferred) w
        ((w.glance.putDestination d ({ dest with idle := idle }.forget c)).countRemoved.push
          [.call (.close c)])
  | passOver {w : Client} {d : DestinationId} {dest : Destination} {c : ConnectionId}
      {deferred : Bool} {e : Exchange} {queue : BoundedQueue Exchange}
      (here : w.destinations[d]? = some dest) (head : dest.queue.poll = some (e, queue))
      (marked : w.isMarked e.request.id = true) :
      Turned (.serve d c deferred) w
        ((w.putDestination d { dest with queue := queue }).push
          [.fail d e (.aborted passedOverReason), .serve d c deferred])
  | assign {w : Client} {d : DestinationId} {dest : Destination} {c : ConnectionId}
      {e : Exchange} {queue : BoundedQueue Exchange} (here : w.destinations[d]? = some dest)
      (head : dest.queue.poll = some (e, queue)) (unmarked : w.isMarked e.request.id = false) :
      Turned (.serve d c false) w
        (((w.putDestination d
          { dest with queue := queue, active := dest.active.offerOrDrop c }).record
            (.assigned d c e false)).push [.call (.send c e)])
  | assignDeferred {w : Client} {d : DestinationId} {dest : Destination} {c : ConnectionId}
      {e : Exchange} {queue : BoundedQueue Exchange} (here : w.destinations[d]? = some dest)
      (head : dest.queue.poll = some (e, queue)) (unmarked : w.isMarked e.request.id = false) :
      Turned (.serve d c true) w
        (((w.putDestination d
          { dest with queue := queue, active := dest.active.offerOrDrop c }).record
            (.assigned d c e true)).addTask (.deliver c e))
  | removeLast {w : Client} {d : DestinationId} {dest : Destination} {c : ConnectionId}
      (here : w.destinations[d]? = some dest) (empty : dest.queue.items = []) :
      Turned (.remove d c) w (w.putDestination d (dest.forget c)).countRemoved
  | removeMore {w : Client} {d : DestinationId} {dest : Destination} {c : ConnectionId}
      (here : w.destinations[d]? = some dest) (waiting : dest.queue.items ≠ []) :
      Turned (.remove d c) w ((w.putDestination d (dest.forget c)).countRemoved.push [.acquire d])
  | closeIdle {w : Client} {d : DestinationId} {dest : Destination}
      (here : w.destinations[d]? = some dest) :
      Turned (.closeIdle d) w
        ((w.putDestination d { dest with idle := dest.idle.drain.2 }).push
          (dest.idle.items.map (fun c => .call (.close c)) ++ [.closeActive d]))
  | closeActive {w : Client} {d : DestinationId} {dest : Destination}
      (here : w.destinations[d]? = some dest) :
      Turned (.closeActive d) w
        ((w.putDestination d { dest with active := dest.active.drain.2 }).push
          (dest.active.items.map (fun c => .call (.close c)) ++ [.failQueued d]))
  | failQueued {w : Client} {d : DestinationId} {dest : Destination}
      (here : w.destinations[d]? = some dest) :
      Turned (.failQueued d) w
        ((w.putDestination d
          { dest with slots := dest.slots.reset, queue := dest.queue.drain.2 }).push
            (dest.queue.items.map fun e => .fail d e .closed))

theorem turned_park {w : Client} {d : DestinationId} {dest : Destination} {c : ConnectionId}
    {deferred : Bool} (here : w.destinations[d]? = some dest) (empty : dest.queue.poll = none) :
    Turned (.serve d c deferred) w (w.park d dest c) := by
  simp only [park]
  split
  · next c' full =>
      -- what does not fit is the connection itself
      obtain ⟨-, rfl⟩ := BoundedQueue.offer_eq_error_iff.1 full
      exact .parkSurplus here empty full
  · next idle room =>
      split
      · next w' running =>
          obtain ⟨runs, rfl⟩ := seesRunning_of_checkRunning running
          exact .parkIdle here empty room runs
      · next w' running =>
          obtain ⟨stopped, rfl⟩ := seesRunning_of_checkRunning running
          exact .parkStopped here empty room stopped

theorem turned_serve {w : Client} {d : DestinationId} {dest : Destination} {c : ConnectionId}
    {deferred : Bool} (here : w.destinations[d]? = some dest) :
    Turned (.serve d c deferred) w (w.serve d dest c deferred) := by
  simp only [serve]
  split
  · next empty => exact turned_park here empty
  · next e queue head =>
      split
      · next marked => exact .passOver here head marked
      · next unmarked =>
          have unmarked : w.isMarked e.request.id = false := Bool.eq_false_iff.2 unmarked
          cases deferred with
          | true => exact .assignDeferred here head unmarked
          | false => exact .assign here head unmarked

/-- Carrying out a frame does one of the listed things. -/
theorem turned_perform (f : Frame) (w : Client) : Turned f w (w.perform f) := by
  cases f with
  | call c => exact .call c
  | within c => exact .within c
  | finish op => exact .finish op
  | fail d e cause => cases cause <;> exact .fail d e _
  | acquire d =>
      rw [perform]
      split
      · next missing => exact .adrift rfl missing
      · next dest here =>
          -- an idle connection comes first, then a free slot
          rw [acquire]
          split
          · next c idle head => exact .acquireIdle here head
          · next nothing =>
              split
              · next full => exact .acquireFull here nothing full
              · next slots free => exact .acquireNew here nothing free
  | takeIdle d =>
      rw [perform]
      split
      · next missing => exact .adrift rfl missing
      · next dest here =>
          split
          · next nothing => exact .takeNone here nothing
          · next c idle head => exact .takeIdle here head
  | serve d c deferred =>
      rw [perform]
      split
      · next missing => exact .adrift rfl missing
      · next dest here => exact turned_serve here
  | remove d c =>
      rw [perform]
      split
      · next missing => exact .adrift rfl missing
      · next dest here =>
          split
          · next empty => exact .removeLast here (List.isEmpty_iff.1 empty)
          · next waiting => exact .removeMore here (fun h => waiting (List.isEmpty_iff.2 h))
  | closeIdle d =>
      rw [perform]
      split
      · next missing => exact .adrift rfl missing
      · next dest here => exact .closeIdle here
  | closeActive d =>
      rw [perform]
      split
      · next missing => exact .adrift rfl missing
      · next dest here => exact .closeActive here
  | failQueued d =>
      rw [perform]
      split
      · next missing => exact .adrift rfl missing
      · next dest here => exact .failQueued here

/-- Where the destination that a frame is about exists, frame and client fix what is done. -/
theorem Turned.eq_perform {f : Frame} {w w' : Client} {d : DestinationId} {dest : Destination}
    (turn : Turned f w w') (names : f.destination? = some d)
    (here : w.destinations[d]? = some dest) : w' = w.perform f := by
  cases turn with
  | call c | within c | finish op => rfl
  | fail d e cause => cases cause <;> rfl
  | adrift own missing =>
      cases names.symm.trans own
      cases missing.symm.trans here
  | acquireIdle here head => simp only [perform, acquire, here, head]
  | acquireNew here nothing free => simp only [perform, acquire, here, nothing, free]
  | acquireFull here nothing full => simp only [perform, acquire, here, nothing, full]
  | takeIdle here head => simp only [perform, here, head]
  | takeNone here nothing => simp only [perform, here, nothing]
  | parkSurplus here empty full => simp only [perform, serve, park, here, empty, full]
  | parkIdle here empty room runs =>
      have checked : w.checkRunning = (true, w.glance) := Prod.ext runs rfl
      simp only [perform, serve, park, here, empty, room, checked]
  | parkStopped here empty room stopped =>
      have checked : w.checkRunning = (false, w.glance) := Prod.ext stopped rfl
      simp only [perform, serve, park, here, empty, room, checked]
  | passOver here head marked => simp only [perform, serve, here, head, marked, if_true]
  | assign here head unmarked | assignDeferred here head unmarked =>
      simp [perform, serve, here, head, unmarked]
  | removeLast here empty => simp [perform, here, BoundedQueue.isEmpty, empty]
  | removeMore here waiting => simp [perform, here, BoundedQueue.isEmpty, waiting]
  | closeIdle here | closeActive here | failQueued here =>
      simp only [perform, here]
      rfl

end Client

end ConnectionPool
