import ConnectionPool.Proofs.Destination.Simulation

/-!
# Where accepted exchanges are

An exchange that a destination accepted waits in its queue, was taken off it to be failed, was taken
by a connection, or has failed. Main statement: while the outside is steady, each acceptance of an
exchange is matched by one of these, and by one only (`Client.Reached.balanced`).
-/

set_option autoImplicit false

namespace ConnectionPool

namespace Event

/-- The exchange that was accepted. -/
def accepted? : Event → Option Exchange
  | .accepted _ e => some e
  | _ => none

/-- The exchange that a connection took. -/
def taken? : Event → Option Exchange
  | .assigned _ _ e _ => some e
  | _ => none

/-- The exchange that failed. -/
def failed? : Event → Option Exchange
  | .failed _ e _ => some e
  | _ => none

end Event

/-- The exchange that a frame is going to fail. -/
def Frame.failing? : Frame → Option Exchange
  | .fail _ e _ => some e
  | _ => none

/-- The exchanges that were accepted, latest first. -/
def accepted (events : List Event) : List Exchange := events.filterMap Event.accepted?

/-- The exchanges that connections took, latest first. -/
def taken (events : List Event) : List Exchange := events.filterMap Event.taken?

/-- The exchanges that failed, latest first. -/
def failed (events : List Event) : List Exchange := events.filterMap Event.failed?

/-- The exchanges that are about to fail, innermost first. -/
def failing (fs : List Frame) : List Exchange := fs.filterMap Frame.failing?

theorem count_failing_cons (d : DestinationId) (e : Exchange) (cause : Cause) (fs : List Frame)
    (x : Exchange) :
    (failing (.fail d e cause :: fs)).count x = [e].count x + (failing fs).count x :=
  BoundedQueue.count_cons_eq _ _ _

theorem failing_cons_of_none {f : Frame} (other : f.failing? = none) (fs : List Frame) :
    failing (f :: fs) = failing fs :=
  List.filterMap_cons_none other

theorem failing_append_of_none {fs : List Frame} (other : ∀ f ∈ fs, f.failing? = none)
    (gs : List Frame) : failing (fs ++ gs) = failing gs := by
  rw [failing, List.filterMap_append, List.filterMap_eq_nil_iff.2 other]
  rfl

theorem failing_map_closed (d : DestinationId) (es : List Exchange) (fs : List Frame) :
    failing (es.map (fun e => .fail d e .closed) ++ fs) = es ++ failing fs := by
  induction es with
  | nil => rfl
  | cons e es ih => exact congrArg (e :: ·) ih

theorem count_accepted_cons (d : DestinationId) (e : Exchange) (events : List Event)
    (x : Exchange) :
    (accepted (.accepted d e :: events)).count x = [e].count x + (accepted events).count x :=
  BoundedQueue.count_cons_eq _ _ _

theorem count_taken_cons (d : DestinationId) (c : ConnectionId) (e : Exchange) (deferred : Bool)
    (events : List Event) (x : Exchange) :
    (taken (.assigned d c e deferred :: events)).count x = [e].count x + (taken events).count x :=
  BoundedQueue.count_cons_eq _ _ _

theorem count_failed_cons (d : DestinationId) (e : Exchange) (cause : Cause) (events : List Event)
    (x : Exchange) :
    (failed (.failed d e cause :: events)).count x = [e].count x + (failed events).count x :=
  BoundedQueue.count_cons_eq _ _ _

namespace Site

variable {d : DestinationId} {steady tidy : Prop} {s s' : Site}

/-- Every acceptance of an exchange is matched by a place in the queue, a failure under way, a
connection that took it, or a failure. -/
def Balanced (s : Site) : Prop :=
  ∀ e, (accepted s.events).count e = s.dest.queue.items.count e + (failing s.frames).count e +
    (taken s.events).count e + (failed s.events).count e

theorem Balanced.turn (h : s.Balanced) (turn : Turn d s s') : s'.Balanced := by
  intro x
  have balance := h x
  cases turn with
  | fail top =>
      rw [top, count_failing_cons] at balance
      rw [count_failed_cons]
      show (accepted s.events).count x = _ + _ + (taken s.events).count x + _
      dsimp only
      omega
  | acquireIdle top head | acquireNew top nothing free | acquireFull top nothing full
  | takeIdle top head | removeMore top waiting | closeIdle top | closeActive top =>
      rw [top, failing_cons_of_none rfl] at balance
      exact balance
  | takeNone top nothing | parkSurplus top empty full | parkIdle top empty room
  | parkStopped top empty room | removeLast top empty =>
      rw [top, failing_cons_of_none rfl] at balance
      exact balance
  | passOver top head =>
      have gone := BoundedQueue.count_of_poll head x
      rw [top, failing_cons_of_none rfl] at balance
      rw [count_failing_cons, failing_cons_of_none rfl]
      dsimp only
      omega
  | assign top head =>
      have gone := BoundedQueue.count_of_poll head x
      rw [top, failing_cons_of_none rfl] at balance
      rw [count_taken_cons]
      show (accepted s.events).count x = _ + _ + _ + (failed s.events).count x
      dsimp only
      omega
  | failQueued top =>
      -- the whole queue is on its way to failing
      rw [top, failing_cons_of_none rfl] at balance
      rw [failing_map_closed, List.count_append]
      show (accepted s.events).count x =
        0 + _ + (taken s.events).count x + (failed s.events).count x
      omega

/-- In a steady client every acceptance stays matched when an operation starts. -/
theorem Balanced.start (h : s.Balanced) (still : steady) (start : Start d steady tidy s s') :
    s'.Balanced := by
  intro x
  have balance := h x
  cases start with
  | stay | remove pooled | connected underWay unsettled | failedAttempt underWay unsettled
  | abandoned underWay unsettled | spare error | release taken => exact balance
  | accept room =>
      have joined := BoundedQueue.count_of_offer room x
      rw [count_accepted_cons, failing_cons_of_none rfl]
      show _ = _ + _ + (taken s.events).count x + (failed s.events).count x
      dsimp only
      omega
  | takeBack own room taken =>
      -- what was just queued is what is taken back
      cases own still
      have joined := BoundedQueue.count_of_offer room x
      have gone := BoundedQueue.count_of_removeFirst taken x
      dsimp only
      omega
  | abort taken =>
      have gone := BoundedQueue.count_of_removeFirst taken x
      rw [count_failing_cons]
      dsimp only
      omega
  | close n spared =>
      rw [failing_append_of_none fun f hf => by rw [List.eq_of_mem_replicate hf]; rfl]
      exact balance
  | failHead head =>
      have gone := BoundedQueue.count_of_poll head x
      rw [count_failing_cons]
      dsimp only
      omega

theorem Balanced.move (h : s.Balanced) (still : steady) (move : Move d steady tidy s s') :
    s'.Balanced := by
  cases move with
  | stay => exact h
  | turn turn => exact h.turn turn
  | start ready start => exact h.start still start

end Site

namespace Client

theorem Reached.balanced {w : Client} (run : Reached Steady w) {d : DestinationId}
    {D : Destination} (here : w.destinations[d]? = some D) : (w.site d D).Balanced := by
  refine run.site (I := fun _ s => s.Balanced) (fun (_ : True) _ _ may => may) False.elim ?_ ?_ here
  · exact fun a l e => rfl
  · exact fun h move => h.move trivial move

end Client

end ConnectionPool
