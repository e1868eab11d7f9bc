import ConnectionPool.Proofs.Client.Driven
import ConnectionPool.Proofs.Destination.Simulation

/-!
# No request waits beside an idle connection

In the middle of an operation exchanges can wait while connections are idle: an exchange joins the
queue before its operation looks for a connection, and callbacks run in between. Each exchange that
waits then has a frame on the agenda that is going to look after it (`Site.Conserving`). Main
statement: between two outermost steps either no exchange waits or no connection is idle
(`Client.Reached.queue_or_idle_empty`).
-/

set_option autoImplicit false

namespace ConnectionPool

/-- The frame puts a connection to work: one in hand, or an idle one if there is any. -/
def Frame.isWorker : Frame → Bool
  | .acquire _ => true
  | .serve _ _ _ => true
  | _ => false

/-- The number of frames that put a connection to work. -/
def workers (fs : List Frame) : Nat := fs.countP (·.isWorker)

theorem workers_cons (f : Frame) (fs : List Frame) :
    workers (f :: fs) = workers fs + f.isWorker.toNat := by
  simp only [workers]
  rw [List.countP_cons]
  cases f.isWorker <;> rfl

/-- A connection that is idle after another was forgotten was idle before. -/
theorem Destination.idle_of_forget {D : Destination} {c : ConnectionId}
    (some : (D.forget c).idle.items ≠ []) : D.idle.items ≠ [] := by
  intro none
  rcases D.idle.items_discard (· == c) with ⟨-, same⟩ | ⟨before, a, after, split, -, -⟩
  · exact some ((congrArg BoundedQueue.items same).trans none)
  · rw [none] at split
    exact absurd split.symm (by simp)

namespace Site

/-- While a connection is idle, each waiting exchange has a frame that puts a connection to work. -/
def Conserving (s : Site) : Prop :=
  s.dest.idle.items ≠ [] → s.dest.queue.items.length ≤ workers s.frames

variable {d : DestinationId} {steady tidy : Prop} {s s' : Site}

theorem Conserving.turn (h : s.Conserving) (turn : Turn d s s') : s'.Conserving := by
  simp only [Conserving] at h ⊢
  intro some
  cases turn with
  | fail top =>
      have bound := h some
      rw [top, workers_cons] at bound
      exact bound
  | acquireIdle top head =>
      -- the frame stays a worker, and the connection it found was idle before
      have bound := h (by rw [(BoundedQueue.poll_eq_some_iff.1 head).1]; exact List.cons_ne_nil _ _)
      rw [top, workers_cons] at bound
      rw [workers_cons]
      exact bound
  | takeIdle top head =>
      have bound := h (by rw [(BoundedQueue.poll_eq_some_iff.1 head).1]; exact List.cons_ne_nil _ _)
      rw [top, workers_cons] at bound
      rw [workers_cons]
      exact Nat.le_succ_of_le bound
  | acquireNew top nothing free | acquireFull top nothing full | takeNone top nothing =>
      -- no connection is idle
      exact absurd (BoundedQueue.poll_eq_none_iff.1 nothing) some
  | parkSurplus top empty full | parkIdle top empty room | parkStopped top empty room =>
      have none : s.dest.queue.items.length = 0 := by
        rw [BoundedQueue.poll_eq_none_iff.1 empty]
        rfl
      exact Nat.le_trans (Nat.le_of_eq none) (Nat.zero_le _)
  | passOver top head =>
      have bound := h some
      have shorter := BoundedQueue.length_of_poll head
      rw [top, workers_cons] at bound
      rw [workers_cons, workers_cons]
      simp only [Frame.isWorker, Bool.toNat_true, Bool.toNat_false] at bound ⊢
      omega
  | assign top head =>
      -- the exchange leaves the queue together with the frame that looked after it
      have bound := h some
      have shorter := BoundedQueue.length_of_poll head
      rw [top, workers_cons] at bound
      simp only [Frame.isWorker, Bool.toNat_true] at bound
      show _ ≤ workers _
      dsimp only
      omega
  | removeLast top empty =>
      have none : s.dest.queue.items.length = 0 := by rw [empty]; rfl
      exact Nat.le_trans (Nat.le_of_eq none) (Nat.zero_le _)
  | removeMore top waiting =>
      have bound := h (Destination.idle_of_forget some)
      rw [top, workers_cons] at bound
      rw [workers_cons]
      exact Nat.le_succ_of_le bound
  | closeIdle top => exact absurd rfl some
  | closeActive top =>
      have bound := h some
      rw [top, workers_cons] at bound
      rw [workers_cons]
      exact bound
  | failQueued top => exact Nat.zero_le _

theorem Conserving.start (h : s.Conserving) (start : Start d steady tidy s s') :
    s'.Conserving := by
  simp only [Conserving] at h ⊢
  intro some
  cases start with
  | stay | failedAttempt underWay unsettled | abandoned underWay unsettled | spare error =>
      exact h some
  | accept room =>
      -- the exchange joins the queue together with the frame that looks after it
      have bound := h some
      have longer := BoundedQueue.length_of_offer room
      rw [workers_cons]
      simp only [Frame.isWorker, Bool.toNat_true]
      omega
  | takeBack own room taken =>
      have bound := h some
      have longer := BoundedQueue.length_of_offer room
      have shorter := BoundedQueue.length_of_removeFirst taken
      dsimp only
      omega
  | abort taken =>
      have bound := h some
      have shorter := BoundedQueue.length_of_removeFirst taken
      rw [workers_cons]
      dsimp only
      omega
  | failHead head =>
      have bound := h some
      have shorter := BoundedQueue.length_of_poll head
      rw [workers_cons]
      dsimp only
      omega
  | release taken | remove pooled | connected underWay unsettled =>
      rw [workers_cons]
      exact Nat.le_add_right_of_le (h some)
  | close n spared =>
      -- a closing puts no connection to work, and takes no worker away
      have none : workers (List.replicate n (.closeIdle d)) = 0 := by
        rw [workers, List.countP_replicate]
        rfl
      rw [workers, List.countP_append, ← workers, ← workers, none, Nat.zero_add]
      exact h some

theorem Conserving.move (h : s.Conserving) (move : Move d steady tidy s s') : s'.Conserving := by
  cases move with
  | stay => exact h
  | turn turn => exact h.turn turn
  | start ready start => exact h.start start

end Site

namespace Client

theorem Reached.conserving {allowed : Client → Operation → Prop} {w : Client}
    (run : Reached allowed w) {d : DestinationId} {D : Destination}
    (here : w.destinations[d]? = some D) : (w.site d D).Conserving := by
  refine run.site (I := fun _ s => s.Conserving) False.elim False.elim ?_ ?_ here
  · intro a l some
    exact absurd rfl some
  · intro l s s' h move
    exact h.move move

/-- Between two outermost steps, no exchange waits at a destination that has an idle connection. -/
theorem Reached.queue_or_idle_empty {w : Client} (run : Reached Anything w) (quiet : w.agenda = [])
    {d : DestinationId} {D : Destination} (here : w.destinations[d]? = some D) :
    D.queue.items = [] ∨ D.idle.items = [] := by
  by_cases none : D.idle.items = []
  · exact Or.inr none
  · have bound : D.queue.items.length ≤ workers (w.framesAt d) := run.conserving here none
    rw [framesAt, quiet] at bound
    exact Or.inl (List.eq_nil_of_length_eq_zero (Nat.le_zero.1 bound))

/-- An exchange waits at the narrow client, so its connection is not idle. -/
theorem narrowBusy_not_idle : narrowPool.queue.items ≠ [] ∧
    (narrowPool.queue.items = [] ∨ narrowPool.idle.items = []) := by
  have run : Reached Anything narrowBusy :=
    reached_narrowBusy (fun _ _ _ _ => trivial) (fun _ _ _ => trivial)
  exact ⟨by decide, run.queue_or_idle_empty narrowBusy_quiet narrowBusy_here⟩

end Client

end ConnectionPool
