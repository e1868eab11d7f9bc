import ConnectionPool.Proofs.Destination.Peace
import ConnectionPool.Proofs.Destination.WorkConservation

/-!
# No slot is free while a request waits

A request that waits is looked after by a frame that is going to put a connection to work, or by an
attempt that is going to deliver one, as long as the destination may have another connection
(`Site.Pressed`). Only where a connection is taken away or an attempt fails can a slot become free
with nobody to fill it. Main statement: in a peaceful run, once nothing is under way at a
destination where an exchange waits, no connection is idle there and as many are active as are
allowed (`Client.Reached.saturated`).
-/

set_option autoImplicit false

namespace ConnectionPool

/-- An attempt that begins holds a slot. -/
theorem unfinished_begin (attempts : List Attempt) (d : DestinationId) :
    unfinished (attempts ++ [{ destination := d, pooled := true }]) = unfinished attempts + 1 :=
  List.countP_append

/-- An attempt that ends with a connection gives up its hold. -/
theorem unfinished_connected {before after : List Attempt} {a : Attempt}
    (unsettled : a.outcome = none) (c : ConnectionId) :
    unfinished (before ++ a :: after) =
      unfinished (before ++ { a with outcome := some (.connected c) } :: after) + 1 := by
  rw [unfinished_split, unfinished_split, Attempt.isUnfinished, Attempt.isUnfinished, unsettled]
  rfl

namespace Site

variable {d : DestinationId} {steady tidy : Prop} {s s' : Site}

/-- Every exchange that waits has a frame that puts a connection to work or an attempt that goes on,
or every slot is taken. -/
def Pressed (s : Site) : Prop :=
  s.dest.queue.items.length ≤ workers s.frames + unfinished s.attempts ∨
    s.dest.slots.used = s.dest.slots.limit

/-- Where no exchange waits, none is pressed for a connection. -/
theorem pressed_of_nil (none : s.dest.queue.items = []) : s.Pressed := by
  refine Or.inl ?_
  rw [none]
  exact Nat.zero_le _

/-- While no connection is taken away, a turn keeps the destination pressed. -/
theorem Pressed.turn (h : s.Pressed) (stays : ∀ c, .remove d c ∉ s.frames) (turn : Turn d s s') :
    s'.Pressed := by
  cases turn with
  | fail top =>
      rw [Pressed, top, workers_cons] at h
      exact h
  | acquireIdle top head =>
      rw [Pressed, top, workers_cons] at h
      rw [Pressed, workers_cons]
      exact h
  | acquireNew top nothing free =>
      -- the frame looked after one exchange, and now the attempt does
      rw [Pressed, top, workers_cons] at h
      rw [Pressed, workers_cons, unfinished_begin]
      rcases h with bound | full
      · refine Or.inl ?_
        simp only [Frame.isWorker, Bool.toNat_true, Bool.toNat_false] at bound ⊢
        omega
      · cases (SlotCounter.reserve?_eq_none_iff.2 full).symm.trans free
  | acquireFull top nothing full => exact Or.inr (SlotCounter.reserve?_eq_none_iff.1 full)
  | takeIdle top head =>
      rw [Pressed, top, workers_cons] at h
      rw [Pressed, workers_cons]
      refine h.imp_left fun bound => ?_
      simp only [Frame.isWorker, Bool.toNat_true, Bool.toNat_false] at bound ⊢
      omega
  | takeNone top nothing =>
      rw [Pressed, top, workers_cons] at h
      exact h
  | parkSurplus top empty full | parkIdle top empty room | parkStopped top empty room =>
      exact pressed_of_nil (BoundedQueue.poll_eq_none_iff.1 empty)
  | passOver top head =>
      have shorter := BoundedQueue.length_of_poll head
      rw [Pressed, top, workers_cons] at h
      rw [Pressed, workers_cons, workers_cons]
      refine h.imp_left fun bound => ?_
      simp only [Frame.isWorker, Bool.toNat_true, Bool.toNat_false] at bound ⊢
      omega
  | assign top head =>
      -- the exchange leaves the queue together with the frame that looked after it
      have shorter := BoundedQueue.length_of_poll head
      rw [Pressed, top, workers_cons] at h
      refine h.imp_left fun bound => ?_
      simp only [Frame.isWorker, Bool.toNat_true] at bound
      dsimp only
      omega
  | removeLast top empty => exact pressed_of_nil empty
  | removeMore top waiting => exact absurd (top ▸ List.mem_cons_self) (stays _)
  | closeIdle top | closeActive top =>
      rw [Pressed, top, workers_cons] at h
      rw [Pressed, workers_cons]
      exact h
  | failQueued top => exact pressed_of_nil rfl

/-- While no attempt fails, the start of an operation keeps the destination pressed. -/
theorem Pressed.start (h : s.Pressed) (sound : s'.Sound) (start : Start d steady tidy s s') :
    s'.Pressed := by
  cases start with
  | stay | spare error => exact h
  | accept room =>
      -- the exchange joins the queue together with the frame that looks after it
      have longer := BoundedQueue.length_of_offer room
      refine h.imp_left fun bound => ?_
      rw [workers_cons]
      simp only [Frame.isWorker, Bool.toNat_true]
      omega
  | takeBack own room taken =>
      have longer := BoundedQueue.length_of_offer room
      have shorter := BoundedQueue.length_of_removeFirst taken
      refine h.imp_left fun bound => ?_
      dsimp only
      omega
  | abort taken =>
      have shorter := BoundedQueue.length_of_removeFirst taken
      refine h.imp_left fun bound => ?_
      rw [workers_cons]
      dsimp only
      omega
  | failHead head =>
      have shorter := BoundedQueue.length_of_poll head
      refine h.imp_left fun bound => ?_
      rw [workers_cons]
      dsimp only
      omega
  | release taken | remove pooled =>
      refine h.imp_left fun bound => ?_
      rw [workers_cons]
      exact Nat.le_trans bound (Nat.add_le_add_right (Nat.le_add_right _ _) _)
  | close n spared =>
      -- a closing takes no frame away
      refine h.imp_left fun bound => Nat.le_trans bound (Nat.add_le_add_right ?_ _)
      rw [workers, workers, List.countP_append]
      exact Nat.le_add_left _ _
  | @connected before a after c underWay unsettled =>
      -- the attempt looked after one exchange, and now the connection in hand does
      rw [Pressed, underWay, unfinished_connected unsettled c] at h
      refine h.imp_left fun bound => ?_
      rw [workers_cons]
      simp only [Frame.isWorker, Bool.toNat_true]
      omega
  | failedAttempt underWay unsettled | abandoned underWay unsettled =>
      -- an attempt that ends so is not sound
      have ended := sound _ (List.mem_append_right _ List.mem_cons_self)
      cases ended

end Site

namespace Client

variable {w : Client} {d : DestinationId} {D : Destination}

/-- If every connection is delivered once, then in a peaceful run every destination stays
pressed. -/
theorem Reached.pressed (run : Reached Peaceful w)
    (once : ∀ d, (delivered (w.attemptsOf d)).Nodup) :
    ∀ (d : DestinationId) (D : Destination), w.destinations[d]? = some D →
      (w.site d D).Pressed := by
  refine run.delivering_once (P := fun w => ∀ (d : DestinationId) (D : Destination),
    w.destinations[d]? = some D → (w.site d D).Pressed) (fun new d D here => ?_)
    (fun {w w'} past once before next d D' here' => ?_) once
  · obtain ⟨a, same⟩ := new.site here
    rw [same]
    exact Site.pressed_of_nil rfl
  · obtain ⟨D, moves⟩ := next.moves_freely past here'
    cases moves with
    | turned top turn about here moved =>
        -- nothing is taken away in a peaceful run
        refine (before d D here).turn (fun c removes => ?_) moved
        have serene := (past.serene once).agenda _ (List.mem_filter.1 removes).1
        cases serene
    | away top turn other here same => exact same ▸ before d D here
    | ended top here same => exact same ▸ before d D here
    | started waits may start noted came moved =>
        have sound : (w'.site d D').Sound := fun a own =>
          (past.step next).sound a (List.mem_filter.1 own).1
        refine Site.Pressed.start ?_ sound moved
        rcases came with here | ⟨missing, a, rfl⟩
        · exact before d D here
        · rw [site_missing past.scoped missing]
          exact Site.pressed_of_nil rfl

/-- If every connection is delivered once, then between two outermost steps of a peaceful run, no
attempt being under way at a destination where an exchange waits, no connection is idle there and as
many are active as are allowed. -/
theorem Reached.saturated (run : Reached Peaceful w)
    (once : ∀ d, (delivered (w.attemptsOf d)).Nodup) (quiet : w.agenda = [])
    (here : w.destinations[d]? = some D) (finished : unfinished (w.attemptsOf d) = 0)
    (waiting : D.queue.items ≠ []) :
    D.idle.items = [] ∧ D.active.items.length = w.limits.connections := by
  have idle := (run.mono fun _ _ _ => trivial).queue_or_idle_empty quiet here
  have idle := idle.resolve_left waiting
  have limit : D.slots.limit = w.limits.connections :=
    ((run.tidy_of_peaceful d).exact here).accounted.sized.slots
  obtain ⟨slots, -⟩ := run.slots_peaceful (once d) quiet here
  rw [idle, finished] at slots
  refine ⟨idle, ?_⟩
  rcases run.pressed once d D here with bound | full
  · -- nothing is under way that could look after the exchange
    have bound : D.queue.items.length ≤ workers (w.framesAt d) + unfinished (w.attemptsOf d) :=
      bound
    rw [framesAt_quiet quiet, finished] at bound
    exact absurd (List.eq_nil_of_length_eq_zero (Nat.le_zero.1 bound)) waiting
  · have full : D.slots.used = D.slots.limit := full
    rw [slots, limit] at full
    simpa using full

end Client

end ConnectionPool
