import ConnectionPool.Proofs.Destination.SlotAccounting

/-!
# No request is stranded

A waiting exchange is looked after: a connection is active and will be released or removed, or an
attempt is under way and will end, or the agenda holds a frame that looks at the queue
(`Site.Attended`). The one moment at which this is not plain is when no connection is idle and no
slot is free; then the slots are held by something that will look at the queue, since no more of
them are taken than are held. Main statement: if every attempt succeeds with a new connection, then
between two outermost steps a destination with waiting exchanges has an active connection or an
attempt under way (`Client.Reached.not_stranded`).
-/

set_option autoImplicit false

namespace ConnectionPool

/-- The frame looks at the queue, or empties it. -/
def Frame.isAttending : Frame → Bool
  | .acquire _ => true
  | .serve _ _ _ => true
  | .remove _ _ => true
  | .closeIdle _ => true
  | .closeActive _ => true
  | .failQueued _ => true
  | _ => false

theorem Frame.isAttending_of_isClosing {f : Frame} (closing : f.isClosing = true) :
    f.isAttending = true := by
  cases f with
  | closeIdle d => rfl
  | closeActive d => rfl
  | failQueued d => rfl
  | _ => cases closing

/-- The attempt is under way or has delivered a connection. -/
def Attempt.isSound (a : Attempt) : Bool :=
  match a.outcome with
  | none => true
  | some (.connected _) => true
  | some (.failed _) => false
  | some .abandoned => false

theorem Attempt.outcome_of_isUnfinished {a : Attempt} (sound : a.isSound = true)
    (unfinished : a.isUnfinished = true) : a.outcome = none := by
  cases ended : a.outcome with
  | none => rfl
  | some o =>
      rw [isSound, ended] at sound
      rw [isUnfinished, ended] at unfinished
      cases o with
      | connected c => cases unfinished
      | failed error => cases sound
      | abandoned => cases sound

namespace Site

variable {d : DestinationId} {steady tidy : Prop} {s s' : Site} {l : Limits}

/-- Something will look at the queue. -/
def Attended (s : Site) : Prop :=
  s.dest.active.items ≠ [] ∨ (∃ a ∈ s.attempts, a.outcome = none) ∨
    ∃ f ∈ s.frames, f.isAttending = true

/-- No attempt has failed or was given up. -/
def Sound (s : Site) : Prop := ∀ a ∈ s.attempts, a.isSound = true

theorem Attended.mono (h : s.Attended)
    (active : s.dest.active.items ≠ [] → s'.dest.active.items ≠ [])
    (attempts : ∀ a ∈ s.attempts, a ∈ s'.attempts)
    (frames : ∀ f ∈ s.frames, f.isAttending = true → f ∈ s'.frames) : s'.Attended := by
  rcases h with some | ⟨a, ha, underWay⟩ | ⟨f, hf, attending⟩
  · exact Or.inl (active some)
  · exact Or.inr (Or.inl ⟨a, attempts a ha, underWay⟩)
  · exact Or.inr (Or.inr ⟨f, frames f hf attending, attending⟩)

theorem attended_of_mem {f : Frame} (there : f ∈ s.frames) (attending : f.isAttending = true) :
    s.Attended :=
  Or.inr (Or.inr ⟨f, there, attending⟩)

/-- A frame that does not look at the queue can be carried out without loss. -/
theorem mem_of_attending {f : Frame} {F : List Frame} (top : s.frames = f :: F)
    (idle : f.isAttending = false) : ∀ g ∈ s.frames, g.isAttending = true → g ∈ F := by
  intro g hg attending
  rw [top] at hg
  rcases List.mem_cons.1 hg with rfl | below
  · exact absurd (attending.symm.trans idle) (by simp)
  · exact below

/-- When all slots are taken and no connection is idle, the slots are held by active connections, by
connections in hand or by attempts under way. -/
theorem Accounted.attended_of_full (h : s.Accounted l) (allows : 1 ≤ l.connections)
    (once : (delivered s.attempts).Nodup) (sound : s.Sound) {F : List Frame}
    (top : s.frames = .acquire d :: F) (nothing : s.dest.idle.items = [])
    (full : s.dest.slots.used = s.dest.slots.limit) : ({ s with frames := F } : Site).Attended := by
  by_cases closing : ∃ f ∈ s.frames, f.isClosing = true
  · -- the closing is going to empty the queue
    obtain ⟨f, hf, closes⟩ := closing
    rw [top] at hf
    rcases List.mem_cons.1 hf with rfl | below
    · cases closes
    · exact Or.inr (Or.inr ⟨f, below, Frame.isAttending_of_isClosing closes⟩)
  · have opened : s.Open := fun f hf => Bool.eq_false_iff.2 fun closes => closing ⟨f, hf, closes⟩
    have covered := h.covered opened once
    rw [full, h.sized.slots, held, nothing, top, hands_cons_of_none rfl, List.length_nil] at covered
    -- slots are held by active connections, else by hands, else by attempts under way
    rcases Nat.eq_zero_or_pos s.dest.active.items.length with noActive | active
    · rcases Nat.eq_zero_or_pos (hands F).length with noHands | inHand
      · have underWay : 0 < unfinished s.attempts := by omega
        obtain ⟨a, ha, unfinished⟩ := List.countP_pos_iff.1 underWay
        exact Or.inr (Or.inl ⟨a, ha, Attempt.outcome_of_isUnfinished (sound a ha) unfinished⟩)
      · obtain ⟨c, hc⟩ := List.exists_mem_of_length_pos inHand
        obtain ⟨f, hf, holds⟩ := List.mem_filterMap.1 hc
        refine Or.inr (Or.inr ⟨f, hf, ?_⟩)
        cases f with
        | serve d' c' deferred => rfl
        | _ => cases holds
    · exact Or.inl (List.ne_nil_of_length_pos active)

/-- A connection that is put to work is active then, if any connection can be. -/
theorem offerOrDrop_ne_nil {q : BoundedQueue ConnectionId} (allows : 1 ≤ q.capacity)
    (c : ConnectionId) : (q.offerOrDrop c).items ≠ [] := by
  simp only [BoundedQueue.offerOrDrop]
  split
  · next c' full =>
      have length := (BoundedQueue.offer_eq_error_iff.1 full).1
      exact List.ne_nil_of_length_pos (by omega)
  · next q' room =>
      rw [(BoundedQueue.offer_eq_ok_iff.1 room).2.2]
      exact List.append_ne_nil_of_right_ne_nil _ (List.cons_ne_nil _ _)

/-- A waiting exchange is attended after a turn if it was before. -/
theorem Attended.turn (allows : 1 ≤ l.connections) (account : s.Accounted l)
    (once : (delivered s.attempts).Nodup) (sound : s.Sound)
    (h : s.dest.queue.items ≠ [] → s.Attended) (turn : Turn d s s')
    (waiting : s'.dest.queue.items ≠ []) : s'.Attended := by
  cases turn with
  | fail top | takeNone top nothing =>
      exact (h waiting).mono id (fun _ ha => ha) (mem_of_attending top rfl)
  | acquireIdle top head | takeIdle top head | removeMore top more | closeIdle top
  | closeActive top => exact attended_of_mem List.mem_cons_self rfl
  | passOver top head => exact attended_of_mem (List.mem_cons_of_mem _ List.mem_cons_self) rfl
  | acquireNew top nothing free =>
      refine Or.inr (Or.inl ⟨_, List.mem_append_right _ (List.mem_singleton_self _), rfl⟩)
  | acquireFull top nothing full =>
      -- no connection was found and none may be made, so whatever holds the slots attends
      have held := account.attended_of_full allows once sound top
        (BoundedQueue.poll_eq_none_iff.1 nothing) (SlotCounter.reserve?_eq_none_iff.1 full)
      exact held.mono id (fun _ ha => ha) fun f hf _ => List.mem_cons_of_mem _ hf
  | parkSurplus top empty full | parkIdle top empty room | parkStopped top empty room =>
      exact absurd (BoundedQueue.poll_eq_none_iff.1 empty) waiting
  | assign top head =>
      exact Or.inl (offerOrDrop_ne_nil (account.sized.active ▸ allows) _)
  | removeLast top empty => exact absurd empty waiting
  | failQueued top => exact absurd rfl waiting

/-- Attempts that are sound after a step were sound before. -/
theorem Move.sound (move : Move d steady tidy s s') (sound : s'.Sound) : s.Sound := by
  cases move with
  | stay => exact sound
  | turn turn =>
      cases turn with
      | acquireNew top nothing free => exact fun a ha => sound a (List.mem_append_left _ ha)
      | _ => exact sound
  | start ready start =>
      have same {before after : List Attempt} {a b : Attempt} (unsettled : a.outcome = none)
          (underWay : s.attempts = before ++ a :: after)
          (settled : s'.attempts = before ++ b :: after) : s.Sound := by
        intro x hx
        rw [underWay] at hx
        rw [Sound, settled] at sound
        rcases List.mem_append.1 hx with earlier | here
        · exact sound x (List.mem_append_left _ earlier)
        · rcases List.mem_cons.1 here with rfl | later
          · rw [Attempt.isSound, unsettled]
          · exact sound x (List.mem_append_right _ (List.mem_cons_of_mem _ later))
      cases start with
      | connected underWay unsettled | failedAttempt underWay unsettled
      | abandoned underWay unsettled => exact same unsettled underWay rfl
      | _ => exact sound

/-- A waiting exchange is attended after the start of an operation if it was before. -/
theorem Attended.start (sound : s'.Sound) (h : s.dest.queue.items ≠ [] → s.Attended)
    (start : Start d steady tidy s s') (waiting : s'.dest.queue.items ≠ []) : s'.Attended := by
  cases start with
  | stay | spare error => exact h waiting
  | accept room | release taken | connected underWay unsettled =>
      exact attended_of_mem List.mem_cons_self rfl
  | takeBack own room taken =>
      -- the queue is as long as before, so something waited then
      have longer := BoundedQueue.length_of_offer room
      have shorter := BoundedQueue.length_of_removeFirst taken
      have more := List.length_pos_iff.2 waiting
      dsimp only at more
      exact h (List.ne_nil_of_length_pos (by omega))
  | abort taken =>
      have shorter := BoundedQueue.length_of_removeFirst taken
      have before := h (List.ne_nil_of_length_pos (by omega))
      exact before.mono id (fun _ ha => ha) fun f hf _ => List.mem_cons_of_mem _ hf
  | failHead head =>
      have shorter := BoundedQueue.length_of_poll head
      have before := h (List.ne_nil_of_length_pos (by omega))
      exact before.mono id (fun _ ha => ha) fun f hf _ => List.mem_cons_of_mem _ hf
  | remove pooled =>
      exact (h waiting).mono id (fun _ ha => ha) fun f hf _ => List.mem_cons_of_mem _ hf
  | close n spared =>
      exact (h waiting).mono id (fun _ ha => ha) fun f hf _ => List.mem_append_right _ hf
  | failedAttempt underWay unsettled | abandoned underWay unsettled =>
      -- an attempt that ends so is not sound
      have ended := sound _ (List.mem_append_right _ List.mem_cons_self)
      cases ended

/-- What holds of a destination, given that each connection is delivered once and that no attempt
fails. -/
structure Tended (l : Limits) (s : Site) : Prop where
  accounted : s.Accounted l
  attended : (delivered s.attempts).Nodup → s.Sound → s.dest.queue.items ≠ [] → s.Attended

theorem Tended.new (a : Address) : Tended l (Client.newSite a l) where
  accounted := Accounted.new a
  attended _ _ waiting := absurd rfl waiting

theorem Tended.move (allows : 1 ≤ l.connections) (h : s.Tended l)
    (move : Move d steady tidy s s') : s'.Tended l where
  accounted := h.accounted.move move
  attended once' sound' waiting := by
    have once := once'.sublist move.delivered_sublist
    have sound := move.sound sound'
    have before := h.attended once sound
    cases move with
    | stay => exact before waiting
    | turn turn => exact Attended.turn allows h.accounted once sound before turn waiting
    | start ready start => exact Attended.start sound' before start waiting

end Site

namespace Client

variable {w : Client} {d : DestinationId} {D : Destination}

theorem Reached.tended {allowed : Client → Operation → Prop} (run : Reached allowed w)
    (allows : 1 ≤ w.limits.connections) (here : w.destinations[d]? = some D) :
    (w.site d D).Tended w.limits := by
  refine run.site (I := fun l s => 1 ≤ l.connections → s.Tended l) False.elim False.elim ?_ ?_ here
    allows
  · exact fun a l _ => Site.Tended.new a
  · exact fun h move allows => (h allows).move allows move

/-- If at least one connection is allowed, every connection is delivered once and no attempt fails
or is given up, then between two outermost steps a destination with waiting exchanges has an active
connection or an attempt that has not ended. -/
theorem Reached.not_stranded (run : Reached Anything w) (allows : 1 ≤ w.limits.connections)
    (quiet : w.agenda = []) (here : w.destinations[d]? = some D)
    (once : (delivered (w.attemptsOf d)).Nodup)
    (sound : ∀ a ∈ w.attemptsOf d, a.isSound = true) (waiting : D.queue.items ≠ []) :
    D.active.items ≠ [] ∨ ∃ a ∈ w.attemptsOf d, a.outcome = none := by
  rcases (run.tended allows here).attended once sound waiting with active | underWay | ⟨f, hf, -⟩
  · exact Or.inl active
  · exact Or.inr underWay
  · -- between two outermost steps there are no frames
    have none : w.framesAt d = [] := by rw [framesAt, quiet]; rfl
    have hf : f ∈ w.framesAt d := hf
    rw [none] at hf
    cases hf

/-- The exchange that waits at the narrow client is attended by the active connection. -/
theorem narrowBusy_attended : narrowPool.queue.items ≠ [] ∧
    (narrowPool.active.items ≠ [] ∨ ∃ a ∈ narrowBusy.attemptsOf 0, a.outcome = none) := by
  have run : Reached Anything narrowBusy :=
    reached_narrowBusy (fun _ _ _ _ => trivial) (fun _ _ _ => trivial)
  have waiting : narrowPool.queue.items ≠ [] := by decide
  exact ⟨waiting, run.not_stranded (by decide) narrowBusy_quiet narrowBusy_here (by decide)
    (by decide) waiting⟩

end Client

end ConnectionPool
