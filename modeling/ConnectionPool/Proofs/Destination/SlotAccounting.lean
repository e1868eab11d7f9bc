import ConnectionPool.Proofs.Client.Driven
import ConnectionPool.Proofs.Destination.Placement

/-!
# Slots and what they are held by

A slot is taken for an attempt and given back when the connection goes away. What may hold one is
counted by `Site.held`: idle and active connections, connections in hand, and attempts that are
unfinished. Closing a destination frees every slot before the attempts under way have ended, and a
connection that is removed twice frees two, so in general there is only a bound
(`Site.Accounted.covered`): outside of a closing, no more slots are taken than are held. Main
statements: in every run the slots taken stay within the limit, and between two outermost steps they
are no more than the pooled connections and the unfinished attempts
(`Client.Reached.never_overcounts`); where the destination is not closed and only pooled connections
are removed, the slots taken are exactly those held, and neither pool ever overflows
(`Client.Reached.slots_accounted`).
-/

set_option autoImplicit false

namespace ConnectionPool

/-- The frame is a part of the closing of a destination. -/
def Frame.isClosing : Frame → Bool
  | .closeIdle _ => true
  | .closeActive _ => true
  | .failQueued _ => true
  | _ => false

/-- The number of attempts that hold a slot. -/
def unfinished (attempts : List Attempt) : Nat := attempts.countP (·.isUnfinished)

theorem unfinished_split (before after : List Attempt) (a : Attempt) :
    unfinished (before ++ a :: after) =
      unfinished before + unfinished after + a.isUnfinished.toNat := by
  simp only [unfinished]
  rw [List.countP_append, List.countP_cons]
  cases a.isUnfinished <;> rfl

theorem length_hands_serve (d : DestinationId) (c : ConnectionId) (deferred : Bool)
    (fs : List Frame) : (hands (.serve d c deferred :: fs)).length = (hands fs).length + 1 := rfl

/-- Where a connection is pooled at most once, forgetting it takes away one connection if it is
pooled, and none otherwise. -/
theorem Destination.length_forget {D : Destination} {c : ConnectionId}
    (once : D.idle.items.count c + D.active.items.count c ≤ 1) :
    ∃ n ≤ 1, (D.forget c).idle.items.length + (D.forget c).active.items.length + n =
        D.idle.items.length + D.active.items.length ∧
      (c ∈ D.idle.items ∨ c ∈ D.active.items → n = 1) := by
  have self : [c].count c = 1 := List.count_singleton_self
  have idle := D.idle.count_discard c c
  have active := D.active.count_discard c c
  refine ⟨D.idle.items.count c + D.active.items.count c, once, ?_, fun pooled => ?_⟩
  · show (D.idle.discard (· == c)).items.length + (D.active.discard (· == c)).items.length + _ = _
    rcases idle with ⟨noIdle, sameIdle⟩ | ⟨idleCount, idleLength⟩
    · rcases active with ⟨noActive, sameActive⟩ | ⟨activeCount, activeLength⟩
      · rw [sameIdle, sameActive]
        omega
      · rw [sameIdle]
        omega
    · rcases active with ⟨noActive, sameActive⟩ | ⟨activeCount, activeLength⟩
      · rw [sameActive]
        omega
      · omega
  · rcases pooled with idle | active
    · have := List.count_pos_iff.2 idle
      omega
    · have := List.count_pos_iff.2 active
      omega

/-- Where no more slots are taken than are held, by pooled connections and by `rest` others, that
stays so when a connection is forgotten. The slots stay exactly those held if it was pooled. -/
theorem Destination.balance_forget (D : Destination) (c : ConnectionId) {rest : Nat}
    (once : D.idle.items.count c + D.active.items.count c ≤ 1)
    (covered : D.slots.used ≤ D.idle.items.length + D.active.items.length + rest) :
    (D.forget c).slots.used ≤
        (D.forget c).idle.items.length + (D.forget c).active.items.length + rest ∧
      (c ∈ D.idle.items ∨ c ∈ D.active.items →
        D.slots.used = D.idle.items.length + D.active.items.length + rest →
        (D.forget c).slots.used =
          (D.forget c).idle.items.length + (D.forget c).active.items.length + rest) := by
  obtain ⟨n, le, forgotten, one⟩ := length_forget once
  -- one slot is given back, whether or not the connection held one
  have released : (D.forget c).slots.used = D.slots.used - 1 := rfl
  constructor
  · omega
  · intro pooled exact
    have := one pooled
    omega

namespace Site

variable {d : DestinationId} {steady tidy : Prop} {s s' : Site} {l : Limits}

/-- What may hold a slot: idle and active connections, connections in hand, unfinished attempts. -/
def held (s : Site) : Nat :=
  s.dest.idle.items.length + s.dest.active.items.length + (hands s.frames).length +
    unfinished s.attempts

/-- The destination is not being closed. -/
def Open (s : Site) : Prop := ∀ f ∈ s.frames, f.isClosing = false

/-- A removal that is under way removes a pooled connection. -/
def RemovesPooled (d : DestinationId) (s : Site) : Prop :=
  ∀ c F, s.frames = .remove d c :: F → c ∈ s.dest.idle.items ∨ c ∈ s.dest.active.items

/-- Outside of a closing, carrying out a frame keeps the bound on the slots taken, and keeps them
exact unless it removes a connection that is not pooled. -/
theorem Turn.balance (sized : s.Sized l) (once : ∀ c, s.places c ≤ 1) (opened : s.Open)
    (turn : Turn d s s') (covered : s.dest.slots.used ≤ s.held) :
    s'.dest.slots.used ≤ s'.held ∧
      (s.RemovesPooled d → s.dest.slots.used = s.held → s'.dest.slots.used = s'.held) := by
  have within := s.dest.slots.used_le
  obtain ⟨slots, idle, active⟩ := sized
  simp only [held] at covered ⊢
  cases turn with
  | fail top | acquireFull top nothing full | takeNone top nothing =>
      rw [top] at covered ⊢
      exact ⟨covered, fun _ exact => exact⟩
  | acquireNew top nothing free =>
      obtain ⟨-, -, taken⟩ := SlotCounter.reserve?_eq_some_iff.1 free
      -- the slot that was free is now held by the new attempt
      have longer : unfinished (s.attempts ++ [{ destination := d, pooled := true }]) =
          unfinished s.attempts + 1 := unfinished_split s.attempts [] _
      rw [top, hands_cons_of_none rfl] at covered ⊢
      rw [longer, taken, hands_cons_of_none rfl]
      dsimp only
      exact ⟨by omega, fun _ exact => by omega⟩
  | acquireIdle top head | takeIdle top head =>
      have shorter := BoundedQueue.length_of_poll head
      rw [top] at covered ⊢
      rw [hands_cons_of_none rfl] at covered
      rw [length_hands_serve, hands_cons_of_none rfl]
      dsimp only
      exact ⟨by omega, fun _ exact => by omega⟩
  | parkSurplus top empty full =>
      -- all slots are taken by idle connections, so none is left for the one in hand
      have filled := (BoundedQueue.offer_eq_error_iff.1 full).1
      rw [top, length_hands_serve] at covered ⊢
      dsimp only
      exact ⟨by omega, fun _ exact => by omega⟩
  | parkIdle top empty room =>
      have longer := BoundedQueue.length_of_offer room
      rw [top, length_hands_serve] at covered ⊢
      dsimp only
      exact ⟨by omega, fun _ exact => by omega⟩
  | @parkStopped F c deferred idle top empty room =>
      have alone := once c
      have longer := BoundedQueue.length_of_offer room
      have joined := BoundedQueue.count_of_offer room c
      have self : [c].count c = 1 := List.count_singleton_self
      rw [places, top, count_hands_serve] at alone
      rw [top, length_hands_serve] at covered ⊢
      -- the connection was only in hand, so what is forgotten is what was just parked
      have parked : c ∈ idle.items := List.count_pos_iff.1 (by omega)
      have covered : s.dest.slots.used ≤ idle.items.length + s.dest.active.items.length +
        ((hands F).length + unfinished s.attempts) := by omega
      obtain ⟨bound, kept⟩ := ({ s.dest with idle := idle } : Destination).balance_forget c
        (by dsimp only; omega) covered
      dsimp only at bound kept ⊢
      exact ⟨by omega, fun _ exact => (kept (Or.inl parked) (by omega)).trans (by omega)⟩
  | passOver top head =>
      rw [top] at covered ⊢
      exact ⟨covered, fun _ exact => exact⟩
  | @assign F c deferred e queue top head =>
      rw [top, length_hands_serve] at covered ⊢
      cases offered : s.dest.active.offer c with
      | error c' =>
          -- all slots are taken by active connections, so none is left for the one in hand
          have filled := (BoundedQueue.offer_eq_error_iff.1 offered).1
          rw [BoundedQueue.offerOrDrop, offered]
          dsimp only
          exact ⟨by omega, fun _ exact => by omega⟩
      | ok active =>
          have longer := BoundedQueue.length_of_offer offered
          rw [BoundedQueue.offerOrDrop, offered]
          dsimp only
          exact ⟨by omega, fun _ exact => by omega⟩
  | @removeLast F c top empty =>
      have alone := once c
      rw [places] at alone
      rw [top, hands_cons_of_none rfl, Nat.add_assoc] at covered
      rw [top, hands_cons_of_none rfl]
      obtain ⟨bound, kept⟩ := s.dest.balance_forget c (by omega) covered
      dsimp only
      exact ⟨by omega, fun pooled exact => (kept (pooled c F top) (by omega)).trans (by omega)⟩
  | @removeMore F c top waiting =>
      have alone := once c
      rw [places] at alone
      rw [top, hands_cons_of_none rfl, Nat.add_assoc] at covered
      rw [top, hands_cons_of_none rfl, hands_cons_of_none rfl]
      obtain ⟨bound, kept⟩ := s.dest.balance_forget c (by omega) covered
      dsimp only
      exact ⟨by omega, fun pooled exact => (kept (pooled c F top) (by omega)).trans (by omega)⟩
  | closeIdle top | closeActive top | failQueued top =>
      -- these are parts of a closing
      exact absurd (opened _ (by rw [top]; exact List.mem_cons_self)) (by simp [Frame.isClosing])

/-- An attempt that has not ended holds a slot; when it ends, it does so no longer, unless it was
given up. -/
theorem unfinished_settled (before after : List Attempt) {a : Attempt}
    (unsettled : a.outcome = none) (o : Outcome) :
    unfinished (before ++ a :: after) +
        ({ a with outcome := some o } : Attempt).isUnfinished.toNat =
      unfinished (before ++ { a with outcome := some o } :: after) + 1 := by
  have started : a.isUnfinished = true := by rw [Attempt.isUnfinished, unsettled]
  rw [unfinished_split, unfinished_split, started, Bool.toNat_true]
  omega

/-- The start of an operation keeps the bound on the slots taken, and keeps them exact. -/
theorem Start.balance (start : Start d steady tidy s s')
    (covered : s.dest.slots.used ≤ s.held) :
    s'.dest.slots.used ≤ s'.held ∧ (s.dest.slots.used = s.held → s'.dest.slots.used = s'.held) := by
  simp only [held] at covered ⊢
  cases start with
  | stay | accept room | takeBack own room taken | abort taken | remove pooled | spare error
  | failHead head => exact ⟨covered, fun exact => exact⟩
  | release taken =>
      have shorter := BoundedQueue.length_of_removeFirst taken
      rw [length_hands_serve]
      dsimp only
      exact ⟨by omega, fun exact => by omega⟩
  | close n spared =>
      rw [hands_append_of_none fun f hf => by rw [List.eq_of_mem_replicate hf]; rfl]
      exact ⟨covered, fun exact => exact⟩
  | @connected before a after c underWay unsettled =>
      -- the connection in hand now holds the slot that the attempt held
      have ended : _ + 0 = _ := unfinished_settled before after unsettled (.connected c)
      rw [underWay] at covered ⊢
      rw [length_hands_serve]
      dsimp only
      exact ⟨by omega, fun exact => by omega⟩
  | @failedAttempt before a after error underWay unsettled =>
      have ended : _ + 0 = _ := unfinished_settled before after unsettled (.failed error)
      rw [underWay] at covered ⊢
      rw [SlotCounter.used_release]
      dsimp only
      exact ⟨by omega, fun exact => by omega⟩
  | @abandoned before a after underWay unsettled =>
      -- an attempt that was given up holds its slot for good
      have ended : _ + 1 = _ := unfinished_settled before after unsettled .abandoned
      rw [underWay] at covered ⊢
      dsimp only
      exact ⟨by omega, fun exact => by omega⟩

/-! ## The bound outside of a closing -/

/-- Carrying out a frame puts others in its place, none of which is a removal, and none of which is
a part of a closing unless the frame was. A closing that is over has just freed every slot. -/
theorem Turn.frames (turn : Turn d s s') : ∃ f F new, s.frames = f :: F ∧ s'.frames = new ++ F ∧
    (∀ g ∈ new, g.isRemoval = false) ∧
    (f.isClosing = false → ∀ g ∈ new, g.isClosing = false) ∧
    ((∀ g ∈ new, g.isClosing = false) → f.isClosing = false ∨ s'.dest.slots.used = 0) := by
  cases turn with
  | fail top | takeNone top nothing | parkSurplus top empty full | parkIdle top empty room
  | parkStopped top empty room | assign top head | removeLast top empty =>
      exact ⟨_, _, [], top, rfl, List.forall_mem_nil _, fun _ => List.forall_mem_nil _,
        fun _ => Or.inl rfl⟩
  | acquireIdle top head | acquireNew top nothing free | acquireFull top nothing full
  | takeIdle top head | removeMore top waiting | closeIdle top | closeActive top =>
      refine ⟨_, _, [_], top, rfl, ?_, ?_, ?_⟩ <;> simp [Frame.isRemoval, Frame.isClosing]
  | passOver top head =>
      refine ⟨_, _, [_, _], top, rfl, ?_, ?_, ?_⟩ <;> simp [Frame.isRemoval, Frame.isClosing]
  | failQueued top =>
      refine ⟨_, _, _, top, rfl, ?_, ?_, fun _ => Or.inr rfl⟩
      · simp [Frame.isRemoval]
      · simp [Frame.isClosing]

/-- The start of an operation puts frames on top of the others: a removal, or frames none of which
is one. In a tidy client the removal is of a pooled connection and nothing is closed. -/
theorem Start.frames (start : Start d steady tidy s s') : ∃ new, s'.frames = new ++ s.frames ∧
    ((∀ g ∈ new, g.isRemoval = false) ∨ ∃ c, new = [.remove d c] ∧
      (tidy → c ∈ s'.dest.idle.items ∨ c ∈ s'.dest.active.items)) ∧
    (tidy → ∀ g ∈ new, g.isClosing = false) := by
  cases start with
  | stay | takeBack own room taken | failedAttempt underWay unsettled
  | abandoned underWay unsettled | spare error =>
      exact ⟨[], rfl, Or.inl (List.forall_mem_nil _), fun _ => List.forall_mem_nil _⟩
  | accept room | abort taken | release taken | connected underWay unsettled | failHead head =>
      refine ⟨[_], rfl, Or.inl ?_, fun _ => ?_⟩ <;> simp [Frame.isRemoval, Frame.isClosing]
  | @remove c pooled =>
      refine ⟨[_], rfl, Or.inr ⟨c, rfl, pooled⟩, fun _ => ?_⟩
      simp [Frame.isClosing]
  | close n spared =>
      refine ⟨_, rfl, Or.inl fun g hg => ?_, fun tidy g hg => ?_⟩
      · rw [List.eq_of_mem_replicate hg]
        rfl
      · rw [spared tidy] at hg
        cases hg

/-- What holds of the slots of every destination, given that each connection is delivered once. -/
structure Accounted (l : Limits) (s : Site) : Prop where
  sized : s.Sized l
  placed : s.Placed
  covered : s.Open → (delivered s.attempts).Nodup → s.dest.slots.used ≤ s.held

theorem Accounted.new (a : Address) : Accounted l (Client.newSite a l) where
  sized := ⟨rfl, rfl, rfl⟩
  placed _ := Nat.le_refl _
  covered _ _ := Nat.le_refl _

theorem Accounted.move (h : s.Accounted l) (move : Move d steady tidy s s') : s'.Accounted l where
  sized := h.sized.move move
  placed := h.placed.move move
  covered opened once' := by
    have once := once'.sublist move.delivered_sublist
    cases move with
    | stay => exact h.covered opened once
    | turn turn =>
        obtain ⟨f, F, new, top, now, -, -, ended⟩ := turn.frames
        rw [Open, now] at opened
        -- the closing was not under way before either, or it is what has just ended
        rcases ended fun g hg => opened g (List.mem_append_left F hg) with other | none
        · have before : s.Open := by
            intro g hg
            rw [top] at hg
            rcases List.mem_cons.1 hg with rfl | below
            · exact other
            · exact opened g (List.mem_append_right new below)
          exact (turn.balance h.sized (h.placed.places_le_one once) before
            (h.covered before once)).1
        · rw [none]
          exact Nat.zero_le _
    | start ready start =>
        obtain ⟨new, above, -⟩ := start.frames
        have before : s.Open := fun f hf => opened f (above ▸ List.mem_append_right new hf)
        exact (start.balance (h.covered before once)).1

/-! ## The exact account -/

/-- What holds of the slots of a destination that is not closed and from which only pooled
connections are removed. -/
structure Exact (d : DestinationId) (l : Limits) (s : Site) : Prop where
  accounted : s.Accounted l
  opened : s.Open
  prompt : ∀ c, .remove d c ∉ s.frames.tail
  pooled : s.RemovesPooled d
  exact : (delivered s.attempts).Nodup → s.dest.slots.used = s.held

theorem Exact.new (a : Address) : Exact d l (Client.newSite a l) where
  accounted := Accounted.new a
  opened := List.forall_mem_nil _
  prompt _ := List.not_mem_nil
  pooled _ _ none := absurd none.symm (List.cons_ne_nil _ _)
  exact _ := rfl

theorem Exact.turn (h : s.Exact d l) (turn : Turn d s s') : s'.Exact d l := by
  have moved : Move d False False s s' := .turn turn
  obtain ⟨f, F, new, top, now, noRemoval, stillOpen, -⟩ := turn.frames
  -- a removal that was on top has been carried out, and there was none below it
  have none : ∀ c, .remove d c ∉ s'.frames := by
    intro c hc
    rw [now] at hc
    rcases List.mem_append.1 hc with added | below
    · cases noRemoval _ added
    · exact h.prompt c (by rw [top]; exact below)
  have opened := h.opened
  rw [Open, top] at opened
  constructor
  · exact h.accounted.move moved
  · intro g hg
    rw [now] at hg
    rcases List.mem_append.1 hg with added | below
    · exact stillOpen (opened f List.mem_cons_self) g added
    · exact opened g (List.mem_cons_of_mem f below)
  · exact fun c hc => none c (List.mem_of_mem_tail hc)
  · exact fun c F first => absurd (first ▸ List.mem_cons_self) (none c)
  · intro once'
    have once := once'.sublist moved.delivered_sublist
    exact (turn.balance h.accounted.sized (h.accounted.placed.places_le_one once) h.opened
      (h.accounted.covered h.opened once)).2 h.pooled (h.exact once)

theorem Exact.start (h : s.Exact d l) (ready : ∀ c, .remove d c ∉ s.frames)
    (start : Start d steady True s s') : s'.Exact d l := by
  have moved : Move d steady True s s' := .start ready start
  obtain ⟨new, above, asked, noClosing⟩ := start.frames
  constructor
  · exact h.accounted.move moved
  · intro g hg
    rw [above] at hg
    exact (List.mem_append.1 hg).elim (noClosing trivial g) (h.opened g)
  · intro c hc
    rw [above] at hc
    rcases asked with none | ⟨c', rfl, -⟩
    · rcases List.mem_append.1 (List.mem_of_mem_tail hc) with added | below
      · cases none _ added
      · exact ready c below
    · exact ready c hc
  · intro c F first
    rw [above] at first
    rcases asked with none | ⟨c', rfl, pooled⟩
    · have top : .remove d c ∈ new ++ s.frames := by
        rw [first]
        exact List.mem_cons_self
      rcases List.mem_append.1 top with added | below
      · cases none _ added
      · exact absurd below (ready c)
    · -- the removal was just asked for, and then its connection is pooled
      cases first
      exact pooled trivial
  · intro once'
    have once := once'.sublist moved.delivered_sublist
    exact (start.balance (h.accounted.covered h.opened once)).2 (h.exact once)

theorem Exact.move (h : s.Exact d l) (move : Move d steady True s s') : s'.Exact d l := by
  cases move with
  | stay => exact h
  | turn turn => exact h.turn turn
  | start ready start => exact h.start ready start

/-- While a connection is in hand, both pools have room for it. -/
theorem Exact.room (h : s.Exact d l) (once : (delivered s.attempts).Nodup) {c : ConnectionId}
    {deferred : Bool} {F : List Frame} (top : s.frames = .serve d c deferred :: F) :
    s.dest.idle.items.length < s.dest.idle.capacity ∧
      s.dest.active.items.length < s.dest.active.capacity := by
  -- the connection in hand holds a slot too, and slots are as many as a pool has places
  have exact := h.exact once
  have within := s.dest.slots.used_le
  obtain ⟨slots, idle, active⟩ := h.accounted.sized
  rw [held, top, length_hands_serve] at exact
  omega

end Site

namespace Client

/-- A connection is about to be parked for which there is no room. -/
def IdleOverflow (w : Client) (d : DestinationId) : Prop :=
  ∃ c deferred rest dest, w.agenda = .serve d c deferred :: rest ∧
    w.destinations[d]? = some dest ∧ dest.queue.poll = none ∧ dest.idle.offer c = .error c

/-- A connection is about to be put to work for which there is no room among the active ones. -/
def ActiveOverflow (w : Client) (d : DestinationId) : Prop :=
  ∃ c deferred rest dest e queue, w.agenda = .serve d c deferred :: rest ∧
    w.destinations[d]? = some dest ∧ dest.queue.poll = some (e, queue) ∧
    w.isMarked e.request.id = false ∧ dest.active.offer c = .error c

variable {w : Client} {d : DestinationId} {D : Destination}

theorem Reached.accounted {allowed : Client → Operation → Prop} (run : Reached allowed w)
    (here : w.destinations[d]? = some D) : (w.site d D).Accounted w.limits := by
  refine run.site (I := fun l s => s.Accounted l) False.elim False.elim ?_ ?_ here
  · exact fun a l => Site.Accounted.new a
  · exact fun h move => h.move move

theorem Reached.exact (run : Reached (Tidy d) w) (here : w.destinations[d]? = some D) :
    (w.site d D).Exact d w.limits := by
  refine run.site (I := fun l s => s.Exact d l) False.elim
    (fun (_ : True) _ _ may => may) ?_ ?_ here
  · exact fun a l => Site.Exact.new a
  · exact fun h move => h.move move

theorem framesAt_serve {c : ConnectionId} {deferred : Bool} {rest : List Frame}
    (top : w.agenda = .serve d c deferred :: rest) :
    w.framesAt d = .serve d c deferred :: rest.filter (·.isAt d) := by
  rw [framesAt, top, List.filter_cons_of_pos (by simp [Frame.destination?])]

/-- If every connection is delivered once, then at every moment of a run the slots taken are no more
than the limit, and between two outermost steps they are no more than the idle connections, the
active ones and the attempts that were not completed. So a slot is lost only to an attempt that was
given up. -/
theorem Reached.never_overcounts (run : Reached Anything w) (here : w.destinations[d]? = some D)
    (once : (delivered (w.attemptsOf d)).Nodup) :
    D.slots.used ≤ w.limits.connections ∧
    (w.agenda = [] →
      D.slots.used ≤
          D.idle.items.length + D.active.items.length + unfinished (w.attemptsOf d) ∧
        ((∀ a ∈ w.attemptsOf d, a.outcome ≠ none ∧ a.outcome ≠ some .abandoned) →
          D.slots.used ≤ D.idle.items.length + D.active.items.length)) := by
  have account := run.accounted here
  have limit : D.slots.limit = w.limits.connections := account.sized.slots
  refine ⟨limit ▸ D.slots.used_le, fun quiet => ?_⟩
  have none : w.framesAt d = [] := framesAt_quiet quiet
  have opened : (w.site d D).Open := by
    intro f hf
    have hf : f ∈ w.framesAt d := hf
    rw [none] at hf
    cases hf
  have covered : D.slots.used ≤ D.idle.items.length + D.active.items.length +
      (hands (w.framesAt d)).length + unfinished (w.attemptsOf d) := account.covered opened once
  rw [none] at covered
  refine ⟨covered, fun completed => ?_⟩
  have finished : unfinished (w.attemptsOf d) = 0 := by
    refine List.countP_eq_zero.2 fun a ha => ?_
    obtain ⟨ended, kept⟩ := completed a ha
    simp only [Attempt.isUnfinished]
    split <;> simp_all
  rw [finished] at covered
  exact covered

/-- The narrow client has closed its destination while a connection was being made, has asked for
another one since, and puts the first one to work. -/
def narrowSurplus : Client :=
  let w := (narrow.invoke (.send 0 (narrowRequest 0) 0)).2.settle
  let w := (w.invoke (.close 0)).2.settle
  let w := (w.invoke (.send 0 (narrowRequest 1) 0)).2.settle
  (w.invoke (.settle 0 (.connected 7))).2.settle

theorem reached_narrowSurplus : Reached Anything narrowSurplus := by
  have new : Reached Anything narrow := .initial (.lone _ _ _ _)
  have first := (new.invoke (.send 0 (narrowRequest 0) 0) (by decide) trivial).settle
  have closed := (first.invoke (.close 0) (by decide) trivial).settle
  have second := (closed.invoke (.send 0 (narrowRequest 1) 0) (by decide) trivial).settle
  exact (second.invoke (.settle 0 (.connected 7)) (by decide) trivial).settle

/-- One slot is taken where an active connection and an unfinished attempt could hold two. -/
theorem narrowSurplus_slots : ∃ D, narrowSurplus.destinations[0]? = some D ∧
    (delivered (narrowSurplus.attemptsOf 0)).Nodup ∧ D.slots.used = 1 ∧
    D.active.items.length + unfinished (narrowSurplus.attemptsOf 0) = 2 ∧
    D.slots.used ≤ narrowSurplus.limits.connections ∧
    D.slots.used ≤
      D.idle.items.length + D.active.items.length + unfinished (narrowSurplus.attemptsOf 0) := by
  have once : (delivered (narrowSurplus.attemptsOf 0)).Nodup := by decide
  have here := List.getElem?_eq_getElem (l := narrowSurplus.destinations) (i := 0) (by decide)
  obtain ⟨within, between⟩ := reached_narrowSurplus.never_overcounts here once
  exact ⟨_, here, once, by decide, by decide, within, (between (by decide)).1⟩

/-- If a destination is never closed, only pooled connections are removed from it and every
connection is delivered once, then between two outermost steps the slots taken are the idle
connections, the active ones and the unfinished attempts, which are no more than the limit; and at
no time does a pool overflow. -/
theorem Reached.slots_accounted (run : Reached (Tidy d) w) (here : w.destinations[d]? = some D)
    (once : (delivered (w.attemptsOf d)).Nodup) :
    (w.agenda = [] →
      D.slots.used =
          D.idle.items.length + D.active.items.length + unfinished (w.attemptsOf d) ∧
        D.idle.items.length + D.active.items.length + unfinished (w.attemptsOf d) ≤
          w.limits.connections) ∧
    ¬ w.IdleOverflow d ∧ ¬ w.ActiveOverflow d := by
  have account := run.exact here
  refine ⟨fun quiet => ?_, ?_, ?_⟩
  · have exact := account.exact once
    have noHands : hands (w.framesAt d) = [] := by rw [framesAt, quiet]; rfl
    have slots : D.slots.limit = w.limits.connections := account.accounted.sized.slots
    have within := D.slots.used_le
    have total : D.slots.used = D.idle.items.length + D.active.items.length +
        (hands (w.framesAt d)).length + unfinished (w.attemptsOf d) := exact
    rw [noHands] at total
    exact ⟨total, by rw [← slots]; exact total ▸ within⟩
  · rintro ⟨c, deferred, rest, dest, top, here', -, full⟩
    cases here.symm.trans here'
    have room := (account.room once (framesAt_serve top)).1
    exact absurd (BoundedQueue.offer_eq_error_iff.1 full).1 (Nat.ne_of_lt room)
  · rintro ⟨c, deferred, rest, dest, e, queue, top, here', -, -, full⟩
    cases here.symm.trans here'
    have room := (account.room once (framesAt_serve top)).2
    exact absurd (BoundedQueue.offer_eq_error_iff.1 full).1 (Nat.ne_of_lt room)

/-- The only slot of the narrow client is taken by its active connection. -/
theorem narrowBusy_slots : narrowPool.slots.used = 1 ∧
    (narrowPool.slots.used = narrowPool.idle.items.length + narrowPool.active.items.length +
      unfinished (narrowBusy.attemptsOf 0)) ∧
    ¬ narrowBusy.IdleOverflow 0 ∧ ¬ narrowBusy.ActiveOverflow 0 := by
  have run : Reached (Tidy 0) narrowBusy :=
    reached_narrowBusy (fun _ _ _ _ => trivial) (fun _ _ _ => trivial)
  obtain ⟨exact, overflows⟩ := run.slots_accounted narrowBusy_here (by decide)
  exact ⟨by decide, (exact narrowBusy_quiet).1, overflows⟩

end Client

end ConnectionPool
