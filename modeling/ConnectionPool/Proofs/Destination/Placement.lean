import Mathlib.Data.List.Infix
import ConnectionPool.Proofs.Client.Driven
import ConnectionPool.Proofs.Destination.Simulation

/-!
# Where connections are

A connection that was delivered to a destination is idle there, active there, or in the hand of a
frame that is going to put it to work. No connection is in more places than it was delivered times
(`Site.Placed.move`). Main statement: where every connection is delivered once, no connection is
pooled twice, none that is in hand is pooled, and so none is listed twice
(`Client.Reached.placed_once`). The limit of the slots and the capacities of both pools stay the
limit of the client (`Site.Sized.move`).
-/

set_option autoImplicit false

namespace ConnectionPool

/-- The connection that a frame holds in hand. -/
def Frame.hand? : Frame → Option ConnectionId
  | .serve _ c _ => some c
  | _ => none

/-- The connection that an attempt delivered. -/
def Attempt.delivery? (a : Attempt) : Option ConnectionId :=
  match a.outcome with
  | some (.connected c) => some c
  | _ => none

/-- The connections in hand, innermost first. -/
def hands (fs : List Frame) : List ConnectionId := fs.filterMap Frame.hand?

/-- The connections that attempts delivered, in the order the attempts were made. -/
def delivered (attempts : List Attempt) : List ConnectionId := attempts.filterMap Attempt.delivery?

theorem hands_cons_of_none {f : Frame} (empty : f.hand? = none) (fs : List Frame) :
    hands (f :: fs) = hands fs :=
  List.filterMap_cons_none empty

theorem count_hands_serve (d : DestinationId) (c : ConnectionId) (deferred : Bool) (fs : List Frame)
    (x : ConnectionId) :
    (hands (.serve d c deferred :: fs)).count x = [c].count x + (hands fs).count x := by
  rw [← List.count_append]
  rfl

/-- Frames that hold nothing can be put on top of others. -/
theorem hands_append_of_none {fs : List Frame} (empty : ∀ f ∈ fs, f.hand? = none)
    (gs : List Frame) : hands (fs ++ gs) = hands gs := by
  rw [hands, List.filterMap_append, List.filterMap_eq_nil_iff.2 empty]
  rfl

/-- The end of an attempt adds what it delivered, between what others delivered. -/
theorem delivered_settled (before after : List Attempt) {a : Attempt} (unsettled : a.outcome = none)
    (o : Outcome) :
    delivered (before ++ { a with outcome := some o } :: after) =
        delivered before ++ (delivered [{ a with outcome := some o }] ++ delivered after) ∧
      delivered (before ++ a :: after) = delivered before ++ delivered after := by
  have nothing : a.delivery? = none := by rw [Attempt.delivery?, unsettled]
  constructor
  · rw [delivered, List.filterMap_append, ← List.singleton_append, List.filterMap_append]
    rfl
  · rw [delivered, List.filterMap_append, List.filterMap_cons_none nothing]
    rfl

/-- What is delivered to a destination is delivered. -/
theorem delivered_isOf_sublist (attempts : List Attempt) (d : DestinationId) :
    List.Sublist (delivered (attempts.filter (·.isOf d))) (delivered attempts) :=
  List.filter_sublist.filterMap _

theorem Destination.count_forget_le (D : Destination) (c x : ConnectionId) :
    (D.forget c).idle.items.count x ≤ D.idle.items.count x ∧
      (D.forget c).active.items.count x ≤ D.active.items.count x := by
  have le (q : BoundedQueue ConnectionId) :
      (q.discard (· == c)).items.count x ≤ q.items.count x := by
    rcases q.count_discard c x with ⟨-, same⟩ | ⟨counts, -⟩
    · rw [same]
    · omega
  exact ⟨le D.idle, le D.active⟩

namespace Site

variable {d : DestinationId} {steady tidy : Prop} {s s' : Site} {l : Limits}

/-! ## Places -/

/-- The number of places a connection is in. -/
def places (s : Site) (c : ConnectionId) : Nat :=
  s.dest.idle.items.count c + s.dest.active.items.count c + (hands s.frames).count c

/-- The number of places from which a connection can be put to work: it is idle, or in hand. -/
def loose (s : Site) (c : ConnectionId) : Nat :=
  s.dest.idle.items.count c + (hands s.frames).count c

/-- Carrying out a frame puts a connection into no further place, and least of all into one from
which it can be put to work. -/
theorem Turn.counts_le (turn : Turn d s s') (x : ConnectionId) :
    s'.loose x ≤ s.loose x ∧ s'.places x ≤ s.places x := by
  simp only [loose, places]
  cases turn with
  | fail top | acquireNew top nothing free | acquireFull top nothing full | takeNone top nothing =>
      rw [top]
      exact ⟨Nat.le_refl _, Nat.le_refl _⟩
  | acquireIdle top head | takeIdle top head =>
      have taken := BoundedQueue.count_of_poll head x
      rw [top, count_hands_serve, hands_cons_of_none rfl]
      dsimp only
      omega
  | parkSurplus top empty full =>
      rw [top, count_hands_serve]
      dsimp only
      omega
  | parkIdle top empty room =>
      have joined := BoundedQueue.count_of_offer room x
      rw [top, count_hands_serve]
      dsimp only
      omega
  | @parkStopped F c deferred idle top empty room =>
      -- the connection is parked first, and forgotten then
      have joined := BoundedQueue.count_of_offer room x
      have fewer := ({ s.dest with idle := idle } : Destination).count_forget_le c x
      rw [top, count_hands_serve]
      dsimp only at fewer ⊢
      omega
  | passOver top head =>
      rw [top, hands_cons_of_none rfl, count_hands_serve]
      exact ⟨Nat.le_refl _, Nat.le_refl _⟩
  | @assign F c deferred e queue top head =>
      -- where the active connections leave no room the connection is in no place at all
      have joined := s.dest.active.count_offerOrDrop_le c x
      rw [top, count_hands_serve]
      dsimp only
      omega
  | @removeLast F c top empty =>
      have fewer := s.dest.count_forget_le c x
      rw [top, hands_cons_of_none rfl]
      dsimp only
      omega
  | @removeMore F c top waiting =>
      have fewer := s.dest.count_forget_le c x
      rw [top, hands_cons_of_none rfl, hands_cons_of_none rfl]
      dsimp only
      omega
  | closeIdle top | closeActive top =>
      rw [top, hands_cons_of_none rfl, hands_cons_of_none rfl]
      simp only [BoundedQueue.items_drain, List.count_nil]
      omega
  | failQueued top =>
      rw [top, hands_cons_of_none rfl, hands_append_of_none (by simp [Frame.hand?])]
      exact ⟨Nat.le_refl _, Nat.le_refl _⟩

/-- Carrying out a frame puts a connection into no further place. -/
theorem Turn.places_le (turn : Turn d s s') (x : ConnectionId) : s'.places x ≤ s.places x :=
  (turn.counts_le x).2

/-- Carrying out a frame delivers nothing. -/
theorem Turn.delivered_eq (turn : Turn d s s') : delivered s'.attempts = delivered s.attempts := by
  cases turn with
  | acquireNew top nothing free =>
      dsimp only
      rw [delivered, List.filterMap_append]
      exact List.append_nil _
  | _ => rfl

/-- The start of an operation takes no connection away, and puts one into a further place by
delivering it. Into a place from which it can be put to work it comes only so, or by being put in
hand. -/
theorem Start.counts (start : Start d steady tidy s s') (x : ConnectionId) :
    (s'.frames ≠ .serve d x false :: s.frames →
      s'.loose x + (delivered s.attempts).count x ≤
        s.loose x + (delivered s'.attempts).count x) ∧
    s'.places x + (delivered s.attempts).count x =
      s.places x + (delivered s'.attempts).count x := by
  simp only [loose, places]
  cases start with
  | stay | accept room | takeBack own room taken | abort taken | remove pooled | spare error
  | failHead head => exact ⟨fun _ => Nat.le_refl _, rfl⟩
  | @release c c' active taken =>
      have gone := BoundedQueue.count_of_removeFirst taken x
      -- the connection that is found is the one that was released
      obtain ⟨-, -, -, -, asked, -⟩ := BoundedQueue.split_of_removeFirst taken
      cases eq_of_beq asked
      rw [count_hands_serve]
      dsimp only
      refine ⟨fun other => ?_, by omega⟩
      have apart : c ≠ x := by
        rintro rfl
        exact other rfl
      have none : [c].count x = 0 := List.count_eq_zero_of_not_mem (by simpa using apart.symm)
      omega
  | close n spared =>
      rw [hands_append_of_none fun f hf => by rw [List.eq_of_mem_replicate hf]; rfl]
      exact ⟨fun _ => Nat.le_refl _, rfl⟩
  | @connected before a after c underWay unsettled =>
      obtain ⟨new, old⟩ := delivered_settled before after unsettled (.connected c)
      have own : delivered [{ a with outcome := some (.connected c) }] = [c] := rfl
      dsimp only
      rw [underWay, new, old, own, count_hands_serve]
      simp only [List.count_append]
      omega
  | @failedAttempt before a after error underWay unsettled =>
      obtain ⟨new, old⟩ := delivered_settled before after unsettled (.failed error)
      dsimp only
      rw [underWay, new, old]
      exact ⟨fun _ => Nat.le_refl _, rfl⟩
  | @abandoned before a after underWay unsettled =>
      obtain ⟨new, old⟩ := delivered_settled before after unsettled .abandoned
      dsimp only
      rw [underWay, new, old]
      exact ⟨fun _ => Nat.le_refl _, rfl⟩

/-- The start of an operation takes a connection from no place, and puts it into a further one
exactly by delivering it. -/
theorem Start.places_eq (start : Start d steady tidy s s') (x : ConnectionId) :
    s'.places x + (delivered s.attempts).count x =
      s.places x + (delivered s'.attempts).count x :=
  (start.counts x).2

/-- No connection is in more places than it was delivered times. -/
def Placed (s : Site) : Prop := ∀ c, s.places c ≤ (delivered s.attempts).count c

theorem Placed.move (h : s.Placed) (move : Move d steady tidy s s') : s'.Placed := by
  intro c
  have bound := h c
  cases move with
  | stay => exact bound
  | turn turn =>
      rw [turn.delivered_eq]
      exact Nat.le_trans (turn.places_le c) bound
  | start ready start =>
      have further := start.places_eq c
      omega

/-- Where every connection was delivered once, it is in one place at most. -/
theorem Placed.places_le_one (h : s.Placed) (once : (delivered s.attempts).Nodup)
    (c : ConnectionId) : s.places c ≤ 1 :=
  Nat.le_trans (h c) (List.nodup_iff_count.1 once c)

/-- Where every connection was delivered once, no pool holds a connection twice, and the two pools
hold none in common. -/
theorem Placed.pooled_nodup (h : s.Placed) (once : (delivered s.attempts).Nodup) :
    (s.dest.idle.items ++ s.dest.active.items).Nodup := by
  rw [List.nodup_iff_count]
  intro c
  have one := h.places_le_one once c
  rw [places] at one
  rw [List.count_append]
  omega

/-- What is pooled was delivered. -/
theorem Placed.delivered_of_pooled (h : s.Placed) {c : ConnectionId}
    (pooled : c ∈ s.dest.idle.items ∨ c ∈ s.dest.active.items) : c ∈ delivered s.attempts := by
  have bound := h c
  rw [places] at bound
  apply List.count_pos_iff.1
  rcases pooled with idle | active
  · have there := List.count_pos_iff.2 idle
    omega
  · have there := List.count_pos_iff.2 active
    omega

/-- What was delivered stays delivered when an operation starts. -/
theorem Start.delivered_sublist (start : Start d steady tidy s s') :
    List.Sublist (delivered s.attempts) (delivered s'.attempts) := by
  have grows {before after : List Attempt} {a : Attempt} (unsettled : a.outcome = none)
      (o : Outcome) : List.Sublist (delivered (before ++ a :: after))
        (delivered (before ++ { a with outcome := some o } :: after)) := by
    obtain ⟨new, old⟩ := delivered_settled before after unsettled o
    rw [new, old]
    exact (List.sublist_append_right _ _).append_left _
  cases start with
  | connected underWay unsettled | failedAttempt underWay unsettled
  | abandoned underWay unsettled =>
      rw [underWay]
      exact grows unsettled _
  | _ => exact List.Sublist.refl _

/-- What was delivered stays delivered. -/
theorem Move.delivered_sublist (move : Move d steady tidy s s') :
    List.Sublist (delivered s.attempts) (delivered s'.attempts) := by
  cases move with
  | stay => exact List.Sublist.refl _
  | turn turn => rw [turn.delivered_eq]
  | start ready start => exact start.delivered_sublist

/-- A connection that an event assigned was in the hand of the frame on top, and has left it. -/
theorem Turn.hand_of_assigned (turn : Turn d s s') {d' : DestinationId} {c : ConnectionId}
    {e : Exchange} {deferred : Bool} (new : s'.events = .assigned d' c e deferred :: s.events) :
    ∃ F, s.frames = .serve d c deferred :: F ∧ s'.frames = F ∧ s'.dest.idle = s.dest.idle := by
  cases turn with
  | fail top => cases new
  | assign top head =>
      cases new
      exact ⟨_, top, rfl, rfl⟩
  | _ => exact absurd new (List.ne_cons_self)

/-- The start of an operation assigns no connection. -/
theorem Start.not_assigned (start : Start d steady tidy s s') {d' : DestinationId}
    {c : ConnectionId} {e : Exchange} {deferred : Bool} :
    s'.events ≠ .assigned d' c e deferred :: s.events := by
  intro new
  cases start with
  | accept room | spare error => cases new
  | _ => exact absurd new (List.ne_cons_self)

/-! ## Sizes -/

/-- The slots and both pools have the limit of the client. -/
structure Sized (l : Limits) (s : Site) : Prop where
  slots : s.dest.slots.limit = l.connections
  idle : s.dest.idle.capacity = l.connections
  active : s.dest.active.capacity = l.connections

theorem Sized.turn (h : s.Sized l) (turn : Turn d s s') : s'.Sized l := by
  have same := h
  obtain ⟨hs, hi, ha⟩ := h
  cases turn with
  | acquireIdle top head | takeIdle top head =>
      exact ⟨hs, (BoundedQueue.poll_eq_some_iff.1 head).2.trans hi, ha⟩
  | acquireNew top nothing free =>
      exact ⟨(SlotCounter.reserve?_eq_some_iff.1 free).2.1.trans hs, hi, ha⟩
  | parkIdle top empty room => exact ⟨hs, (BoundedQueue.offer_eq_ok_iff.1 room).2.1.trans hi, ha⟩
  | parkStopped top empty room =>
      have capacity := (BoundedQueue.offer_eq_ok_iff.1 room).2.1.trans hi
      exact ⟨hs, (BoundedQueue.capacity_discard _ _).trans capacity,
        (BoundedQueue.capacity_discard _ _).trans ha⟩
  | assign top head => exact ⟨hs, hi, (BoundedQueue.capacity_offerOrDrop _ _).trans ha⟩
  | removeLast top empty | removeMore top waiting =>
      exact ⟨hs, (BoundedQueue.capacity_discard _ _).trans hi,
        (BoundedQueue.capacity_discard _ _).trans ha⟩
  | _ => exact ⟨hs, hi, ha⟩

theorem Sized.move (h : s.Sized l) (move : Move d steady tidy s s') : s'.Sized l := by
  cases move with
  | stay => exact h
  | turn turn => exact h.turn turn
  | start ready start =>
      cases start with
      | release taken =>
          exact ⟨h.slots, h.idle, (BoundedQueue.removeFirst_eq_some_iff.1 taken).2.trans h.active⟩
      | _ => exact ⟨h.slots, h.idle, h.active⟩

end Site

namespace Client

variable {allowed : Client → Operation → Prop} {w : Client} {d : DestinationId} {D : Destination}

theorem places_site (w : Client) (d : DestinationId) (D : Destination) (c : ConnectionId) :
    (w.site d D).places c =
      D.idle.items.count c + D.active.items.count c + (hands (w.framesAt d)).count c := rfl

/-- In every client that is reached, no connection is in more places of a destination than the
destination's attempts delivered it. -/
theorem Reached.placed (run : Reached allowed w) (here : w.destinations[d]? = some D) :
    (w.site d D).Placed :=
  run.site (I := fun _ s => s.Placed) False.elim False.elim (fun _ _ _ => Nat.le_refl _)
    (fun h move => h.move move) here

/-- Between two outermost steps no frame is about any destination. -/
theorem framesAt_quiet (quiet : w.agenda = []) : w.framesAt d = [] := by
  rw [framesAt, quiet]
  rfl

/-- A connection that a frame on the agenda is going to put to work is in hand there. -/
theorem mem_hands_framesAt {c : ConnectionId} {deferred : Bool}
    (inHand : .serve d c deferred ∈ w.agenda) : c ∈ hands (w.framesAt d) := by
  refine List.mem_filterMap.2 ⟨.serve d c deferred, ?_, rfl⟩
  refine List.mem_filter.2 ⟨inHand, ?_⟩
  rw [Frame.isAt_iff]
  rfl

/-- The pooled connections are listed in the order of the two pools. -/
theorem connections_map_fst (D : Destination) :
    D.connections.map Prod.fst = D.idle.items ++ D.active.items := by
  simp [Destination.connections, Function.comp_def]

/-- If every connection is delivered once, then at every moment of a run no connection is pooled
twice, and none that a frame holds in hand is pooled. So neither the list of the connections nor the
dump names one twice. -/
theorem Reached.placed_once (run : Reached Anything w) (here : w.destinations[d]? = some D)
    (once : (delivered (w.attemptsOf d)).Nodup) :
    (D.idle.items ++ D.active.items).Nodup ∧
    (∀ c deferred, .serve d c deferred ∈ w.agenda → c ∉ D.idle.items ∧ c ∉ D.active.items) ∧
    (D.connections.map Prod.fst).Nodup ∧
    ∀ name : ConnectionId → String, ∃ listed : List (ConnectionId × Placement),
      (listed.map Prod.fst).Nodup ∧
      D.dump name =
        s!"{D.address.display} - requests queued: {D.queue.size}\n" ++
          String.join (listed.map fun (c, p) => s!" +- {name c} - {p.display}\n") := by
  have alone (c : ConnectionId) :
      D.idle.items.count c + D.active.items.count c + (hands (w.framesAt d)).count c ≤ 1 := by
    rw [← places_site]
    exact (run.placed here).places_le_one once c
  have pooled : (D.idle.items ++ D.active.items).Nodup := (run.placed here).pooled_nodup once
  have listed : (D.connections.map Prod.fst).Nodup := by
    rw [connections_map_fst]
    exact pooled
  refine ⟨pooled, ?_, listed, fun name => ⟨D.connections, listed, rfl⟩⟩
  intro c deferred inHand
  have held := List.count_pos_iff.2 (mem_hands_framesAt inHand)
  have one := alone c
  constructor
  · exact List.count_eq_zero.1 (by omega)
  · exact List.count_eq_zero.1 (by omega)

/-- The connection of the narrow client is in hand and passes over the first of two exchanges, whose
listener hears of it. -/
def narrowPassing : Client :=
  let w := (narrow.invoke (.send 0 (narrowRequest 0) 0)).2.settle
  let w := (w.invoke (.send 0 (narrowRequest 1) 0)).2.settle
  let w := (w.invoke (.mark 0)).2.settle
  (w.invoke (.settle 0 (.connected 7))).2.turn.turn.turn

theorem reached_narrowPassing : Reached Anything narrowPassing := by
  have new : Reached Anything narrow := .initial (.lone _ _ _ _)
  have first := (new.invoke (.send 0 (narrowRequest 0) 0) (by decide) trivial).settle
  have second := (first.invoke (.send 0 (narrowRequest 1) 0) (by decide) trivial).settle
  have marked := (second.invoke (.mark 0) (by decide) trivial).settle
  have connected := marked.invoke (.settle 0 (.connected 7)) (by decide) trivial
  exact ((connected.step (.turn (by decide))).step (.turn (by decide))).step (.turn (by decide))

theorem narrowPassing_placed :
    ∃ D, narrowPassing.destinations[0]? = some D ∧ (delivered (narrowPassing.attemptsOf 0)).Nodup ∧
      (D.idle.items ++ D.active.items).Nodup ∧ .serve 0 7 true ∈ narrowPassing.agenda ∧
      7 ∉ D.idle.items ∧ 7 ∉ D.active.items := by
  obtain ⟨D, here⟩ : ∃ D, narrowPassing.destinations[0]? = some D :=
    ⟨_, List.getElem?_eq_getElem (by decide)⟩
  have once : (delivered (narrowPassing.attemptsOf 0)).Nodup := by decide
  have inHand : .serve 0 7 true ∈ narrowPassing.agenda := by decide
  obtain ⟨pooled, apart, -⟩ := reached_narrowPassing.placed_once here once
  exact ⟨D, here, once, pooled, inHand, apart 7 true inHand⟩

end Client

end ConnectionPool
