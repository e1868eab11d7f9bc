import ConnectionPool.Proofs.Destination.Placement
import ConnectionPool.Proofs.Exchange.Acceptance

/-!
# What becomes of connections

A connection that an attempt delivered to a destination stays in some place there, idle, active or
in hand, until the client closes it or the outside has it removed. There is one other way out: a
connection that is put to work where the active ones leave no room is in no pool any more
(`Client.Crowds`). Main statement: every connection that was delivered is in some place, or is given
back to the outside, or was crowded out at some moment of the run (`Client.Course.custody`).
-/

set_option autoImplicit false

namespace ConnectionPool

/-- Forgetting one connection leaves every other where it is. -/
theorem Destination.count_forget_other (D : Destination) {c x : ConnectionId} (other : c ≠ x) :
    (D.forget c).idle.items.count x = D.idle.items.count x ∧
      (D.forget c).active.items.count x = D.active.items.count x := by
  have none : [c].count x = 0 := List.count_eq_zero_of_not_mem (by simpa using other.symm)
  have same (q : BoundedQueue ConnectionId) :
      (q.discard (· == c)).items.count x = q.items.count x := by
    rcases q.count_discard c x with ⟨-, same⟩ | ⟨counts, -⟩
    · rw [same]
    · omega
  exact ⟨same D.idle, same D.active⟩

namespace Site

variable {d : DestinationId} {steady tidy : Prop} {s s' : Site} {x : ConnectionId}

/-- The frame may take the connection out of the place that it is in. -/
inductive Takes (d : DestinationId) (s : Site) (x : ConnectionId) : Frame → Prop
  | serve (deferred : Bool) : Takes d s x (.serve d x deferred)
  | remove : Takes d s x (.remove d x)
  | closeIdle (idle : x ∈ s.dest.idle.items) : Takes d s x (.closeIdle d)
  | closeActive (active : x ∈ s.dest.active.items) : Takes d s x (.closeActive d)

/-- A connection stays in some place unless the frame on top takes it out. -/
theorem Turn.keeps (turn : Turn d s s') (kept : 0 < s.places x) :
    0 < s'.places x ∨ ∃ f F, s.frames = f :: F ∧ Takes d s x f := by
  by_cases taken : ∃ f F, s.frames = f :: F ∧ Takes d s x f
  · exact Or.inr taken
  left
  have spared {f : Frame} {F : List Frame} (top : s.frames = f :: F) : ¬ Takes d s x f :=
    fun takes => taken ⟨f, F, top, takes⟩
  -- what a frame does to one connection leaves another where it is
  have served {c : ConnectionId} {deferred : Bool} {F : List Frame}
      (top : s.frames = .serve d c deferred :: F) : c ≠ x := by
    intro same
    exact spared top (same ▸ .serve deferred)
  have removed {c : ConnectionId} {F : List Frame} (top : s.frames = .remove d c :: F) :
      c ≠ x := by
    intro same
    exact spared top (same ▸ .remove)
  have apart {c : ConnectionId} (other : c ≠ x) : [c].count x = 0 :=
    List.count_eq_zero_of_not_mem (by simpa using other.symm)
  simp only [places] at kept ⊢
  cases turn with
  | fail top | acquireNew top nothing free | acquireFull top nothing full | takeNone top nothing
  | passOver top head =>
      rw [top] at kept
      exact kept
  | acquireIdle top head | takeIdle top head =>
      have taken := BoundedQueue.count_of_poll head x
      rw [top, hands_cons_of_none rfl] at kept
      rw [count_hands_serve]
      dsimp only
      omega
  | parkSurplus top empty full =>
      have none := apart (served top)
      rw [top, count_hands_serve] at kept
      dsimp only
      omega
  | parkIdle top empty room =>
      have none := apart (served top)
      have joined := BoundedQueue.count_of_offer room x
      rw [top, count_hands_serve] at kept
      dsimp only
      omega
  | @parkStopped F c deferred idle top empty room =>
      have none := apart (served top)
      have joined := BoundedQueue.count_of_offer room x
      have same := ({ s.dest with idle := idle } : Destination).count_forget_other (served top)
      rw [top, count_hands_serve] at kept
      dsimp only at same ⊢
      omega
  | @assign F c deferred e queue top head =>
      have none := apart (served top)
      have joined := s.dest.active.count_le_offerOrDrop c x
      rw [top, count_hands_serve] at kept
      dsimp only
      omega
  | removeLast top empty =>
      have same := s.dest.count_forget_other (removed top)
      rw [top, hands_cons_of_none rfl] at kept
      dsimp only
      omega
  | removeMore top waiting =>
      have same := s.dest.count_forget_other (removed top)
      rw [top, hands_cons_of_none rfl] at kept
      rw [hands_cons_of_none rfl]
      dsimp only
      omega
  | closeIdle top =>
      have none := List.count_eq_zero_of_not_mem fun idle => spared top (.closeIdle idle)
      rw [top, hands_cons_of_none rfl] at kept
      rw [hands_cons_of_none rfl]
      dsimp only
      omega
  | closeActive top =>
      have none := List.count_eq_zero_of_not_mem fun active => spared top (.closeActive active)
      rw [top, hands_cons_of_none rfl] at kept
      rw [hands_cons_of_none rfl]
      dsimp only
      omega
  | failQueued top =>
      rw [top, hands_cons_of_none rfl] at kept
      rw [hands_append_of_none (by simp [Frame.hand?])]
      exact kept

/-- What an operation delivers is put in some place, and what was delivered before stays where it
is. -/
theorem Start.keeps (start : Start d steady tidy s s') (arrived : x ∈ delivered s'.attempts) :
    0 < s'.places x ∨
      x ∈ delivered s.attempts ∧ (0 < s.places x → 0 < s'.places x) := by
  have placed := start.places_eq x
  have more := start.delivered_sublist.count_le x
  have arrived := List.count_pos_iff.2 arrived
  by_cases earlier : x ∈ delivered s.attempts
  · exact Or.inr ⟨earlier, fun kept => by omega⟩
  · have none := List.count_eq_zero_of_not_mem earlier
    exact Or.inl (by omega)

end Site

namespace Client

variable {allowed : Client → Operation → Prop} {w w' : Client} {d : DestinationId}
  {c : ConnectionId}

/-- The turn that comes next puts the connection to work while the active connections leave no room
for it. -/
def Crowds (w : Client) (d : DestinationId) (c : ConnectionId) : Prop :=
  ∃ deferred rest D e queue, w.agenda = .serve d c deferred :: rest ∧
    w.destinations[d]? = some D ∧ D.queue.poll = some (e, queue) ∧
    w.isMarked e.request.id = false ∧ D.active.offer c = .error c

/-- The connection is given back to the outside: it was closed or is about to be, or its removal was
asked for. -/
inductive Relinquished (w : Client) (d : DestinationId) (c : ConnectionId) : Prop
  | called (closed : .called (.close c) ∈ w.history)
  | calling (closes : .call (.close c) ∈ w.agenda)
  | asked {reply : Reply} (removed : .invoked (.remove d c) reply ∈ w.history)

/-! ## Taking a connection out -/

/-- Where an active connection is put to work, it stays in some place if there is room for it. -/
theorem places_of_assigned {D : Destination} {queue : BoundedQueue Exchange}
    (room : D.active.offer c ≠ .error c) :
    0 < (w.site d { D with queue := queue, active := D.active.offerOrDrop c }).places c := by
  have joined : c ∈ (D.active.offerOrDrop c).items := by
    rw [BoundedQueue.offerOrDrop]
    cases offered : D.active.offer c with
    | error c' =>
        obtain ⟨-, rfl⟩ := BoundedQueue.offer_eq_error_iff.1 offered
        exact absurd offered room
    | ok active =>
        exact (BoundedQueue.mem_of_offer offered).2 (Or.inr rfl)
  have counted := List.count_pos_iff.2 joined
  rw [places_site]
  dsimp only
  omega

/-- A connection that leaves the hand is in a pool, or about to be closed, or crowded out. -/
theorem Turned.serve_keeps {deferred : Bool} (turn : Turned (.serve d c deferred) w w')
    {D' : Destination} (here' : w'.destinations[d]? = some D') :
    0 < (w'.site d D').places c ∨ .call (.close c) ∈ w'.agenda ∨
      (w.push [.serve d c deferred]).Crowds d c := by
  have crowded {D : Destination} {e : Exchange} {queue : BoundedQueue Exchange}
      (here : w.destinations[d]? = some D) (head : D.queue.poll = some (e, queue))
      (unmarked : w.isMarked e.request.id = false) (full : D.active.offer c = .error c) :
      (w.push [.serve d c deferred]).Crowds d c :=
    ⟨deferred, w.agenda, D, e, queue, rfl, here, head, unmarked, full⟩
  cases turn with
  | adrift names missing =>
      cases names
      cases here'.symm.trans missing
  | parkSurplus here empty full => exact Or.inr (Or.inl List.mem_cons_self)
  | parkStopped here empty room stopped => exact Or.inr (Or.inl List.mem_cons_self)
  | @parkIdle _ _ dest _ _ idle here empty room runs =>
      rw [← destinations_glance] at here
      cases (here_putDestination here).symm.trans here'
      have joined := BoundedQueue.count_of_offer room c
      rw [List.count_singleton_self] at joined
      rw [places_site]
      exact Or.inl (by dsimp only; omega)
  | @passOver _ _ dest _ _ e queue here head marked =>
      have still : .serve d c deferred ∈ ((w.putDestination d { dest with queue := queue }).push
          [.fail d e (.aborted passedOverReason), .serve d c deferred]).agenda :=
        List.mem_cons_of_mem _ List.mem_cons_self
      have inHand := List.count_pos_iff.2 (mem_hands_framesAt still)
      rw [places_site]
      exact Or.inl (Nat.lt_of_lt_of_le inHand (Nat.le_add_left _ _))
  | @assign _ _ dest _ e queue here head unmarked =>
      cases (here_putDestination here).symm.trans here'
      by_cases full : dest.active.offer c = .error c
      · exact Or.inr (Or.inr (crowded here head unmarked full))
      · exact Or.inl (places_of_assigned full)
  | @assignDeferred _ _ dest _ e queue here head unmarked =>
      cases (here_putDestination here).symm.trans here'
      by_cases full : dest.active.offer c = .error c
      · exact Or.inr (Or.inr (crowded here head unmarked full))
      · exact Or.inl (places_of_assigned full)

/-- What a closing takes out of the idle connections is about to be closed. -/
theorem Turned.closes_idle (turn : Turned (.closeIdle d) w w') {D : Destination}
    (here : w.destinations[d]? = some D) (idle : c ∈ D.idle.items) :
    .call (.close c) ∈ w'.agenda := by
  cases turn with
  | adrift names missing =>
      cases names
      cases here.symm.trans missing
  | closeIdle here' =>
      cases here.symm.trans here'
      refine List.mem_append_left _ (List.mem_append_left _ ?_)
      exact List.mem_map.2 ⟨c, idle, rfl⟩

/-- What a closing takes out of the active connections is about to be closed. -/
theorem Turned.closes_active (turn : Turned (.closeActive d) w w') {D : Destination}
    (here : w.destinations[d]? = some D) (active : c ∈ D.active.items) :
    .call (.close c) ∈ w'.agenda := by
  cases turn with
  | adrift names missing =>
      cases names
      cases here.symm.trans missing
  | closeActive here' =>
      cases here.symm.trans here'
      refine List.mem_append_left _ (List.mem_append_left _ ?_)
      exact List.mem_map.2 ⟨c, active, rfl⟩

/-! ## Connections that are given back -/

/-- What is given back to the outside stays so. -/
theorem Step.relinquished (next : Step allowed w w') (given : w.Relinquished d c) :
    w'.Relinquished d c := by
  cases given with
  | called closed => exact .called (next.remembers closed)
  | asked removed => exact .asked (next.remembers removed)
  | calling closes =>
      rcases next.cases with ⟨f, v, rfl, turn⟩ | ⟨c', rfl⟩ | ⟨op, reply, v, -, -, start, rfl⟩
      · rcases List.mem_cons.1 closes with rfl | below
        · -- the call is made
          cases turn with
          | call c => exact .called List.mem_cons_self
          | adrift names missing => cases names
        · obtain ⟨new, agenda⟩ := turn.agenda
          exact .calling (agenda ▸ List.mem_append_right new below)
      · rcases List.mem_cons.1 closes with same | below
        · cases same
        · exact .calling below
      · obtain ⟨new, agenda, -⟩ := start.agenda
        refine .calling ?_
        rw [agenda_record, agenda]
        exact List.mem_append_right new (List.mem_cons_of_mem _ closes)

/-- Carrying out a frame asks for no removal. -/
theorem Turned.no_removal {f : Frame} (turn : Turned f w w') (there : .remove d c ∈ w'.agenda) :
    .remove d c ∈ w.agenda := by
  cases turn with
  | _ => simpa using there

/-- An operation puts a removal on the agenda because it asks for it, or together with the closing
of the connection. -/
theorem Started.removal {op : Operation} {reply : Reply} (start : Started op w reply w')
    (there : .remove d c ∈ w'.agenda) :
    .remove d c ∈ w.agenda ∨ op = .remove d c ∨ .call (.close c) ∈ w'.agenda := by
  obtain ⟨new, agenda, puts⟩ := start.agenda
  rw [agenda] at there
  rcases List.mem_append.1 there with added | below
  · cases puts _ added with
    | remove d c => exact Or.inr (Or.inl rfl)
    | forget stopped d c =>
        cases start with
        | ignored op => exact Or.inl (agenda ▸ there)
        | releaseStopped here stopped => exact Or.inr (Or.inr (by simp))
        | releaseStray here runs nothing => cases runs.symm.trans stopped
        | release here runs taken => cases runs.symm.trans stopped
  · exact Or.inl below

/-- Whenever a connection is about to be removed, it is given back to the outside. -/
theorem Reached.removal_relinquished (run : Reached allowed w) :
    ∀ {d : DestinationId} {c : ConnectionId}, .remove d c ∈ w.agenda → w.Relinquished d c := by
  induction run with
  | initial new =>
      intro d c there
      cases new <;> cases there
  | step past next ih =>
      intro d c there
      rcases next.cases with ⟨f, v, rfl, turn⟩ | ⟨c', rfl⟩ | ⟨op, reply, v, -, -, start, rfl⟩
      · exact next.relinquished (ih (List.mem_cons_of_mem f (turn.no_removal there)))
      · exact next.relinquished (ih (List.mem_cons_of_mem _ there))
      · rcases start.removal there with before | rfl | closes
        · rcases List.mem_cons.1 before with same | below
          · cases same
          · exact next.relinquished (ih below)
        · exact .asked List.mem_cons_self
        · exact .calling closes

/-- A turn at its destination leaves a connection in some place, gives it back to the outside, or
crowds it out. -/
theorem Turned.custody {f : Frame} (run : Reached allowed (w.push [f]))
    (next : Step allowed (w.push [f]) w') (turn : Turned f w w')
    (about : f.destination? = some d) {D D' : Destination} (here : w.destinations[d]? = some D)
    (here' : w'.destinations[d]? = some D')
    (moved : Site.Turn d ((w.push [f]).site d D) (w'.site d D'))
    (kept : 0 < ((w.push [f]).site d D).places c) :
    0 < (w'.site d D').places c ∨ w'.Relinquished d c ∨ (w.push [f]).Crowds d c := by
  rcases moved.keeps kept with still | ⟨g, F, top, takes⟩
  · exact Or.inl still
  · have own : (w.push [f]).framesAt d = f :: _ := framesAt_of_top rfl about
    cases own.symm.trans top
    cases takes with
    | serve deferred =>
        rcases turn.serve_keeps here' with still | closes | crowds
        · exact Or.inl still
        · exact Or.inr (Or.inl (.calling closes))
        · exact Or.inr (Or.inr crowds)
    | remove =>
        have given := run.removal_relinquished List.mem_cons_self
        exact Or.inr (Or.inl (next.relinquished given))
    | closeIdle idle => exact Or.inr (Or.inl (.calling (turn.closes_idle here idle)))
    | closeActive active => exact Or.inr (Or.inl (.calling (turn.closes_active here active)))

/-- Every connection that was delivered to a destination is in some place there, or it is given back
to the outside, or it was crowded out at some moment. -/
theorem Course.custody {w₀ : Client} (first : Initial w₀) {past : List Client}
    (course : Course allowed w₀ past w) : ∀ {D : Destination}, w.destinations[d]? = some D →
      c ∈ delivered (w.attemptsOf d) →
      0 < (w.site d D).places c ∨ w.Relinquished d c ∨ ∃ v ∈ past, v.Crowds d c := by
  induction course with
  | nil =>
      intro D here arrived
      cases first <;> cases arrived
  | @snoc past v v' course next ih =>
      intro D' here' arrived
      have run := course.reached (.initial first)
      -- what held before the step holds after it
      have goes {D : Destination} (here : v.destinations[d]? = some D)
          (arrived : c ∈ delivered (v.attemptsOf d))
          (keeps : 0 < (v.site d D).places c → 0 < (v'.site d D').places c ∨
            v'.Relinquished d c ∨ ∃ u ∈ v :: past, u.Crowds d c) :
          0 < (v'.site d D').places c ∨ v'.Relinquished d c ∨
            ∃ u ∈ v :: past, u.Crowds d c := by
        rcases ih here arrived with kept | given | ⟨u, hu, crowds⟩
        · exact keeps kept
        · exact Or.inr (Or.inl (next.relinquished given))
        · exact Or.inr (Or.inr ⟨u, List.mem_cons_of_mem _ hu, crowds⟩)
      obtain ⟨D, moves⟩ := next.moves_freely run here'
      cases moves with
      | turned top turn about here moved =>
          subst top
          have same : delivered (v'.attemptsOf d) = _ := moved.delivered_eq
          rw [same] at arrived
          refine goes here arrived fun kept => ?_
          rcases turn.custody run next about here here' moved kept with still | given | crowds
          · exact Or.inl still
          · exact Or.inr (Or.inl given)
          · exact Or.inr (Or.inr ⟨_, List.mem_cons_self, crowds⟩)
      | away top turn other here same | ended top here same =>
          have attempts : v'.attemptsOf d = v.attemptsOf d := congrArg Site.attempts same
          rw [attempts] at arrived
          refine goes here arrived fun kept => ?_
          rw [same]
          exact Or.inl kept
      | started waits may start noted before moved =>
          rcases moved.keeps arrived with new | ⟨earlier, keeps⟩
          · exact Or.inl new
          · rcases before with here | ⟨missing, a, rfl⟩
            · exact goes here earlier fun kept => Or.inl (keeps kept)
            · -- nothing was delivered to a destination that did not exist
              have none : v.attemptsOf d = [] :=
                congrArg Site.attempts (site_missing run.scoped missing (.fresh a v.limits))
              have earlier : c ∈ delivered (v.attemptsOf d) := earlier
              rw [none] at earlier
              cases earlier

/-- Between two outermost steps, every connection that was delivered to a destination is idle or
active there, or was closed, or its removal was asked for, or it was crowded out at some moment. -/
theorem Course.custody_quiet {w₀ : Client} (first : Initial w₀) {past : List Client}
    (course : Course allowed w₀ past w) (quiet : w.agenda = []) {D : Destination}
    (here : w.destinations[d]? = some D) (arrived : c ∈ delivered (w.attemptsOf d)) :
    (c ∈ D.idle.items ∨ c ∈ D.active.items) ∨ .called (.close c) ∈ w.history ∨
      (∃ reply, .invoked (.remove d c) reply ∈ w.history) ∨ ∃ v ∈ past, v.Crowds d c := by
  rcases course.custody first here arrived with kept | (closed | closes | asked) | crowded
  · rw [places_site, framesAt_quiet quiet] at kept
    left
    by_contra pooled
    obtain ⟨noIdle, noActive⟩ := not_or.1 pooled
    rw [List.count_eq_zero_of_not_mem noIdle, List.count_eq_zero_of_not_mem noActive] at kept
    cases kept
  · exact Or.inr (Or.inl closed)
  · rw [quiet] at closes
    cases closes
  · exact Or.inr (Or.inr (Or.inl ⟨_, asked⟩))
  · exact Or.inr (Or.inr (Or.inr crowded))

end Client

end ConnectionPool
