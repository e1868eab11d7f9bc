import ConnectionPool.Proofs.Client.Agenda
import ConnectionPool.Proofs.Client.Driven
import ConnectionPool.Proofs.Destination.Placement
import ConnectionPool.Proofs.Exchange.Acceptance

/-!
# One exchange at a time

A connection is occupied at a destination from the moment it takes an exchange there until an
operation releases it there (`occupied`). An occupied connection is neither idle nor in hand, so it
cannot be put to work (`Client.Reached.alternates`). Main statement: if every connection is
delivered once, then between two exchanges that a connection takes at a destination an operation
releases it there, and it takes at most one exchange more than it is released
(`Client.Reached.released_between`).
-/

set_option autoImplicit false

namespace ConnectionPool

/-! ## Histories -/

/-- The connection takes an exchange at the destination. -/
def Event.assigns (d : DestinationId) (c : ConnectionId) : Event → Bool
  | .assigned d' c' _ _ => d' == d && c' == c
  | _ => false

/-- An operation releases the connection at the destination. -/
def Event.releases (d : DestinationId) (c : ConnectionId) : Event → Bool
  | .invoked (.release d' c') _ => d' == d && c' == c
  | _ => false

/-- The connection has taken an exchange at the destination and was not released there since. -/
def occupied (d : DestinationId) (c : ConnectionId) : List Event → Bool
  | [] => false
  | ev :: history => ev.assigns d c || (!ev.releases d c && occupied d c history)

/-- The connection was not occupied whenever it took an exchange at the destination. -/
def Alternating (d : DestinationId) (c : ConnectionId) : List Event → Prop
  | [] => True
  | ev :: history =>
      (ev.assigns d c = true → occupied d c history = false) ∧ Alternating d c history

section Histories

variable {d : DestinationId} {c : ConnectionId}

theorem Event.assigns_iff {ev : Event} :
    ev.assigns d c = true ↔ ∃ e deferred, ev = .assigned d c e deferred := by
  cases ev with
  | assigned d' c' e deferred =>
      simp only [Event.assigns, Bool.and_eq_true, beq_iff_eq]
      constructor
      · rintro ⟨rfl, rfl⟩
        exact ⟨e, deferred, rfl⟩
      · rintro ⟨e', deferred', same⟩
        cases same
        exact ⟨rfl, rfl⟩
  | _ => simp [Event.assigns]

theorem Event.releases_iff {ev : Event} :
    ev.releases d c = true ↔ ∃ reply, ev = .invoked (.release d c) reply := by
  cases ev with
  | invoked op reply =>
      cases op with
      | release d' c' =>
          simp only [Event.releases, Bool.and_eq_true, beq_iff_eq]
          constructor
          · rintro ⟨rfl, rfl⟩
            exact ⟨reply, rfl⟩
          · rintro ⟨reply', same⟩
            cases same
            exact ⟨rfl, rfl⟩
      | _ => simp [Event.releases]
  | _ => simp [Event.releases]

/-- An event cannot both assign a connection and release it. -/
theorem Event.not_releases_of_assigns {ev : Event} (assigns : ev.assigns d c = true) :
    ev.releases d c = false := by
  obtain ⟨e, deferred, rfl⟩ := Event.assigns_iff.1 assigns
  rfl

theorem occupied_cons {ev : Event} {history : List Event}
    (now : occupied d c (ev :: history) = true) :
    ev.assigns d c = true ∨ ev.releases d c = false ∧ occupied d c history = true := by
  simpa [occupied] using now

/-- Where nothing was assigned, no connection is occupied, and none was when it was assigned. -/
theorem unoccupied_of_none {history : List Event}
    (none : ∀ ev ∈ history, ev.assigns d c = false) :
    occupied d c history = false ∧ Alternating d c history := by
  induction history with
  | nil => exact ⟨rfl, trivial⟩
  | cons ev history ih =>
      obtain ⟨head, rest⟩ := List.forall_mem_cons.1 none
      obtain ⟨free, alternating⟩ := ih rest
      refine ⟨?_, ⟨fun assigns => absurd (head.symm.trans assigns) Bool.false_ne_true,
        alternating⟩⟩
      rw [occupied, head, free, Bool.and_false]
      rfl

/-- A connection that was assigned and is free was released since. -/
theorem released_of_free {between earlier : List Event} {ev : Event}
    (assigns : ev.assigns d c = true)
    (free : occupied d c (between ++ ev :: earlier) = false) :
    ∃ reply, .invoked (.release d c) reply ∈ between := by
  induction between with
  | nil => simp [occupied, assigns] at free
  | cons ev' between ih =>
      by_cases releases : ev'.releases d c = true
      · obtain ⟨reply, rfl⟩ := Event.releases_iff.1 releases
        exact ⟨reply, List.mem_cons_self⟩
      · have before : occupied d c (between ++ ev :: earlier) = false := by
          have later : ev'.assigns d c = false ∧ (ev'.releases d c = false →
              occupied d c (between ++ ev :: earlier) = false) := by
            simpa [occupied] using free
          exact later.2 (Bool.eq_false_iff.2 releases)
        obtain ⟨reply, there⟩ := ih before
        exact ⟨reply, List.mem_cons_of_mem _ there⟩

theorem Alternating.at_assignment {later earlier : List Event} {ev : Event}
    (assigns : ev.assigns d c = true) (h : Alternating d c (later ++ ev :: earlier)) :
    occupied d c earlier = false := by
  induction later with
  | nil => exact h.1 assigns
  | cons ev' later ih => exact ih h.2

/-- A connection that is occupied was assigned at most once more than it was released, and one that
is not was assigned at most as often. -/
theorem Alternating.countP_le {history : List Event} (h : Alternating d c history) :
    history.countP (·.assigns d c) ≤
      history.countP (·.releases d c) + (occupied d c history).toNat := by
  induction history with
  | nil => exact Nat.le_refl _
  | cons ev history ih =>
      obtain ⟨alternates, earlier⟩ := h
      have bound := ih earlier
      simp only [List.countP_cons, occupied]
      cases assigns : ev.assigns d c with
      | true =>
          rw [alternates assigns] at bound
          simp only [Event.not_releases_of_assigns assigns, Bool.toNat_false, Bool.true_or,
            Bool.toNat_true, if_true] at bound ⊢
          omega
      | false =>
          cases releases : ev.releases d c with
          | true =>
              have most := Bool.toNat_le (occupied d c history)
              simp
              omega
          | false => simpa using bound

end Histories

namespace Client

variable {allowed : Client → Operation → Prop} {w w' : Client} {d : DestinationId}
  {c : ConnectionId}

/-- An operation that puts a connection in hand to work on the spot releases that connection. -/
theorem Started.release_of_serve {op : Operation} {reply : Reply}
    (start : Started op (w.push [.finish op]) reply w')
    (inHand : w'.framesAt d = .serve d c false :: w.framesAt d) : op = .release d c := by
  obtain ⟨new, agenda, puts⟩ := start.agenda
  have added : new.filter (·.isAt d) = [.serve d c false] := by
    rw [framesAt, agenda, List.filter_append, agenda_push, List.filter_append] at inHand
    have ends : new.filter (·.isAt d) ++ w.framesAt d = [.serve d c false] ++ w.framesAt d := inHand
    exact List.append_cancel_right ends
  have there : .serve d c false ∈ new :=
    (List.mem_filter.1 (added ▸ List.mem_singleton_self _)).1
  generalize asked : Frame.serve d c false = f at there
  cases puts f there with
  | reuse runs d' c' => cases asked; rfl
  | _ => cases asked

/-! ## Runs -/

/-- An occupied connection was delivered, and is neither idle nor in hand. -/
def Engaged (d : DestinationId) (c : ConnectionId) (s : Site) (history : List Event) : Prop :=
  occupied d c history = true → 0 < (delivered s.attempts).count c ∧ s.loose c = 0

section Engaged

variable {s s' : Site} {history : List Event}

theorem Engaged.mono (h : Engaged d c s history)
    (fewer : s'.loose c + (delivered s.attempts).count c ≤
      s.loose c + (delivered s'.attempts).count c)
    (once : (delivered s'.attempts).count c ≤ 1)
    (stays : (delivered s.attempts).count c ≤ (delivered s'.attempts).count c) :
    Engaged d c s' history := by
  intro now
  obtain ⟨there, none⟩ := h now
  exact ⟨by omega, by omega⟩

/-- An event that assigns no connection leaves a connection as engaged as it was. -/
theorem Engaged.cons (h : Engaged d c s history) {ev : Event} (other : ev.assigns d c = false) :
    Engaged d c s (ev :: history) := by
  intro now
  rcases occupied_cons now with assigns | ⟨-, before⟩
  · exact absurd (other.symm.trans assigns) Bool.false_ne_true
  · exact h before

/-- A connection that is assigned was free, and it is engaged from then on. -/
theorem Engaged.assign (h : Engaged d c s history) (turn : Site.Turn d s s') (placed : s.Placed)
    (once : (delivered s.attempts).Nodup) {e : Exchange} {deferred : Bool}
    (new : s'.events = .assigned d c e deferred :: s.events) :
    occupied d c history = false ∧ 0 < (delivered s'.attempts).count c ∧ s'.loose c = 0 := by
  obtain ⟨F, top, left, idle⟩ := turn.hand_of_assigned new
  have alone := placed.places_le_one once c
  have there := placed c
  have own : [c].count c = 1 := List.count_singleton_self
  have looseBefore : s.loose c = _ + (hands s.frames).count c := rfl
  have looseAfter : s'.loose c = _ + (hands s'.frames).count c := rfl
  have placesBefore : s.places c = _ + _ + (hands s.frames).count c := rfl
  rw [top, count_hands_serve] at looseBefore placesBefore
  rw [left, idle] at looseAfter
  rw [turn.delivered_eq]
  refine ⟨Bool.eq_false_iff.2 fun now => ?_, by omega, by omega⟩
  -- an occupied connection would not have been in hand
  have none := (h now).2
  omega

end Engaged

/-- What a turn notes leaves a connection engaged while it is occupied, and assigns it only where it
is not. -/
theorem engaged_of_turned {s s' : Site} {f : Frame} (turn : Turned f w w')
    (moved : s' = s ∨ Site.Turn d s s') (placed : s.Placed)
    (once : (delivered s.attempts).Nodup) (seen : s.events = w.eventsAt d)
    (seen' : s'.events = w'.eventsAt d) (engaged : Engaged d c s w.history)
    (alternating : Alternating d c w.history) :
    Engaged d c s' w'.history ∧ Alternating d c w'.history := by
  have still : Engaged d c s' w.history := by
    rcases moved with rfl | turn
    · exact engaged
    · refine engaged.mono ?_ ?_ (Nat.le_of_eq (by rw [turn.delivered_eq]))
      · rw [turn.delivered_eq]
        exact Nat.add_le_add_right (turn.counts_le c).1 _
      · rw [turn.delivered_eq]
        exact List.nodup_iff_count.1 once c
  rcases turn.ledger.history with same | ⟨ev, added, -⟩
  · have same : w'.history = w.history := same
    rw [same]
    exact ⟨still, alternating⟩
  · have added : w'.history = ev :: w.history := added
    rw [added]
    cases assigns : ev.assigns d c with
    | false =>
        exact ⟨still.cons assigns, ⟨fun now => absurd (assigns.symm.trans now) Bool.false_ne_true,
          alternating⟩⟩
    | true =>
        obtain ⟨e, deferred, rfl⟩ := Event.assigns_iff.1 assigns
        have new : s'.events = .assigned d c e deferred :: s.events := by
          rw [seen', seen, eventsAt, added, List.filter_cons_of_pos (by simp [Event.destination?])]
          rfl
        rcases moved with rfl | turn
        · exact absurd new (List.ne_cons_self)
        · obtain ⟨free, there, none⟩ := engaged.assign turn placed once new
          exact ⟨fun _ => ⟨there, none⟩, ⟨fun _ => free, alternating⟩⟩

/-- What the start of an operation notes leaves a connection engaged while it is occupied. -/
theorem engaged_of_started {s s' : Site} {op : Operation} {reply : Reply} {v : Client}
    (start : Started op (w.push [.finish op]) reply v)
    (moved : Site.Start d False False s s') (seen : s.events = w.eventsAt d)
    (seen' : s'.events = v.eventsAt d) (held : s.frames = w.framesAt d)
    (held' : s'.frames = v.framesAt d) (once' : (delivered s'.attempts).Nodup)
    (engaged : Engaged d c s w.history) (alternating : Alternating d c w.history) :
    Engaged d c s' (.invoked op reply :: v.history) ∧
      Alternating d c (.invoked op reply :: v.history) := by
  have noted : (Event.invoked op reply).assigns d c = false := rfl
  -- before the operation is noted at most one event is, and it assigns nothing
  have before : (occupied d c v.history = true → occupied d c w.history = true) ∧
      Alternating d c v.history := by
    rcases start.ledger.history with same | ⟨ev, added, -⟩
    · have same : v.history = w.history := same
      rw [same]
      exact ⟨id, alternating⟩
    · have added : v.history = ev :: w.history := added
      have other : ev.assigns d c = false := by
        refine Bool.eq_false_iff.2 fun assigns => ?_
        obtain ⟨e, deferred, rfl⟩ := Event.assigns_iff.1 assigns
        have silent : s'.events ≠ .assigned d c e deferred :: s.events := moved.not_assigned
        apply silent
        rw [seen', seen, eventsAt, added, List.filter_cons_of_pos (by simp [Event.destination?])]
        rfl
      rw [added]
      refine ⟨fun now => ?_, ⟨fun now => absurd (other.symm.trans now) Bool.false_ne_true,
        alternating⟩⟩
      rcases occupied_cons now with assigns | ⟨-, earlier⟩
      · exact absurd (other.symm.trans assigns) Bool.false_ne_true
      · exact earlier
  refine ⟨fun now => ?_, ⟨fun now => absurd (noted.symm.trans now) Bool.false_ne_true, before.2⟩⟩
  rcases occupied_cons now with assigns | ⟨unreleased, earlier⟩
  · exact absurd (noted.symm.trans assigns) Bool.false_ne_true
  · have inHand : s'.frames ≠ .serve d c false :: s.frames := by
      -- only a release puts a connection in hand to work on the spot
      intro inHand
      rw [held, held'] at inHand
      rw [start.release_of_serve inHand] at unreleased
      simp [Event.releases] at unreleased
    exact engaged.mono ((moved.counts c).1 inHand) (List.nodup_iff_count.1 once' c)
      (moved.delivered_sublist.count_le c) (before.1 earlier)

/-- An event at a destination that does not exist has not happened. -/
theorem Reached.unoccupied_of_missing (run : Reached allowed w)
    (missing : w.destinations[d]? = none) :
    occupied d c w.history = false ∧ Alternating d c w.history := by
  apply unoccupied_of_none
  intro ev hev
  refine Bool.eq_false_iff.2 fun assigns => ?_
  obtain ⟨e, deferred, rfl⟩ := Event.assigns_iff.1 assigns
  exact absurd (run.scoped.events _ hev d rfl)
    (Nat.not_lt.2 (List.getElem?_eq_none_iff.1 missing))

/-- If every connection is delivered once, then an occupied one cannot be put to work, and no
connection takes an exchange while it is occupied. -/
theorem Reached.alternates (run : Reached allowed w) :
    ∀ {D}, w.destinations[d]? = some D → (delivered (w.attemptsOf d)).Nodup →
      Engaged d c (w.site d D) w.history ∧ Alternating d c w.history := by
  induction run with
  | initial new =>
      intro D here once
      have none : _ = [] := congrArg Ledger.history new.ledger
      have none : Client.history _ = [] := none
      rw [none]
      exact ⟨fun now => absurd now Bool.false_ne_true, trivial⟩
  | @step w w' past next ih =>
      intro D' here' once'
      obtain ⟨D, moves⟩ := next.moves_freely past here'
      cases moves with
      | turned top turn about here moved =>
          have same : delivered (w'.attemptsOf d) = delivered (w.attemptsOf d) := moved.delivered_eq
          have once : (delivered (w.attemptsOf d)).Nodup := by
            rw [← same]
            exact once'
          obtain ⟨engaged, alternating⟩ := ih here once
          subst top
          exact engaged_of_turned turn (Or.inr moved) (past.placed here) once rfl rfl engaged
            alternating
      | away top turn other here same =>
          have same' : w'.attemptsOf d = w.attemptsOf d := congrArg Site.attempts same
          have once : (delivered (w.attemptsOf d)).Nodup := by
            rw [← same']
            exact once'
          obtain ⟨engaged, alternating⟩ := ih here once
          subst top
          exact engaged_of_turned turn (Or.inl same) (past.placed here) once rfl rfl engaged
            alternating
      | ended top here same =>
          subst top
          rw [same]
          exact ih here once'
      | @started op reply v waits may start noted before moved =>
          have once : (delivered (w.attemptsOf d)).Nodup := once'.sublist moved.delivered_sublist
          have law : Engaged d c (w.site d D) w.history ∧ Alternating d c w.history := by
            rcases before with here | ⟨missing, -⟩
            · exact ih here once
            · -- the operation makes the destination
              obtain ⟨free, alternating⟩ := past.unoccupied_of_missing (c := c) missing
              exact ⟨fun now => absurd (free.symm.trans now) Bool.false_ne_true, alternating⟩
          subst noted
          have unseen : (v.record (.invoked op reply)).eventsAt d = v.eventsAt d :=
            List.filter_cons_of_neg (by simp [Event.destination?])
          exact engaged_of_started start moved rfl unseen rfl rfl once' law.1 law.2

/-- If every connection is delivered once, an operation releases a connection between two exchanges
that it takes, and it takes at most one exchange more than it is released. -/
theorem Reached.released_between (run : Reached allowed w)
    (once : (delivered (w.attemptsOf d)).Nodup) (c : ConnectionId) :
    (∀ later between earlier e₁ e₂ deferred₁ deferred₂,
      w.history = later ++ .assigned d c e₂ deferred₂ ::
        (between ++ .assigned d c e₁ deferred₁ :: earlier) →
      ∃ reply, .invoked (.release d c) reply ∈ between) ∧
    w.history.countP (·.assigns d c) ≤ w.history.countP (·.releases d c) + 1 := by
  have alternating : Alternating d c w.history := by
    cases here : w.destinations[d]? with
    | none => exact (run.unoccupied_of_missing here).2
    | some D => exact (run.alternates here once).2
  constructor
  · intro later between earlier e₁ e₂ deferred₁ deferred₂ split
    rw [split] at alternating
    exact released_of_free (by simp [Event.assigns])
      (alternating.at_assignment (by simp [Event.assigns]))
  · have atMostOne := Bool.toNat_le (occupied d c w.history)
    exact Nat.le_trans alternating.countP_le (Nat.add_le_add_left atMostOne _)

/-- The busy narrow client, once its connection has finished the first exchange and taken the
second. -/
def narrowReused : Client := (narrowBusy.invoke (.release 0 7)).2.settle

theorem narrowReused_released : (delivered (narrowReused.attemptsOf 0)).Nodup ∧
    (∃ reply, .invoked (.release 0 7) reply ∈ (narrowReused.history.drop 3).take 3) ∧
    narrowReused.history.countP (·.assigns 0 7) = 2 ∧
    2 ≤ narrowReused.history.countP (·.releases 0 7) + 1 := by
  have busy : Reached Anything narrowBusy :=
    reached_narrowBusy (fun _ _ _ _ => trivial) (fun _ _ _ => trivial)
  have run : Reached Anything narrowReused :=
    (busy.invoke (.release 0 7) (by decide) trivial).settle
  have once : (delivered (narrowReused.attemptsOf 0)).Nodup := by decide
  have twice : narrowReused.history.countP (·.assigns 0 7) = 2 := by decide
  obtain ⟨between, bound⟩ := run.released_between once 7
  refine ⟨once, ?_, twice, twice ▸ bound⟩
  exact between (narrowReused.history.take 2) _ (narrowReused.history.drop 7)
    ⟨0, narrowRequest 0, 0⟩ ⟨1, narrowRequest 1, 0⟩ true false (by decide)

end Client

end ConnectionPool
