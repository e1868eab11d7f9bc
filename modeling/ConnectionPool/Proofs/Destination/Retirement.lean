import Mathlib.Data.List.Nodup
import ConnectionPool.Proofs.Client.Attempts
import ConnectionPool.Proofs.Client.Driven
import ConnectionPool.Proofs.Destination.Placement
import ConnectionPool.Proofs.Exchange.Acceptance
import ConnectionPool.Proofs.Exchange.Handover

/-!
# Connections that were given up

A client gives a connection up by removing it, by closing it with the destination it is pooled at,
or because it finds no place for it (`Client.GivesUp`). Main statement: if every connection is
delivered once, then a connection that was given up is in no pool from then on and takes no exchange
any more; what it is still handed was left to a task before (`Client.Course.unused_after`). That
exception is needed, and so is the one for a connection that is removed while it is in hand
(`Client.given_up_used`).
-/

set_option autoImplicit false

namespace ConnectionPool

/-! ## What was delivered -/

theorem delivered_ended (attempts : List Attempt) :
    delivered (attempts.filter (·.isEnded)) = delivered attempts := by
  rw [delivered, delivered, List.filterMap_filter]
  apply List.filterMap_congr
  intro a _
  cases ended : a.outcome with
  | none => simp [Attempt.isEnded, Attempt.delivery?, ended]
  | some o => simp [Attempt.isEnded, ended]

/-- Where every connection is delivered once, one attempt delivers it. -/
theorem deliverer_unique {attempts : List Attempt} (fresh : (delivered attempts).Nodup)
    {a b : Attempt} (ha : a ∈ attempts) (hb : b ∈ attempts) {c : ConnectionId}
    (own : a.delivery? = some c) (own' : b.delivery? = some c) : a = b := by
  obtain ⟨before, after, rfl⟩ := List.append_of_mem ha
  have split : delivered (before ++ a :: after) = delivered before ++ c :: delivered after := by
    rw [delivered, List.filterMap_append, List.filterMap_cons_some own]
    rfl
  rw [split, List.nodup_middle, delivered, delivered, ← List.filterMap_append] at fresh
  have once := (List.nodup_cons.1 fresh).1
  rcases List.mem_append.1 hb with early | rest
  · exact absurd (List.mem_filterMap.2 ⟨b, List.mem_append_left _ early, own'⟩) once
  · rcases List.mem_cons.1 rest with same | late
    · exact same.symm
    · exact absurd (List.mem_filterMap.2 ⟨b, List.mem_append_right _ late, own'⟩) once

/-- Where every connection is delivered once, it is delivered to one destination at most. -/
theorem count_delivered_elsewhere {attempts : List Attempt} (fresh : (delivered attempts).Nodup)
    {a : Attempt} (known : a ∈ attempts) {c : ConnectionId} (own : a.delivery? = some c)
    {d : DestinationId} (foreign : a.isOf d = false) :
    (delivered (attempts.filter (·.isOf d))).count c = 0 := by
  refine List.count_eq_zero_of_not_mem fun there => ?_
  obtain ⟨b, hb, own'⟩ := List.mem_filterMap.1 there
  obtain ⟨hb, here⟩ := List.mem_filter.1 hb
  rw [deliverer_unique fresh known hb own own'] at foreign
  exact absurd (foreign.symm.trans here) Bool.false_ne_true

theorem count_delivered_here {attempts : List Attempt} {a : Attempt} (known : a ∈ attempts)
    {c : ConnectionId} (own : a.delivery? = some c) {d : DestinationId} (here : a.isOf d = true) :
    0 < (delivered (attempts.filter (·.isOf d))).count c :=
  List.count_pos_iff.2 (List.mem_filterMap.2 ⟨a, List.mem_filter.2 ⟨known, here⟩, own⟩)

/-! ## Giving up at a site -/

/-- What is forgotten, and was there once at most, is gone. -/
theorem Destination.count_forget (D : Destination) {c : ConnectionId}
    (once : D.idle.items.count c + D.active.items.count c ≤ 1) :
    (D.forget c).idle.items.count c = 0 ∧ (D.forget c).active.items.count c = 0 := by
  have gone {q : BoundedQueue ConnectionId} (le : q.items.count c ≤ 1) :
      (q.discard (· == c)).items.count c = 0 := by
    have own : [c].count c = 1 := List.count_singleton_self
    rcases q.count_discard c c with ⟨none, same⟩ | ⟨counts, -⟩
    · rw [same]
      exact none
    · omega
  exact ⟨gone (by omega), gone (by omega)⟩

namespace Site

variable {d : DestinationId} {s s' : Site} {c : ConnectionId} {F : List Frame}

theorem Turn.places_of_remove (turn : Turn d s s') (top : s.frames = .remove d c :: F)
    (once : s.places c ≤ 1) (free : (hands s.frames).count c = 0) : s'.places c = 0 := by
  have held : s.places c = s.dest.idle.items.count c + s.dest.active.items.count c + _ := rfl
  obtain ⟨idle, active⟩ := s.dest.count_forget (c := c) (by omega)
  rw [top, hands_cons_of_none rfl] at free
  cases turn with
  | removeLast top' empty =>
      cases top.symm.trans top'
      simp only [places]
      rw [idle, active, free]
  | removeMore top' waiting =>
      cases top.symm.trans top'
      simp only [places]
      rw [idle, active, hands_cons_of_none rfl, free]
  | _ top' => cases top.symm.trans top'

theorem Turn.places_of_closeIdle (turn : Turn d s s') (top : s.frames = .closeIdle d :: F)
    (once : s.places c ≤ 1) (idle : c ∈ s.dest.idle.items) : s'.places c = 0 := by
  have there := List.count_pos_iff.2 idle
  have held : s.places c = s.dest.idle.items.count c + s.dest.active.items.count c + _ := rfl
  rw [top, hands_cons_of_none rfl] at held
  cases turn with
  | closeIdle top' =>
      cases top.symm.trans top'
      simp only [places, BoundedQueue.items_drain, List.count_nil]
      rw [hands_cons_of_none rfl]
      omega
  | _ top' => cases top.symm.trans top'

theorem Turn.places_of_closeActive (turn : Turn d s s') (top : s.frames = .closeActive d :: F)
    (once : s.places c ≤ 1) (active : c ∈ s.dest.active.items) : s'.places c = 0 := by
  have there := List.count_pos_iff.2 active
  have held : s.places c = s.dest.idle.items.count c + s.dest.active.items.count c + _ := rfl
  rw [top, hands_cons_of_none rfl] at held
  cases turn with
  | closeActive top' =>
      cases top.symm.trans top'
      simp only [places, BoundedQueue.items_drain, List.count_nil]
      rw [hands_cons_of_none rfl]
      omega
  | _ top' => cases top.symm.trans top'

end Site

namespace Client

variable {allowed : Client → Operation → Prop} {w w' : Client} {d : DestinationId}
  {c : ConnectionId} {e : Exchange}

/-! ## Exchanges that are assigned -/

/-- A step that assigns a connection had it in hand. -/
theorem Step.hand_of_assigned (past : Reached allowed w) (next : Step allowed w w')
    {deferred : Bool} (new : w'.eventsAt d = .assigned d c e deferred :: w.eventsAt d) :
    ∃ D, w.destinations[d]? = some D ∧ c ∈ hands (w.framesAt d) := by
  have happened : .assigned d c e deferred ∈ w'.eventsAt d := new ▸ List.mem_cons_self
  have made := (past.step next).scoped.events _ (List.mem_filter.1 happened).1 d rfl
  obtain ⟨D, moves⟩ := next.moves_freely past (List.getElem?_eq_getElem made)
  cases moves with
  | turned top turn about here moved =>
      obtain ⟨F, inHand, -⟩ := moved.hand_of_assigned new
      have frames : w.framesAt d = .serve d c deferred :: F := inHand
      exact ⟨D, here, by rw [frames]; exact List.mem_cons_self⟩
  | away top turn other here same | ended top here same =>
      have unseen : w'.eventsAt d = w.eventsAt d := congrArg Site.events same
      exact absurd (new.symm.trans unseen) (List.cons_ne_self _ _)
  | started waits may start noted before moved => exact absurd new moved.not_assigned

/-- A step assigns one connection at most, and that is seen at a destination. -/
theorem Step.assigns_one (next : Step allowed w w') :
    assignments w'.history = assignments w.history ∨
    ∃ d c e deferred, assignments w'.history = (c, e) :: assignments w.history ∧
      w'.eventsAt d = .assigned d c e deferred :: w.eventsAt d := by
  obtain ⟨mid, entry, after⟩ := next.ledger
  -- the note of an operation assigns nothing, and is about no destination
  have noted : assignments w'.history = assignments mid.history ∧
      ∀ d, w'.history.filter (·.isAt d) = mid.history.filter (·.isAt d) := by
    rcases after with same | ⟨op, reply, note, -⟩
    · have same : w'.history = mid.history := congrArg Ledger.history same
      rw [same]
      exact ⟨rfl, fun _ => rfl⟩
    · have note : w'.history = .invoked op reply :: mid.history := congrArg Ledger.history note
      rw [note]
      exact ⟨List.filterMap_cons_none rfl, fun d => List.filter_cons_of_neg (by
        simp [Event.destination?])⟩
  rw [noted.1]
  rcases entry.history with same | ⟨ev, added, -⟩
  · have same : mid.history = w.history := same
    exact Or.inl (by rw [same])
  · have added : mid.history = ev :: w.history := added
    cases ev with
    | assigned d c e deferred =>
        refine Or.inr ⟨d, c, e, deferred, ?_, ?_⟩
        · rw [added]
          exact List.filterMap_cons_some rfl
        · rw [eventsAt, noted.2, added]
          exact List.filter_cons_of_pos (by simp [Event.destination?])
    | _ =>
        rw [added]
        exact Or.inl (List.filterMap_cons_none rfl)

/-- A connection that is nowhere in hand is not assigned. -/
theorem Step.count_assignments (past : Reached allowed w) (next : Step allowed w w')
    (free : ∀ d D, w.destinations[d]? = some D → c ∉ hands (w.framesAt d)) :
    (assignments w'.history).count (c, e) = (assignments w.history).count (c, e) := by
  rcases next.assigns_one with same | ⟨d, c', e', deferred, more, new⟩
  · rw [same]
  · obtain ⟨D, here, inHand⟩ := next.hand_of_assigned past new
    have other : (c', e') ≠ (c, e) := by
      intro same
      cases same
      exact free d D here inHand
    rw [more, List.count_cons_of_ne other]

/-! ## Connections that are gone -/

/-- The attempt `a` has delivered the connection `c`, which is in no place of any destination. -/
structure Gone (a : Attempt) (c : ConnectionId) (w : Client) : Prop where
  known : a ∈ w.attempts
  nowhere : ∀ d D, w.destinations[d]? = some D → (w.site d D).places c = 0

theorem Step.keeps_delivery (next : Step allowed w w') {a : Attempt} (known : a ∈ w.attempts)
    (own : a.delivery? = some c) : a ∈ w'.attempts := by
  have ended : a.isEnded = true := by
    cases outcome : a.outcome with
    | none => simp [Attempt.delivery?, outcome] at own
    | some o => simp [Attempt.isEnded, outcome]
  have before : a ∈ w.attempts.filter (·.isEnded) := List.mem_filter.2 ⟨known, ended⟩
  exact (List.mem_filter.1 (next.furthered.ended_sublist.subset before)).1

/-- What was delivered once in the end was delivered once at most before. -/
theorem Step.fresh_before (next : Step allowed w w') (fresh : (delivered w'.attempts).Nodup) :
    (delivered w.attempts).Nodup := by
  rw [← delivered_ended] at fresh ⊢
  exact fresh.sublist (next.furthered.ended_sublist.filterMap _)

/-- Where every connection is delivered once, no step brings back a connection that is gone. -/
theorem Gone.step {a : Attempt} (own : a.delivery? = some c) (past : Reached allowed w)
    (next : Step allowed w w') (fresh : (delivered w'.attempts).Nodup) (gone : Gone a c w) :
    Gone a c w' := by
  have known := next.keeps_delivery gone.known own
  refine ⟨known, fun d D' here' => ?_⟩
  obtain ⟨D, moves⟩ := next.moves_freely past here'
  cases moves with
  | turned top turn about here moved =>
      have further := moved.places_le c
      rw [gone.nowhere d D here] at further
      exact Nat.le_zero.1 further
  | away top turn other here same | ended top here same =>
      rw [same]
      exact gone.nowhere d D here
  | started waits may start noted before moved =>
      have further := moved.places_eq c
      have nowhere : (w.site d D).places c = 0 := by
        rcases before with here | ⟨missing, a, rfl⟩
        · exact gone.nowhere d D here
        · -- the operation makes the destination
          rw [site_missing past.scoped missing]
          rfl
      have nothing : (delivered (w'.attemptsOf d)).count c ≤
          (delivered (w.attemptsOf d)).count c := by
        cases here : a.isOf d with
        | true =>
            have once := List.nodup_iff_count.1
              (fresh.sublist (delivered_isOf_sublist w'.attempts d)) c
            exact Nat.le_trans once (count_delivered_here gone.known own here)
        | false =>
            have none := count_delivered_elsewhere fresh known own here
            exact Nat.le_trans (Nat.le_of_eq none) (Nat.zero_le _)
      have before : (w.site d D).attempts = w.attemptsOf d := rfl
      have after : (w'.site d D').attempts = w'.attemptsOf d := rfl
      rw [nowhere, before, after] at further
      omega

theorem Gone.free {a : Attempt} (gone : Gone a c w) (d : DestinationId) (D : Destination)
    (here : w.destinations[d]? = some D) : c ∉ hands (w.framesAt d) := by
  intro inHand
  have there : 0 < (hands (w.framesAt d)).count c := List.count_pos_iff.2 inHand
  have none := gone.nowhere d D here
  rw [places_site] at none
  omega

theorem Course.fresh_before {past : List Client} (course : Course allowed w past w')
    (fresh : (delivered w'.attempts).Nodup) : (delivered w.attempts).Nodup := by
  induction course with
  | nil => exact fresh
  | snoc _ next ih => exact ih (next.fresh_before fresh)

/-- A connection that is gone stays so, and is assigned no more. -/
theorem Course.gone {a : Attempt} (own : a.delivery? = some c) {past : List Client}
    (run : Reached Anything w) (course : Course Anything w past w')
    (fresh : (delivered w'.attempts).Nodup) (gone : Gone a c w) :
    Gone a c w' ∧ ∀ e, (assignments w'.history).count (c, e) =
      (assignments w.history).count (c, e) := by
  induction course with
  | nil => exact ⟨gone, fun _ => rfl⟩
  | @snoc past v v' course next ih =>
      obtain ⟨gone', unassigned⟩ := ih (next.fresh_before fresh)
      have reached := course.reached run
      refine ⟨gone'.step own reached next fresh, fun e => ?_⟩
      rw [next.count_assignments reached gone'.free, unassigned]

/-! ## Giving up -/

/-- The turn that comes next gives the connection up. -/
inductive GivesUp (w : Client) (c : ConnectionId) : Prop
  /-- An attempt of the destination delivered it, it is not in hand, and it is removed. -/
  | remove {d : DestinationId} {rest : List Frame} {a : Attempt}
      (top : w.agenda = .remove d c :: rest) (known : a ∈ w.attempts) (own : a.delivery? = some c)
      (its : a.destination = d) (free : c ∉ hands (w.framesAt d))
  /-- It is idle, and the idle connections are closed. -/
  | closeIdle {d : DestinationId} {rest : List Frame} {D : Destination}
      (top : w.agenda = .closeIdle d :: rest) (here : w.destinations[d]? = some D)
      (idle : c ∈ D.idle.items)
  /-- It is active, and the active connections are closed. -/
  | closeActive {d : DestinationId} {rest : List Frame} {D : Destination}
      (top : w.agenda = .closeActive d :: rest) (here : w.destinations[d]? = some D)
      (active : c ∈ D.active.items)
  /-- It is in hand and finds nothing to do, and there is no room or the client does not run. -/
  | park {d : DestinationId} {rest : List Frame} {deferred : Bool} {D : Destination}
      (top : w.agenda = .serve d c deferred :: rest) (here : w.destinations[d]? = some D)
      (empty : D.queue.items = [])
      (unwanted : D.idle.items.length = D.idle.capacity ∨ w.seesRunning = false)

/-- A turn that carries out a frame about a destination moves its site. -/
theorem Reached.turn_here (run : Reached allowed w) {f : Frame} {rest : List Frame}
    (top : w.agenda = f :: rest) (about : f.destination? = some d) :
    ∃ D D', w.destinations[d]? = some D ∧ w.turn.destinations[d]? = some D' ∧
      Site.Turn d (w.site d D) (w.turn.site d D') := by
  have made := run.scoped.frames f (top ▸ List.mem_cons_self) d about
  obtain ⟨v, rfl, turned⟩ := turned_of_top top
  exact turned.here about made

/-- A connection in hand that finds nothing to do and is not wanted is nowhere then. -/
theorem Turned.places_of_park {deferred : Bool} {D : Destination}
    (turn : Turned (.serve d c deferred) w w') (here : w.destinations[d]? = some D)
    (empty : D.queue.items = []) (nowhere : (w.site d D).places c = 0)
    (unwanted : D.idle.items.length = D.idle.capacity ∨ w.seesRunning = false) :
    w'.history = w.history ∧
      ∃ D', w'.destinations[d]? = some D' ∧ (w'.site d D').places c = 0 := by
  obtain ⟨history, D', here', same, left⟩ := turn.unparked here empty unwanted
  refine ⟨history, D', here', ?_⟩
  rw [same]
  rcases left with rfl | ⟨idle, room, rfl⟩
  · exact nowhere
  · -- it was parked for a moment, and then it was the only one of its kind
    have parked := BoundedQueue.count_of_offer room c
    have own : [c].count c = 1 := List.count_singleton_self
    rw [places_site] at nowhere ⊢
    obtain ⟨noIdle, noActive⟩ :=
      ({ D with idle := idle } : Destination).count_forget (c := c) (by dsimp only; omega)
    rw [noIdle, noActive]
    omega

/-- A connection in some place of a destination was delivered to it. -/
theorem Reached.deliverer (run : Reached allowed w) {D : Destination}
    (here : w.destinations[d]? = some D) (there : 0 < (w.site d D).places c) :
    ∃ a ∈ w.attempts, a.delivery? = some c ∧ a.destination = d := by
  have count : 0 < (delivered (w.attemptsOf d)).count c :=
    Nat.lt_of_lt_of_le there (run.placed here c)
  obtain ⟨a, known, own⟩ := List.mem_filterMap.1 (List.count_pos_iff.1 count)
  obtain ⟨known, its⟩ := List.mem_filter.1 known
  exact ⟨a, known, own, beq_iff_eq.1 (Bool.and_eq_true_iff.1 its).2⟩

/-- A connection is gone after a turn that leaves it nowhere at its own destination. -/
theorem Reached.gone_of_turn (run : Reached allowed w) (busy : w.awaits = false)
    (fresh : (delivered w.turn.attempts).Nodup) {a : Attempt} (known : a ∈ w.attempts)
    (own : a.delivery? = some c) (its : a.destination = d) {D' : Destination}
    (here : w.turn.destinations[d]? = some D') (nowhere : (w.turn.site d D').places c = 0) :
    Gone a c w.turn := by
  have next : Step allowed w w.turn := .turn busy
  have known := next.keeps_delivery known own
  refine ⟨known, fun d' D here' => ?_⟩
  by_cases same : d = d'
  · subst same
    cases here.symm.trans here'
    exact nowhere
  · -- it was not delivered anywhere else
    have foreign : a.isOf d' = false := by
      rw [Attempt.isOf, its, beq_eq_false_iff_ne.2 same, Bool.and_false]
    have placed := (run.step next).placed here' c
    have none : (delivered (w.turn.attemptsOf d')).count c = 0 :=
      count_delivered_elsewhere fresh known own foreign
    exact Nat.le_zero.1 (Nat.le_trans placed (Nat.le_of_eq none))

/-- Only a frame that fails an exchange or has a connection in hand adds to the history. -/
theorem Turned.history_same {f : Frame} (turn : Turned f w w') (about : f.destination? = some d)
    (fails : ∀ e cause, f ≠ .fail d e cause) (serves : ∀ c deferred, f ≠ .serve d c deferred) :
    w'.history = w.history := by
  cases turn with
  | fail d' e cause =>
      cases about
      exact absurd rfl (fails _ _)
  | parkSurplus | parkIdle | parkStopped | passOver | assign | assignDeferred =>
      cases about
      exact absurd rfl (serves _ _)
  | call | within | finish => cases about
  | _ => rfl

/-- A pooled connection is gone after a turn that leaves it in no place of its destination. -/
theorem Reached.gone_of_pooled (run : Reached allowed w) (busy : w.awaits = false)
    (fresh : (delivered w.turn.attempts).Nodup) {f : Frame} {rest : List Frame}
    (top : w.agenda = f :: rest) (about : f.destination? = some d) {D : Destination}
    (here : w.destinations[d]? = some D) (pooled : c ∈ D.idle.items ∨ c ∈ D.active.items)
    (leaves : ∀ s', Site.Turn d (w.site d D) s' → s'.places c = 0) :
    ∃ a, a.delivery? = some c ∧ Gone a c w.turn := by
  have there : 0 < (w.site d D).places c := by
    rw [places_site]
    rcases pooled with idle | active
    · have counted := List.count_pos_iff.2 idle
      omega
    · have counted := List.count_pos_iff.2 active
      omega
  obtain ⟨a, known, own, its⟩ := run.deliverer here there
  obtain ⟨D₀, D', here₀, here', moved⟩ := run.turn_here top about
  cases here.symm.trans here₀
  exact ⟨a, own, run.gone_of_turn busy fresh known own its here' (leaves _ moved)⟩

theorem GivesUp.busy (gives : w.GivesUp c) :
    ∃ f rest, w.agenda = f :: rest ∧ ∃ d, f.destination? = some d := by
  cases gives with
  | _ top => exact ⟨_, _, top, _, rfl⟩

/-- After the turn the connection is gone, and the turn has assigned nothing. -/
theorem GivesUp.gone (run : Reached allowed w) (gives : w.GivesUp c) (busy : w.awaits = false)
    (fresh : (delivered w.turn.attempts).Nodup) :
    w.turn.history = w.history ∧ ∃ a, a.delivery? = some c ∧ Gone a c w.turn := by
  have next : Step allowed w w.turn := .turn busy
  have once {d : DestinationId} {D : Destination} (here : w.destinations[d]? = some D) :
      (w.site d D).places c ≤ 1 :=
    (run.placed here).places_le_one
      ((next.fresh_before fresh).sublist (delivered_isOf_sublist w.attempts d)) c
  cases gives with
  | remove top known own its free =>
      obtain ⟨D, D', here, here', moved⟩ := run.turn_here top rfl
      have nowhere := moved.places_of_remove (framesAt_of_top top rfl) (once here)
        (List.count_eq_zero_of_not_mem free)
      obtain ⟨v, rfl, turned⟩ := turned_of_top top
      exact ⟨turned.history_same rfl (by simp) (by simp), _, own,
        run.gone_of_turn busy fresh known own its here' nowhere⟩
  | closeIdle top here idle =>
      have gone := run.gone_of_pooled busy fresh top rfl here (Or.inl idle) fun s' moved =>
        moved.places_of_closeIdle (framesAt_of_top top rfl) (once here) idle
      obtain ⟨v, rfl, turned⟩ := turned_of_top top
      exact ⟨turned.history_same rfl (by simp) (by simp), gone⟩
  | closeActive top here active =>
      have gone := run.gone_of_pooled busy fresh top rfl here (Or.inr active) fun s' moved =>
        moved.places_of_closeActive (framesAt_of_top top rfl) (once here) active
      obtain ⟨v, rfl, turned⟩ := turned_of_top top
      exact ⟨turned.history_same rfl (by simp) (by simp), gone⟩
  | @park d rest deferred D top here empty unwanted =>
      have alone := once here
      obtain ⟨v, rfl, turned⟩ := turned_of_top top
      -- apart from the hand that holds it, the connection is nowhere
      have held : ((v.push [.serve d c deferred]).site d D).places c =
          (v.site d D).places c + 1 := by
        rw [site_push_here rfl, push_nil]
        simp only [Site.places, count_hands_serve, List.count_singleton_self]
        omega
      rw [seesRunning_push] at unwanted
      obtain ⟨history, D', here', nowhere⟩ :=
        turned.places_of_park here empty (by omega) unwanted
      obtain ⟨a, known, own, its⟩ := run.deliverer (c := c) here (by omega)
      exact ⟨history, a, own, run.gone_of_turn busy fresh known own its here' nowhere⟩

/-- What was assigned was handed over, is to be handed over, or is left to a task. -/
theorem Reached.count_handed (run : Reached allowed w) (p : Pairing) :
    (assignments w.history).count p = (handovers (made w.history)).count p +
      ((handovers (callsOf w.agenda)).count p + (deferred w.tasks).count p) := by
  rw [← List.count_append, ← List.count_append]
  exact run.handed.count_eq p

/-- While a frame about a destination is on top, no hand-over is to be made. -/
theorem Reached.count_pending (run : Reached allowed w) {f : Frame} {rest : List Frame}
    (top : w.agenda = f :: rest) (about : f.destination? = some d) (p : Pairing) :
    (handovers (callsOf w.agenda)).count p = 0 := by
  refine List.count_eq_zero_of_not_mem fun pending => ?_
  obtain ⟨call, calls, hands⟩ := List.mem_filterMap.1 pending
  cases call with
  | send c e =>
      have there := mem_callsOf.1 calls
      rw [top] at there
      rcases List.mem_cons.1 there with same | below
      · rw [← same] at about
        cases about
      · exact run.no_handover top c e below
  | _ => cases hands

/-- If every connection is delivered once, a connection that was given up is in no pool from then on
and takes no exchange. What it is still handed was left to a task before. -/
theorem Course.unused_after {past : List Client} (run : Reached Anything w) (gives : w.GivesUp c)
    (course : Course Anything w.turn past w') (fresh : (delivered w'.attempts).Nodup) :
    (∀ (d : DestinationId) (D : Destination), w'.destinations[d]? = some D →
      c ∉ D.idle.items ∧ c ∉ D.active.items) ∧
    ∀ e, (assignments w'.history).count (c, e) = (assignments w.history).count (c, e) ∧
      (handovers (made w'.history)).count (c, e) ≤
        (handovers (made w.history)).count (c, e) + (deferred w.tasks).count (c, e) := by
  obtain ⟨f, rest, top, d, about⟩ := gives.busy
  have busy : w.awaits = false := by
    refine not_awaits_iff.2 ⟨f, rest, top, ?_⟩
    rintro c rfl
    cases about
  have run' : Reached Anything w.turn := run.step (.turn busy)
  obtain ⟨history, a, own, gone⟩ := gives.gone run busy (course.fresh_before fresh)
  obtain ⟨gone', unassigned⟩ := course.gone own run' fresh gone
  constructor
  · intro d D here
    have none := gone'.nowhere d D here
    rw [places_site] at none
    exact ⟨List.count_eq_zero.1 (by omega), List.count_eq_zero.1 (by omega)⟩
  · intro e
    have same : (assignments w'.history).count (c, e) = (assignments w.history).count (c, e) := by
      rw [unassigned, history]
    have before := run.count_handed (c, e)
    have after := (course.reached run').count_handed (c, e)
    have pending := run.count_pending top about (c, e)
    exact ⟨same, by omega⟩

/-- The busy narrow client is about to lose its connection, whose exchange is left to a task. -/
def narrowLosing : Client := (narrowBusy.invoke (.remove 0 7)).2

/-- The connection is gone, and the task runs. -/
def narrowLate : Client := (narrowLosing.turn.settle.invoke (.perform 0)).2.settle

theorem reached_narrowLosing : Reached Anything narrowLosing := by
  have busy : Reached Anything narrowBusy :=
    reached_narrowBusy (fun _ _ _ _ => trivial) (fun _ _ _ => trivial)
  exact busy.invoke (.remove 0 7) (by decide) trivial

theorem narrowLosing_gives : narrowLosing.GivesUp 7 := by
  have top : narrowLosing.agenda = .remove 0 7 :: narrowLosing.agenda.tail := by decide
  have known : ⟨0, true, some (.connected 7)⟩ ∈ narrowLosing.attempts := by decide
  exact .remove top known rfl rfl (by decide)

theorem narrowLate_unused : narrowLosing.GivesUp 7 ∧ (delivered narrowLate.attempts).Nodup ∧
    (∀ (d : DestinationId) (D : Destination), narrowLate.destinations[d]? = some D →
      7 ∉ D.idle.items ∧ 7 ∉ D.active.items) ∧
    (handovers (made narrowLate.history)).count (7, ⟨0, narrowRequest 0, 0⟩) = 1 ∧
    1 ≤ (handovers (made narrowLosing.history)).count (7, ⟨0, narrowRequest 0, 0⟩) +
      (deferred narrowLosing.tasks).count (7, ⟨0, narrowRequest 0, 0⟩) := by
  have starts : Course Anything narrowLosing.turn [] narrowLosing.turn := .nil
  obtain ⟨past, removed⟩ := starts.settle
  obtain ⟨past, course⟩ := (removed.invoke (.perform 0) (by decide) trivial).settle
  have once : (delivered narrowLate.attempts).Nodup := by decide
  have late : (handovers (made narrowLate.history)).count (7, ⟨0, narrowRequest 0, 0⟩) = 1 := by
    decide
  obtain ⟨unpooled, handed⟩ :=
    course.unused_after reached_narrowLosing narrowLosing_gives once
  exact ⟨narrowLosing_gives, once, unpooled, late, late ▸ (handed _).2⟩

/-! ## Both exceptions are needed -/

/-- From here on the connection is handed nothing and is in no pool. -/
def StaysUnused (w : Client) (c : ConnectionId) : Prop :=
  ∀ past w', Course Anything w past w' → (delivered w'.attempts).Nodup →
    (∀ e, (handovers (made w'.history)).count (c, e) = (handovers (made w.history)).count (c, e)) ∧
    ∀ (d : DestinationId) (D : Destination), w'.destinations[d]? = some D →
      c ∉ D.idle.items ∧ c ∉ D.active.items

/-- The busy narrow client after its destination was closed. -/
def narrowClosed : Client := (narrowBusy.invoke (.close 0)).2.settle

/-- A connection passes over the first of two exchanges, and is removed by the listener that hears
of it. -/
def narrowForgotten : Client :=
  let w := (narrow.invoke (.send 0 (narrowRequest 0) 0)).2.settle
  let w := (w.invoke (.send 0 (narrowRequest 1) 0)).2.settle
  let w := (w.invoke (.mark 0)).2.settle
  let told := (w.invoke (.settle 0 (.connected 7))).2.turn.turn.turn
  (told.invoke (.remove 0 7)).2.settle

theorem reached_narrowClosed : Reached Anything narrowClosed := by
  have busy : Reached Anything narrowBusy :=
    reached_narrowBusy (fun _ _ _ _ => trivial) (fun _ _ _ => trivial)
  exact (busy.invoke (.close 0) (by decide) trivial).settle

theorem reached_narrowForgotten : Reached Anything narrowForgotten :=
  (reached_narrowPassing.invoke (.remove 0 7) (by decide) trivial).settle

/-- A connection that was closed is handed what was left to a task, and one that was removed while
it was in hand takes another exchange. -/
theorem given_up_used :
    (Reached Anything narrowClosed ∧ .called (.close 7) ∈ narrowClosed.history ∧
      ¬ narrowClosed.StaysUnused 7) ∧
    (Reached Anything narrowForgotten ∧ .returned (.remove 0 7) ∈ narrowForgotten.history ∧
      ¬ narrowForgotten.StaysUnused 7) := by
  refine ⟨⟨reached_narrowClosed, by decide, fun unused => ?_⟩,
    ⟨reached_narrowForgotten, by decide, fun unused => ?_⟩⟩
  · have starts : Course Anything narrowClosed [] narrowClosed := .nil
    obtain ⟨past, course⟩ := (starts.invoke (.perform 0) (by decide) trivial).settle
    obtain ⟨handed, -⟩ := unused past _ course (by decide)
    exact absurd (handed ⟨0, narrowRequest 0, 0⟩) (by decide)
  · -- the callback returns, and the connection is in hand again
    have inside : narrowForgotten.agenda = .within
        (.responseFailed ⟨0, narrowRequest 0, 0⟩ (.responseAborted passedOverReason)) ::
          narrowForgotten.agenda.tail := by decide
    have starts : Course Anything narrowForgotten [] narrowForgotten := .nil
    obtain ⟨past, course⟩ := (starts.snoc (.resume inside)).settle
    obtain ⟨-, unpooled⟩ := unused past _ course (by decide)
    exact absurd (unpooled 0 _ (List.getElem?_eq_getElem (by decide))).2 (by decide)

end Client

end ConnectionPool
