import ConnectionPool.Proofs.Exchange.Fate
import ConnectionPool.Proofs.Destination.Placement

/-!
# Hand-overs that were made

Main statements: a connection that took an exchange was delivered to the destination that handed
the exchange over (`Client.Reached.delivered_of_assigned`); between two outermost steps, an exchange
that was handed over was so once, and the client has told its listener nothing
(`Client.Reached.handed_once`); and calls are made by the turns that carry them out, and by nothing
else (`Client.Turned.made`, `Client.made_invoke`).
-/

set_option autoImplicit false

namespace ConnectionPool

namespace Site

variable {d : DestinationId} {steady tidy : Prop} {s s' : Site}

/-- The connections that took exchanges were delivered, and so were those that are in some place. -/
structure Supplied (s : Site) : Prop where
  placed : s.Placed
  assigned : ∀ d c e deferred, .assigned d c e deferred ∈ s.events → c ∈ delivered s.attempts

theorem Supplied.move (h : s.Supplied) (move : Move d steady tidy s s') : s'.Supplied := by
  refine ⟨h.placed.move move, fun d' c e deferred there => ?_⟩
  have old (before : .assigned d' c e deferred ∈ s.events) : c ∈ delivered s'.attempts :=
    move.delivered_sublist.subset (h.assigned d' c e deferred before)
  cases move with
  | stay => exact old there
  | turn turn =>
      cases turn with
      | fail top => exact old ((List.mem_cons.1 there).resolve_left (by simp))
      | @assign F c' deferred' e' queue top head =>
          rcases List.mem_cons.1 there with new | before
          · -- the connection was in hand
            cases new
            have inHand := h.placed c
            rw [places, top, count_hands_serve, List.count_singleton_self] at inHand
            exact List.count_pos_iff.1 (by dsimp only; omega)
          · exact old before
      | _ => exact old there
  | start ready start =>
      cases start with
      | accept room => exact old ((List.mem_cons.1 there).resolve_left (by simp))
      | spare error => exact old ((List.mem_cons.1 there).resolve_left (by simp))
      | _ => exact old there

end Site

namespace Client

variable {allowed : Client → Operation → Prop} {w w' : Client} {d : DestinationId}

/-- Every connection that took an exchange was delivered to the destination. -/
theorem Reached.delivered_of_assigned (run : Reached allowed w) {c : ConnectionId} {e : Exchange}
    {deferred : Bool} (took : .assigned d c e deferred ∈ w.history) :
    c ∈ delivered (w.attemptsOf d) := by
  obtain ⟨D, here⟩ : ∃ D, w.destinations[d]? = some D :=
    ⟨_, List.getElem?_eq_getElem (run.scoped.events _ took d rfl)⟩
  have supplied : (w.site d D).Supplied := by
    refine run.site (I := fun _ s => s.Supplied) False.elim False.elim (fun a l => ?_)
      (fun h move => h.move move) here
    exact ⟨fun _ => Nat.le_refl _, fun _ _ _ _ there => absurd there List.not_mem_nil⟩
  refine supplied.assigned d c e deferred (List.mem_filter.2 ⟨took, ?_⟩)
  exact Event.isAt_iff.2 rfl

/-- An exchange that a connection took was accepted there. -/
theorem mem_assignments {history : List Event} {c : ConnectionId} {e : Exchange} :
    (c, e) ∈ assignments history ↔ ∃ d deferred, .assigned d c e deferred ∈ history := by
  refine List.mem_filterMap.trans ⟨?_, fun ⟨d, deferred, there⟩ => ⟨_, there, rfl⟩⟩
  rintro ⟨ev, hev, same⟩
  cases ev with
  | assigned d c' e' deferred =>
      cases same
      exact ⟨d, deferred, hev⟩
  | _ => cases same

theorem mem_takers {e : Exchange} {c : ConnectionId} {ps : List Pairing} :
    c ∈ takers e ps ↔ (c, e) ∈ ps := by
  refine List.mem_filterMap.trans ⟨?_, fun there => ⟨_, there, if_pos rfl⟩⟩
  rintro ⟨⟨c', e'⟩, there, same⟩
  dsimp only at same
  split at same
  · next own =>
      cases own
      cases same
      exact there
  · cases same

/-- An exchange has as many takers as it is paired. -/
theorem count_map_snd (e : Exchange) (ps : List Pairing) :
    (ps.map (·.2)).count e = (takers e ps).length := by
  induction ps with
  | nil => rfl
  | cons p ps ih =>
      by_cases own : p.2 = e
      · have one : takers e (p :: ps) = p.1 :: takers e ps := List.filterMap_cons_some (if_pos own)
        rw [one, List.map_cons, own, List.count_cons_self, ih, List.length_cons]
      · have away : takers e (p :: ps) = takers e ps := List.filterMap_cons_none (if_neg own)
        rw [away, List.map_cons, List.count_cons_of_ne own, ih]

theorem mem_causes {e : Exchange} {cause : Cause} {history : List Event} :
    cause ∈ causes e history ↔ ∃ d, .failed d e cause ∈ history := by
  refine List.mem_filterMap.trans ⟨?_, fun ⟨d, there⟩ => ⟨_, there, if_pos rfl⟩⟩
  rintro ⟨ev, there, same⟩
  cases ev with
  | failed d e' cause' =>
      rw [Event.cause?] at same
      split at same
      · next own =>
          cases own
          cases same
          exact ⟨d, there⟩
      · cases same
  | _ => cases same

/-- What was handed over is what was decided to be. -/
theorem Reached.mem_assignments_of_handed (run : Reached allowed w) {p : Pairing}
    (handed : p ∈ handovers (made w.history)) : p ∈ assignments w.history :=
  run.handed.mem_iff.2 (List.mem_append_left _ handed)

/-- Between two outermost steps, an exchange that was handed over was so once, and the client has
told its listener nothing. -/
theorem Reached.handed_once (run : Reached Steady w) (quiet : w.agenda = []) {c : ConnectionId}
    {e : Exchange} (handed : (c, e) ∈ handovers (made w.history)) :
    takers e (handovers (made w.history)) = [c] ∧ (made w.history).filter (·.tells e) = [] := by
  obtain ⟨d, deferred, took⟩ := mem_assignments.1 (run.mem_assignments_of_handed handed)
  have accepts := run.accepted_of_event took rfl (Or.inl rfl)
  have unconcerned : ∀ f ∈ w.agenda, f.concerns e = false := quiet ▸ List.forall_mem_nil _
  have here := List.getElem?_eq_getElem (run.scoped.events _ took d rfl)
  have total := run.count_fates here accepts
  obtain ⟨-, -, told⟩ := run.traces_of_unconcerned unconcerned here accepts
  have taken : c ∈ takers e (handovers (made w.history)) := mem_takers.2 handed
  have some := List.length_pos_of_mem taken
  have matched : (takers e (assignments w.history)).length = (takers e _).length :=
    (run.handed.filterMap _).length_eq
  rw [takers_append, List.length_append] at matched
  constructor
  · obtain ⟨c', only⟩ := List.length_eq_one_iff.1
      (show (takers e (handovers (made w.history))).length = 1 from by
        change _ = (takers e (handovers (made w.history))).length + _ at matched
        omega)
    rw [only] at taken ⊢
    rw [List.mem_singleton.1 taken]
  · have unfailed : causes e w.history = [] := by
      refine List.eq_nil_of_length_eq_zero ?_
      change _ = (takers e (handovers (made w.history))).length + _ at matched
      omega
    rw [unfailed] at told
    exact told

/-- No exchange is taken twice. -/
theorem Reached.taken_once (run : Reached Steady w) (e : Exchange) :
    (takers e (assignments w.history)).length ≤ 1 := by
  cases taken : takers e (assignments w.history) with
  | nil => exact Nat.zero_le 1
  | cons c rest =>
      have listed : c ∈ takers e (assignments w.history) := taken ▸ List.mem_cons_self
      obtain ⟨d, deferred, took⟩ := mem_assignments.1 (mem_takers.1 listed)
      have accepts := run.accepted_of_event took rfl (Or.inl rfl)
      have here := List.getElem?_eq_getElem (run.scoped.events _ took d rfl)
      have total := run.count_fates here accepts
      rw [taken] at total
      omega

theorem Reached.taken_apart (run : Reached Steady w) :
    ((assignments w.history).map (·.2)).Nodup := by
  refine List.nodup_iff_count.2 fun e => ?_
  rw [count_map_snd]
  exact run.taken_once e

/-! ## Calls are made by turns that make calls -/

theorem history_locate (w : Client) (a : Address) : (w.locate a).2.history = w.history := by
  simp only [locate]
  split <;> rfl

theorem Turned.made {f : Frame} (turn : Turned f w w') (uncalled : ∀ c, f ≠ .call c) :
    made w'.history = made w.history := by
  cases turn with
  | call c => exact absurd rfl (uncalled c)
  | finish op => exact made_other rfl _
  | fail d e cause => cases cause <;> exact made_other rfl _
  | assign here head unmarked | assignDeferred here head unmarked => exact made_other rfl _
  | parkIdle here empty room runs | parkStopped here empty room stopped =>
      exact congrArg ConnectionPool.made (history_glance w)
  | _ => rfl

theorem Sent.made {dest : Destination} {r : Request} {l : ListenerId} {reply : Reply}
    (sent : Sent d dest r l w reply w') : made w'.history = made w.history := by
  have drawn : ConnectionPool.made w.glance.drawTicket.glance.history =
      ConnectionPool.made w.history :=
    congrArg _ ((history_glance _).trans (history_glance w))
  cases sent with
  | mismatched error => rfl
  | stopped meant stopped | full meant runs full => exact congrArg _ (history_glance w)
  | takenBack meant runs room stops taken => exact drawn
  | accepted meant runs room stillRuns => exact (made_other rfl _).trans drawn

theorem Started.made {op : Operation} {reply : Reply} (start : Started op w reply w') :
    made w'.history = made w.history := by
  have glanced := congrArg ConnectionPool.made (history_glance w)
  have located (a : Address) : ConnectionPool.made (w.glance.locate a).2.history =
      ConnectionPool.made w.history :=
    congrArg _ ((history_locate _ a).trans (history_glance w))
  cases start with
  | send here sent => exact sent.made
  | submit runs meets here sent => exact sent.made.trans (located _)
  | submitAdrift runs meets missing => exact located _
  | locate meets => exact congrArg _ (history_locate w _)
  | submitStopped stopped | submitUnsupported runs nowhere | releaseStopped here stopped
  | releaseStray here runs nothing | release here runs taken => exact glanced
  | spare held work here empty => exact made_other rfl _
  | _ => rfl

theorem made_invoke (op : Operation) : made (w.invoke op).2.history = made w.history :=
  (made_other rfl _).trans (started_start op (w.push [.finish op])).made

end Client

end ConnectionPool
