import Mathlib.Logic.ExistsUnique
import ConnectionPool.Proofs.Client.Driven
import ConnectionPool.Proofs.Exchange.Acceptance
import ConnectionPool.Proofs.Exchange.Handover
import ConnectionPool.Proofs.Exchange.Whereabouts

/-!
# The fate of an exchange

An exchange that a destination accepted waits there, was handed to a connection, or has failed
(`Fate`). What can be seen of it is how often it is queued, to which connections it was handed, and
what its listener was told (`Client.traces`). Main statement: between two outermost steps every
exchange whose sending was answered by `done` has exactly one fate, and its traces are those of that
fate and no others (`Client.Reached.exactly_one_fate`). A run that is not steady can leave an
exchange without a fate (`Client.narrowTwice_no_fate`).
-/

set_option autoImplicit false

namespace ConnectionPool

/-- What becomes of an accepted exchange. -/
inductive Fate where
  | waiting
  | handed (c : ConnectionId)
  | failed (cause : Cause)
deriving DecidableEq, Repr

/-- What can be seen of an exchange: how often it is queued, the connections it was handed to or
will be handed to by a task, and what its listener was told, in order. -/
structure Traces where
  queued : Nat
  handed : List ConnectionId
  told : List Call
deriving DecidableEq

/-- What can be seen of an exchange that has met this fate. -/
def Fate.traces (e : Exchange) : Fate → Traces
  | waiting => ⟨1, [], []⟩
  | handed c => ⟨0, [c], []⟩
  | failed cause => ⟨0, [], cause.notices e⟩

/-- The failure of the response tells causes apart. -/
theorem Cause.responseFailure_injective : Function.Injective Cause.responseFailure := by
  intro x y same
  cases x with
  | aborted reason =>
      cases y with
      | aborted reason' => exact congrArg Cause.aborted (ExchangeFailure.responseAborted.inj same)
      | unconnected error => cases same
      | closed => cases same
  | unconnected error =>
      cases y with
      | aborted reason => cases same
      | unconnected error' =>
          exact congrArg Cause.unconnected (ExchangeFailure.connectionFailed.inj same)
      | closed => cases same
  | closed =>
      cases y with
      | aborted reason => cases same
      | unconnected error => cases same
      | closed => rfl

/-- Different fates can be told apart by their traces. -/
theorem Fate.traces_injective (e : Exchange) : Function.Injective (Fate.traces e) := by
  intro x y same
  obtain ⟨queued, handed, told⟩ := Traces.mk.inj same
  cases x with
  | waiting =>
      cases y with
      | waiting => rfl
      | handed c => cases queued
      | failed cause => cases queued
  | handed c =>
      cases y with
      | waiting => cases queued
      | handed c' => exact congrArg Fate.handed (List.cons.inj handed).1
      | failed cause => cases handed
  | failed cause =>
      cases y with
      | waiting => cases queued
      | handed c => cases handed
      | failed cause' =>
          have failures := Call.responseFailed.inj (List.cons.inj told).1
          exact congrArg Fate.failed (Cause.responseFailure_injective failures.2)

/-- The frame is going to fail the exchange, to hand it over or to tell of it. -/
def Frame.concerns (e : Exchange) : Frame → Bool
  | .fail _ e' _ => e' == e
  | .call c => c.exchange? == some e
  | _ => false

/-- The connections among these pairings that take an exchange. -/
def takers (e : Exchange) (ps : List Pairing) : List ConnectionId :=
  ps.filterMap fun p => if p.2 = e then some p.1 else none

theorem takers_append (e : Exchange) (ps qs : List Pairing) :
    takers e (ps ++ qs) = takers e ps ++ takers e qs := List.filterMap_append

/-! ## Counting at one destination

What is counted of the whole history and what is counted at one destination are both numbers of
events, so they are compared event by event. -/

/-- An exchange was accepted at a destination as often as the events there say. -/
theorem count_accepted_here (d : DestinationId) (e : Exchange) (history : List Event) :
    (accepted (history.filter (·.isAt d))).count e = (acceptances history).count (d, e) := by
  rw [accepted, acceptances, List.count_filterMap, List.count_filterMap, List.countP_filter]
  apply List.countP_congr
  intro ev _
  cases ev with
  | accepted d' e' =>
      simp [Event.accepted?, Event.acceptance?, Event.destination?, and_comm]
  | _ => simp [Event.accepted?, Event.acceptance?]

/-- If connections take an exchange only at one destination, its takers are counted there. -/
theorem length_takers {d : DestinationId} {e : Exchange} {history : List Event}
    (only : ∀ ev ∈ history, ev.taken? = some e → ev.isAt d = true) :
    (takers e (assignments history)).length = (taken (history.filter (·.isAt d))).count e := by
  rw [takers, assignments, taken, List.filterMap_filterMap, List.length_filterMap_eq_countP,
    List.count_filterMap, List.countP_filter]
  apply List.countP_congr
  intro ev hev
  have here := only ev hev
  cases ev with
  | assigned d' c e' deferred =>
      by_cases same : e' = e
      · subst same
        simpa [Event.assignment?, Event.taken?] using here
      · simp [Event.assignment?, Event.taken?, same]
  | _ => simp [Event.assignment?, Event.taken?]

/-- If an exchange fails only at one destination, its failures are counted there. -/
theorem length_causes {d : DestinationId} {e : Exchange} {history : List Event}
    (only : ∀ ev ∈ history, ev.failed? = some e → ev.isAt d = true) :
    (causes e history).length = (failed (history.filter (·.isAt d))).count e := by
  rw [causes, failed, List.length_filterMap_eq_countP, List.count_filterMap, List.countP_filter]
  apply List.countP_congr
  intro ev hev
  have here := only ev hev
  cases ev with
  | failed d' e' cause =>
      by_cases same : e' = e
      · subst same
        simpa [Event.cause?, Event.failed?] using here
      · simp [Event.cause?, Event.failed?, same]
  | _ => simp [Event.cause?, Event.failed?]

namespace Client

/-- What can be seen of an exchange at a destination. -/
def traces (w : Client) (d : DestinationId) (e : Exchange) : Traces where
  queued := (w.destinations[d]?.map (·.queue.items.count e)).getD 0
  handed := takers e (handovers (made w.history) ++ deferred w.tasks)
  told := (made w.history).filter (·.tells e)

variable {w : Client} {d : DestinationId} {e : Exchange}

/-- What waits at a destination, is about to fail there, was taken there or has failed there was
accepted there. -/
theorem Reached.accepted_of_count (run : Reached Steady w) {D : Destination}
    (here : w.destinations[d]? = some D)
    (counted : 0 < D.queue.items.count e + (failing (w.framesAt d)).count e +
      (taken (w.eventsAt d)).count e + (failed (w.eventsAt d)).count e) :
    .accepted d e ∈ w.history := by
  have balance : (accepted (w.eventsAt d)).count e = _ := run.balanced here e
  have there : 0 < (accepted (w.eventsAt d)).count e := by
    rw [balance]
    exact counted
  obtain ⟨ev, hev, accepts⟩ := List.mem_filterMap.1 (List.count_pos_iff.1 there)
  obtain ⟨old, about⟩ := List.mem_filter.1 hev
  cases ev with
  | accepted d' e' =>
      cases accepts
      cases Event.isAt_iff.1 about
      exact old
  | _ => cases accepts

/-- The destination of an event at which something happened to an exchange has accepted it. -/
theorem Reached.accepted_of_event (run : Reached Steady w) {ev : Event} (happened : ev ∈ w.history)
    (about : ev.destination? = some d) (dealt : ev.taken? = some e ∨ ev.failed? = some e) :
    .accepted d e ∈ w.history := by
  apply run.accepted_of_count (List.getElem?_eq_getElem (run.scoped.events ev happened d about))
  have there : ev ∈ w.eventsAt d := List.mem_filter.2 ⟨happened, Event.isAt_iff.2 about⟩
  rcases dealt with took | fails
  · have counted := List.count_pos_iff.2 (List.mem_filterMap.2 ⟨ev, there, took⟩)
    simp only [taken]
    omega
  · have counted := List.count_pos_iff.2 (List.mem_filterMap.2 ⟨ev, there, fails⟩)
    simp only [failed]
    omega

/-- An exchange is dealt with where it was accepted, and nowhere else. -/
theorem Reached.isAt_of_dealt (run : Reached Steady w) (accepts : .accepted d e ∈ w.history)
    {ev : Event} (happened : ev ∈ w.history) {d' : DestinationId}
    (about : ev.destination? = some d') (dealt : ev.taken? = some e ∨ ev.failed? = some e) :
    ev.isAt d = true := by
  have there := run.accepted_of_event happened about dealt
  rw [Event.isAt_iff, about, run.ticketed.unique there accepts]

theorem Reached.length_takers (run : Reached Steady w) (accepts : .accepted d e ∈ w.history) :
    (takers e (assignments w.history)).length = (taken (w.eventsAt d)).count e := by
  apply ConnectionPool.length_takers
  intro ev hev took
  cases ev with
  | assigned d' c e' deferred => exact run.isAt_of_dealt accepts hev rfl (Or.inl took)
  | _ => cases took

/-- An accepted exchange waits, is about to fail, was taken or has failed, once in all. -/
theorem Reached.count_fates (run : Reached Steady w) {D : Destination}
    (here : w.destinations[d]? = some D) (accepts : .accepted d e ∈ w.history) :
    D.queue.items.count e + (failing (w.framesAt d)).count e +
      (takers e (assignments w.history)).length + (causes e w.history).length = 1 := by
  have balance : _ = _ + (failing (w.framesAt d)).count e + _ + _ := run.balanced here e
  have failedHere : (causes e w.history).length = (failed (w.eventsAt d)).count e := by
    apply length_causes
    intro ev hev fails
    cases ev with
    | failed d' e' cause => exact run.isAt_of_dealt accepts hev rfl (Or.inr fails)
    | _ => cases fails
  have once := (count_accepted_here d e w.history).trans (run.ticketed.count_eq_one accepts)
  rw [run.length_takers accepts, failedHere]
  exact balance.symm.trans once

/-- While no frame concerns an accepted exchange, it was handed over as often as it was taken, and
its listener was told of its failures. -/
theorem Reached.traces_of_unconcerned (run : Reached Steady w)
    (unconcerned : ∀ f ∈ w.agenda, f.concerns e = false) {D : Destination}
    (here : w.destinations[d]? = some D) (accepts : .accepted d e ∈ w.history) :
    (w.traces d e).queued = D.queue.items.count e ∧
      (w.traces d e).handed.length = (takers e (assignments w.history)).length ∧
      (w.traces d e).told = (causes e w.history).flatMap (Cause.notices e) := by
  have total := run.count_fates here accepts
  have others {c : Call} (calls : c ∈ callsOf w.agenda) : c.exchange? ≠ some e := by
    simpa [Frame.concerns] using unconcerned _ (mem_callsOf.1 calls)
  refine ⟨?_, ?_, ?_⟩
  · rw [traces, here]
    rfl
  · -- no call is to be made, so what was taken was handed over by a call or is left to a task
    have matched : List.Perm (assignments w.history)
        (handovers (made w.history) ++ (handovers (callsOf w.agenda) ++ deferred w.tasks)) :=
      run.handed
    have pending : takers e (handovers (callsOf w.agenda)) = [] := by
      refine List.filterMap_eq_nil_iff.2 fun p hp => ?_
      obtain ⟨call, calls, hands⟩ := List.mem_filterMap.1 hp
      cases call with
      | send c e' =>
          cases hands
          exact if_neg fun same => others calls (congrArg some same)
      | _ => cases hands
    have lengths : (takers e (assignments w.history)).length = (takers e (handovers
        (made w.history) ++ (handovers (callsOf w.agenda) ++ deferred w.tasks))).length :=
      (matched.filterMap _).length_eq
    rw [takers_append, takers_append, pending, List.nil_append, ← takers_append] at lengths
    exact lengths.symm
  · have told : _ ++ (callsOf w.agenda).filter (·.tells e) = _ :=
      run.told e (show (causes e w.history).length ≤ 1 by omega)
    have silent : (callsOf w.agenda).filter (·.tells e) = [] := by
      refine List.filter_eq_nil_iff.2 fun c calls tells => others calls ?_
      cases c with
      | responseFailed e' f => exact congrArg some (eq_of_beq tells)
      | completed e' result => exact congrArg some (eq_of_beq tells)
      | _ => cases tells
    rw [silent, List.append_nil] at told
    exact told

theorem count_failing_of_unconcerned (unconcerned : ∀ f ∈ w.agenda, f.concerns e = false) :
    (failing (w.framesAt d)).count e = 0 := by
  refine List.count_eq_zero_of_not_mem fun fails => ?_
  obtain ⟨f, hf, about⟩ := List.mem_filterMap.1 fails
  have other := unconcerned f (List.mem_filter.1 hf).1
  cases f with
  | fail d' e' cause =>
      cases about
      simp [Frame.concerns] at other
  | _ => cases about

/-- An exchange that waits was accepted, no connection took it, and it has not failed. -/
theorem Reached.untouched_of_queued (run : Reached Steady w) {D : Destination}
    (here : w.destinations[d]? = some D) (waits : e ∈ D.queue.items) :
    .accepted d e ∈ w.history ∧ takers e (assignments w.history) = [] ∧
      causes e w.history = [] := by
  have queued := List.count_pos_iff.2 waits
  have accepts : .accepted d e ∈ w.history := run.accepted_of_count here (by omega)
  have total := run.count_fates here accepts
  exact ⟨accepts, List.eq_nil_of_length_eq_zero (by omega),
    List.eq_nil_of_length_eq_zero (by omega)⟩

/-- No call is to be made about an exchange that no connection took and that has not failed. -/
theorem Reached.not_called (run : Reached Steady w)
    (untaken : takers e (assignments w.history) = []) (unfailed : causes e w.history = [])
    {c : Call} (calls : c ∈ callsOf w.agenda) : c.exchange? ≠ some e := by
  intro about
  have told : _ ++ (callsOf w.agenda).filter (·.tells e) = (causes e w.history).flatMap _ :=
    run.told e (show (causes e w.history).length ≤ 1 by simp [unfailed])
  rw [unfailed] at told
  have silent := List.filter_eq_nil_iff.1 (List.append_eq_nil_iff.1 told).2 c calls
  cases c with
  | send c e' =>
      cases about
      have pending : (c, e) ∈ handovers (callsOf w.agenda) :=
        List.mem_filterMap.2 ⟨_, calls, rfl⟩
      have assigned : (c, e) ∈ assignments w.history :=
        run.handed.mem_iff.2 (List.mem_append_right _ (List.mem_append_left _ pending))
      exact absurd (List.mem_filterMap.2 ⟨_, assigned, if_pos rfl⟩) (untaken ▸ List.not_mem_nil)
  | responseFailed e' failure =>
      cases about
      exact silent (beq_self_eq_true e)
  | completed e' result =>
      cases about
      exact silent (beq_self_eq_true e)
  | _ => cases about

/-- No frame concerns an exchange that waits. -/
theorem Reached.unconcerned_of_queued (run : Reached Steady w) {D : Destination}
    (here : w.destinations[d]? = some D) (waits : e ∈ D.queue.items) :
    ∀ f ∈ w.agenda, f.concerns e = false := by
  obtain ⟨accepts, untaken, unfailed⟩ := run.untouched_of_queued here waits
  intro f hf
  refine Bool.eq_false_iff.2 fun concerned => ?_
  cases f with
  | fail d' e' cause =>
      cases eq_of_beq concerned
      -- it would be about to fail where it was accepted
      have there : Frame.fail d' e cause ∈ w.framesAt d' :=
        List.mem_filter.2 ⟨hf, by simp [Frame.destination?]⟩
      have fails : 0 < (failing (w.framesAt d')).count e :=
        List.count_pos_iff.2 (List.mem_filterMap.2 ⟨_, there, rfl⟩)
      have here' := List.getElem?_eq_getElem (run.scoped.frames _ hf d' rfl)
      have accepts' : .accepted d' e ∈ w.history := run.accepted_of_count here' (by omega)
      cases run.ticketed.unique accepts accepts'
      have queued := List.count_pos_iff.2 waits
      have total := run.count_fates here accepts
      omega
  | call c => exact run.not_called untaken unfailed (mem_callsOf.2 hf) (eq_of_beq concerned)
  | _ => cases concerned

/-- An accepted exchange that no frame concerns shows the traces of some fate. -/
theorem Reached.some_fate (run : Reached Steady w)
    (unconcerned : ∀ f ∈ w.agenda, f.concerns e = false) (accepts : .accepted d e ∈ w.history) :
    ∃ fate : Fate, w.traces d e = fate.traces e := by
  have here := List.getElem?_eq_getElem (run.scoped.events _ accepts d rfl)
  have total := run.count_fates here accepts
  rw [count_failing_of_unconcerned unconcerned] at total
  obtain ⟨queued, handed, told⟩ := run.traces_of_unconcerned unconcerned here accepts
  rcases seen : w.traces d e with ⟨q, h, t⟩
  rw [seen] at queued handed told
  dsimp only at queued handed told
  rcases Nat.eq_zero_or_pos (causes e w.history).length with unfailed | failed
  · -- it has not failed, so its listener was told nothing
    have none := List.eq_nil_of_length_eq_zero unfailed
    rw [none] at told
    rcases Nat.eq_zero_or_pos (takers e (assignments w.history)).length with untaken | taken
    · have noHands : h = [] := List.eq_nil_of_length_eq_zero (handed.trans untaken)
      have once : q = 1 := by omega
      exact ⟨.waiting, by rw [once, noHands, told]; rfl⟩
    · obtain ⟨c, only⟩ := List.length_eq_one_iff.1 (show h.length = 1 by omega)
      have unqueued : q = 0 := by omega
      exact ⟨.handed c, by rw [unqueued, only, told]; rfl⟩
  · -- it has failed once, so it neither waits nor was it taken
    obtain ⟨cause, only⟩ := List.length_eq_one_iff.1 (show (causes e w.history).length = 1 by omega)
    have noHands : h = [] := List.eq_nil_of_length_eq_zero (by omega)
    have unqueued : q = 0 := by omega
    rw [only, List.flatMap_singleton] at told
    exact ⟨.failed cause, by rw [unqueued, noHands, told]; rfl⟩

/-- An accepted exchange that no frame concerns has failed if it does not wait and no connection
took it. -/
theorem Reached.failed_of_untaken (run : Reached Steady w)
    (unconcerned : ∀ f ∈ w.agenda, f.concerns e = false) (accepts : .accepted d e ∈ w.history)
    {D : Destination} (here : w.destinations[d]? = some D) (unqueued : e ∉ D.queue.items)
    (untaken : takers e (assignments w.history) = []) :
    ∃ cause, w.traces d e = (Fate.failed cause).traces e := by
  obtain ⟨fate, seen⟩ := run.some_fate unconcerned accepts
  obtain ⟨queued, handed, -⟩ := run.traces_of_unconcerned unconcerned here accepts
  rw [seen, List.count_eq_zero.2 unqueued] at queued
  rw [seen, untaken] at handed
  cases fate with
  | waiting => cases queued
  | handed c => cases handed
  | failed cause => exact ⟨cause, seen⟩

/-- Between two outermost steps, every exchange whose sending was answered by `done` has been
accepted at a destination, and it has exactly one fate there: it waits in the queue, once, and
neither was it handed over nor was its listener told anything; or it was handed to one connection,
once, by a call or by a task that is still held, and its listener was told nothing; or it has failed
and its listener was told so, once, first of the failure and then of the result. A run in which
every check of the running flag sees the flag is steady (`Reached.steady`). -/
theorem Reached.exactly_one_fate (run : Reached Steady w) (quiet : w.agenda = [])
    {op : Operation} {later earlier : List Event} (asks : op.asks = true)
    (sent : w.history = later ++ .invoked op .done :: earlier) :
    ∃ d e before, op.Asks d e ∧ earlier = .accepted d e :: before ∧
      ∃! fate : Fate, w.traces d e = fate.traces e := by
  obtain ⟨d, e, before, asked, rfl⟩ := run.answered later op earlier sent asks
  have accepts : .accepted d e ∈ w.history := by
    rw [sent]
    exact List.mem_append_right _ (List.mem_cons_of_mem _ List.mem_cons_self)
  obtain ⟨fate, seen⟩ := run.some_fate (quiet ▸ List.forall_mem_nil _) accepts
  refine ⟨d, e, before, asked, rfl, fate, seen, fun other seen' => ?_⟩
  exact Fate.traces_injective e (seen'.symm.trans seen)

/-- The narrow client after the request that waited was given up. -/
def narrowAborted : Client := (narrowBusy.invoke (.abort 0 1 "gone")).2.settle

/-- The request that was given up has one fate. -/
theorem narrowAborted_fate : ∃ d e before, (Operation.send 0 (narrowRequest 1) 0).Asks d e ∧
    narrowAborted.history.drop 11 = .accepted d e :: before ∧
    ∃! fate : Fate, narrowAborted.traces d e = fate.traces e := by
  have busy : Reached Unforeseen narrowBusy :=
    reached_narrowBusy (fun _ _ _ _ _ => nofun) (fun _ _ _ _ => nofun)
  have run : Reached Unforeseen narrowAborted :=
    (busy.invoke (.abort 0 1 "gone") (by decide) (fun _ => nofun)).settle
  have sent : narrowAborted.history = narrowAborted.history.take 10 ++
      .invoked (.send 0 (narrowRequest 1) 0) .done :: narrowAborted.history.drop 11 := by decide
  exact run.steady.exactly_one_fate (by decide) rfl sent

/-- The narrow client after the request that waits was sent once more, where the client stopped
between the two checks of that sending. This run is not steady. -/
def narrowTwice : Client :=
  let w := (narrow.invoke (.send 0 (narrowRequest 0) 0)).2.settle
  let w := (w.invoke (.send 0 (narrowRequest 1) 0)).2.settle
  let w := (w.invoke (.foresee [true, false])).2.settle
  (w.invoke (.send 0 (narrowRequest 1) 1)).2.settle

/-- Where a run is not steady, an accepted exchange can be left without a fate: it is taken back in
place of a later exchange for the same request. -/
theorem narrowTwice_no_fate : .accepted 0 ⟨1, narrowRequest 1, 0⟩ ∈ narrowTwice.history ∧
    ∀ fate : Fate, narrowTwice.traces 0 ⟨1, narrowRequest 1, 0⟩ ≠
      fate.traces ⟨1, narrowRequest 1, 0⟩ := by
  have lost : narrowTwice.traces 0 ⟨1, narrowRequest 1, 0⟩ = ⟨0, [], []⟩ := by decide
  refine ⟨by decide, fun fate => ?_⟩
  rw [lost]
  cases fate with
  | waiting => simp [Fate.traces]
  | handed c => simp [Fate.traces]
  | failed cause => simp [Fate.traces, Cause.notices]

end Client

end ConnectionPool
