import ConnectionPool.Proofs.Destination.Forgotten
import ConnectionPool.Proofs.Loopback.Hearing
import ConnectionPool.Proofs.Loopback.Settling

/-!
# Every exchange ends through a shutdown

A script may stop and start the client as it likes, and let time pass or let jobs wait while
connections are made and exchanges are on their way. Main statement: if it ends with a stop, then
from there on every order of jobs and moments can be continued until no job is left, and when none
is left the listener of each accepted send has heard of its end once, and the listener of a send
that was refused has heard nothing (`Simulation.Runs.concluded`).
-/

set_option autoImplicit false

namespace ConnectionPool

namespace Loopback

open Notifier (Notice)

/-- What a listener has heard, in order. -/
def Transport.heardBy (t : Transport) (l : ListenerId) : List Notice :=
  t.notes.reverse.filterMap fun n =>
    if n.exchange.map (·.listener) = some l then some n.notice else none

/-- A listener that was told of one exchange only has heard what was told of that one. -/
theorem heardBy_eq {t : Transport} {e : Exchange}
    (only : ∀ n ∈ t.notes, ∀ e', n.exchange = some e' → e'.listener = e.listener → e' = e) :
    t.heardBy e.listener = t.heard e := by
  refine List.filterMap_congr fun n noted => ?_
  cases about : n.exchange with
  | none => rfl
  | some e' =>
      have own := only n (List.mem_reverse.1 noted) e' about
      by_cases same : e' = e
      · rw [same]
        exact (if_pos rfl).trans (if_pos rfl).symm
      · rw [if_neg (by simpa using fun l => same (own l)), if_neg (by simpa using same)]

theorem heardBy_nil {t : Transport} {l : ListenerId}
    (none : ∀ n ∈ t.notes, ∀ e, n.exchange = some e → e.listener ≠ l) : t.heardBy l = [] := by
  refine List.filterMap_eq_nil_iff.2 fun n noted => if_neg fun about => ?_
  obtain ⟨e, about, own⟩ := Option.map_eq_some_iff.1 about
  exact none n (List.mem_reverse.1 noted) e about own

theorem heard_ne_nil {t : Transport} {n : Note} (noted : n ∈ t.notes) {e : Exchange}
    (about : n.exchange = some e) : t.heard e ≠ [] := by
  have there : n.notice ∈ t.heard e :=
    List.mem_filterMap.2 ⟨n, List.mem_reverse.2 noted, if_pos about⟩
  exact List.ne_nil_of_mem there

/-- An exchange that ended has one result, and before it one failure if the result is one. -/
theorem Ending.result {e : Exchange} {ns : List Notice} (ending : Ending e ns) :
    ∃ result : ExchangeResult, ns = [.complete result] ∧ result.isFailed = false ∨
      (∃ f, ns = [.responseFailure e.request f, .complete result]) ∧ result.isFailed = true := by
  cases ending with
  | success => exact ⟨_, Or.inl ⟨rfl, rfl⟩⟩
  | failure cause => exact ⟨_, Or.inr ⟨⟨_, rfl⟩, rfl⟩⟩

namespace Simulation

variable {s s' : Simulation}

/-- Whoever sent a request that was accepted has heard how its exchange ended, and nobody has heard
anything else. -/
structure Concluded (s : Simulation) : Prop where
  /-- The exchange that an accepted send has queued has ended. -/
  ended : ∀ later r l earlier, s.client.history = later ++ .invoked (.submit r l) .done :: earlier →
    ∃ d ticket before, earlier = .accepted d ⟨ticket, r, l⟩ :: before ∧
      Ending ⟨ticket, r, l⟩ (s.transport.heard ⟨ticket, r, l⟩)
  /-- A listener that was given with one accepted send has heard one result, and if that is a
  failure, the failure once before. -/
  once : ∀ r l, (sends s.client.history).filter (·.2 == l) = [(r, l)] →
    ∃ result : ExchangeResult,
      s.transport.heardBy l = [.complete result] ∧ result.isFailed = false ∨
      (∃ f, s.transport.heardBy l = [.responseFailure r f, .complete result]) ∧
        result.isFailed = true
  /-- A listener that was given with no accepted send has heard nothing. -/
  silent : ∀ l, (sends s.client.history).filter (·.2 == l) = [] → s.transport.heardBy l = []

/-- The accepted sends of a listener are those of the exchanges that are to be reported to it. -/
theorem Reached.sends_of (run : Reached Scripted s) (l : ListenerId) :
    (sends s.client.history).filter (·.2 == l) =
      ((acceptances s.client.history).filter (·.2.listener == l)).map
        fun x => (x.2.request, x.2.listener) := by
  rw [run.client.sends_eq, List.filter_map]
  rfl

theorem Reached.accepted_of_note (run : Reached Scripted s) {n : Note}
    (noted : n ∈ s.transport.notes) {e : Exchange} (about : n.exchange = some e) :
    ∃ d, (d, e) ∈ (acceptances s.client.history).filter (·.2.listener == e.listener) := by
  obtain ⟨d, accepts⟩ := run.accepted_of_heard (heard_ne_nil noted about)
  exact ⟨d, List.mem_filter.2 ⟨mem_acceptances.2 accepts, beq_self_eq_true e.listener⟩⟩

/-- When every job is done and no exchange waits, all exchanges are concluded. -/
theorem Reached.concluded_at_rest (run : Reached Scripted s) (settled : s.Settled)
    (empty : ∀ (d : DestinationId) (D : Destination), s.client.destinations[d]? = some D →
      D.queue.items = []) : s.Concluded := by
  have ending {d : DestinationId} {e : Exchange} (accepts : .accepted d e ∈ s.client.history) :
      Ending e (s.transport.heard e) := by
    have here := List.getElem?_eq_getElem (run.client.scoped.events _ accepts d rfl)
    refine run.ending_at_rest settled accepts here ?_
    rw [empty d _ here]
    exact List.not_mem_nil
  constructor
  case ended =>
    intro later r l earlier split
    -- the exchange was accepted right before its send was answered
    obtain ⟨d, e, before, asks, rfl⟩ := run.client.answered later _ earlier split rfl
    cases asks with
    | submit d ticket r l =>
        have accepts : .accepted d ⟨ticket, r, l⟩ ∈ s.client.history := by
          rw [split]
          exact List.mem_append_right _ (List.mem_cons_of_mem _ List.mem_cons_self)
        exact ⟨d, ticket, before, rfl, ending accepts⟩
  case once =>
    intro r l only
    rw [run.sends_of] at only
    obtain ⟨⟨d, e⟩, own, same⟩ := List.map_eq_singleton_iff.1 only
    cases same
    have accepts : (d, e) ∈ (acceptances s.client.history).filter (·.2.listener == e.listener) := by
      rw [own]
      exact List.mem_singleton_self _
    rw [heardBy_eq fun n noted e' about l => ?_]
    · exact (ending (mem_acceptances.1 (List.mem_filter.1 accepts).1)).result
    · obtain ⟨d', accepts'⟩ := run.accepted_of_note noted about
      rw [l, own] at accepts'
      exact congrArg Prod.snd (List.mem_singleton.1 accepts')
  case silent =>
    intro l none
    rw [run.sends_of, List.map_eq_nil_iff] at none
    refine heardBy_nil fun n noted e about own => ?_
    obtain ⟨d, accepts⟩ := run.accepted_of_note noted about
    rw [own, none] at accepts
    cases accepts

/-! ## The last stop -/

/-- Nothing is asked for any more. -/
def Unattended (_ : Operation) : Prop := False

theorem scripted_of_unattended (op : Operation) (may : Unattended op) : Scripted op :=
  False.elim may

/-- After a stop no exchange waits between two steps, if the client is not started again. -/
theorem queue_empty_after_stop (run : Reached Scripted s)
    (rest : Runs Unattended (s.invoke .stop).2 s') {d : DestinationId} {D : Destination}
    (here : s'.client.destinations[d]? = some D) : D.queue.items = [] := by
  have stopped : Reached Scripted (s.invoke .stop).2 := run.step (.command trivial)
  have unforeseen : Client.Reached Client.Unforeseen s.client := run.client.mono <| by
    rintro w op (may | reports) answers rfl
    · exact may
    · cases reports
  have starts : Client.Course Client.StaysHalted (s.client.invoke .stop).2 []
    (s.client.invoke .stop).2 := .nil
  obtain ⟨first, course⟩ := starts.drive Transport.called s.transport
  obtain ⟨⟨further, after⟩, quiet⟩ := rest.course stopped.quiet
  -- nobody starts the client again, so it stays halted while the calls of the stop are answered
  have halted := course.append <| after.mono fun w op obeys => by
    have reports : op.isReport = true := obeys.resolve_left id
    show Client.StaysHalted w op
    cases op with
    | setRunning flag | foresee answers => cases reports
    | _ => trivial
  have last := (rest.mono scripted_of_unattended).reached stopped
  rcases Client.Course.forgot_or_vacant unforeseen run.waits halted d with forgot | vacant
  · refine last.client.queue_empty_of_forgot ?_ quiet forgot here
    rintro w op (may | reports) d r l rfl
    · exact may
    · cases reports
  · exact (vacant D here).1

/-- Whatever a script asked of a client that was built, if its last command is a stop, then from
there on every run can be continued until no timer and no task is left. When none is left, the
exchange of every accepted send has ended, and its listener has heard of the end once; the listeners
of other sends have heard nothing. -/
theorem Runs.concluded {b : Blueprint} {w₀ : Client} (built : b.build = .ok w₀)
    {timings : LoopbackTimings} (script : Runs Scripted (.start w₀ timings) s)
    (rest : Runs Unattended (s.invoke .stop).2 s') :
    (∃ n, (s'.runReady.advance n).Settled) ∧ (s'.Settled → s'.Concluded) := by
  obtain ⟨rfl, -, -⟩ := Blueprint.build_eq_ok built
  have run := script.reached (.start (.fresh _ _ _) timings)
  have stopped : Reached Scripted (s.invoke .stop).2 := run.step (.command trivial)
  have last := (rest.mono scripted_of_unattended).reached stopped
  exact ⟨last.settles, fun settled => last.concluded_at_rest settled fun _ _ here =>
    queue_empty_after_stop run rest here⟩

/-! ## A small shutdown -/

/-- A simulation whose destinations may have one connection and let one exchange wait. -/
def narrowStart : Simulation :=
  .start (.fresh "HttpClient" ⟨1, 1⟩ 0) { connectLatency := 2, exchangeLatency := 5 }

/-- A request is on its way and a second one waits, and a third one is refused. -/
def narrowFull : Simulation :=
  let s := (narrowStart.invoke (.submit (Client.narrowRequest 0) 0)).2.runReady.advance 3
  let s := (s.invoke (.submit (Client.narrowRequest 1) 1)).2
  (s.invoke (.submit (Client.narrowRequest 2) 2)).2

/-- The client has stopped, and every job is done. -/
def narrowShut : Simulation := (narrowFull.invoke .stop).2.runReady.advance 5

theorem narrowShut_concluded : narrowShut.Settled ∧ narrowShut.Concluded ∧
    narrowShut.transport.heardBy 0 ≠ [] ∧ narrowShut.transport.heardBy 1 ≠ [] ∧
    narrowShut.transport.heardBy 2 = [] := by
  have built : ({ limits := ⟨1, 1⟩ } : Blueprint).build = .ok (.fresh "HttpClient" ⟨1, 1⟩ 0) := rfl
  have sent : Runs Scripted narrowStart _ :=
    Runs.ask .refl (.submit (Client.narrowRequest 0) 0) trivial
  have arrived := (sent.trans (runs_runReady _ _)).trans (runs_advance _ 3 _)
  have script : Runs Scripted narrowStart narrowFull :=
    Runs.ask (Runs.ask arrived (.submit _ _) trivial) (.submit _ _) trivial
  have rest : Runs Unattended (narrowFull.invoke .stop).2 narrowShut :=
    (runs_runReady _ _).trans (runs_advance _ 5 _)
  have settled : narrowShut.Settled := ⟨by decide, by decide⟩
  exact ⟨settled, (Runs.concluded built script rest).2 settled, by decide, by decide, by decide⟩

end Simulation

end Loopback

end ConnectionPool
