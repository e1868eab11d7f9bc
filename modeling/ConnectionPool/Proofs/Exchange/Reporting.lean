import ConnectionPool.Proofs.Client.Tariff
import ConnectionPool.Proofs.Destination.Forgotten

/-!
# Who is told of a failure

An exchange that fails is concluded by a call that hands its listener the result, and the failure of
the request in that result is what the client-wide request listeners are told of, if they are told.
Both are read off the calls of a run: those that were made, and those that are still to be made.
Main statements: between two outermost steps what was concluded is what failed, one to one
(`Client.Reached.conclusions_perm_breakdowns`); and each request listener was told of every failure
that was concluded, one to one and with the same error, except for aborts, of which it is told
nothing (`Client.Reached.reports_perm_conclusions`).
-/

set_option autoImplicit false

namespace ConnectionPool

/-- A request and how it failed. -/
abbrev Breakdown := Request × ExchangeFailure

/-- What a call tells the request listener `i`. -/
def Call.report? (i : Nat) : Call → Option Breakdown
  | .requestFailed j r f => if j = i then some (r, f) else none
  | _ => none

/-- The request that a call concludes, and its failure in the result that is handed over. -/
def Call.conclusion? : Call → Option Breakdown
  | .completed e result => result.requestFailure.map fun f => (e.request, f)
  | _ => none

/-- The request that failed. -/
def Event.breakdown? : Event → Option Breakdown
  | .failed _ e cause => some (e.request, cause.requestFailure)
  | _ => none

/-- What the request listener `i` is told of by these calls. -/
def reports (i : Nat) (cs : List Call) : List Breakdown := cs.filterMap (Call.report? i)

/-- What these calls conclude. -/
def conclusions (cs : List Call) : List Breakdown := cs.filterMap Call.conclusion?

/-- What failed so far, latest first. -/
def breakdowns (history : List Event) : List Breakdown := history.filterMap Event.breakdown?

/-- What failed, except for what was given up. -/
def exceptAborts (bs : List Breakdown) : List Breakdown := bs.filter fun b => !b.2.isAbort

theorem exceptAborts_append (bs bs' : List Breakdown) :
    exceptAborts (bs ++ bs') = exceptAborts bs ++ exceptAborts bs' := List.filter_append _ _

/-- The calls tell nobody of a failure. -/
def Unalarming (cs : List Call) : Prop :=
  ∀ c ∈ cs, c.conclusion? = none ∧ ∀ i, c.report? i = none

/-- Request listeners are told of the failures that are no aborts. -/
theorem Cause.not_isAbort_requestFailure (cause : Cause) :
    (!cause.requestFailure.isAbort) = cause.reachesRequestListeners := by
  cases cause <;> rfl

theorem reports_append (i : Nat) (cs cs' : List Call) :
    reports i (cs ++ cs') = reports i cs ++ reports i cs' := List.filterMap_append

theorem conclusions_append (cs cs' : List Call) :
    conclusions (cs ++ cs') = conclusions cs ++ conclusions cs' := List.filterMap_append

theorem perm_reports (i : Nat) {cs new cs' : List Call} (more : List.Perm cs (new ++ cs')) :
    List.Perm (reports i cs) (reports i new ++ reports i cs') :=
  reports_append i new cs' ▸ more.filterMap _

theorem perm_conclusions {cs new cs' : List Call} (more : List.Perm cs (new ++ cs')) :
    List.Perm (conclusions cs) (conclusions new ++ conclusions cs') :=
  conclusions_append new cs' ▸ more.filterMap _

theorem Unalarming.conclusions {cs : List Call} (h : Unalarming cs) : conclusions cs = [] :=
  List.filterMap_eq_nil_iff.2 fun c hc => (h c hc).1

theorem Unalarming.reports {cs : List Call} (h : Unalarming cs) (i : Nat) : reports i cs = [] :=
  List.filterMap_eq_nil_iff.2 fun c hc => (h c hc).2 i

theorem breakdowns_other {ev : Event} (other : ev.breakdown? = none) (history : List Event) :
    breakdowns (ev :: history) = breakdowns history := List.filterMap_cons_none other

/-- Of the first `n` numbers, one is `i`. -/
theorem filterMap_range_eq {α : Type} {i n : Nat} (lt : i < n) (x : α) :
    ((List.range n).filterMap fun j => if j = i then some x else none) = [x] := by
  have others : ∀ m ≤ i, ((List.range m).filterMap fun j => if j = i then some x else none) = [] :=
    fun m le => List.filterMap_eq_nil_iff.2 fun j hj =>
      if_neg (Nat.ne_of_lt (Nat.lt_of_lt_of_le (List.mem_range.1 hj) le))
  -- either `i` is the last one, or it is among those before
  induction n with
  | zero => exact absurd lt (Nat.not_lt_zero i)
  | succ n ih =>
      rw [List.range_succ, List.filterMap_append]
      rcases Nat.lt_or_eq_of_le (Nat.le_of_lt_succ lt) with less | rfl
      · simp [ih less, Nat.ne_of_gt less]
      · simp [others i (Nat.le_refl i)]

/-- Of the calls that tell each of the first `n` request listeners, one is for `i`. -/
theorem reports_range {i n : Nat} (listens : i < n) (r : Request) (f : ExchangeFailure) :
    reports i ((List.range n).map fun j => .requestFailed j r f) = [(r, f)] :=
  List.filterMap_map.trans (filterMap_range_eq listens (r, f))

namespace Client

variable {allowed : Client → Operation → Prop} {w w' : Client}

/-- The listener of a failed exchange is handed one result. -/
theorem conclusions_failureCalls (w : Client) (e : Exchange) (cause : Cause) :
    conclusions (w.failureCalls e cause) = [(e.request, cause.requestFailure)] := by
  rw [failureCalls, conclusions_append]
  split
  · have silent : conclusions ((List.range w.listeners).map fun i =>
        .requestFailed i e.request cause.requestFailure) = [] := by
      apply List.filterMap_eq_nil_iff.2
      intro c hc
      obtain ⟨i, -, rfl⟩ := List.mem_map.1 hc
      rfl
    rw [silent]
    rfl
  · rfl

/-- Each request listener is told once of a failed exchange, unless it was given up. -/
theorem reports_failureCalls {i : Nat} (listens : i < w.listeners) (e : Exchange) (cause : Cause) :
    reports i (w.failureCalls e cause) = exceptAborts [(e.request, cause.requestFailure)] := by
  rw [failureCalls, reports_append, exceptAborts, List.filter_cons,
    Cause.not_isAbort_requestFailure, List.filter_nil]
  split
  · rw [reports_range listens]
    rfl
  · rfl

/-- The calls that were made and those that are still to be made. -/
def said (w : Client) : List Call := made w.history ++ callsOf w.agenda

theorem said_quiet (quiet : w.agenda = []) : w.said = made w.history := by
  rw [said, quiet]
  exact List.append_nil _

/-- A call that is made moves from those to be made to those made. -/
theorem said_called (w : Client) (c : Call) :
    ((w.record (.called c)).push [.within c]).said = (w.push [.call c]).said := by
  simp only [said, agenda_push, agenda_record]
  exact (congrArg (· ++ _) (made_called c w.history)).trans (List.append_assoc _ _ _)

/-- A frame that makes no call is not part of what is said. -/
theorem said_push {f : Frame} (silent : f.call? = none) (w : Client) :
    (w.push [f]).said = w.said := by
  rw [said, agenda_push, callsOf_append, callsOf_nil_of (by simpa using silent)]
  rfl

/-- Frames that are put on the agenda add their calls. -/
theorem said_of_agenda {fs : List Frame} (agenda : w'.agenda = fs ++ w.agenda)
    (made : made w'.history = made w.history) : List.Perm w'.said (callsOf fs ++ w.said) := by
  simp only [said]
  rw [agenda, made, callsOf_append]
  exact List.perm_append_comm_assoc _ _ _

/-- The step from `w` to `w'` tells nobody of a failure. -/
structure Unalarmed (w w' : Client) : Prop where
  calls : ∃ new, Unalarming new ∧ List.Perm w'.said (new ++ w.said)
  breakdowns : breakdowns w'.history = breakdowns w.history

theorem Unalarmed.conclusions (still : Unalarmed w w') :
    List.Perm (conclusions w'.said) (conclusions w.said) := by
  obtain ⟨new, unalarming, calls⟩ := still.calls
  have told := perm_conclusions calls
  rw [unalarming.conclusions] at told
  exact told

theorem Unalarmed.reports (still : Unalarmed w w') (i : Nat) :
    List.Perm (reports i w'.said) (reports i w.said) := by
  obtain ⟨new, unalarming, calls⟩ := still.calls
  have told := perm_reports i calls
  rw [unalarming.reports i] at told
  exact told

/-- A turn tells nobody of a failure, unless it fails an exchange; then it tells of that. -/
theorem Turned.said {f : Frame} (turn : Turned f w w') : Unalarmed (w.push [f]) w' ∨
    ∃ d e cause, f = .fail d e cause ∧
      List.Perm w'.said (w.failureCalls e cause ++ (w.push [f]).said) ∧
      breakdowns w'.history = (e.request, cause.requestFailure) :: breakdowns w.history := by
  have adds (fs : List Frame) (silent : f.call? = none)
      (unalarming : ∀ c, .call c ∈ fs → c.conclusion? = none ∧ ∀ i, c.report? i = none)
      (agenda : w'.agenda = fs ++ w.agenda)
      (broken : breakdowns w'.history = breakdowns w.history) : Unalarmed (w.push [f]) w' := by
    have uncalled : ∀ c, f ≠ .call c := by
      rintro c rfl
      cases silent
    exact ⟨⟨_, fun c hc => unalarming c (mem_callsOf.1 hc),
      said_push silent w ▸ said_of_agenda agenda (turn.made uncalled)⟩, broken⟩
  cases turn with
  | call c =>
      exact Or.inl ⟨⟨[], List.forall_mem_nil _, List.Perm.of_eq (said_called w c)⟩,
        breakdowns_other rfl _⟩
  | fail d e cause =>
      -- who listens is not changed by counting the failure
      have calls : ((w.record (.failed d e cause)).countFate cause).failureCalls e cause =
          w.failureCalls e cause := by
        cases cause <;> rfl
      rw [calls]
      refine Or.inr ⟨d, e, cause, rfl, ?_, by cases cause <;> rfl⟩
      have added : List.Perm (((w.record (.failed d e cause)).countFate cause).push
          ((w.failureCalls e cause).map .call)).said
            (callsOf ((w.failureCalls e cause).map .call) ++ w.said) :=
        said_of_agenda (by simp) (by cases cause <;> rfl)
      rw [callsOf_calls] at added
      exact added
  | adrift names missing =>
      have silent : f.call? = none := by
        cases f with
        | call c => cases names
        | _ => rfl
      exact Or.inl (adds [] silent (by simp) rfl rfl)
  | finish op | takeNone here nothing | removeLast here empty =>
      exact Or.inl (adds [] rfl (by simp) rfl rfl)
  | parkIdle here empty room runs =>
      exact Or.inl (adds [] rfl (by simp) (by simp) (congrArg breakdowns (history_glance w)))
  | @parkStopped _ _ _ c _ _ here empty room stopped =>
      refine Or.inl (adds [.call (.close c)] rfl (by simp [Call.conclusion?, Call.report?]) ?_ ?_)
      · simp
      · exact congrArg breakdowns (history_glance w)
  | assignDeferred here head unmarked =>
      exact Or.inl
        (adds [.call (.execute _)] rfl (by simp [Call.conclusion?, Call.report?]) rfl rfl)
  | _ => exact Or.inl (adds _ rfl (by simp [Call.conclusion?, Call.report?]) rfl rfl)

/-- The start of an operation tells nobody of a failure. -/
theorem Started.said {op : Operation} {reply : Reply} (start : Started op w reply w') :
    Unalarmed w w' := by
  obtain ⟨new, agenda, puts⟩ := start.agenda
  refine ⟨⟨callsOf new, fun c hc => ?_, said_of_agenda agenda start.made⟩, ?_⟩
  · cases puts _ (mem_callsOf.1 hc) <;> exact ⟨rfl, fun _ => rfl⟩
  · rcases start.history with same | ⟨d, error, spared⟩ | ⟨d, e, accepted, -⟩
    · rw [same]
    · rw [spared, breakdowns_other rfl]
    · rw [accepted, breakdowns_other rfl]

theorem Sent.listeners {d : DestinationId} {dest : Destination} {r : Request} {l : ListenerId}
    {reply : Reply} (sent : Sent d dest r l w reply w') : w'.listeners = w.listeners := by
  have drawn : w.glance.drawTicket.glance.listeners = w.listeners :=
    (listeners_glance _).trans (listeners_glance w)
  cases sent with
  | mismatched error => rfl
  | stopped meant stopped | full meant runs full => exact listeners_glance w
  | takenBack meant runs room stops taken | accepted meant runs room stillRuns => exact drawn

theorem listeners_locate (w : Client) (a : Address) : (w.locate a).2.listeners = w.listeners := by
  simp only [locate]
  split <;> rfl

theorem Started.listeners {op : Operation} {reply : Reply} (start : Started op w reply w') :
    w'.listeners = w.listeners := by
  cases start with
  | send here sent => exact sent.listeners
  | submit runs meets here sent =>
      exact sent.listeners.trans ((listeners_locate _ _).trans (listeners_glance w))
  | submitAdrift runs meets missing =>
      exact (listeners_locate _ _).trans (listeners_glance w)
  | locate meets => exact listeners_locate w _
  | submitStopped stopped | submitUnsupported runs nowhere | releaseStopped here stopped
  | releaseStray here runs nothing | release here runs taken => exact listeners_glance w
  | _ => rfl

/-! ## Runs -/

/-- By the calls of a run so far, what failed was concluded, and each request listener was told of
it, except for aborts. -/
structure Reported (w : Client) : Prop where
  concludes : List.Perm (conclusions w.said) (breakdowns w.history)
  reports : ∀ i < w.listeners, List.Perm (reports i w.said) (exceptAborts (breakdowns w.history))

theorem Reported.unalarmed (h : w.Reported) (still : Unalarmed w w')
    (listening : w'.listeners = w.listeners) : w'.Reported := by
  constructor
  · rw [still.breakdowns]
    exact still.conclusions.trans h.concludes
  · intro i listens
    rw [still.breakdowns]
    exact (still.reports i).trans (h.reports i (listening ▸ listens))

theorem Reported.turned {f : Frame} (h : (w.push [f]).Reported) (turn : Turned f w w') :
    w'.Reported := by
  rcases turn.said with still | ⟨d, e, cause, rfl, calls, broken⟩
  · exact h.unalarmed still turn.listeners
  · -- what failed is concluded, and it is reported unless it was given up
    constructor
    · have told := perm_conclusions calls
      rw [conclusions_failureCalls] at told
      rw [broken]
      exact told.trans (h.concludes.cons _)
    · intro i listens
      have told := perm_reports i calls
      rw [reports_failureCalls (turn.listeners ▸ listens)] at told
      have split : exceptAborts (breakdowns w'.history) =
          exceptAborts [(e.request, cause.requestFailure)] ++
            exceptAborts (breakdowns w.history) := by
        rw [broken]
        exact exceptAborts_append [_] _
      rw [split]
      exact told.trans ((h.reports i (turn.listeners ▸ listens)).append_left _)

theorem Reported.started {op : Operation} {reply : Reply} (h : w.Reported)
    (start : Started op (w.push [.finish op]) reply w') :
    (w'.record (.invoked op reply)).Reported := by
  have begun : (w.push [.finish op]).Reported := ⟨h.concludes, h.reports⟩
  have further := begun.unalarmed start.said start.listeners
  have same : (w'.record (.invoked op reply)).said = w'.said :=
    congrArg (· ++ _) (made_other rfl _)
  constructor
  · rw [same]
    exact further.concludes
  · rw [same]
    exact further.reports

/-- In every client that is reached, what failed is concluded and reported by the calls of the
run. -/
theorem Reached.failuresReported (run : Reached allowed w) : w.Reported := by
  apply run.invariant
  · intro w new
    cases new <;> exact ⟨List.Perm.nil, fun _ _ => List.Perm.nil⟩
  · intro f w w' _ h turn
    exact h.turned turn
  · intro c w h
    exact ⟨h.concludes, h.reports⟩
  · intro op reply w w' _ _ _ h start
    exact h.started start

/-- Between two outermost steps, what was concluded is what failed, one to one. -/
theorem Reached.conclusions_perm_breakdowns (run : Reached allowed w) (quiet : w.agenda = []) :
    List.Perm (conclusions (made w.history)) (breakdowns w.history) :=
  said_quiet quiet ▸ run.failuresReported.concludes

/-- Between two outermost steps, each request listener was told of the failures that were concluded,
with the same errors and one to one, except for aborts. -/
theorem Reached.reports_perm_conclusions (run : Reached allowed w) (quiet : w.agenda = []) {i : Nat}
    (listens : i < w.listeners) : List.Perm (reports i (made w.history))
      (exceptAborts (conclusions (made w.history))) := by
  have told := run.failuresReported.reports i listens
  rw [said_quiet quiet] at told
  exact told.trans ((run.conclusions_perm_breakdowns quiet).filter _).symm

/-- A client with one request listener that may hold one connection to its only destination. -/
def watched : Client := .lone "watched" ⟨1, 4⟩ 1 ⟨"http", "localhost", 80⟩

/-- The watched client while a request waits for its first connection. -/
def watchedWaiting : Client := (watched.invoke (.send 0 (narrowRequest 0) 0)).2.settle

theorem reached_watchedWaiting : Reached Anything watchedWaiting := by
  have new : Reached Anything watched := .initial (.lone _ _ _ _)
  exact (new.invoke (.send 0 (narrowRequest 0) 0) (by decide) trivial).settle

/-- The watched client after the connection could not be made. -/
def watchedUnconnected : Client :=
  let w := (watchedWaiting.invoke (.settle 0 (.failed ⟨"ConnectionRefused", "refused"⟩))).2.settle
  (w.invoke (.perform 0)).2.settle

/-- The request listener of the watched client was told that the connection could not be made. -/
theorem watchedUnconnected_told : watchedUnconnected.agenda = [] ∧
    0 < watchedUnconnected.listeners ∧
    reports 0 (made watchedUnconnected.history) =
      [(narrowRequest 0, .connectionFailed ⟨"ConnectionRefused", "refused"⟩)] ∧
    List.Perm (reports 0 (made watchedUnconnected.history))
      (exceptAborts (conclusions (made watchedUnconnected.history))) := by
  have refused := reached_watchedWaiting.invoke
    (.settle 0 (.failed ⟨"ConnectionRefused", "refused"⟩)) (by decide) trivial
  have run : Reached Anything watchedUnconnected :=
    (refused.settle.invoke (.perform 0) (by decide) trivial).settle
  exact ⟨by decide, by decide, by decide,
    run.reports_perm_conclusions (by decide) (by decide)⟩

/-- Each request listener was told of every failure that was concluded, with the same error. -/
def LearnsAll (w : Client) : Prop :=
  ∀ i < w.listeners, List.Perm (reports i (made w.history)) (conclusions (made w.history))

/-- The watched client after the request that waited was given up. -/
def watchedAborted : Client := (watchedWaiting.invoke (.abort 0 0 "gone")).2.settle

/-- The exchange that was given up was concluded, and the request listener was told nothing. -/
theorem watchedAborted_untold : Reached Anything watchedAborted ∧ watchedAborted.agenda = [] ∧
    conclusions (made watchedAborted.history) = [(narrowRequest 0, .requestAborted "gone")] ∧
    ¬ watchedAborted.LearnsAll := by
  have run : Reached Anything watchedAborted :=
    (reached_watchedWaiting.invoke (.abort 0 0 "gone") (by decide) trivial).settle
  refine ⟨run, by decide, by decide, ?_⟩
  intro learns
  have told := (learns 0 (by decide)).length_eq
  exact absurd told (by decide)

end Client

end ConnectionPool
