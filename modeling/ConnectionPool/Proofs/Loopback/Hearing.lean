import ConnectionPool.Proofs.Exchange.Delivery
import ConnectionPool.Proofs.Loopback.Jobs

/-!
# What listeners hear

The listener of an exchange hears of its end from the client, if the exchange failed there, or from
the connection that it was handed to. Main statements: an exchange that is on its way is so on a
connection that is there (`Simulation.Reached.carrying_link`); whatever a listener has heard, the
client has told it, or the connection of an exchange that has arrived
(`Simulation.Reached.accounted`); so when every job is done, the listener of an accepted exchange
that does not wait has heard of its end, once (`Simulation.Reached.ending_at_rest`), and nobody else
has heard anything (`Simulation.Reached.accepted_of_heard`).
-/

set_option autoImplicit false

namespace ConnectionPool

theorem Client.made_begun (w : Client) (op : Option Operation) :
    made (w.begun op).history = made w.history := by
  cases op with
  | none => rfl
  | some op => exact made_invoke op

/-- What a call tells the listener of an exchange. -/
def Call.notice? (e : Exchange) : Call → Option Notifier.Notice
  | .responseFailed e' f => if e' = e then some (.responseFailure e.request f) else none
  | .completed e' result => if e' = e then some (.complete result) else none
  | _ => none

/-- What these calls tell the listener of an exchange. -/
def told (e : Exchange) (cs : List Call) : List Notifier.Notice := cs.filterMap (·.notice? e)

/-- Only the calls that tell the listener of the exchange tell it something. -/
theorem told_filter (e : Exchange) (cs : List Call) :
    told e (cs.filter (·.tells e)) = told e cs := by
  rw [told, told, List.filterMap_filter]
  refine List.filterMap_congr fun c _ => ?_
  cases c with
  | responseFailed e' f =>
      by_cases own : e' = e <;> simp [Call.tells, Call.notice?, own]
  | completed e' result =>
      by_cases own : e' = e <;> simp [Call.tells, Call.notice?, own]
  | _ => rfl

namespace Loopback

open Notifier (Notice)

/-- The connection that an exchange was handed to, and the exchange. -/
def Job.pairing? : Job → Option Pairing
  | .exchange c e => some (c, e)
  | _ => none

/-- The exchanges that are on their way, with their connections. -/
def Transport.carrying (t : Transport) : List Pairing := t.jobs.filterMap Job.pairing?

/-- What the listener of an exchange has heard, in order. -/
def Transport.heard (t : Transport) (e : Exchange) : List Notice :=
  t.notes.reverse.filterMap fun n => if n.exchange = some e then some n.notice else none

/-- How the listener of an exchange hears of its end: of a success by the result, and of a failure
first of the failure and then of the result. -/
inductive Ending (e : Exchange) : List Notice → Prop
  | success : Ending e [.complete (.succeeded e.request)]
  | failure (cause : Cause) :
      Ending e [.responseFailure e.request cause.responseFailure,
        .complete (.ofCause e.request cause)]

/-- Some connection was closed. -/
def Transport.Severed (t : Transport) : Prop := ∃ link ∈ t.links, link.closed = true

/-- What the listener of an exchange has heard from its connection, and how many jobs have ended
so. -/
inductive Verdict (t : Transport) (e : Exchange) : List Notice → Nat → Prop
  | pending : Verdict t e [] 0
  | answered : Verdict t e [.complete (.succeeded e.request)] 1
  | broken (severed : t.Severed) :
      Verdict t e [.responseFailure e.request .asynchronousClose,
        .complete (.ofCause e.request .closed)] 1

theorem Verdict.ending {t : Transport} {e : Exchange} {own : List Notice}
    (verdict : Verdict t e own 1) : Ending e own := by
  cases verdict with
  | answered => exact .success
  | broken severed => exact .failure .closed

theorem Verdict.nothing {t : Transport} {e : Exchange} {own : List Notice}
    (verdict : Verdict t e own 0) : own = [] := by
  cases verdict
  rfl

theorem Verdict.mono {t t' : Transport} (still : t.Severed → t'.Severed) {e : Exchange}
    {own : List Notice} {n : Nat} (verdict : Verdict t e own n) : Verdict t' e own n := by
  cases verdict with
  | pending => exact .pending
  | answered => exact .answered
  | broken severed => exact .broken (still severed)

/-! ## What is closed stays closed -/

theorem severed_called {t : Transport} (severed : t.Severed) (w : Client) (c : Call) :
    (Transport.called w c t).Severed := by
  obtain ⟨link, there, closed⟩ := severed
  cases c with
  | connect d a =>
      simp only [Transport.called]
      split <;> exact ⟨link, there, closed⟩
  | close c =>
      obtain ⟨i, here⟩ := List.mem_iff_getElem?.1 there
      have still : (t.closeLink c).links[i]? =
          some (if c = i then { link with closed := true } else link) := by
        rw [Transport.closeLink, List.getElem?_modify, here]
        rfl
      refine ⟨_, List.mem_of_getElem? still, ?_⟩
      split
      · rfl
      · exact closed
  | _ => exact ⟨link, there, closed⟩

theorem severed_answer {t : Transport} (severed : t.Severed) {c : ConnectionId} {link : Link}
    (opened : link.closed = false) (here : t.links[c]? = some link) (e : Exchange) :
    (t.answer c link e).Severed := by
  obtain ⟨other, there, closed⟩ := severed
  obtain ⟨i, same⟩ := List.mem_iff_getElem?.1 there
  have apart : c ≠ i := by
    rintro rfl
    cases here.symm.trans same
    cases closed.symm.trans opened
  have still : (t.answer c link e).links[i]? = some other :=
    (List.getElem?_set_ne apart).trans same
  exact ⟨other, List.mem_of_getElem? still, closed⟩

theorem severed_join {t : Transport} (severed : t.Severed) (number : Nat) (d : DestinationId) :
    (t.join number d).Severed := by
  obtain ⟨link, there, closed⟩ := severed
  exact ⟨link, List.mem_append_left _ there, closed⟩

/-! ## What is noted is heard -/

theorem heard_note_self (t : Transport) (e : Exchange) (n : Notice) :
    (t.note (some e) n).heard e = t.heard e ++ [n] := by
  simp [Transport.heard, Transport.note, List.filterMap_append]

theorem heard_note_other {e e' : Exchange} (other : e' ≠ e) (t : Transport) (n : Notice) :
    (t.note (some e') n).heard e = t.heard e := by
  simp [Transport.heard, Transport.note, List.filterMap_append, other]

theorem heard_of_notes {t t' : Transport} (same : t'.notes = t.notes) (e : Exchange) :
    t'.heard e = t.heard e := by
  rw [Transport.heard, same]
  rfl

theorem heard_called (w : Client) (c : Call) (t : Transport) (e : Exchange) :
    (Transport.called w c t).heard e = t.heard e ++ (c.notice? e).toList := by
  cases c with
  | connect d a =>
      simp only [Transport.called]
      split <;> exact (List.append_nil _).symm
  | responseFailed e' f =>
      by_cases own : e' = e
      · subst own
        rw [Transport.called, heard_note_self, Call.notice?, if_pos rfl]
        rfl
      · rw [Transport.called, heard_note_other own, Call.notice?, if_neg own]
        exact (List.append_nil _).symm
  | completed e' result =>
      by_cases own : e' = e
      · subst own
        rw [Transport.called, heard_note_self, Call.notice?, if_pos rfl]
        rfl
      · rw [Transport.called, heard_note_other own, Call.notice?, if_neg own]
        exact (List.append_nil _).symm
  | requestQueued i r | requestFailed i r f =>
      refine Eq.trans ?_ (List.append_nil _).symm
      simp [Transport.called, Transport.heard, Transport.note]
  | _ => exact (List.append_nil _).symm

theorem carrying_called (w : Client) (c : Call) (t : Transport) :
    (Transport.called w c t).carrying.Perm (c.handover?.toList ++ t.carrying) := by
  have scheduled {u : Transport} (jobs : u.jobs = t.jobs) (j : Job) :
      (u.schedule j false).carrying.Perm (j.pairing?.toList ++ t.carrying) := by
    have joined := perm_filterMap Job.pairing? (perm_jobs_schedule u j false)
    rw [jobs] at joined
    exact joined
  cases c with
  | connect d a =>
      simp only [Transport.called]
      split
      · exact scheduled rfl _
      · exact scheduled rfl _
  | execute k | send c e => exact scheduled rfl _
  | _ => exact List.Perm.refl _

/-- A job that is taken off the run queue and done leaves the other exchanges on their way. -/
theorem carrying_of_done {w : Client} {t t' : Transport} {before after : List Turn} {j : Turn}
    (next : t.ready = before ++ j :: after) {op : Option Operation}
    (done : Done ⟨w, { t with ready := before ++ after }⟩ j.job t' op) :
    t.carrying.Perm (j.job.pairing?.toList ++ t'.carrying) := by
  have jobs : t'.carrying = Transport.carrying { t with ready := before ++ after } :=
    congrArg (List.filterMap Job.pairing?) done.jobs
  rw [jobs]
  exact perm_filterMap _ (perm_jobs next)

namespace Simulation

variable {s : Simulation} {w v : Client} {t t' : Transport}

theorem Reached.client_steady (run : Reached Scripted s) :
    Client.Reached Client.Steady s.client := by
  refine Client.Reached.steady (run.client.mono ?_)
  rintro w op (may | reported) answers rfl
  · exact may
  · cases reported

/-! ## Hand-overs on their way -/

/-- Each exchange that is on its way was handed over. -/
def Carried (w : Client) (t : Transport) : Prop :=
  ∀ p ∈ t.carrying, p ∈ handovers (made w.history)

theorem keeps_carried (allowed : Operation → Prop) : Keeps (Reached allowed) allowed Carried where
  moved _ moved h p there := h p ((moved.jobs.filterMap _).mem_iff.1 there)
  command {w t op} _ _ h p there := by
    rw [Client.made_invoke]
    exact h p there
  done {w t before j after t' op} _ next done h p there := by
    rw [Client.made_begun]
    exact h p ((carrying_of_done next done).mem_iff.2 (List.mem_append_right _ there))
  drives := by
    constructor
    · intro f v v' t _ turn uncalled h p there
      rw [turn.made uncalled]
      exact h p there
    · intro c v t _ h p there
      have split : made (v.record (.called c)).history = made v.history ++ [c] := made_called c _
      rw [split, handovers_append]
      rcases List.mem_append.1 ((carrying_called _ c t).mem_iff.1 there) with new | old
      · refine List.mem_append_right _ (List.mem_filterMap.2 ⟨c, List.mem_cons_self, ?_⟩)
        exact Option.mem_toList.1 new
      · exact List.mem_append_left _ (h p old)

theorem Reached.carried {allowed : Operation → Prop} (run : Reached allowed s) :
    Carried s.client s.transport := by
  refine run.keeps (fun _ _ _ p there => ?_) (keeps_carried allowed)
  cases there

/-- In every simulation that is reached, the connection that an exchange is on its way on is
there, and it returns to the destination that has handed the exchange over. -/
theorem Reached.carrying_link (run : Reached Scripted s) {c : ConnectionId} {e : Exchange}
    (there : (c, e) ∈ s.transport.carrying) :
    ∃ link d deferred, s.transport.links[c]? = some link ∧ link.destination = some d ∧
      .assigned d c e deferred ∈ s.client.history := by
  have handed := run.client.mem_assignments_of_handed (run.carried _ there)
  obtain ⟨d, deferred, took⟩ := Client.mem_assignments.1 handed
  have arrived := (run.attached d).mem_iff.1 (run.client.delivered_of_assigned took)
  obtain ⟨link, here, home⟩ := mem_linksOf.1 arrived
  exact ⟨link, d, deferred, here, home, took⟩

/-! ## What was heard is accounted for -/

/-- What a listener has heard, the client has told it, or its connection; and each exchange that was
handed over is on its way, or its connection has told the end. -/
def Accounted (w : Client) (t : Transport) : Prop :=
  ∀ e, ∃ own n, Verdict t e own n ∧ t.heard e = own ++ told e (made w.history) ∧
    (takers e t.carrying).length + n = (takers e (handovers (made w.history))).length

theorem Accounted.of_same (h : Accounted w t) (made : made v.history = made w.history)
    (notes : t'.notes = t.notes) (severed : t.Severed → t'.Severed)
    (carrying : t'.carrying.Perm t.carrying) : Accounted v t' := by
  intro e
  obtain ⟨own, n, verdict, heard, counted⟩ := h e
  refine ⟨own, n, verdict.mono severed, ?_, ?_⟩
  · rw [heard_of_notes notes, made]
    exact heard
  · rw [made, ← counted]
    exact congrArg (· + n) (carrying.filterMap _).length_eq

/-- A job that carries an exchange ends by telling its listener. -/
theorem Accounted.arrive (h : Accounted w t) {c : ConnectionId} {e : Exchange}
    (carrying : t.carrying.Perm ((c, e) :: t'.carrying))
    (once : takers e (handovers (made w.history)) = [c])
    (untold : (made w.history).filter (·.tells e) = []) {own : List Notice}
    (verdict : Verdict t' e own 1) (notes : t'.heard e = t.heard e ++ own)
    (others : ∀ e', e' ≠ e → t'.heard e' = t.heard e') (severed : t.Severed → t'.Severed)
    (same : made v.history = made w.history) : Accounted v t' := by
  intro e'
  obtain ⟨before, n, old, heard, counted⟩ := h e'
  have left : (takers e' t.carrying).length = (takers e' ((c, e) :: t'.carrying)).length :=
    (carrying.filterMap _).length_eq
  rw [same]
  by_cases other : e' = e
  · -- nothing was heard before
    subst other
    have one : takers e' ((c, e') :: t'.carrying) = c :: takers e' t'.carrying :=
      List.filterMap_cons_some (if_pos rfl)
    rw [one, List.length_cons] at left
    rw [once, List.length_singleton] at counted
    have silent : told e' (made w.history) = [] := by
      rw [← told_filter, untold]
      rfl
    have none : n = 0 := by omega
    subst none
    refine ⟨own, 1, verdict, ?_, ?_⟩
    · rw [notes, heard, old.nothing, silent, List.append_nil, List.append_nil, List.nil_append]
    · rw [once, List.length_singleton]
      omega
  · have away : takers e' ((c, e) :: t'.carrying) = takers e' t'.carrying :=
      List.filterMap_cons_none (if_neg (Ne.symm other))
    rw [away] at left
    refine ⟨before, n, old.mono severed, ?_, ?_⟩
    · rw [others e' other]
      exact heard
    · rw [← left]
      exact counted

theorem keeps_accounted : Keeps (Reached Scripted) Scripted Accounted where
  moved _ moved h := by
    refine h.of_same rfl moved.notes (fun severed => ?_) (moved.jobs.filterMap _)
    rw [Transport.Severed, moved.links]
    exact severed
  command _ _ h := h.of_same (Client.made_invoke _) rfl id (List.Perm.refl _)
  done {w t before j after t' op} run next done h := by
    have left := carrying_of_done next done
    have arrived {c : ConnectionId} {e : Exchange} (carried : j.job = .exchange c e)
        {own : List Notice} (verdict : Verdict t' e own 1) (notes : t'.heard e = t.heard e ++ own)
        (others : ∀ e', e' ≠ e → t'.heard e' = t.heard e') (severed : t.Severed → t'.Severed) :
        Accounted (w.begun op) t' := by
      rw [carried] at left
      have handed := run.carried (c, e) (left.mem_iff.2 List.mem_cons_self)
      obtain ⟨once, untold⟩ := run.client_steady.handed_once run.quiet handed
      exact h.arrive left once untold verdict notes others severed (Client.made_begun _ op)
    have answered {c : ConnectionId} {e : Exchange} {link : Link} (carried : j.job = .exchange c e)
        (here : t.links[c]? = some link) (opened : link.closed = false)
        (same : t' = Transport.answer { t with ready := before ++ after } c link e) :
        Accounted (w.begun op) t' := by
      refine arrived carried .answered ?_ (fun e' other => ?_) fun severed => ?_
      · rw [same]
        exact heard_note_self _ e _
      · rw [same]
        exact heard_note_other (Ne.symm other) _ _
      · rw [same]
        exact severed_answer (t := { t with ready := before ++ after }) severed opened here e
    generalize own : j.job = job at done
    cases done with
    | refused name | performed =>
        rw [own] at left
        exact h.of_same (Client.made_begun _ _) rfl id left.symm
    | connected =>
        rw [own] at left
        exact h.of_same (Client.made_begun _ _) rfl
          (fun severed => severed_join severed _ _) left.symm
    | lost missing =>
        -- no exchange is on its way on a connection that is not there
        rw [own] at left
        obtain ⟨link, d, deferred, here, -⟩ := run.carrying_link (left.mem_iff.2 List.mem_cons_self)
        cases missing.symm.trans here
    | broken here closed =>
        have severed : t.Severed := ⟨_, List.mem_of_getElem? here, closed⟩
        refine arrived own (.broken severed) ?_ (fun e' other => ?_) id
        · rw [Transport.breakOff, heard_note_self, heard_note_self, List.append_assoc]
          rfl
        · rw [Transport.breakOff, heard_note_other (Ne.symm other),
            heard_note_other (Ne.symm other)]
          rfl
    | stranded here opened stays => exact answered own here opened rfl
    | returned here opened home => exact answered own here opened rfl
  drives := by
    constructor
    · intro f v v' t _ turn uncalled h
      exact h.of_same (turn.made uncalled) rfl id (List.Perm.refl _)
    · intro c v t _ h e
      obtain ⟨own, n, verdict, heard, counted⟩ := h e
      have split : made (v.record (.called c)).history = made v.history ++ [c] := made_called c _
      have single {β : Type} (f : Call → Option β) : [c].filterMap f = (f c).toList := by
        cases read : f c <;> simp [read]
      have hands : handovers [c] = c.handover?.toList := single _
      refine ⟨own, n, verdict.mono fun severed => severed_called severed _ c, ?_, ?_⟩
      · rw [heard_called, split, told, List.filterMap_append, single, ← List.append_assoc]
        exact congrArg (· ++ _) heard
      · have joined : (takers e (Transport.called _ c t).carrying).length = (takers e _).length :=
          ((carrying_called (v.push [.call c]) c t).filterMap _).length_eq
        rw [takers_append, List.length_append] at joined
        rw [split, handovers_append, takers_append, List.length_append, hands, joined]
        have counted : _ = (takers e (handovers (made v.history))).length := counted
        omega

/-- In every simulation that is reached, what a listener has heard is accounted for. -/
theorem Reached.accounted (run : Reached Scripted s) : Accounted s.client s.transport := by
  refine run.keeps (fun new timings panicking e => ⟨[], 0, .pending, ?_, ?_⟩) keeps_accounted
  · cases new <;> rfl
  · cases new <;> rfl

/-! ## When every job is done -/

theorem Settled.carrying (settled : s.Settled) : s.transport.carrying = [] := by
  rw [Transport.carrying, settled.jobs]
  rfl

/-- When every job is done, an accepted exchange that does not wait was taken by a connection, which
has told its listener, or it has failed, and the client has told its listener; not both. -/
theorem Reached.heard_at_rest (run : Reached Scripted s) (settled : s.Settled) {d : DestinationId}
    {e : Exchange} (accepts : .accepted d e ∈ s.client.history) {D : Destination}
    (here : s.client.destinations[d]? = some D) (left : e ∉ D.queue.items) :
    (∃ c, takers e (assignments s.client.history) = [c] ∧ causes e s.client.history = [] ∧
      Verdict s.transport e (s.transport.heard e) 1) ∨
    ∃ cause, causes e s.client.history = [cause] ∧ takers e (assignments s.client.history) = [] ∧
      s.transport.heard e = [.responseFailure e.request cause.responseFailure,
        .complete (.ofCause e.request cause)] := by
  have steady := run.client_steady
  have unconcerned : ∀ f ∈ s.client.agenda, f.concerns e = false :=
    run.quiet ▸ List.forall_mem_nil _
  -- the exchange has one fate, and it neither waits nor is about to fail
  have total := steady.count_fates here accepts
  rw [Client.count_failing_of_unconcerned unconcerned, List.count_eq_zero.2 left] at total
  obtain ⟨-, handed, calls⟩ := steady.traces_of_unconcerned unconcerned here accepts
  have handed : (takers e (handovers (made s.client.history) ++ deferred s.client.tasks)).length =
    (takers e (assignments s.client.history)).length := handed
  have calls : (made s.client.history).filter (·.tells e) =
    (causes e s.client.history).flatMap (Cause.notices e) := calls
  have idle : deferred s.client.tasks = [] := by
    rw [run.tasks_nil settled]
    rfl
  rw [idle, List.append_nil] at handed
  obtain ⟨own, n, verdict, heard, counted⟩ := run.accounted e
  have away : takers e s.transport.carrying = [] := by
    rw [settled.carrying]
    rfl
  rw [away, List.length_nil, Nat.zero_add] at counted
  rw [← told_filter, calls] at heard
  rcases Nat.eq_zero_or_pos (causes e s.client.history).length with unfailed | failed
  · -- a connection took it
    have taken : (takers e (assignments s.client.history)).length = 1 := by omega
    have once : n = 1 := by omega
    have unfailed := List.eq_nil_of_length_eq_zero unfailed
    rw [unfailed] at heard
    have heard : s.transport.heard e = own := heard.trans (List.append_nil own)
    refine Or.inl ?_
    obtain ⟨c, only⟩ := List.length_eq_one_iff.1 taken
    exact ⟨c, only, unfailed, by rw [heard, ← once]; exact verdict⟩
  · obtain ⟨cause, only⟩ :=
      List.length_eq_one_iff.1 (show (causes e s.client.history).length = 1 by omega)
    have none : n = 0 := by omega
    subst none
    rw [verdict.nothing, only] at heard
    have untaken : (takers e (assignments s.client.history)).length = 0 := by omega
    refine Or.inr ⟨cause, only, List.eq_nil_of_length_eq_zero untaken, heard.trans ?_⟩
    simp [Cause.notices, told, Call.notice?]

theorem Reached.ending_at_rest (run : Reached Scripted s) (settled : s.Settled) {d : DestinationId}
    {e : Exchange} (accepts : .accepted d e ∈ s.client.history) {D : Destination}
    (here : s.client.destinations[d]? = some D) (left : e ∉ D.queue.items) :
    Ending e (s.transport.heard e) := by
  rcases run.heard_at_rest settled accepts here left with
    ⟨c, -, -, verdict⟩ | ⟨cause, -, -, heard⟩
  · exact verdict.ending
  · rw [heard]
    exact .failure cause

/-- The listener of an exchange that no connection took and that has not failed heard nothing. -/
theorem Reached.heard_nil (run : Reached Scripted s) {e : Exchange}
    (untaken : takers e (assignments s.client.history) = [])
    (unfailed : causes e s.client.history = []) : s.transport.heard e = [] := by
  have steady := run.client_steady
  obtain ⟨own, n, verdict, heard, counted⟩ := run.accounted e
  -- nothing was handed over, so no connection has told anything
  have handed : takers e (handovers (made s.client.history)) = [] := by
    refine List.eq_nil_iff_forall_not_mem.2 fun c there => ?_
    have took := Client.mem_takers.2 (steady.mem_assignments_of_handed (Client.mem_takers.1 there))
    rw [untaken] at took
    cases took
  rw [handed, List.length_nil] at counted
  have none : n = 0 := by omega
  subst none
  have told : (made s.client.history).filter (·.tells e) ++ _ =
      (causes e s.client.history).flatMap _ := steady.told e
    (show (causes e s.client.history).length ≤ 1 by simp [unfailed])
  rw [unfailed] at told
  rw [heard, verdict.nothing, List.nil_append, ← told_filter, (List.append_eq_nil_iff.1 told).1]
  rfl

/-- Only listeners of exchanges that were accepted hear anything. -/
theorem Reached.accepted_of_heard (run : Reached Scripted s) {e : Exchange}
    (heard : s.transport.heard e ≠ []) : ∃ d, .accepted d e ∈ s.client.history := by
  have steady := run.client_steady
  by_cases untaken : takers e (assignments s.client.history) = []
  · have failed : causes e s.client.history ≠ [] := fun unfailed =>
      heard (run.heard_nil untaken unfailed)
    obtain ⟨cause, there⟩ := List.exists_mem_of_ne_nil _ failed
    obtain ⟨d, failed⟩ := Client.mem_causes.1 there
    exact ⟨d, steady.accepted_of_event failed rfl (Or.inr rfl)⟩
  · obtain ⟨c, there⟩ := List.exists_mem_of_ne_nil _ untaken
    obtain ⟨d, deferred, took⟩ := Client.mem_assignments.1 (Client.mem_takers.1 there)
    exact ⟨d, steady.accepted_of_event took rfl (Or.inl rfl)⟩

end Simulation

end Loopback

end ConnectionPool
