import ConnectionPool.Proofs.Exchange.Handover

/-!
# Tasks that are performed at once

An executor may perform a task within the call that gives it the task. Between the moment at which
a connection takes an exchange and the call that hands the exchange over, nothing else happens then:
at any time at most one exchange is on its way, and what is on its way is on top of the agenda
(`Client.Clear`). Main statement: exchanges are handed over in the order in which connections took
them (`Client.AtOnce.handed_in_order`).
-/

set_option autoImplicit false

namespace ConnectionPool

namespace Ledger

/-- No task is held, and no call that is still to be made hands an exchange over. -/
structure Quiet (s : Ledger) : Prop where
  tasks : s.tasks = []
  calls : handovers s.calls = []

theorem Quiet.ask {s : Ledger} (h : s.Quiet) {cs : List Call} (plain : Plain cs) :
    Quiet { s with calls := cs ++ s.calls } :=
  ⟨h.tasks, (handovers_plain plain s.calls).trans h.calls⟩

/-- What was decided to be handed over is handed over in that order, so far. -/
def InOrder (s : Ledger) : Prop :=
  handovers (made s.history) <+: (assignments s.history).reverse

/-- If at most one exchange is on its way, the next one to be handed over is the one on its way. -/
theorem InOrder.entry {s s' : Ledger} (h : s.InOrder) (handed : s.Handed)
    (one : (handovers s.calls ++ deferred s.tasks).length ≤ 1) (entry : s.Entry s') :
    s'.InOrder := by
  simp only [InOrder] at h ⊢
  cases entry with
  | @make c C next =>
      rw [made_called, handovers_append]
      obtain ⟨rest, split⟩ := h
      cases own : c.handover? with
      | none =>
          have nothing : handovers [c] = [] := List.filterMap_cons_none own
          rw [nothing, List.append_nil]
          exact ⟨rest, split⟩
      | some p =>
          have onWay : handovers s.calls = p :: handovers C := by
            rw [next]
            exact List.filterMap_cons_some own
          have alone : handovers s.calls ++ deferred s.tasks = [p] := by
            rw [onWay] at one ⊢
            have further := List.eq_nil_of_length_eq_zero
              (Nat.le_zero.1 (Nat.le_of_succ_le_succ one))
            exact congrArg (p :: ·) further
          -- what is decided and not handed over yet is just this exchange
          have left : List.Perm rest [p] := by
            apply (List.perm_append_left_iff (handovers (made s.history))).1
            rw [split, ← alone]
            exact (List.reverse_perm _).trans handed
          have single : handovers [c] = [p] := List.filterMap_cons_some own
          rw [List.perm_singleton.1 left] at split
          rw [single, split]
          exact List.prefix_rfl
  | returned op | accept d r l plain | fail d e cause plain | spare held work =>
      rw [made_other rfl]
      exact h
  | assign d c e | assignDeferred d c e =>
      rw [made_other rfl]
      exact h.trans (List.reverse_cons ▸ List.prefix_append _ [(c, e)])
  | _ => exact h

end Ledger

namespace Client

variable {allowed : Client → Operation → Prop} {w w' : Client}

/-- What is on its way is on top of the agenda: a call that hands an exchange over, or the call that
gives the only task to the executor. -/
inductive Clear (w : Client) : Prop
  | quiet (quiet : w.ledger.Quiet)
  | sending {c : ConnectionId} {e : Exchange} {rest : List Frame} (tasks : w.tasks = [])
      (top : w.agenda = .call (.send c e) :: rest) (below : handovers (callsOf rest) = [])
  | giving {t : TaskId} {work : Work} {rest : List Frame} (tasks : w.tasks = [⟨t, work⟩])
      (top : w.agenda = .call (.execute t) :: rest) (below : handovers (callsOf rest) = [])
  | given {t : TaskId} {work : Work} {rest : List Frame} (tasks : w.tasks = [⟨t, work⟩])
      (top : w.agenda = .within (.execute t) :: rest) (below : handovers (callsOf rest) = [])

/-- At most one exchange is on its way. -/
theorem Clear.one (h : w.Clear) :
    (handovers w.ledger.calls ++ deferred w.ledger.tasks).length ≤ 1 := by
  have left (work : Work) : work.handover?.toList.length ≤ 1 := by
    cases work.handover? <;> simp
  have single (t : TaskId) (work : Work) : deferred [⟨t, work⟩] = work.handover?.toList := by
    simp only [deferred, List.filterMap_cons]
    cases work.handover? <;> rfl
  cases h with
  | quiet quiet =>
      rw [quiet.tasks, quiet.calls]
      exact Nat.zero_le 1
  | @sending c e rest tasks top below =>
      have calls : handovers w.ledger.calls = (c, e) :: handovers (callsOf rest) := by
        rw [ledger, top]
        rfl
      rw [calls, below, ledger, tasks]
      exact Nat.le_refl 1
  | @giving t work rest tasks top below | @given t work rest tasks top below =>
      have calls : handovers w.ledger.calls = handovers (callsOf rest) := by
        rw [ledger, top]
        rfl
      rw [calls, below, ledger, tasks]
      exact (single t work).symm ▸ left work

/-- Nothing is on its way when nothing is to be done. -/
theorem Clear.quiet_of_done (h : w.Clear) (done : w.agenda = []) : w.ledger.Quiet := by
  cases h with
  | quiet quiet => exact quiet
  | sending tasks top below | giving tasks top below | given tasks top below =>
      cases done.symm.trans top

/-- What happened is neither a task nor a call that is to be made. -/
theorem Clear.record (h : w.Clear) (ev : Event) : (w.record ev).Clear := by
  cases h with
  | quiet quiet => exact .quiet ⟨quiet.tasks, quiet.calls⟩
  | sending tasks top below => exact .sending tasks top below
  | giving tasks top below => exact .giving tasks top below
  | given tasks top below => exact .given tasks top below

/-- Who is told of a failure is handed nothing. -/
theorem handovers_failureCalls (w : Client) (e : Exchange) (cause : Cause) :
    handovers (w.failureCalls e cause) = [] := by
  apply List.filterMap_eq_nil_iff.2
  intro c told
  have guarded := isGuarded_of_mem_failureCalls told
  cases c with
  | send c e => cases guarded
  | _ => rfl

theorem Turned.clear {f : Frame} (turn : Turned f w w') (quiet : (w.push [f]).ledger.Quiet) :
    w'.Clear := by
  have tasks : w.ledger.tasks = [] := quiet.tasks
  have low : w.ledger.Quiet := by
    refine ⟨tasks, List.eq_nil_of_sublist_nil ?_⟩
    rw [← quiet.calls, ledger_push]
    exact ((List.sublist_append_right _ _).filterMap _)
  have plain {v : Client} {fs : List Frame} (same : v.ledger = w.ledger)
      (silent : ∀ c, .call c ∈ fs → c.exchange? = none) : (v.push fs).Clear := by
    refine .quiet ?_
    rw [ledger_push, same]
    exact low.ask fun c hc => silent c (mem_callsOf.1 hc)
  cases turn with
  | call c | within c | finish op | adrift names missing | acquireFull here nothing full
  | acquireNew here nothing free | takeNone here nothing | acquireIdle here head
  | takeIdle here head | parkSurplus here empty full | removeLast here empty
  | removeMore here waiting | passOver here head marked => exact .quiet ⟨low.tasks, low.calls⟩
  | fail d e cause =>
      refine .quiet ?_
      rw [ledger_push, ledger_countFate, callsOf_calls]
      refine ⟨low.tasks, ?_⟩
      rw [handovers_append, handovers_failureCalls]
      exact low.calls
  | parkIdle here empty room runs =>
      refine .quiet ?_
      rw [ledger_putDestination, ledger_glance]
      exact low
  | parkStopped here empty room stopped => exact plain (ledger_glance w) (by simp [Call.exchange?])
  | assign here head unmarked => exact .sending tasks rfl low.calls
  | assignDeferred here head unmarked => exact .giving (congrArg (· ++ [_]) tasks) rfl low.calls
  | closeIdle here | closeActive here => exact plain rfl (by simp [Call.exchange?])
  | failQueued here => exact plain rfl (by simp)

theorem Sent.quiet {d : DestinationId} {dest : Destination} {r : Request} {l : ListenerId}
    {reply : Reply} (sent : Sent d dest r l w reply w') (quiet : w.ledger.Quiet) :
    w'.ledger.Quiet := by
  cases sent with
  | mismatched error => exact quiet
  | stopped meant stopped | full meant runs full =>
      rw [ledger_countRejected, ledger_glance]
      exact quiet
  | takenBack meant runs room stops taken =>
      rw [ledger_countRejected, ledger_putDestination, ledger_glance, ledger_drawTicket,
        ledger_glance]
      exact ⟨quiet.tasks, quiet.calls⟩
  | accepted meant runs room stillRuns =>
      rw [ledger_push, ledger_countQueued, ledger_record, ledger_putDestination, ledger_glance,
        ledger_drawTicket, ledger_glance]
      refine ⟨quiet.tasks, Eq.trans (handovers_plain (fun c hc => ?_) _) quiet.calls⟩
      rcases List.mem_append.1 (mem_callsOf.1 hc) with told | rest
      · obtain ⟨i, -, same⟩ := List.mem_map.1 told
        cases same
        rfl
      · cases List.mem_singleton.1 rest

theorem Started.clear {op : Operation} {reply : Reply} (start : Started op w reply w')
    (quiet : w.ledger.Quiet) : w'.Clear := by
  have plain {v : Client} {fs : List Frame} (same : v.ledger = w.ledger)
      (silent : ∀ c, .call c ∈ fs → c.exchange? = none) : (v.push fs).Clear := by
    refine .quiet ?_
    rw [ledger_push, same]
    exact quiet.ask fun c hc => silent c (mem_callsOf.1 hc)
  have of_eq {v : Client} (same : v.ledger = w.ledger) : v.Clear := .quiet (same ▸ quiet)
  have tasks : w.tasks = [] := quiet.tasks
  cases start with
  | send here sent => exact .quiet (sent.quiet quiet)
  | submit runs meets here sent =>
      refine .quiet (sent.quiet ?_)
      rw [ledger_locate, ledger_glance]
      exact quiet
  | submitStopped stopped | submitUnsupported runs nowhere | releaseStray here runs nothing =>
      exact of_eq (ledger_glance w)
  | submitAdrift runs meets missing => exact of_eq ((ledger_locate _ _).trans (ledger_glance w))
  | locate meets => exact of_eq (ledger_locate w _)
  | ignored op | locateUnsupported nowhere | abortMissed here nothing
  | settleAdrift underWay unsettled pooled missing | settleAbandoned underWay unsettled pooled
  | settleUnpooled underWay unsettled unpooled | mark r | setRunning flag | foresee answers =>
      exact of_eq rfl
  | abort here taken | remove here | close here | settleConnected underWay unsettled pooled =>
      exact plain rfl (by simp)
  | release here runs taken => exact plain (ledger_glance w) (by simp)
  | releaseStopped here stopped => exact plain (ledger_glance w) (by simp [Call.exchange?])
  | connect here => exact plain rfl (by simp [Call.exchange?])
  | stop => exact plain rfl (by simp)
  | settleFailed underWay unsettled pooled here =>
      exact .giving (congrArg (· ++ [_]) tasks) rfl quiet.calls
  | deliver held work | failHeadAdrift held work missing | spare held work here empty
  | failHead held work here head =>
      rw [tasks] at held
      cases held

/-- A task that the executor is given and performs is not held any more, and what it hands over is
on top of the agenda. -/
theorem Started.performed {t : TaskId} {work : Work} (start : Started (.perform t) w .done w')
    (alone : w.tasks = [⟨t, work⟩]) (calls : handovers (callsOf w.agenda) = []) : w'.Clear := by
  have dropped : (w.dropTask t).tasks = [] := by
    rw [dropTask, alone]
    simp
  cases start with
  | deliver held work => exact .sending dropped rfl calls
  | failHeadAdrift held work missing | spare held work here empty
  | failHead held work here head => exact .quiet ⟨dropped, calls⟩

/-- The executor performs a task at once: when the call that gives it the task has been entered, the
next thing that happens is that the task is performed. -/
def PerformsAtOnce (w w' : Client) : Prop :=
  ∀ t rest, w.agenda = .within (.execute t) :: rest → (∃ task ∈ w.tasks, task.id = t) →
    w' = (w.invoke (.perform t)).2

theorem Step.clear (next : Step allowed w w') (prompt : PerformsAtOnce w w') (h : w.Clear) :
    w'.Clear := by
  cases h with
  | quiet quiet =>
      rcases next.cases with ⟨f, v, rfl, turn⟩ | ⟨c, rfl⟩ | ⟨op, reply, v, waits, may, start, rfl⟩
      · exact turn.clear quiet
      · exact .quiet quiet
      · exact (start.clear quiet).record _
  | sending tasks top below =>
      rcases next.cases with ⟨f, v, rfl, turn⟩ | ⟨c, rfl⟩ | ⟨op, reply, v, waits, may, start, rfl⟩
      · cases top
        cases turn with
        | call c => exact .quiet ⟨tasks, below⟩
        | adrift names missing => cases names
      · cases top
      · rw [awaits, top] at waits
        cases waits
  | giving tasks top below =>
      rcases next.cases with ⟨f, v, rfl, turn⟩ | ⟨c, rfl⟩ | ⟨op, reply, v, waits, may, start, rfl⟩
      · cases top
        cases turn with
        | call c => exact .given tasks rfl below
        | adrift names missing => cases names
      · cases top
      · rw [awaits, top] at waits
        cases waits
  | @given t work rest tasks top below =>
      have held : (⟨t, work⟩ : Task) ∈ w.tasks := tasks ▸ List.mem_singleton_self _
      rw [prompt t rest top ⟨_, held, rfl⟩]
      have found : (w.push [.finish (.perform t)]).tasks.find? (·.id == t) = some ⟨t, work⟩ := by
        show w.tasks.find? _ = _
        rw [tasks]
        exact List.find?_cons_of_pos (by simp)
      have start := started_start (.perform t) (w.push [.finish (.perform t)])
      rw [done_perform found] at start
      have calls : handovers (callsOf (w.push [.finish (.perform t)]).agenda) = [] := by
        show handovers (callsOf (_ :: w.agenda)) = []
        rw [top]
        exact below
      exact (start.performed tasks calls).record _

/-- A run in which the executor performs each task at once. -/
inductive AtOnce (allowed : Client → Operation → Prop) : Client → Prop
  | initial {w : Client} (new : Initial w) : AtOnce allowed w
  | step {w w' : Client} (past : AtOnce allowed w) (next : Step allowed w w')
      (prompt : PerformsAtOnce w w') : AtOnce allowed w'

namespace AtOnce

theorem reached (run : AtOnce allowed w) : Reached allowed w := by
  induction run with
  | initial new => exact .initial new
  | step _ next _ ih => exact ih.step next

theorem clear (run : AtOnce allowed w) : w.Clear := by
  induction run with
  | initial new =>
      refine .quiet ?_
      rw [new.ledger]
      exact ⟨rfl, rfl⟩
  | step _ next prompt ih => exact next.clear prompt ih

/-! Only within the call that gives a task to the executor are steps restricted. -/

theorem turn (run : AtOnce allowed w) (busy : w.awaits = false) : AtOnce allowed w.turn := by
  refine run.step (.turn busy) fun t rest inside => ?_
  rw [awaits, inside] at busy
  cases busy

theorem invoke (run : AtOnce allowed w) (op : Operation) (quiet : w.agenda = [])
    (may : allowed w op) : AtOnce allowed (w.invoke op).2 := by
  refine run.step (.invoke op (by rw [awaits, quiet]) may) fun t rest inside => ?_
  cases quiet.symm.trans inside

theorem perform {t : TaskId} {rest : List Frame} (run : AtOnce allowed w)
    (inside : w.agenda = .within (.execute t) :: rest) (may : allowed w (.perform t)) :
    AtOnce allowed (w.invoke (.perform t)).2 := by
  refine run.step (.invoke _ (by rw [awaits, inside]) may) fun t' rest' inside' _ => ?_
  cases inside.symm.trans inside'
  rfl

theorem resume {c : Call} {rest : List Frame} (run : AtOnce allowed w)
    (inside : w.agenda = .within c :: rest) (none : w.tasks = []) : AtOnce allowed w.resume := by
  refine run.step (.resume inside) fun t rest' inside' held => ?_
  obtain ⟨task, mem, -⟩ := held
  rw [none] at mem
  cases mem

/-- Where tasks are performed at once, exchanges are handed over in the order in which connections
took them. -/
theorem handed_in_order (run : AtOnce allowed w) : w.ledger.InOrder := by
  induction run with
  | initial new =>
      rw [new.ledger]
      exact List.prefix_rfl
  | @step w w' past next prompt ih =>
      obtain ⟨mid, entry, same | ⟨op, reply, note, -⟩⟩ := next.ledger
      · rw [same]
        exact ih.entry past.reached.handed past.clear.one entry
      · have ordered := ih.entry past.reached.handed past.clear.one entry
        rw [note, Ledger.InOrder, made_other rfl]
        exact ordered

/-- When nothing is on its way, every exchange that was taken has been handed over. -/
theorem handed_all (run : AtOnce allowed w) (quiet : w.ledger.Quiet) :
    handovers (made w.history) = (assignments w.history).reverse := by
  have handed : List.Perm (assignments w.history)
      (handovers (made w.history) ++ (handovers w.ledger.calls ++ deferred w.ledger.tasks)) :=
    run.reached.handed
  rw [quiet.calls, quiet.tasks] at handed
  refine List.IsPrefix.eq_of_length run.handed_in_order ?_
  have lengths := handed.length_eq
  rw [List.length_append] at lengths
  rw [List.length_reverse, lengths]
  rfl

end AtOnce

end Client

end ConnectionPool
