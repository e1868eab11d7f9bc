import ConnectionPool.Proofs.Client.Bookkeeping
import ConnectionPool.Proofs.Exchange.Tasks

/-!
# One failed attempt, one failed request

An attempt for the pool that fails gives its slot back and leaves a task to the executor; the task
fails the request that is at the head of the queue when it runs, or finds the queue empty. Many of
these tasks may be outstanding while requests come and go. Main statement: failed attempts are
matched one to one, destination and error included, by the requests they failed, the tasks that
found nothing to fail, and the tasks that were not run yet (`Client.Reached.fails_one_each`).
-/

set_option autoImplicit false

namespace ConnectionPool

/-- An attempt for the pool that failed: the destination it was made for, and its error. -/
abbrev Setback := DestinationId × TransportError

/-- How an attempt for the pool failed, if it did. -/
def Attempt.setback? (a : Attempt) : Option Setback :=
  match a.outcome, a.pooled with
  | some (.failed error), true => some (a.destination, error)
  | _, _ => none

/-- The failed attempt that a request is about to fail for. -/
def Frame.setback? : Frame → Option Setback
  | .fail d _ (.unconnected error) => some (d, error)
  | _ => none

/-- The failed attempt that a request failed for. -/
def Event.setback? : Event → Option Setback
  | .failed d _ (.unconnected error) => some (d, error)
  | _ => none

/-- The failed attempt that failed nothing. -/
def Event.spared? : Event → Option Setback
  | .spared d error => some (d, error)
  | _ => none

/-- The failed attempt that a request is still to be failed for. -/
def Work.setback? : Work → Option Setback
  | .failHead d error => some (d, error)
  | .deliver _ _ => none

/-- The attempts for the pool that failed. -/
def setbacks (attempts : List Attempt) : List Setback := attempts.filterMap Attempt.setback?

/-- The failed attempts that requests are about to fail for. -/
def striking (fs : List Frame) : List Setback := fs.filterMap Frame.setback?

/-- The failed attempts that requests failed for, latest first. -/
def struck (history : List Event) : List Setback := history.filterMap Event.setback?

/-- The failed attempts that failed nothing, latest first. -/
def sparings (history : List Event) : List Setback := history.filterMap Event.spared?

/-- The failed attempts whose tasks were not run yet. -/
def owed (tasks : List Task) : List Setback := tasks.filterMap (·.work.setback?)

theorem Attempt.destination_of_setback {a : Attempt} {s : Setback} (h : a.setback? = some s) :
    a.destination = s.1 := by
  obtain ⟨d, pooled, outcome⟩ := a
  cases outcome with
  | none => cases h
  | some o =>
      cases pooled <;> cases o <;> cases h
      rfl

/-- An attempt that has just begun has not failed. -/
theorem setbacks_begun (attempts : List Attempt) (d : DestinationId) (pooled : Bool) :
    setbacks (attempts ++ [{ destination := d, pooled := pooled }]) = setbacks attempts := by
  rw [setbacks, List.filterMap_append]
  exact List.append_nil _

theorem owed_add (tasks : List Task) (t : TaskId) (work : Work) :
    owed (tasks ++ [⟨t, work⟩]) = owed tasks ++ work.setback?.toList := by
  rw [owed, List.filterMap_append]
  cases work <;> rfl

/-- A task that is dropped takes what it owed with it. -/
theorem Numbered.owed_drop {tasks : List Task} {next t : TaskId} (h : Numbered tasks next)
    {task : Task} (held : tasks.find? (·.id == t) = some task) :
    List.Perm (owed tasks) (task.work.setback?.toList ++ owed (tasks.filter (·.id != t))) := by
  have own : task.id = t := by simpa using List.find?_some held
  have dropped := h.filterMap_drop (·.work.setback?) (List.mem_of_find?_eq_some held)
  rw [own] at dropped
  exact dropped

/-- The requests that failed because a connection could not be made are as many as the failed
attempts they failed for. -/
theorem length_struck (history : List Event) :
    (struck history).length = (breakdowns history).countP (·.2.isConnectionFailure) := by
  rw [struck, breakdowns, List.length_filterMap_eq_countP, List.countP_filterMap]
  apply List.countP_congr
  rintro ev -
  cases ev with
  | failed d e cause => cases cause <;> exact Iff.rfl
  | _ => exact Iff.rfl

namespace Client

variable {allowed : Client → Operation → Prop} {w w' : Client} {d : DestinationId}
  {D : Destination} {error : TransportError} {t : TaskId}

/-! ## The matching -/

/-- The failed attempts are, one to one, those that requests are about to fail for, those that
requests failed for, those that failed nothing, and those whose tasks were not run yet. -/
def Matched (w : Client) : Prop :=
  List.Perm (setbacks w.attempts)
    (striking w.agenda ++ struck w.history ++ sparings w.history ++ owed w.tasks)

/-- An attempt that ends is added, if it was made for the pool and failed. -/
theorem perm_setbacks_conclude {a : AttemptId} {attempt : Attempt}
    (underWay : w.attempts[a]? = some attempt) (unsettled : attempt.outcome = none) (o : Outcome) :
    List.Perm (setbacks (w.conclude a attempt o).attempts)
      (({ attempt with outcome := some o } : Attempt).setback?.toList ++ setbacks w.attempts) := by
  obtain ⟨before, after, old, new⟩ := split_of_set underWay { attempt with outcome := some o }
  have goesOn : attempt.setback? = none := by rw [Attempt.setback?, unsettled]
  simp only [conclude, setbacks]
  rw [new, old, List.filterMap_append, List.filterMap_append, List.filterMap_cons,
    List.filterMap_cons, goesOn]
  cases ({ attempt with outcome := some o } : Attempt).setback? with
  | none => exact .refl _
  | some s => exact List.perm_middle

namespace Matched

theorem push_silent (h : w.Matched) {fs : List Frame} (silent : ∀ f ∈ fs, f.setback? = none) :
    (w.push fs).Matched := by
  have same : striking (fs ++ w.agenda) = striking w.agenda := by
    rw [striking, List.filterMap_append, List.filterMap_eq_nil_iff.2 silent]
    rfl
  simp only [Matched, push]
  rw [same]
  exact h

theorem glance (h : w.Matched) : w.glance.Matched := by
  rw [glance_eq]
  exact h

theorem locate (h : w.Matched) (a : Address) : (w.locate a).2.Matched := by
  simp only [Client.locate]
  split <;> exact h

theorem addAttempt (h : w.Matched) (d : DestinationId) (pooled : Bool) :
    (w.addAttempt d pooled).Matched := by
  simp only [Matched, Client.addAttempt]
  rw [setbacks_begun]
  exact h

/-- What is owed names destinations that exist. -/
theorem exists_destination (h : w.Matched) (named : w.Scoped) {s : Setback}
    (there : s ∈ owed w.tasks) : ∃ D, w.destinations[s.1]? = some D := by
  have failed := h.mem_iff.2 (List.mem_append_right _ there)
  obtain ⟨attempt, made, own⟩ := List.mem_filterMap.1 failed
  obtain ⟨a, underWay⟩ := List.mem_iff_getElem?.1 made
  rw [← Attempt.destination_of_setback own]
  exact named.exists_of_attempt underWay

/-- An attempt that ends without a failure for the pool matters to nobody. -/
theorem conclude_silent (h : w.Matched) {a : AttemptId} {attempt : Attempt} {o : Outcome}
    (underWay : w.attempts[a]? = some attempt) (unsettled : attempt.outcome = none)
    (silent : ({ attempt with outcome := some o } : Attempt).setback? = none) :
    (w.conclude a attempt o).Matched := by
  have ended := perm_setbacks_conclude underWay unsettled o
  rw [silent] at ended
  exact ended.trans h

/-- A failed attempt for the pool comes with a task. -/
theorem conclude_failed (h : w.Matched) {a : AttemptId} {attempt : Attempt}
    (underWay : w.attempts[a]? = some attempt) (unsettled : attempt.outcome = none)
    (pooled : attempt.pooled = true) (error : TransportError) :
    ((w.conclude a attempt (.failed error)).addTask
      (.failHead attempt.destination error)).Matched := by
  have ended := perm_setbacks_conclude underWay unsettled (.failed error)
  have own : ({ attempt with outcome := some (.failed error) } : Attempt).setback? =
      some (attempt.destination, error) := by
    simp only [Attempt.setback?, pooled]
  -- the failure stands first among the attempts and last among the tasks
  have grown := (h.cons (attempt.destination, error)).trans (List.perm_append_singleton _ _).symm
  rw [List.append_assoc] at grown
  rw [own] at ended
  simp only [Matched, addTask]
  rw [owed_add]
  exact ended.trans grown

/-- A task that is dropped owes what it owed no more. -/
theorem dropTask (h : w.Matched) (numbered : Numbered w.tasks w.nextTask) {task : Task}
    (held : w.tasks.find? (·.id == t) = some task) :
    List.Perm (setbacks w.attempts)
      (task.work.setback?.toList ++ (striking w.agenda ++ struck w.history ++ sparings w.history ++
        owed (w.dropTask t).tasks)) := by
  have dropped := h.trans ((numbered.owed_drop held).append_left _)
  cases work : task.work.setback? with
  | none =>
      rw [work] at dropped
      exact dropped
  | some s =>
      rw [work] at dropped
      exact dropped.trans List.perm_middle

end Matched

/-! ## Steps -/

/-- A turn keeps the matching: a request that was about to fail has failed. -/
theorem Turned.matched {f : Frame} (turn : Turned f w w') (named : (w.push [f]).Scoped)
    (h : (w.push [f]).Matched) : w'.Matched := by
  cases turn with
  | call c | within c | finish op | takeNone here nothing | acquireFull here nothing full
  | parkSurplus here empty full | acquireIdle here head | takeIdle here head
  | removeLast here empty | removeMore here waiting | passOver here head marked
  | assign here head unmarked => exact h
  | fail d e cause =>
      have silent : ∀ f ∈ (((w.record (.failed d e cause)).countFate cause).failureCalls e
          cause).map Frame.call, f.setback? = none := by
        intro f told
        obtain ⟨c, -, rfl⟩ := List.mem_map.1 told
        rfl
      apply Matched.push_silent _ silent
      cases cause with
      | aborted reason | closed => exact h
      | unconnected error =>
          -- what was about to happen has happened
          exact h.trans ((List.perm_middle.symm.append_right _).append_right _)
  | adrift names missing =>
      obtain ⟨D, here⟩ := named.exists_of_frame names
      cases missing.symm.trans here
  | acquireNew here nothing free =>
      have before : w.Matched := h
      exact before.addAttempt _ true
  | parkIdle here empty room runs | parkStopped here empty room stopped =>
      have before : w.Matched := h
      exact before.glance
  | assignDeferred here head unmarked =>
      simp only [Matched, addTask, record, putDestination]
      rw [owed_add, Work.setback?, Option.toList_none, List.append_nil]
      exact h
  | closeIdle here | closeActive here | failQueued here =>
      have before : w.Matched := h
      exact before.push_silent (by simp [or_imp, forall_and, Frame.setback?])

theorem Sent.matched {r : Request} {l : ListenerId} {reply : Reply}
    (sent : Sent d D r l w reply w') (h : w.Matched) : w'.Matched := by
  have drawn : w.glance.drawTicket.glance.Matched := Matched.glance h.glance
  cases sent with
  | mismatched error => exact h
  | stopped meant stopped | full meant runs full => exact h.glance
  | takenBack meant runs room stops found => exact drawn
  | accepted meant runs room stillRuns =>
      exact drawn.push_silent (by simp [or_imp, forall_and, Frame.setback?])

/-- The start of an operation keeps the matching: an attempt that fails leaves a task, and a task
that is run is about to fail a request or finds none. -/
theorem Started.matched {op : Operation} {reply : Reply} (start : Started op w reply w')
    (named : w.Scoped) (numbered : Numbered w.tasks w.nextTask) (h : w.Matched) : w'.Matched := by
  cases start with
  | send here sent => exact sent.matched h
  | submit runs meets here sent => exact sent.matched (h.glance.locate _)
  | submitAdrift runs meets missing => exact h.glance.locate _
  | locate meets => exact h.locate _
  | submitStopped stopped | submitUnsupported runs nowhere | releaseStopped here stopped
  | releaseStray here runs nothing | release here runs found => exact h.glance
  | connect here => exact h.addAttempt _ false
  | settleConnected underWay unsettled pooled | settleAbandoned underWay unsettled pooled =>
      exact h.conclude_silent underWay unsettled rfl
  | settleFailed underWay unsettled pooled here =>
      exact h.conclude_failed underWay unsettled pooled _
  | settleAdrift underWay unsettled pooled missing =>
      obtain ⟨D, here⟩ := named.exists_of_attempt underWay
      cases missing.symm.trans here
  | @settleUnpooled _ a attempt o underWay unsettled unpooled =>
      exact h.conclude_silent underWay unsettled (by
        rw [Attempt.setback?, unpooled]
        cases o <;> rfl)
  | deliver held work =>
      have dropped := h.dropTask numbered held
      rw [work] at dropped
      exact dropped
  | @failHeadAdrift _ t task d error held work missing =>
      -- what a task owes comes from an attempt, which was made for a destination that exists
      have there : (d, error) ∈ owed w.tasks :=
        List.mem_filterMap.2 ⟨task, List.mem_of_find?_eq_some held, by rw [work]; rfl⟩
      obtain ⟨D, here⟩ := h.exists_destination named there
      cases missing.symm.trans here
  | spare held work here empty =>
      -- what the task owed is noted as spared
      have dropped := h.dropTask numbered held
      rw [work] at dropped
      exact dropped.trans (List.perm_middle.symm.append_right _)
  | failHead held work here head =>
      -- what the task owed is about to strike the head of the queue
      have dropped := h.dropTask numbered held
      rw [work] at dropped
      exact dropped
  | stop =>
      apply h.push_silent
      intro f hf
      obtain ⟨r, -, rfl⟩ := List.mem_map.1 hf
      rfl
  | _ => exact h

/-- In every client that is reached, failed attempts are matched one to one. -/
theorem Reached.matched (run : Reached allowed w) : w.Matched := by
  apply run.invariant (P := Matched)
  · intro w new
    cases new <;> exact .refl _
  · intro f w w' past h turn
    exact turn.matched past.scoped h
  · intro c w h
    exact h
  · intro op reply w w' past _ _ h start
    have framed : (w.push [.finish op]).Scoped := past.scoped.push (by simp [Frame.destination?])
    exact start.matched framed past.numbered h

/-! ## What a failed attempt does, and what its task does -/

/-- What it does that the attempt `a` for the pool of `d` fails: before the executor is called, the
attempt has failed, its slot is given back, and a task with its error is held. As long as that task
is held, it is this one. -/
structure SetsBack (w : Client) (a : AttemptId) (d : DestinationId) (D : Destination)
    (error : TransportError) : Prop where
  gives : ∃ slots : SlotCounter, slots.limit = D.slots.limit ∧ slots.used = D.slots.used - 1 ∧
    w.invoke (.settle a (.failed error)) = (.done, { w with
      destinations := w.destinations.set d { D with slots := slots }
      attempts := w.attempts.set a ⟨d, true, some (.failed error)⟩
      metrics.connectionFailures := w.metrics.connectionFailures + 1
      tasks := w.tasks ++ [⟨w.nextTask, .failHead d error⟩]
      nextTask := w.nextTask + 1
      agenda := .call (.execute w.nextTask) :: .finish (.settle a (.failed error)) :: w.agenda
      history := .invoked (.settle a (.failed error)) .done :: w.history })
  keeps : ∀ past v, Course Anything (w.invoke (.settle a (.failed error))).2 past v →
    ∀ task ∈ v.tasks, task.id = w.nextTask → task.work = .failHead d error

/-- What it does to run a task that is to fail the head of the queue of `d` for `error`: the head is
taken off and fails, and then the request listeners are told in order, and its own listener of the
failure and of the result (`fails`); an empty queue is noted (`spares`). Nothing is held under the
task's identity again. -/
structure FailsHead (w : Client) (t : TaskId) (d : DestinationId) (D : Destination)
    (error : TransportError) : Prop where
  fails : ∀ e left, D.queue.items = e :: left → ∃ queue : BoundedQueue Exchange,
    queue.items = left ∧ queue.capacity = D.queue.capacity ∧
    (w.invoke (.perform t)).1 = .done ∧
    (w.invoke (.perform t)).2.turn = { w with
      destinations := w.destinations.set d { D with queue := queue }
      tasks := w.tasks.filter (·.id != t)
      agenda := (alarmCalls w.listeners e (.connectionFailed error)).map .call ++
        .finish (.perform t) :: w.agenda
      history := .failed d e (.unconnected error) :: .invoked (.perform t) .done :: w.history }
  spares : D.queue.items = [] → w.invoke (.perform t) = (.done, { w with
    tasks := w.tasks.filter (·.id != t)
    agenda := .finish (.perform t) :: w.agenda
    history := .invoked (.perform t) .done :: .spared d error :: w.history })
  drops : ∀ past v, Course Anything (w.invoke (.perform t)).2 past v →
    ∀ task ∈ v.tasks, task.id ≠ t

theorem start_settle_failed {a : AttemptId} (underWay : w.attempts[a]? = some ⟨d, true, none⟩)
    (here : w.destinations[d]? = some D) (error : TransportError) :
    w.start (.settle a (.failed error)) = (.done,
      ((({ w with attempts := w.attempts.set a ⟨d, true, some (.failed error)⟩ } :
        Client).putDestination d { D with slots := D.slots.release }).countFailure.addTask
          (.failHead d error))) := by
  rw [start, underWay]
  simp only [if_true, settlePooled, here]

theorem start_perform_failHead (held : w.tasks.find? (·.id == t) = some ⟨t, .failHead d error⟩)
    (here : w.destinations[d]? = some D) {e : Exchange} {queue : BoundedQueue Exchange}
    (head : D.queue.poll = some (e, queue)) : w.start (.perform t) = (.done,
      ((w.dropTask t).putDestination d { D with queue := queue }).push
        [.fail d e (.unconnected error)]) := by
  rw [start, held]
  simp only [here, head]
  rfl

theorem start_perform_spare (held : w.tasks.find? (·.id == t) = some ⟨t, .failHead d error⟩)
    (here : w.destinations[d]? = some D) (empty : D.queue.poll = none) :
    w.start (.perform t) = (.done, (w.dropTask t).record (.spared d error)) := by
  rw [start, held]
  simp only [here, empty]
  rfl

theorem Reached.setsBack (run : Reached Anything w) {a : AttemptId}
    (underWay : w.attempts[a]? = some ⟨d, true, none⟩) (here : w.destinations[d]? = some D)
    (error : TransportError) : w.SetsBack a d D error := by
  have begun := start_settle_failed (w := w.push [.finish (.settle a (.failed error))]) underWay
    here error
  constructor
  · exact ⟨D.slots.release, rfl, rfl, invoke_of_start begun⟩
  · intro past v course
    rw [invoke_of_start begun] at course
    -- the task is new, so it is the only one of its identity
    refine course.tasks_kept (Nat.lt_succ_self _) fun task held own => ?_
    rcases List.mem_append.1 held with old | new
    · exact absurd own (Nat.ne_of_lt (run.numbered.below task old))
    · rw [List.mem_singleton.1 new]

theorem Reached.failsHead (run : Reached Anything w) (there : ⟨t, .failHead d error⟩ ∈ w.tasks)
    (here : w.destinations[d]? = some D) : w.FailsHead t d D error := by
  have held := run.find_task there
  constructor
  · intro e left items
    obtain ⟨queue, head, rest, capacity⟩ := BoundedQueue.poll_of_items items
    have begun : w.invoke (.perform t) = (.done, { w with
        destinations := w.destinations.set d { D with queue := queue }
        tasks := w.tasks.filter (·.id != t)
        agenda := .fail d e (.unconnected error) :: .finish (.perform t) :: w.agenda
        history := .invoked (.perform t) .done :: w.history }) :=
      invoke_of_start (start_perform_failHead (w := w.push [.finish (.perform t)]) held here head)
    rw [begun]
    refine ⟨queue, rest, capacity, rfl, ?_⟩
    rw [turn_fail rfl]
    rfl
  · intro items
    have empty := BoundedQueue.poll_eq_none_iff.2 items
    exact invoke_of_start (start_perform_spare (w := w.push [.finish (.perform t)]) held here empty)
  · exact fun past v course => run.dropped there course

/-- Between two outermost steps, the attempts for the pool that failed are as many as the requests
that were failed because a connection could not be made, the tasks that found an empty queue, and
the tasks that were not run yet. -/
theorem Reached.length_setbacks (run : Reached allowed w) (quiet : w.agenda = []) :
    (setbacks w.attempts).length =
      (conclusions (made w.history)).countP (·.2.isConnectionFailure) +
        (sparings w.history).length + (owed w.tasks).length := by
  have matched := run.matched.length_eq
  have told := (run.conclusions_perm_breakdowns quiet).countP_eq (·.2.isConnectionFailure)
  rw [quiet, List.length_append, List.length_append, List.length_append, length_struck,
    ← told] at matched
  have nothing : (striking []).length = 0 := rfl
  omega

/-- Failed attempts are matched one to one, and between two outermost steps nothing is about to
fail, so they add up. The slot is given back when the attempt fails, whenever that is (`SetsBack`);
its task fails the exchange that is at the head of the queue when it runs, or none (`FailsHead`). -/
theorem Reached.fails_one_each (run : Reached Anything w) :
    w.Matched ∧
    (w.agenda = [] → (setbacks w.attempts).length =
      (conclusions (made w.history)).countP (·.2.isConnectionFailure) +
        (sparings w.history).length + (owed w.tasks).length) ∧
    (∀ a d error, w.attempts[a]? = some ⟨d, true, none⟩ →
      ∃ D, w.destinations[d]? = some D ∧ w.SetsBack a d D error) ∧
    ∀ t d error, ⟨t, .failHead d error⟩ ∈ w.tasks →
      ∃ D, w.destinations[d]? = some D ∧ w.FailsHead t d D error := by
  refine ⟨run.matched, run.length_setbacks, ?_, ?_⟩
  · intro a d error underWay
    obtain ⟨D, here⟩ := run.scoped.exists_of_attempt underWay
    exact ⟨D, here, run.setsBack underWay here error⟩
  · intro t d error there
    have owes : (d, error) ∈ owed w.tasks := List.mem_filterMap.2 ⟨_, there, rfl⟩
    obtain ⟨D, here⟩ := run.matched.exists_destination run.scoped owes
    exact ⟨D, here, run.failsHead there here⟩

/-- The watched client after three attempts failed. The task of the first one failed a request, that
of the second one found an empty queue, and that of the third one was not run yet. A fourth attempt
is under way. -/
def watchedSetBack : Client :=
  let w := (watchedWaiting.invoke (.settle 0 (.failed ⟨"ConnectionRefused", "refused"⟩))).2.settle
  let w := (w.invoke (.perform 0)).2.settle
  let w := (w.invoke (.send 0 (narrowRequest 1) 0)).2.settle
  let w := (w.invoke (.settle 1 (.failed ⟨"ConnectionReset", "reset"⟩))).2.settle
  let w := (w.invoke (.abort 0 1 "gone")).2.settle
  let w := (w.invoke (.perform 1)).2.settle
  let w := (w.invoke (.send 0 (narrowRequest 2) 0)).2.settle
  let w := (w.invoke (.settle 2 (.failed ⟨"TimedOut", "late"⟩))).2.settle
  (w.invoke (.send 0 (narrowRequest 3) 0)).2.settle

theorem reached_watchedSetBack : Reached Anything watchedSetBack := by
  have refused := (reached_watchedWaiting.invoke
    (.settle 0 (.failed ⟨"ConnectionRefused", "refused"⟩)) (by decide) trivial).settle
  have failed := (refused.invoke (.perform 0) (by decide) trivial).settle
  have second := (failed.invoke (.send 0 (narrowRequest 1) 0) (by decide) trivial).settle
  have reset := (second.invoke (.settle 1 (.failed ⟨"ConnectionReset", "reset"⟩)) (by decide)
    trivial).settle
  have gone := (reset.invoke (.abort 0 1 "gone") (by decide) trivial).settle
  have spared := (gone.invoke (.perform 1) (by decide) trivial).settle
  have third := (spared.invoke (.send 0 (narrowRequest 2) 0) (by decide) trivial).settle
  have late := (third.invoke (.settle 2 (.failed ⟨"TimedOut", "late"⟩)) (by decide) trivial).settle
  exact (late.invoke (.send 0 (narrowRequest 3) 0) (by decide) trivial).settle

/-- There each failed attempt is matched in its own way, the fourth one may fail yet, and the task
that was not run yet is going to fail the third request. -/
theorem watchedSetBack_matched : Reached Anything watchedSetBack ∧
    struck watchedSetBack.history = [(0, ⟨"ConnectionRefused", "refused"⟩)] ∧
    sparings watchedSetBack.history = [(0, ⟨"ConnectionReset", "reset"⟩)] ∧
    owed watchedSetBack.tasks = [(0, ⟨"TimedOut", "late"⟩)] ∧ watchedSetBack.Matched ∧
    (setbacks watchedSetBack.attempts).length =
      (conclusions (made watchedSetBack.history)).countP (·.2.isConnectionFailure) + 1 + 1 ∧
    ∃ D, watchedSetBack.destinations[0]? = some D ∧
      D.queue.items = [⟨2, narrowRequest 2, 0⟩, ⟨3, narrowRequest 3, 0⟩] ∧
      watchedSetBack.SetsBack 3 0 D ⟨"HostUnreachable", "gone"⟩ ∧
      watchedSetBack.FailsHead 2 0 D ⟨"TimedOut", "late"⟩ := by
  have run := reached_watchedSetBack
  obtain ⟨matched, counted, setsBack, failsHead⟩ := run.fails_one_each
  obtain ⟨D, here, failing⟩ := setsBack 3 0 ⟨"HostUnreachable", "gone"⟩ (by decide)
  obtain ⟨D', here', running⟩ := failsHead 2 0 ⟨"TimedOut", "late"⟩ (by decide)
  cases here.symm.trans here'
  have known : watchedSetBack.destinations[0]? =
      some (watchedSetBack.destinations.get ⟨0, by decide⟩) := List.getElem?_eq_getElem _
  cases here.symm.trans known
  exact ⟨run, by decide, by decide, by decide, matched, counted (by decide), _, here, by decide,
    failing, running⟩

end Client

end ConnectionPool
