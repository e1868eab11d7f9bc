import Mathlib.Data.List.Nodup
import ConnectionPool.Proofs.Client.Errands
import ConnectionPool.Proofs.Client.Uninterrupted
import ConnectionPool.Proofs.Exchange.Handover

/-!
# Tasks are run once

A piece of work that is left to the executor is held under an identity of its own. As long as it is
held its work stays the same, and once it was run nothing is held under that identity again. Main
statements: what is said of the tasks of one identity goes on to hold (`Course.tasks_kept`); to run
a task that delivers makes its one call and drops it (`Reached.deliver`), for good
(`Reached.dropped`).
-/

set_option autoImplicit false

namespace ConnectionPool

/-- New tasks have new identities, so what holds of the tasks of an old one goes on to hold. -/
theorem Ledger.Entry.tasks_kept {s s' : Ledger} (entry : s.Entry s') {t : TaskId}
    {P : Task → Prop} (old : t < s.nextTask) (each : ∀ task ∈ s.tasks, task.id = t → P task) :
    t < s'.nextTask ∧ ∀ task ∈ s'.tasks, task.id = t → P task := by
  have added (work : Work) : ∀ task ∈ s.tasks ++ [⟨s.nextTask, work⟩], task.id = t → P task := by
    intro task there own
    rcases List.mem_append.1 there with before | new
    · exact each task before own
    · rw [List.mem_singleton.1 new] at own
      exact absurd own (Nat.ne_of_gt old)
  cases entry with
  | assignDeferred d c e => exact ⟨Nat.lt_succ_of_lt old, added _⟩
  | leaveFailure d error => exact ⟨Nat.lt_succ_of_lt old, added _⟩
  | deliver held work | failHead held work | spare held work =>
      exact ⟨old, fun task there => each task (List.mem_filter.1 there).1⟩
  | _ => exact ⟨old, each⟩

namespace Client

variable {allowed : Client → Operation → Prop} {w v : Client} {past : List Client} {t : TaskId}

/-- What holds of the tasks of one identity goes on to hold on the further course of a run. -/
theorem Course.tasks_kept {P : Task → Prop} (course : Course allowed w past v)
    (old : t < w.nextTask) (each : ∀ task ∈ w.tasks, task.id = t → P task) :
    ∀ task ∈ v.tasks, task.id = t → P task := by
  have kept : t < v.nextTask ∧ ∀ task ∈ v.tasks, task.id = t → P task := by
    refine course.keeps (P := fun v => t < v.nextTask ∧ ∀ task ∈ v.tasks, task.id = t → P task)
      ?_ ⟨old, each⟩
    intro u u' h next
    -- a step is one entry, and the start of an operation is noted after it
    obtain ⟨mid, entry, same | ⟨op, reply, noted, -⟩⟩ := next.ledger
    · have still := entry.tasks_kept h.1 h.2
      rw [← same] at still
      exact still
    · have still := entry.tasks_kept h.1 h.2
      have tasks : u'.tasks = mid.tasks := congrArg Ledger.tasks noted
      have next : u'.nextTask = mid.nextTask := congrArg Ledger.nextTask noted
      rw [tasks, next]
      exact still
  exact kept.2

/-- A task that is held is the one that is found under its identity. -/
theorem Reached.find_task (run : Reached allowed w) {work : Work} (there : ⟨t, work⟩ ∈ w.tasks) :
    w.tasks.find? (·.id == t) = some ⟨t, work⟩ := by
  cases found : w.tasks.find? (·.id == t) with
  | none => exact absurd (List.find?_eq_none.1 found _ there) (by simp)
  | some task =>
      have own : task.id = t := by simpa using List.find?_some found
      have held := List.mem_of_find?_eq_some found
      exact congrArg some (List.inj_on_of_nodup_map run.numbered.apart held there own)

/-- Once a task was run, nothing is held under its identity again. -/
theorem Reached.dropped (run : Reached allowed w) {work : Work} (there : ⟨t, work⟩ ∈ w.tasks)
    (course : Course allowed (w.invoke (.perform t)).2 past v) : ∀ task ∈ v.tasks, task.id ≠ t := by
  have tasks : (w.invoke (.perform t)).2.tasks = w.tasks.filter (·.id != t) :=
    tasks_perform (w.push [.finish (.perform t)]) t
  have old : t < (w.invoke (.perform t)).2.nextTask := by
    have entry := (started_start (.perform t) (w.push [.finish (.perform t)])).ledger
    exact (entry.tasks_kept (P := fun _ => True) (run.numbered.below _ there)
      fun _ _ _ => trivial).1
  -- no task of this identity is held now, so what is said of them is empty
  refine course.tasks_kept old fun task held own => ?_
  rw [tasks] at held
  exact absurd own (bne_iff_ne.1 (List.mem_filter.1 held).2)

theorem start_deliver {c : ConnectionId} {e : Exchange}
    (held : w.tasks.find? (·.id == t) = some ⟨t, .deliver c e⟩) :
    w.start (.perform t) = (.done, (w.dropTask t).push [.call (.send c e)]) := by
  rw [start, held]
  rfl

/-- To run a task that delivers hands its exchange to its connection, and does nothing else. -/
theorem Reached.deliver (run : Reached allowed w) (waits : w.awaits = true) {c : ConnectionId}
    {e : Exchange} (there : ⟨t, .deliver c e⟩ ∈ w.tasks) :
    (w.invoke (.perform t)).2.settle = { w with
      tasks := w.tasks.filter (·.id != t)
      history := .returned (.perform t) :: .called (.send c e) ::
        .invoked (.perform t) .done :: w.history } := by
  have held := run.find_task there
  have begun : w.invoke (.perform t) = (.done, { w with
      tasks := w.tasks.filter (·.id != t)
      agenda := .call (.send c e) :: .finish (.perform t) :: w.agenda
      history := .invoked (.perform t) .done :: w.history }) :=
    invoke_of_start (start_deliver (w := w.push [.finish (.perform t)]) held)
  rw [begun]
  exact ((leadsTo_call rfl).trans (leadsTo_finish rfl)).settle waits

end Client

end ConnectionPool
