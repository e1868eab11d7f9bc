import ConnectionPool.Proofs.Client.Bookkeeping
import ConnectionPool.Proofs.Loopback.Rest

/-!
# Results that are still to come

In a simulation that serves, every request that was queued has had its result, or it waits, or it
was handed over and is on its way or left to a task. Main statements: these add up
(`Simulation.Serves.balance`), and as long as some result is missing while no job is ready, some
job sleeps (`Simulation.Serves.sleeper`).
-/

set_option autoImplicit false

namespace ConnectionPool

/-- A result that the client hands over is that of an exchange that failed. -/
def Ledger.ConcludesFailures (s : Ledger) : Prop :=
  ∀ e result, .completed e result ∈ s.calls → ∃ cause, result = .ofCause e.request cause

theorem Ledger.ConcludesFailures.entry {s s' : Ledger} (h : s.ConcludesFailures)
    (entry : s.Entry s') : s'.ConcludesFailures := by
  have above {cs : List Call} (plain : Plain cs) {e : Exchange} {result : ExchangeResult} :
      .completed e result ∉ cs := fun there => by cases plain _ there
  intro e result there
  cases entry with
  | make next => exact h e result (next ▸ List.mem_cons_of_mem _ there)
  | ask plain | accept d r l plain =>
      exact h e result ((List.mem_append.1 there).resolve_left (above plain))
  | fail d e' cause plain =>
      rcases List.mem_cons.1 ((List.mem_append.1 there).resolve_left (above plain)) with
        other | there
      · cases other
      · rcases List.mem_cons.1 there with own | old
        · cases own
          exact ⟨cause, rfl⟩
        · exact h e result old
  | assign d c e' | assignDeferred d c e' | leaveFailure d error | deliver held work =>
      rcases List.mem_cons.1 there with other | old
      · cases other
      · exact h e result old
  | _ => exact h e result there

theorem Client.Reached.completed_of_cause {allowed : Client → Operation → Prop} {w : Client}
    (run : Reached allowed w) {e : Exchange} {result : ExchangeResult}
    (calls : .call (.completed e result) ∈ w.agenda) : ∃ cause, result = .ofCause e.request cause :=
  run.ledger (P := Ledger.ConcludesFailures) (fun _ _ => nofun) (fun h entry => h.entry entry)
    (fun _ _ h => h) e result (mem_callsOf.2 calls)

namespace Loopback

open Notifier (Notice)

/-- The results that listeners have received. -/
def Transport.completions (t : Transport) : Nat :=
  t.notes.countP fun n =>
    match n.notice with
    | .complete _ => true
    | _ => false

theorem completions_of_notes {t t' : Transport} (same : t'.notes = t.notes) :
    t'.completions = t.completions := by
  rw [Transport.completions, same]
  rfl

/-- A call that hands over the result of a failure is a conclusion, and no other call hands a result
over. -/
theorem completions_called {c : Call} (failure : ∀ e result, c = .completed e result →
      ∃ cause, result = .ofCause e.request cause) (w : Client) (t : Transport) :
    (Transport.called w c t).completions = t.completions + (conclusions [c]).length := by
  cases c with
  | connect d a =>
      simp only [Transport.called]
      split <;> rfl
  | completed e result =>
      obtain ⟨cause, rfl⟩ := failure e result rfl
      exact List.countP_cons_of_pos rfl
  | _ => rfl

namespace Simulation

variable {s : Simulation}

/-- A job that completes an exchange is noted by one result, and no other job is. -/
theorem Serves.completions_of_done (serves : Serves s) {before after : List Turn} {j : Turn}
    (next : s.transport.ready = before ++ j :: after) {t : Transport} {op : Option Operation}
    (done : Done { s with transport := { s.transport with ready := before ++ after } } j.job t op) :
    t.completions = s.transport.completions + j.job.pairing?.toList.length ∧
      total (·.exchanges) t.links =
        total (·.exchanges) s.transport.links + j.job.pairing?.toList.length := by
  rcases serves.arrives next done with
    ⟨none, op, rfl, -, -, same⟩ | ⟨c, e, link, d, own, here, -, links, ends⟩
  · rw [none]
    refine ⟨?_, same⟩
    generalize j.job = job at done none
    cases done with
    | returned here opened home => cases none
    | _ => rfl
  · have more := total_set (fun l : Link => l.exchanges) here
      { link with exchanges := link.exchanges + 1 }
    rw [links, own]
    rw [own] at done
    refine ⟨?_, ?_⟩
    · rcases ends with ⟨panics, -⟩ | ⟨-, rfl⟩
      · cases panics
      · cases done with
        | returned => exact List.countP_cons_of_pos rfl
    · dsimp only [Job.pairing?, Option.toList, List.length_singleton] at more ⊢
      omega

/-- Results come from connections that complete an exchange, and from exchanges that the client has
concluded. -/
def Sourced (w : Client) (t : Transport) : Prop :=
  t.completions = (conclusions (made w.history)).length + total (·.exchanges) t.links

theorem keeps_sourced : Keeps Serves Serving Sourced where
  moved _ moved h := by
    rw [Sourced, completions_of_notes moved.notes, moved.links]
    exact h
  command _ _ h := by
    rw [Sourced, Client.made_invoke]
    exact h
  done {w t before j after t' op} past next done h := by
    obtain ⟨completions, exchanges⟩ := past.completions_of_done next done
    have h : t.completions = _ := h
    rw [Sourced, Client.made_begun, completions, exchanges]
    dsimp only
    omega
  drives := by
    constructor
    · intro f v v' t _ turn uncalled h
      rw [Sourced, turn.made uncalled]
      exact h
    · intro c v t run h
      have split : made (v.record (.called c)).history = made v.history ++ [c] := made_called c _
      have failure : ∀ e result, c = .completed e result →
          ∃ cause, result = .ofCause e.request cause := by
        rintro e result rfl
        exact run.completed_of_cause List.mem_cons_self
      have h : t.completions = (conclusions (made v.history)).length + _ := h
      rw [Sourced, completions_called failure, exchanges_called, split, conclusions_append,
        List.length_append]
      omega

theorem Serves.sourced (serves : Serves s) : Sourced s.client s.transport := by
  refine serves.keeps (fun new _ _ => ?_) keeps_sourced
  cases new <;> rfl

/-- In a simulation that serves, each request that was queued has had its result, or it is on its
way, or it is left to a task, or it waits. -/
theorem Serves.balance (serves : Serves s) :
    s.transport.completions + s.transport.carrying.length + (deferred s.client.tasks).length +
      s.client.queued = s.client.metrics.requestsQueued := by
  have run := serves.run.client
  have quiet := serves.run.quiet
  have sourced : s.transport.completions = _ := serves.sourced
  have tallied : _ + s.transport.carrying.length = _ := serves.tallied
  have concluded := (run.conclusions_perm_breakdowns quiet).length_eq
  have handed := run.length_assignments quiet
  have dealt : s.client.dealt = s.client.queued + (failing s.client.agenda).length +
    (taken s.client.history).length + (failed s.client.history).length := rfl
  have nothing : (failing []).length = 0 := rfl
  rw [quiet, length_taken, length_failed, nothing, handed, List.length_append] at dealt
  rw [run.requestsQueued, dealt]
  omega

/-- While no job is ready, nothing is left to tasks. -/
theorem Reached.deferred_nil {allowed : Operation → Prop} (run : Reached allowed s)
    (idle : s.transport.ready = []) : deferred s.client.tasks = [] := by
  have none : s.client.tasks = [] := List.eq_nil_iff_forall_not_mem.2 fun task held => by
    have waits := run.task_ready task held
    rw [idle] at waits
    cases waits
  rw [none]
  rfl

/-- As long as some result is missing while no job is ready, some job sleeps. -/
theorem Serves.sleeper (serves : Serves s) (allows : 1 ≤ s.client.limits.connections)
    (idle : s.transport.ready = [])
    (missing : s.transport.completions < s.client.metrics.requestsQueued) :
    s.transport.sleeping ≠ [] := by
  intro none
  -- every job is done, so no exchange waits or is on its way
  have settled : s.Settled := ⟨idle, none⟩
  have balance := serves.balance
  have waiting : s.client.queued = 0 := by
    refine Nat.le_zero.1 (total_le_mul (n := 0) fun D there => ?_)
    obtain ⟨d, here⟩ := List.mem_iff_getElem?.1 there
    rw [serves.queue_nil allows settled here]
    exact Nat.le_refl 0
  rw [settled.carrying, serves.run.deferred_nil idle, waiting] at balance
  have sum : s.transport.completions + 0 + 0 + 0 = _ := balance
  omega

end Simulation

end Loopback

end ConnectionPool
