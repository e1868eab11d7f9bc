import Mathlib.Data.List.Nodup
import Mathlib.Data.List.Perm.Subperm
import ConnectionPool.Proofs.Exchange.Handover
import ConnectionPool.Proofs.Loopback.Jobs

/-!
# Simulations settle

What the transport has still to do is priced: each job by the jobs that it can lead to, each frame
by the calls that it can lead to, and each waiting exchange by the connection, the task and the
exchange that it takes to be answered (`errandTariff`). Carrying out an agenda does not raise the
price of what is left, a job that goes to sleep leaves less on the run queue, and a job that is done
leaves less altogether. Main statements: running the queue empties it
(`Simulation.Reached.ready_nil`), and as time passes the last job is done
(`Simulation.Reached.settles`).
-/

set_option autoImplicit false

namespace ConnectionPool

/-- What the client may still have the transport do: each call is worth the job that it asks for,
and a waiting exchange a task and an exchange that is sent. -/
def errandTariff : Tariff where
  frame
    | .call (.connect _ _) => 2
    | .call (.send _ _) => 3
    | .call (.execute _) => 1
    | .acquire _ => 2
    | .remove _ _ => 2
    | _ => 0
  queued := 4
  idle := 0
  active := 0
  work
    | .deliver _ _ => 3
    | .failHead _ _ => 0

/-- What a job may lead to, itself included. -/
def Loopback.Job.weight : Loopback.Job → Nat
  | .connect _ _ _ => 2
  | .exchange _ _ => 3
  | .task _ => 1

namespace Client

variable {w w' : Client}

theorem failureCalls_free (w : Client) (e : Exchange) (cause : Cause) :
    total errandTariff.frame ((w.failureCalls e cause).map .call) = 0 := by
  rw [total_map]
  refine Nat.le_zero.1 (Nat.le_trans (total_le_mul (n := 0) fun c told => ?_) (Nat.le_refl _))
  have guarded := isGuarded_of_mem_failureCalls told
  cases c with
  | connect d a | execute t | send c e | close c => cases guarded
  | _ => exact Nat.le_refl 0

theorem covers_errandTariff (n : Nat) : errandTariff.Covers n 0 where
  finish _ := Nat.zero_le _
  told w d e cause _ := by
    rw [failureCalls_free]
    exact Nat.zero_le _
  adrift _ _ _ := Nat.zero_le _
  found _ _ := Nat.le_refl 0
  sought _ _ := Nat.le_refl 2
  surplus _ _ _ := Nat.le_refl 0
  parked _ _ _ := Nat.le_refl 0
  passedOver _ _ _ := Nat.zero_le 4
  sent _ _ _ := Nat.le_succ 3
  left _ _ _ _ := Nat.le_refl 4
  removed _ _ := Nat.le_refl 2
  closedIdle _ := Nat.le_refl 0
  closedActive _ := Nat.le_refl 0
  hungUp _ := ⟨Nat.le_refl 0, Nat.le_refl 0⟩

/-- A task that is dropped costs nothing more. -/
theorem price_dropTask (p : Tariff) {k : TaskId} {task : Task}
    (held : w.tasks.find? (·.id == k) = some task) :
    p.price (w.dropTask k) + p.work task.work ≤ p.price w := by
  have own : task.id = k := by simpa using List.find?_some held
  have split := total_filter_add (fun t : Task => p.work t.work) (fun t => t.id != k) w.tasks
  have gone : task ∈ w.tasks.filter fun t => !(t.id != k) :=
    List.mem_filter.2 ⟨List.mem_of_find?_eq_some held, by simp [own]⟩
  have costs := le_total_of_mem (fun t : Task => p.work t.work) gone
  simp only [Tariff.price, dropTask]
  omega

/-- What the start of an operation that the transport invokes may add to the price. -/
def reportCost : Operation → Nat
  | .settle _ _ => 1
  | .release _ _ => 2
  | _ => 0

theorem price_putDestination_of_queue {d : DestinationId} {D : Destination}
    (here : w.destinations[d]? = some D) (D' : Destination)
    (fewer : D'.queue.items.length ≤ D.queue.items.length) :
    errandTariff.price (w.putDestination d D') ≤ errandTariff.price w := by
  have changed := price_putDestination (p := errandTariff) here D'
  have pool (D : Destination) : errandTariff.pool D = 4 * D.queue.items.length := by
    simp [Tariff.pool, errandTariff]
  rw [pool, pool] at changed
  omega

/-- The start of an operation that the transport invokes adds little to the price. -/
theorem Started.price_le {op : Operation} {reply : Reply} (start : Started op w reply w')
    (reports : op.isReport = true) :
    errandTariff.price w' ≤ errandTariff.price w + reportCost op := by
  cases start with
  | ignored op => exact Nat.le_add_right _ _
  | releaseStopped here stopped =>
      rw [price_push, price_glance, Nat.add_comm]
      exact Nat.le_refl _
  | releaseStray here runs nothing =>
      rw [price_glance]
      exact Nat.le_add_right _ _
  | @release _ d dest c c' active here runs taken =>
      rw [← destinations_glance] at here
      have same := price_putDestination_of_queue here { dest with active := active } (Nat.le_refl _)
      rw [price_glance] at same
      rw [price_push, total_cons, total_nil]
      exact Nat.le_trans (Nat.le_of_eq (Nat.zero_add _)) (Nat.le_add_right_of_le same)
  | settleConnected underWay unsettled pooled =>
      rw [price_push, price_countCreated, price_conclude, Nat.add_comm]
      exact Nat.le_succ _
  | @settleFailed _ a attempt error dest underWay unsettled pooled here =>
      have same := price_putDestination_of_queue
        (w := w.conclude a attempt (.failed error)) here
        { dest with slots := dest.slots.release } (Nat.le_refl _)
      rw [price_addTask, price_countFailure]
      exact Nat.succ_le_succ same
  | settleAdrift underWay unsettled pooled missing | settleAbandoned underWay unsettled pooled
  | settleUnpooled underWay unsettled unpooled => exact Nat.le_succ _
  | deliver held work =>
      have dropped := price_dropTask errandTariff held
      rw [work] at dropped
      rw [price_push, Nat.add_comm]
      exact dropped
  | failHeadAdrift held work missing | spare held work here empty =>
      exact Nat.le_of_add_right_le (price_dropTask errandTariff held)
  | @failHead _ k task d error dest e queue held work here head =>
      have dropped := Nat.le_of_add_right_le (price_dropTask errandTariff held)
      have fewer : queue.items.length ≤ dest.queue.items.length := by
        rw [BoundedQueue.length_of_poll head]
        exact Nat.le_succ _
      have polled := price_putDestination_of_queue (w := w.dropTask k) here
        { dest with queue := queue } fewer
      rw [price_push]
      exact Nat.le_trans (Nat.le_of_eq (Nat.zero_add _)) (Nat.le_trans polled dropped)
  | _ => cases reports

end Client

namespace Loopback

open Client (reportCost)

/-- What is left for the run queue. -/
def burden (w : Client) (t : Transport) : Nat :=
  errandTariff.price w + total (fun j => j.job.weight) t.ready

/-- What is left for the run queue now and later. -/
def toil (w : Client) (t : Transport) : Nat :=
  burden w t + total (fun x => x.2.weight) t.sleeping

theorem one_le_weight (j : Job) : 1 ≤ j.weight := by
  cases j <;> simp [Job.weight]

theorem weight_le_three (j : Job) : j.weight ≤ 3 := by
  cases j <;> simp [Job.weight]

/-- A job is worth more than what it has the client start. -/
theorem Done.cost {s : Simulation} {j : Job} {t : Transport} {op : Operation}
    (done : Done s j t (some op)) : reportCost op + 1 ≤ j.weight := by
  cases done <;> simp [reportCost, Job.weight]

/-- A call is worth the job that it asks for. -/
theorem weight_called (w : Client) (c : Call) (t : Transport) :
    total (fun j => j.job.weight) (Transport.called w c t).ready ≤
      total (fun j => j.job.weight) t.ready + errandTariff.frame (.call c) := by
  have scheduled (u : Transport) (same : u.ready = t.ready) (j : Job) :
      total (fun j => j.job.weight) (u.schedule j false).ready ≤
        total (fun j => j.job.weight) t.ready + j.weight := by
    rw [Transport.schedule, total_append, same]
    exact Nat.le_refl _
  cases c with
  | connect d a =>
      simp only [Transport.called]
      split
      · exact scheduled _ rfl _
      · exact scheduled _ rfl _
  | execute k | send c e => exact scheduled _ rfl _
  | _ => exact Nat.le_refl _

namespace Simulation

variable {allowed : Operation → Prop} {s : Simulation}

/-- Carrying out an agenda leaves no more for the run queue, and lets nothing sleep. -/
theorem drives_burden (allowed : Client → Operation → Prop) (b : Nat)
    (sleeping : List (Nat × Job)) : Client.Drives allowed Transport.called
      fun w t => burden w t ≤ b ∧ t.sleeping = sleeping where
  turned {f v v' t} _ turn uncalled h := by
    refine ⟨Nat.le_trans (Nat.add_le_add_right ?_ _) h.1, h.2⟩
    rw [Client.price_push, total_cons, total_nil]
    cases f with
    | within c =>
        cases turn with
        | within c =>
            rw [Client.price_push, total_cons, total_nil]
        | adrift names missing => cases names
    | _ =>
        exact turn.price_le (Client.covers_errandTariff v.listeners) rfl uncalled fun _ => nofun
  called {c v t} _ h := by
    refine ⟨Nat.le_trans ?_ h.1, (sleeping_called _ c t).trans h.2⟩
    have joined := weight_called (v.push [.call c]) c t
    rw [burden, burden, Client.price_record, Client.price_push, total_cons, total_nil]
    omega

/-- A job that is done leaves less for the run queue. -/
theorem burden_complete (run : Reached allowed s) {before after : List Turn} {j : Turn}
    (next : s.transport.ready = before ++ j :: after) {s' : Simulation}
    (completes : s' = ({ s with transport :=
      { s.transport with ready := before ++ after } } : Simulation).complete j.job) :
    burden s'.client s'.transport + 1 ≤ burden s.client s.transport ∧
      s'.transport.sleeping = s.transport.sleeping := by
  obtain ⟨t, op, done, same⟩ := done_complete
    { s with transport := { s.transport with ready := before ++ after } } j.job
  rw [same] at completes
  have queue : total (fun j => j.job.weight) s.transport.ready =
      total (fun j => j.job.weight) t.ready + j.job.weight := by
    rw [done.ready, next, total_append, total_append, total_cons]
    omega
  have worth := one_le_weight j.job
  cases op with
  | none =>
      rw [completes]
      refine ⟨?_, done.sleeping⟩
      simp only [carryOn, burden]
      omega
  | some op =>
      -- what the job was worth pays for the operation that it has the client start
      have reports := done.isReport
      have start := Client.started_start op (s.client.push [.finish op])
      have grown : errandTariff.price (s.client.invoke op).2 ≤
          errandTariff.price s.client + reportCost op := by
        have paid := start.price_le reports
        rw [Client.price_push, total_cons, total_nil] at paid
        exact Nat.le_trans paid (Nat.le_of_eq (congrArg (· + _) (Nat.zero_add _)))
      have cost := done.cost
      have started : burden (s.client.invoke op).2 t + 1 ≤ burden s.client s.transport := by
        simp only [burden]
        omega
      have driven := (drives_burden (Client.Obeys allowed)
        (burden (s.client.invoke op).2 t) t.sleeping).drive
        (run.client.invoke op run.waits (Or.inr reports)) (s := t) ⟨Nat.le_refl _, rfl⟩
      rw [completes]
      exact ⟨Nat.le_trans (Nat.succ_le_succ driven.1) started, driven.2.trans done.sleeping⟩

/-- A job that is run leaves less for the run queue, and nothing more altogether. If it has rested
it leaves less altogether. -/
theorem burden_runJob (run : Reached allowed s) {before after : List Turn} {j : Turn}
    (next : s.transport.ready = before ++ j :: after) {s' : Simulation}
    (runs : s' = ({ s with transport :=
      { s.transport with ready := before ++ after } } : Simulation).runJob j) :
    burden s'.client s'.transport + 1 ≤ burden s.client s.transport ∧
      toil s'.client s'.transport ≤ toil s.client s.transport ∧
      (j.rested = true → toil s'.client s'.transport + 1 ≤ toil s.client s.transport) := by
  rw [runJob] at runs
  dsimp only at runs
  split at runs
  · obtain ⟨less, sleeping⟩ := burden_complete run next runs
    simp only [toil, sleeping]
    omega
  · next sleeps =>
      -- the job only moves from the run queue to the sleepers, where it is worth the same
      have tired : j.rested = false := by
        simp only [Bool.or_eq_true, not_or] at sleeps
        exact Bool.eq_false_iff.2 sleeps.1
      have worth := one_le_weight j.job
      have queue : total (fun j => j.job.weight) s.transport.ready =
          total (fun j => j.job.weight) (before ++ after) + j.job.weight := by
        rw [next, total_append, total_append, total_cons]
        omega
      rw [runs, tired]
      simp only [toil, burden, total_append, total_cons, total_nil] at queue ⊢
      refine ⟨by omega, by omega, fun rested => by cases rested⟩

/-! ## Running the queue -/

/-- Enough runs of jobs empty the run queue. They leave nothing more altogether, and less if the
first of them has rested. -/
theorem runFor_ready (run : Reached allowed s) {n : Nat}
    (enough : burden s.client s.transport ≤ n) :
    (s.runFor n).transport.ready = [] ∧
      toil (s.runFor n).client (s.runFor n).transport ≤ toil s.client s.transport ∧
      (∀ j rest, s.transport.ready = j :: rest → j.rested = true →
        toil (s.runFor n).client (s.runFor n).transport + 1 ≤ toil s.client s.transport) := by
  induction n generalizing s with
  | zero =>
      -- every job is worth something, so there is none
      have none : s.transport.ready = [] := by
        cases waiting : s.transport.ready with
        | nil => rfl
        | cons j rest =>
            have worth := one_le_weight j.job
            simp only [burden, waiting, total_cons] at enough
            omega
      rw [runFor]
      refine ⟨none, Nat.le_refl _, fun j rest waiting => ?_⟩
      rw [none] at waiting
      cases waiting
  | succ n ih =>
      rw [runFor]
      split
      · next none =>
          refine ⟨none, Nat.le_refl _, fun j rest waiting => ?_⟩
          rw [none] at waiting
          cases waiting
      · next j rest top =>
          have next : s.transport.ready = [] ++ j :: rest := top
          obtain ⟨less, whole, rested⟩ := burden_runJob run next rfl
          obtain ⟨ready, further, -⟩ := ih (run.step (.job next)) (by
            simp only [List.nil_append] at less ⊢
            omega)
          refine ⟨ready, Nat.le_trans further whole, fun j' rest' waiting slept => ?_⟩
          cases top.symm.trans waiting
          exact Nat.le_trans (Nat.succ_le_succ further) (rested slept)

/-- Running the queue has as many runs as it takes. -/
theorem Reached.burden_le (run : Reached allowed s) :
    burden s.client s.transport ≤ s.backlog := by
  have pools : total errandTariff.pool s.client.destinations =
      4 * total (·.queue.size) s.client.destinations := by
    rw [← total_mul]
    congr 1
    funext D
    simp [Tariff.pool, errandTariff, BoundedQueue.size]
  have held : s.client.tasks.length ≤ s.transport.ready.length := by
    -- tasks that are held have different numbers, and each of them waits on the run queue
    have apart : (s.client.tasks.map fun task => Job.task task.id).Nodup := by
      have ids : (s.client.tasks.map fun task => Job.task task.id) =
          (s.client.tasks.map (·.id)).map Job.task := by simp
      rw [ids]
      exact List.Nodup.map (fun _ _ same => Job.task.inj same) run.client.numbered.apart
    have waiting : (s.client.tasks.map fun task => Job.task task.id) ⊆
        s.transport.ready.map (·.job) := by
      intro job there
      obtain ⟨task, held, rfl⟩ := List.mem_map.1 there
      exact run.task_ready task held
    simpa using (apart.subperm waiting).length_le
  have works : total (fun t : Task => errandTariff.work t.work) s.client.tasks ≤
      s.client.tasks.length * 3 := by
    refine total_le_mul fun task _ => ?_
    cases task.work <;> simp [errandTariff]
  have jobs : total (fun j : Turn => j.job.weight) s.transport.ready ≤
      s.transport.ready.length * 3 := total_le_mul fun j _ => weight_le_three j.job
  rw [burden, backlog, Tariff.price, run.quiet, total_nil, pools]
  omega

/-- Running the queue empties it. -/
theorem Reached.ready_nil (run : Reached allowed s) : s.runReady.transport.ready = [] :=
  (runFor_ready run run.burden_le).1

theorem runReady_of_ready_nil (none : s.transport.ready = []) : s.runReady = s := by
  rw [runReady]
  cases s.backlog with
  | zero => rw [runFor]
  | succ n =>
      rw [runFor]
      split
      · rfl
      · next j rest top => cases none.symm.trans top

/-! ## Letting time pass -/

theorem toil_wake (s : Simulation) : toil s.wake.client s.wake.transport =
    toil s.client s.transport := by
  have split := total_filter_add (fun x : Nat × Job => x.2.weight)
    (fun x => decide (x.1 ≤ s.transport.now)) s.transport.sleeping
  simp only [toil, burden, wake, total_append, total_map]
  omega

/-- When the run queue is empty and time passes, either nobody wakes, or less is left to do. -/
theorem Reached.passTo (run : Reached allowed s) (idle : s.transport.ready = []) {moment : Nat}
    (later : s.transport.now ≤ moment) :
    (s.passTo moment).transport.ready = [] ∧
      ((∀ x ∈ s.transport.sleeping, moment < x.1) ∧
        (s.passTo moment).transport.now = moment ∧
        (s.passTo moment).transport.sleeping = s.transport.sleeping ∧
        toil (s.passTo moment).client (s.passTo moment).transport = toil s.client s.transport ∨
      toil (s.passTo moment).client (s.passTo moment).transport < toil s.client s.transport) := by
  have woken : Reached allowed (wake { s with transport := { s.transport with now := moment } }) :=
    run.step (.pass later)
  have same := toil_wake { s with transport := { s.transport with now := moment } }
  have queue : (wake { s with transport := { s.transport with now := moment } }).transport.ready =
      (s.transport.sleeping.filter fun x => x.1 ≤ moment).map fun x => ⟨x.2, true⟩ := by
    rw [wake, idle, List.nil_append]
  obtain ⟨ready, -, rested⟩ := runFor_ready woken woken.burden_le
  refine ⟨ready, ?_⟩
  cases due : s.transport.sleeping.filter fun x => x.1 ≤ moment with
  | nil =>
      rw [due, List.map_nil] at queue
      have asleep : ∀ x ∈ s.transport.sleeping, moment < x.1 := fun x there => by
        simpa using List.filter_eq_nil_iff.1 due x there
      rw [Simulation.passTo, runReady_of_ready_nil queue]
      refine Or.inl ⟨asleep, rfl, ?_, same⟩
      exact List.filter_eq_self.2 fun x there => by simpa using asleep x there
  | cons x rest =>
      rw [due, List.map_cons] at queue
      exact Or.inr (Nat.lt_of_lt_of_eq (rested _ _ queue rfl) same)

/-- From a moment at which the run queue is empty, time passes until every job is done. -/
theorem Reached.settles_of_ready_nil (run : Reached allowed s) (idle : s.transport.ready = []) :
    ∃ n, (s.advance n).Settled := by
  -- by induction on what is left to do, and within it on how long the first sleeper still sleeps
  generalize left : toil s.client s.transport = k
  induction k using Nat.strongRecOn generalizing s with
  | ind k fewer =>
      cases asleep : s.transport.sleeping with
      | nil => exact ⟨0, idle, asleep⟩
      | cons x rest =>
          generalize wait : x.1 - s.transport.now = m
          induction m using Nat.strongRecOn generalizing s with
          | ind m nearer =>
              have later := Nat.le_succ s.transport.now
              have passed := (runs_passTo allowed s later).reached run
              obtain ⟨ready, ⟨nobody, now, sleeping, same⟩ | less⟩ := run.passTo idle later
              · have wakes := nobody x (asleep ▸ List.mem_cons_self)
                obtain ⟨n, settled⟩ := nearer (x.1 - s.transport.now.succ)
                  (by rw [← wait]; omega) passed ready (same.trans left) (sleeping.trans asleep)
                  (by rw [now])
                exact ⟨n + 1, settled⟩
              · obtain ⟨n, settled⟩ := fewer _ (left ▸ less) passed ready rfl
                exact ⟨n + 1, settled⟩

/-- From every simulation that is reached, running the queue and letting time pass gets every job
done. -/
theorem Reached.settles (run : Reached allowed s) : ∃ n, (s.runReady.advance n).Settled :=
  ((runs_runReady allowed s).reached run).settles_of_ready_nil run.ready_nil

end Simulation

end Loopback

end ConnectionPool
