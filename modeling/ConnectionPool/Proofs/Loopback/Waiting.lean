import ConnectionPool.Proofs.Loopback.Balance
import ConnectionPool.Proofs.Loopback.Undisturbed

/-!
# Waiting on the loopback transport

Let connections be asked for over a time that is shorter than an exchange takes (`Pace`), and
nothing from then on. A job that sleeps then makes one of these connections or answers an exchange,
and all connections are there before the first exchange can be answered. Main statements: what holds
of the jobs that sleep (`Timed`) is kept whichever job is run next (`Simulation.Left.job`), while
the run queue is run (`Simulation.Left.runReady`) and while time passes (`Simulation.Left.pass`,
`Simulation.Waiting.passTo`); and as long as some result is missing, the next moment at which a job
wakes either brings connections, or comes within the latency of an exchange and brings a result
(`Simulation.Waiting.next`).
-/

set_option autoImplicit false

namespace ConnectionPool

namespace Loopback

/-- The latencies of a simulation, and the moment by which the jobs that make its connections have
begun. -/
structure Pace where
  timings : LoopbackTimings
  spread : Nat
  brief : spread < timings.exchangeLatency

/-- From this moment on all connections are there. -/
def Pace.last (p : Pace) : Nat := p.spread + p.timings.connectLatency

/-- Before this moment no exchange is answered. -/
def Pace.first (p : Pace) : Nat := p.timings.connectLatency + p.timings.exchangeLatency

theorem Pace.last_lt_first (p : Pace) : p.last < p.first := by
  have brief := p.brief
  rw [last, first]
  omega

variable {p : Pace} {t t' : Transport}

/-- A connection was not made too early, and has not answered too early. -/
structure Link.Timed (p : Pace) (now : Nat) (link : Link) : Prop where
  latency : link.latency = p.timings.exchangeLatency
  joined : p.timings.connectLatency ≤ now
  answered : link.exchanges ≠ 0 → p.first ≤ now

/-- When a job that sleeps wakes. -/
def Wakes (p : Pace) (now moment : Nat) : Job → Prop
  | .connect _ _ _ => p.timings.connectLatency ≤ moment ∧ moment ≤ p.last
  | .exchange _ _ => p.first ≤ moment ∧ moment ≤ now + p.timings.exchangeLatency
  | .task _ => False

/-- When a job is ready: one that makes a connection is new or has slept for its time, and so has
one that answers an exchange. -/
def Due (p : Pace) (now : Nat) (j : Turn) : Prop :=
  match j.job with
  | .connect _ _ _ => if j.rested = true then p.timings.connectLatency ≤ now else now ≤ p.spread
  | .exchange _ _ => j.rested = true → p.first ≤ now
  | .task _ => True

/-- Connections and jobs go by this pace. -/
structure Timed (p : Pace) (t : Transport) : Prop where
  same : t.timings = p.timings
  links : ∀ link ∈ t.links, link.Timed p t.now
  asleep : ∀ x ∈ t.sleeping, t.now < x.1 ∧ Wakes p t.now x.1 x.2
  ready : ∀ j ∈ t.ready, Due p t.now j

/-- An exchange takes some time on every connection that is there. -/
theorem Timed.latency_pos (h : Timed p t) {c : ConnectionId} {link : Link}
    (here : t.links[c]? = some link) (e : Exchange) : t.latency (.exchange c e) ≠ 0 := by
  have own : t.latency (.exchange c e) = link.latency := by
    rw [Transport.latency, here]
    rfl
  have brief := p.brief
  rw [own, (h.links link (List.mem_of_getElem? here)).latency]
  omega

/-- A job that goes to sleep wakes in time. -/
theorem Timed.sleep {before after : List Turn} {j : Turn} (h : Timed p t)
    (next : t.ready = before ++ j :: after) (fresh : j.rested = false)
    (sleeps : t.latency j.job ≠ 0) :
    Timed p { t with
      ready := before ++ after
      sleeping := t.sleeping ++ [(t.now + t.latency j.job, j.job)] } where
  same := h.same
  links := h.links
  asleep := by
    refine List.forall_mem_append.2 ⟨h.asleep, List.forall_mem_singleton.2 ⟨?_, ?_⟩⟩
    · exact Nat.lt_add_of_pos_right (Nat.pos_of_ne_zero sleeps)
    · have due : Due p t.now j := h.ready j (by simp [next])
      cases own : j.job with
      | connect a number d =>
          have begins : t.now ≤ p.spread := by
            simpa [Due, own, fresh] using due
          have latency : t.latency (.connect a number d) = p.timings.connectLatency :=
            congrArg LoopbackTimings.connectLatency h.same
          rw [latency]
          exact ⟨Nat.le_add_left _ _, Nat.add_le_add_right begins _⟩
      | exchange c e =>
          rw [own] at sleeps
          -- an exchange on a connection that does not exist does not sleep at all
          obtain ⟨link, here⟩ : ∃ link, t.links[c]? = some link := by
            refine Option.ne_none_iff_exists'.1 fun missing => sleeps ?_
            rw [Transport.latency, missing]
            rfl
          have link := h.links link (List.mem_of_getElem? here)
          have latency : t.latency (.exchange c e) = p.timings.exchangeLatency := by
            rw [Transport.latency, here]
            exact link.latency
          rw [latency]
          exact ⟨Nat.add_le_add_right link.joined _, Nat.le_refl _⟩
      | task k =>
          rw [own] at sleeps
          exact sleeps rfl
  ready x there := h.ready x (by
    rw [next]
    exact List.mem_append.2 ((List.mem_append.1 there).imp_right (List.mem_cons_of_mem _)))

/-- A job that has slept, or need not, makes a connection or answers an exchange in time. -/
theorem Timed.done {s : Simulation} {before after : List Turn} {j : Turn} {op : Option Operation}
    (h : Timed p s.transport) (next : s.transport.ready = before ++ j :: after)
    (rested : j.rested = true ∨ s.transport.latency j.job = 0)
    (done : Done { s with transport := { s.transport with ready := before ++ after } } j.job t op) :
    Timed p t := by
  have others : ∀ x ∈ before ++ after, Due p s.transport.now x := fun x there => h.ready x (by
    rw [next]
    exact List.mem_append.2 ((List.mem_append.1 there).imp_right (List.mem_cons_of_mem _)))
  have due : Due p s.transport.now j := h.ready j (by simp [next])
  have answers {c : ConnectionId} {link : Link} {e : Exchange} (own : j.job = .exchange c e)
      (here : s.transport.links[c]? = some link) : Timed p
        (Transport.answer { s.transport with ready := before ++ after } c link e) := by
    have link := h.links link (List.mem_of_getElem? here)
    refine ⟨h.same, fun x there => ?_, h.asleep, others⟩
    rcases List.mem_or_eq_of_mem_set there with old | rfl
    · exact h.links x old
    · -- its time was over when it was run
      have slept : j.rested = true := by
        rw [own] at rested
        exact rested.resolve_right (h.latency_pos here e)
      refine ⟨link.latency, link.joined, fun _ => ?_⟩
      rw [Due, own] at due
      exact due slept
  generalize own : j.job = job at done
  cases done with
  | refused name | lost missing | broken here closed | performed =>
      exact ⟨h.same, h.links, h.asleep, others⟩
  | stranded here opened stays => exact answers own here
  | returned here opened home => exact answers own here
  | @connected a number d =>
      -- it has slept for the latency of a connection, unless that is nothing
      have joined : p.timings.connectLatency ≤ s.transport.now := by
        rcases rested with slept | instant
        · rw [Due, own] at due
          simpa [slept] using due
        · have none : s.transport.timings.connectLatency = 0 := by
            rw [own] at instant
            exact instant
          rw [← h.same, none]
          exact Nat.zero_le _
      refine ⟨h.same, List.forall_mem_append.2 ⟨h.links, ?_⟩, h.asleep, others⟩
      exact List.forall_mem_singleton.2
        ⟨congrArg LoopbackTimings.exchangeLatency h.same, joined, absurd rfl⟩

/-- A call leaves connections and jobs at their pace, if connections are asked for in time. -/
theorem Timed.called {c : Call} (h : Timed p t)
    (inTime : (∃ d a, c = .connect d a) → t.now ≤ p.spread) (w : Client) :
    Timed p (Transport.called w c t) := by
  have scheduled (j : Job) (due : Due p t.now ⟨j, false⟩) (n : Nat) :
      Timed p (({ t with made := n } : Transport).schedule j false) :=
    ⟨h.same, h.links, h.asleep,
      List.forall_mem_append.2 ⟨h.ready, List.forall_mem_singleton.2 due⟩⟩
  cases c with
  | connect d a =>
      have begins := inTime ⟨d, a, rfl⟩
      simp only [Transport.called]
      split
      · exact scheduled (.connect a none d) begins t.made
      · exact scheduled (.connect a (some t.made.succ) d) begins _
  | execute k => exact scheduled (.task k) trivial t.made
  | send c e => exact scheduled (.exchange c e) (absurd · Bool.false_ne_true) t.made
  | close c =>
      -- a connection that is closed stays among the others
      refine ⟨h.same, fun x there => ?_, h.asleep, h.ready⟩
      obtain ⟨i, here⟩ := List.mem_iff_getElem?.1 there
      have here : (t.links.modify c _)[i]? = some x := here
      rw [List.getElem?_modify] at here
      obtain ⟨link, old, rfl⟩ := Option.map_eq_some_iff.1 here
      have link := h.links link (List.mem_of_getElem? old)
      split <;> exact ⟨link.latency, link.joined, link.answered⟩
  | _ => exact ⟨h.same, h.links, h.asleep, h.ready⟩

/-- When time passes, connections and answers come in time, if no job that makes a connection is
kept from beginning. -/
theorem Timed.wake {s : Simulation} (h : Timed p s.transport) {moment : Nat}
    (later : s.transport.now ≤ moment)
    (inTime : moment ≤ p.spread ∨ s.transport.ready = []) : Timed p
      ({ s with transport := { s.transport with now := moment } } : Simulation).wake.transport where
  same := h.same
  links link there :=
    have link := h.links link there
    ⟨link.latency, Nat.le_trans link.joined later, fun some =>
      Nat.le_trans (link.answered some) later⟩
  asleep x there := by
    obtain ⟨there, undue⟩ := List.mem_filter.1 there
    have wakes := (h.asleep x there).2
    have undue : moment < x.1 := by simpa using undue
    refine ⟨undue, ?_⟩
    obtain ⟨time, job⟩ := x
    cases job with
    | connect a number d => exact wakes
    | exchange c e => exact ⟨wakes.1, Nat.le_trans wakes.2 (Nat.add_le_add_right later _)⟩
    | task k => exact wakes
  ready j there := by
    rcases List.mem_append.1 there with old | woken
    · have early := inTime.resolve_right (List.ne_nil_of_mem old)
      have due := h.ready j old
      rw [Due] at due ⊢
      cases own : j.job with
      | connect a number d =>
          rw [own] at due
          dsimp only at due ⊢
          split
          · next slept =>
              rw [if_pos slept] at due
              exact Nat.le_trans due later
          · exact early
      | exchange c e =>
          rw [own] at due
          exact fun slept => Nat.le_trans (due slept) later
      | task k => trivial
    · obtain ⟨x, due, rfl⟩ := List.mem_map.1 woken
      obtain ⟨there, due⟩ := List.mem_filter.1 due
      have wakes := (h.asleep x there).2
      have due : x.1 ≤ moment := by simpa using due
      obtain ⟨time, job⟩ := x
      cases job with
      | connect a number d => exact Nat.le_trans wakes.1 due
      | exchange c e => exact fun _ => Nat.le_trans wakes.1 due
      | task k => trivial

/-! ## Running the queue -/

/-- How many of these jobs have slept and are about to answer an exchange. -/
def returning (js : List Turn) : Nat := js.countP fun j => j.rested && j.job.pairing?.isSome

theorem returning_called (w : Client) (c : Call) (t : Transport) :
    returning (Transport.called w c t).ready = returning t.ready := by
  have scheduled (u : Transport) (j : Job) :
      returning (u.schedule j false).ready = returning u.ready := by
    simp [Transport.schedule, returning]
  cases c with
  | connect d a =>
      simp only [Transport.called]
      split <;> exact scheduled _ _
  | execute k | send c e => exact scheduled _ _
  | _ => rfl

/-- A job that is about to answer an exchange has one on its way. -/
theorem returning_le (before after : List Turn) (j : Turn) :
    returning (before ++ j :: after) ≤
      returning (before ++ after) + j.job.pairing?.toList.length := by
  rw [returning, returning, List.countP_append, List.countP_append, List.countP_cons,
    ← Nat.add_assoc]
  refine Nat.add_le_add_left ?_ _
  cases j.job.pairing? with
  | none => simp
  | some p =>
      split
      · exact Nat.le_refl 1
      · exact Nat.zero_le 1

theorem now_called (w : Client) (c : Call) (t : Transport) :
    (Transport.called w c t).now = t.now := by
  cases c with
  | connect d a =>
      simp only [Transport.called]
      split <;> rfl
  | _ => rfl

/-- What running jobs at one moment keeps: the client is undisturbed, jobs are timed, and there are
at least `k` results once the exchanges that are about to be answered are. -/
structure Abides (v : Client) (p : Pace) (now k : Nat) (w : Client) (t : Transport) : Prop where
  undisturbed : Client.Undisturbed v w
  timed : Timed p t
  now : t.now = now
  enough : k ≤ t.completions + returning t.ready

theorem drives_abides (v : Client) (p : Pace) (now k : Nat) :
    Client.Drives Client.Peaceful Transport.called (Abides v p now k) where
  turned {f u u' t} run turn _ h := by
    have runs := (Client.seesRunning_push u [f]).symm.trans run.sees
    exact ⟨h.undisturbed.turned turn runs, h.timed, h.now, h.enough⟩
  called {c u t} run h := by
    have mild := h.undisturbed.agenda _ List.mem_cons_self
    have failure : ∀ e result, c = .completed e result →
        ∃ cause, result = .ofCause e.request cause := by
      rintro e result rfl
      exact run.completed_of_cause List.mem_cons_self
    refine ⟨h.undisturbed.called, h.timed.called ?_ _, (now_called _ c t).trans h.now, ?_⟩
    · -- nothing is asked for any more
      rintro ⟨d, a, rfl⟩
      cases mild
    · rw [completions_called failure, returning_called]
      have enough := h.enough
      omega

namespace Simulation

variable {v : Client} {now k : Nat} {s : Simulation}

/-- The client is left to itself, and connections and jobs go by this pace. -/
structure Left (v : Client) (p : Pace) (s : Simulation) : Prop where
  serves : Serves s
  undisturbed : Client.Undisturbed v s.client
  timed : Timed p s.transport

section Job

variable {before after : List Turn} {j : Turn}

/-- What a job does to the transport keeps what is kept at one moment: if it answers an exchange,
there is one result more. -/
theorem Serves.abides_done (serves : Serves s) {op : Option Operation}
    (next : s.transport.ready = before ++ j :: after) (h : Abides v p now k s.client s.transport)
    (rested : j.rested = true ∨ s.transport.latency j.job = 0)
    (done : Done { s with transport := { s.transport with ready := before ++ after } } j.job t op) :
    Abides v p now k s.client t where
  undisturbed := h.undisturbed
  timed := h.timed.done next rested done
  now := by
    refine Eq.trans ?_ h.now
    generalize j.job = job at done
    cases done <;> rfl
  enough := by
    have enough := h.enough
    have results := (serves.completions_of_done next done).1
    have left : t.ready = before ++ after := done.ready
    have fewer := returning_le before after j
    rw [next] at enough
    rw [results, left]
    omega

/-- A job that is run keeps what is kept at one moment. -/
theorem Serves.abides_runJob (serves : Serves s) (next : s.transport.ready = before ++ j :: after)
    (h : Abides v p now k s.client s.transport) {s' : Simulation}
    (runs : runJob { s with transport := { s.transport with ready := before ++ after } } j = s') :
    Abides v p now k s'.client s'.transport := by
  subst runs
  rw [runJob]
  dsimp only
  split
  · next rested =>
      simp only [Bool.or_eq_true, decide_eq_true_eq] at rested
      obtain ⟨t, op, done, same⟩ := done_complete
        { s with transport := { s.transport with ready := before ++ after } } j.job
      have kept := serves.abides_done next h rested done
      rw [same]
      cases op with
      | none => exact kept
      | some op =>
          have peaceful := serves.peaceful_of_done (w := s.client) next done
          refine (drives_abides v p now k).drive
            (serves.smooth.invoke op serves.run.waits peaceful) ⟨?_, kept.timed, kept.now,
              kept.enough⟩
          exact h.undisturbed.reported done.isReport peaceful serves.smooth.sees
  · next sleeps =>
      -- a job goes to sleep only if it has not slept, so it is not one that is about to answer
      simp only [Bool.or_eq_true, decide_eq_true_eq, not_or, Bool.not_eq_true] at sleeps
      have enough := h.enough
      have fresh : returning (before ++ j :: after) = returning (before ++ after) := by
        rw [returning, List.countP_append, List.countP_cons_of_neg (by simp [sleeps.1]),
          ← List.countP_append]
        rfl
      rw [next, fresh] at enough
      exact ⟨h.undisturbed, h.timed.sleep next sleeps.1 sleeps.2, h.now, enough⟩

/-- Whichever job is run next, the simulation is still left to itself. -/
theorem Left.job (h : Left v p s) (next : s.transport.ready = before ++ j :: after) :
    Left v p (runJob { s with transport := { s.transport with ready := before ++ after } } j) := by
  have abides : Abides v p s.transport.now 0 _ _ :=
    h.serves.abides_runJob next ⟨h.undisturbed, h.timed, rfl, Nat.zero_le _⟩ rfl
  exact ⟨h.serves.step (.job next), abides.undisturbed, abides.timed⟩

end Job

/-- When time passes, the simulation is still left to itself, if no job that makes a connection is
kept from beginning. -/
theorem Left.pass (h : Left v p s) {moment : Nat} (later : s.transport.now ≤ moment)
    (inTime : moment ≤ p.spread ∨ s.transport.ready = []) :
    Left v p ({ s with transport := { s.transport with now := moment } } : Simulation).wake :=
  ⟨h.serves.step (.pass later), h.undisturbed, h.timed.wake later inTime⟩

theorem Serves.abides_runFor (serves : Serves s) (n : Nat)
    (h : Abides v p now k s.client s.transport) :
    Abides v p now k (s.runFor n).client (s.runFor n).transport := by
  induction n generalizing s with
  | zero => exact h
  | succ n ih =>
      rw [runFor]
      split
      · exact h
      · next j rest next =>
          have split : s.transport.ready = [] ++ j :: rest := next
          exact ih (serves.step (.job split)) (serves.abides_runJob split h rfl)

/-! ## The next moment -/

/-- No job is ready, and nothing is asked for any more. -/
structure Waiting (v : Client) (p : Pace) (s : Simulation) : Prop extends Left v p s where
  idle : s.transport.ready = []

/-- Once the queue was run, a simulation waits. No time passes, no result is lost, and exchanges
whose time has come are answered. -/
theorem Left.runReady (h : Left v p s) :
    Waiting v p s.runReady ∧ s.runReady.transport.now = s.transport.now ∧
      s.transport.completions + returning s.transport.ready ≤ s.runReady.transport.completions := by
  have idle := h.serves.run.ready_nil
  have abides : Abides v p s.transport.now _ s.runReady.client s.runReady.transport :=
    h.serves.abides_runFor s.backlog ⟨h.undisturbed, h.timed, rfl, Nat.le_refl _⟩
  have enough : _ ≤ s.runReady.transport.completions + returning s.runReady.transport.ready :=
    abides.enough
  rw [idle] at enough
  exact ⟨⟨⟨(runs_runReady Serving s).serves h.serves, abides.undisturbed, abides.timed⟩, idle⟩,
    abides.now, enough⟩

/-- When time passes no result is lost, and an exchange whose time has come is answered. -/
theorem Waiting.passTo (h : Waiting v p s) {moment : Nat} (later : s.transport.now ≤ moment) :
    Waiting v p (s.passTo moment) ∧ (s.passTo moment).transport.now = moment ∧
      s.transport.completions ≤ (s.passTo moment).transport.completions ∧
      ∀ x ∈ s.transport.sleeping, x.1 ≤ moment → x.2.pairing? ≠ none →
        s.transport.completions < (s.passTo moment).transport.completions := by
  let due := (s.transport.sleeping.filter fun x => x.1 ≤ moment).map fun x => (⟨x.2, true⟩ : Turn)
  obtain ⟨waiting, now, enough⟩ := (h.pass later (Or.inr h.idle)).runReady
  have enough : s.transport.completions + returning (s.transport.ready ++ due) ≤
    (s.passTo moment).transport.completions := enough
  rw [h.idle, List.nil_append] at enough
  refine ⟨waiting, now, Nat.le_trans (Nat.le_add_right _ _) enough, fun x asleep own answers => ?_⟩
  have listed : (⟨x.2, true⟩ : Turn) ∈ due :=
    List.mem_map.2 ⟨x, List.mem_filter.2 ⟨asleep, decide_eq_true own⟩, rfl⟩
  have answered : 0 < returning due :=
    List.countP_pos_iff.2 ⟨_, listed, Option.isSome_iff_ne_none.2 answers⟩
  exact Nat.lt_of_lt_of_le (Nat.lt_add_of_pos_right answered) enough

/-- As long as some result is missing, some job is going to wake. At that moment either connections
come, or within the latency of an exchange another result is there. -/
theorem Waiting.next (h : Waiting v p s) (allows : 1 ≤ s.client.limits.connections)
    (missing : s.transport.completions < s.client.metrics.requestsQueued) :
    ∃ moment, s.nextWake = some moment ∧ s.transport.now < moment ∧
      Waiting v p (s.passTo moment) ∧ (s.passTo moment).transport.now = moment ∧
      s.transport.completions ≤ (s.passTo moment).transport.completions ∧
      (moment ≤ p.last ∨ moment ≤ s.transport.now + p.timings.exchangeLatency ∧
        s.transport.completions < (s.passTo moment).transport.completions) := by
  have sleeper := h.serves.sleeper allows h.idle missing
  obtain ⟨moment, next⟩ : ∃ moment, s.nextWake = some moment := by
    refine Option.ne_none_iff_exists'.1 fun nobody => sleeper ?_
    exact List.map_eq_nil_iff.1 (List.min?_eq_none_iff.1 nobody)
  -- what happens at that moment is told by a job that wakes then
  obtain ⟨x, asleep, rfl⟩ := List.mem_map.1 (List.min?_eq_some_iff.1 next).1
  obtain ⟨later, wakes⟩ := h.timed.asleep x asleep
  obtain ⟨waiting, now, fewer, answered⟩ := h.passTo (Nat.le_of_lt later)
  refine ⟨x.1, next, later, waiting, now, fewer, ?_⟩
  cases own : x.2 with
  | connect a number d =>
      rw [own] at wakes
      exact Or.inl wakes.2
  | exchange c e =>
      have answers : x.2.pairing? ≠ none := by
        rw [own]
        exact Option.some_ne_none _
      rw [own] at wakes
      exact Or.inr ⟨wakes.2, answered x asleep (Nat.le_refl _) answers⟩
  | task k =>
      rw [own] at wakes
      cases wakes

/-- When every request that was queued has its result and one of these came from a connection, every
job is done. -/
theorem Waiting.settled (h : Waiting v p s)
    (complete : s.transport.completions = s.client.metrics.requestsQueued)
    (some : 0 < total (·.exchanges) s.transport.links) : s.Settled := by
  -- the connection has answered after all connections were there
  have late : p.first ≤ s.transport.now := by
    by_contra early
    refine Nat.not_lt.2 (Nat.le_of_eq ?_) some
    refine Nat.le_zero.1 (total_le_mul (n := 0) fun link there => ?_)
    have answered := (h.timed.links link there).answered
    exact Nat.le_zero.2 (Decidable.not_not.1 fun any => early (answered any))
  have last := p.last_lt_first
  refine ⟨h.idle, List.eq_nil_iff_forall_not_mem.2 fun x asleep => ?_⟩
  obtain ⟨later, wakes⟩ := h.timed.asleep x asleep
  cases own : x.2 with
  | connect a number d =>
      rw [own] at wakes
      have wakes := wakes.2
      omega
  | exchange c e =>
      have carried : (c, e) ∈ s.transport.carrying :=
        List.mem_filterMap.2 ⟨x.2, List.mem_append_right _ (List.mem_map_of_mem asleep),
          congrArg Job.pairing? own⟩
      have some := List.length_pos_of_mem carried
      have balance := h.serves.balance
      omega
  | task k =>
      rw [own] at wakes
      cases wakes

end Simulation

end Loopback

end ConnectionPool
