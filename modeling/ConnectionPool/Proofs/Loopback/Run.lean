import Mathlib.Logic.Relation
import ConnectionPool.Loopback.Transport
import ConnectionPool.Proofs.Client.Driven
import ConnectionPool.Proofs.Client.Tariff

/-!
# Runs of a simulation

A simulation goes on in steps: an operation that a script may ask for runs to its end, a job of the
run queue is run, or time passes. Any job of the run queue may be the next, and time may pass while
some are left, so what is said of every run is said of every order in which an executor takes them.

What a job does after its sleep is listed once: `Done s j t op` says that it leaves the transport as
`t` and has the client start `op`, if anything. Main statements: between two steps the client has
nothing to do, and it was reached by a run of its own (`Simulation.Reached.quiet`,
`Simulation.Reached.client`); what new simulations have and every part of a step keeps holds of
every simulation that is reached (`Simulation.Reached.keeps`); and running the queue and letting
time pass are runs (`Simulation.runs_runReady`, `Simulation.runs_advance`).
-/

set_option autoImplicit false

namespace ConnectionPool

/-- The transport invokes the operation by itself: an attempt ends, a connection comes back, or a
task is run. -/
def Operation.isReport : Operation → Bool
  | .settle _ _ => true
  | .release _ _ => true
  | .perform _ => true
  | _ => false

namespace Client

/-- The outside invokes what is allowed, and what the transport reports. -/
def Obeys (allowed : Operation → Prop) (_ : Client) (op : Operation) : Prop :=
  allowed op ∨ op.isReport = true

/-- The client after an operation has started, if there is one. -/
def begun (w : Client) : Option Operation → Client
  | none => w
  | some op => (w.invoke op).2

/-- A client with nothing to do awaits the outside. -/
theorem awaits_of_quiet {w : Client} (quiet : w.agenda = []) : w.awaits = true := by
  rw [awaits, quiet]

/-- An operation enters no callback when it starts. -/
theorem outside_invoke {w : Client} (quiet : w.agenda = []) (op : Operation) :
    (w.invoke op).2.Outside := by
  obtain ⟨new, agenda, puts⟩ := (started_start op (w.push [.finish op])).agenda
  have split : (w.invoke op).2.agenda = new ++ .finish op :: w.agenda := agenda
  intro c there
  rw [split, quiet] at there
  rcases List.mem_append.1 there with added | last
  · cases puts _ added
  · simp at last

end Client

namespace Loopback

open Notifier (Notice)

namespace Transport

/-- The jobs that are not done, those on the run queue first. -/
def jobs (t : Transport) : List Job := t.ready.map (·.job) ++ t.sleeping.map (·.2)

/-- An exchange fails with its connection. -/
def breakOff (t : Transport) (e : Exchange) : Transport :=
  (t.note (some e) (.responseFailure e.request .asynchronousClose)).note (some e)
    (.complete (.ofCause e.request .closed))

/-- An exchange succeeds on its connection. -/
def answer (t : Transport) (c : ConnectionId) (link : Link) (e : Exchange) : Transport :=
  ({ t with links := t.links.set c { link with exchanges := link.exchanges + 1 } } :
    Transport).note (some e) (.complete (.succeeded e.request))

/-- A connection is there. -/
def join (t : Transport) (number : Nat) (d : DestinationId) : Transport :=
  { t with links := t.links ++ [⟨number, some d, t.timings.exchangeLatency, false, 0⟩] }

end Transport

/-- Jobs went to sleep or were woken, or time has passed. -/
structure Moved (t t' : Transport) : Prop where
  jobs : t'.jobs.Perm t.jobs
  /-- A task has no latency. -/
  awake : ∀ k, .task k ∈ t'.sleeping.map (·.2) → .task k ∈ t.sleeping.map (·.2)
  later : t.now ≤ t'.now
  timings : t'.timings = t.timings
  links : t'.links = t.links
  panicking : t'.panicking = t.panicking
  notes : t'.notes = t.notes

/-- `Done s j t op`: what the job `j` does after its sleep leaves the transport as `t` and has the
client start `op`, if anything. -/
inductive Done (s : Simulation) : Job → Transport → Option Operation → Prop
  | refused {a : AttemptId} {d : DestinationId} (name : String) :
      Done s (.connect a none d) s.transport (some (.settle a (.failed (refusal name))))
  | connected {a : AttemptId} {number : Nat} {d : DestinationId} :
      Done s (.connect a (some number) d) (s.transport.join number d)
        (some (.settle a (.connected s.transport.links.length)))
  /-- The exchange is on a connection that does not exist. -/
  | lost {c : ConnectionId} {e : Exchange} (missing : s.transport.links[c]? = none) :
      Done s (.exchange c e) s.transport none
  | broken {c : ConnectionId} {e : Exchange} {link : Link}
      (here : s.transport.links[c]? = some link) (closed : link.closed = true) :
      Done s (.exchange c e) (s.transport.breakOff e) none
  /-- The connection does not come back: a listener has panicked, or there is nowhere to return. -/
  | stranded {c : ConnectionId} {e : Exchange} {link : Link}
      (here : s.transport.links[c]? = some link) (opened : link.closed = false)
      (stays : e.listener ∈ s.transport.panicking ∨ link.destination = none) :
      Done s (.exchange c e) (s.transport.answer c link e) none
  | returned {c : ConnectionId} {e : Exchange} {link : Link} {d : DestinationId}
      (here : s.transport.links[c]? = some link) (opened : link.closed = false)
      (home : link.destination = some d) (calm : e.listener ∉ s.transport.panicking) :
      Done s (.exchange c e) (s.transport.answer c link e) (some (.release d c))
  | performed {k : TaskId} : Done s (.task k) s.transport (some (.perform k))

theorem Done.isReport {s : Simulation} {j : Job} {t : Transport} {op : Operation}
    (done : Done s j t (some op)) : op.isReport = true := by
  cases done <;> rfl

/-- What a job does after its sleep leaves the other jobs where they are. -/
theorem Done.jobs {s : Simulation} {j : Job} {t : Transport} {op : Option Operation}
    (done : Done s j t op) : t.jobs = s.transport.jobs := by
  cases done <;> rfl

theorem Done.ready {s : Simulation} {j : Job} {t : Transport} {op : Option Operation}
    (done : Done s j t op) : t.ready = s.transport.ready := by
  cases done <;> rfl

theorem Done.sleeping {s : Simulation} {j : Job} {t : Transport} {op : Option Operation}
    (done : Done s j t op) : t.sleeping = s.transport.sleeping := by
  cases done <;> rfl

/-- A job that is taken off the run queue leaves the others. -/
theorem perm_jobs {t : Transport} {before after : List Turn} {j : Turn}
    (next : t.ready = before ++ j :: after) :
    t.jobs.Perm (j.job :: ({ t with ready := before ++ after } : Transport).jobs) := by
  simp only [Transport.jobs, next, List.map_append, List.map_cons, List.append_assoc]
  exact List.perm_middle

/-- A job that is scheduled joins the others. -/
theorem perm_jobs_schedule (t : Transport) (j : Job) (rested : Bool) :
    (t.schedule j rested).jobs.Perm (j :: t.jobs) := by
  simp only [Transport.jobs, Transport.schedule, List.map_append, List.map_cons, List.map_nil,
    List.append_assoc]
  exact List.perm_middle

/-- What is read off each job is read off one that comes first, and off the others. -/
theorem perm_filterMap {α β : Type} (f : α → Option β) {l k : List α} {a : α}
    (split : l.Perm (a :: k)) : (l.filterMap f).Perm ((f a).toList ++ k.filterMap f) := by
  have read := split.filterMap f
  rw [List.filterMap_cons] at read
  cases own : f a with
  | none =>
      rw [own] at read
      exact read
  | some b =>
      rw [own] at read
      exact read

namespace Simulation

/-- The simulation after an operation has run to its end, if there is one. -/
def carryOn (s : Simulation) : Option Operation → Simulation
  | none => s
  | some op => (s.invoke op).2

/-- A job does one of the listed things. -/
theorem done_complete (s : Simulation) (j : Job) :
    ∃ t op, Done s j t op ∧ s.complete j = ({ s with transport := t }).carryOn op := by
  cases j with
  | connect a number d =>
      cases number with
      | none => exact ⟨_, _, .refused _, rfl⟩
      | some number => exact ⟨_, _, .connected, rfl⟩
  | task k => exact ⟨_, _, .performed, rfl⟩
  | exchange c e =>
      rw [complete]
      split
      · next missing => exact ⟨_, _, .lost missing, rfl⟩
      · next link here =>
          dsimp only
          split
          · next closed => exact ⟨_, _, .broken here closed, rfl⟩
          · next opened =>
              have opened : link.closed = false := Bool.eq_false_iff.2 opened
              split
              · next panics =>
                  exact ⟨_, _, .stranded here opened (Or.inl (List.contains_iff_mem.1 panics)), rfl⟩
              · next calm =>
                  split
                  · next nowhere => exact ⟨_, _, .stranded here opened (Or.inr nowhere), rfl⟩
                  · next d home =>
                      have calm := mt List.contains_iff_mem.2 calm
                      exact ⟨_, _, .returned here opened home calm, rfl⟩

/-! ## Steps and runs -/

/-- One step of a simulation whose script may ask for what is `allowed`. -/
inductive Step (allowed : Operation → Prop) (s : Simulation) : Simulation → Prop
  | command {op : Operation} (may : allowed op) : Step allowed s (s.invoke op).2
  | job {before after : List Turn} {j : Turn} (next : s.transport.ready = before ++ j :: after) :
      Step allowed s
        (({ s with transport := { s.transport with ready := before ++ after } }).runJob j)
  | pass {moment : Nat} (later : s.transport.now ≤ moment) :
      Step allowed s ({ s with transport := { s.transport with now := moment } }).wake

/-- The simulation goes on from `s` to another one. -/
abbrev Runs (allowed : Operation → Prop) : Simulation → Simulation → Prop :=
  Relation.ReflTransGen (Step allowed)

/-- A run from a new simulation leads to this one. Some listeners may panic from the beginning. -/
inductive Reached (allowed : Operation → Prop) : Simulation → Prop
  | start {w : Client} {panicking : List ListenerId} (new : Client.Initial w)
      (timings : LoopbackTimings) : Reached allowed ⟨w, { timings, panicking }⟩
  | step {s s' : Simulation} (past : Reached allowed s) (next : Step allowed s s') :
      Reached allowed s'

variable {allowed more : Operation → Prop} {s s' : Simulation}

theorem Step.mono (h : ∀ op, allowed op → more op) (next : Step allowed s s') :
    Step more s s' := by
  cases next with
  | command may => exact .command (h _ may)
  | job next => exact .job next
  | pass later => exact .pass later

theorem Runs.mono (h : ∀ op, allowed op → more op) (run : Runs allowed s s') : Runs more s s' :=
  Relation.ReflTransGen.mono (fun _ _ next => Step.mono h next) _ _ run

theorem Reached.mono (h : ∀ op, allowed op → more op) (run : Reached allowed s) :
    Reached more s := by
  induction run with
  | start new timings => exact .start new timings
  | step _ next ih => exact ih.step (next.mono h)

theorem Runs.reached (run : Runs allowed s s') (past : Reached allowed s) : Reached allowed s' := by
  induction run with
  | refl => exact past
  | tail _ next ih => exact ih.step next

/-- The script goes on with an operation. -/
theorem Runs.ask (run : Runs allowed s s') (op : Operation) (may : allowed op) :
    Runs allowed s (s'.invoke op).2 :=
  run.tail (.command may)

/-! ## What a step does -/

/-- A job that goes to sleep stays among the jobs. -/
theorem moved_sleep {t : Transport} {before after : List Turn} {j : Turn}
    (next : t.ready = before ++ j :: after) (sleeps : t.latency j.job ≠ 0) :
    Moved t { t with
      ready := before ++ after
      sleeping := t.sleeping ++ [(t.now + t.latency j.job, j.job)] } where
  jobs := by
    simp only [Transport.jobs, next, List.map_append, List.map_cons, List.map_nil,
      List.append_assoc]
    refine List.Perm.append_left _ ?_
    rw [← List.append_assoc]
    exact List.perm_append_singleton _ _
  awake k there := by
    rw [List.map_append] at there
    rcases List.mem_append.1 there with old | new
    · exact old
    · -- a task does not sleep
      simp only [List.map_cons, List.map_nil, List.mem_singleton] at new
      rw [← new] at sleeps
      exact absurd rfl sleeps
  later := Nat.le_refl _
  timings := rfl
  links := rfl
  panicking := rfl
  notes := rfl

/-- Jobs that are woken stay among the jobs. -/
theorem moved_wake (s : Simulation) {moment : Nat} (later : s.transport.now ≤ moment) :
    Moved s.transport
      ({ s with transport := { s.transport with now := moment } } : Simulation).wake.transport where
  jobs := by
    have halves := List.filter_append_perm (fun x : Nat × Job => decide (x.1 ≤ moment))
      s.transport.sleeping
    have both := (halves.map (·.2)).append_left (s.transport.ready.map (·.job))
    simp only [Transport.jobs, wake, List.map_append, List.map_map, List.append_assoc] at both ⊢
    exact both
  awake k there := by
    obtain ⟨x, hx, same⟩ := List.mem_map.1 there
    exact List.mem_map.2 ⟨x, (List.mem_filter.1 hx).1, same⟩
  later := later
  timings := rfl
  links := rfl
  panicking := rfl
  notes := rfl

/-- In a step an operation is asked for and runs to its end, jobs sleep or wake or time passes, or a
job of the run queue is done. -/
theorem Step.cases (next : Step allowed s s') :
    (∃ op, allowed op ∧ s' = (s.invoke op).2) ∨
    (∃ t, Moved s.transport t ∧ s' = { s with transport := t }) ∨
    ∃ before j after t op, s.transport.ready = before ++ j :: after ∧
      Done { s with transport := { s.transport with ready := before ++ after } } j.job t op ∧
      s' = ({ s with transport := t }).carryOn op := by
  cases next with
  | command may => exact Or.inl ⟨_, may, rfl⟩
  | pass later => exact Or.inr (Or.inl ⟨_, moved_wake s later, rfl⟩)
  | @job before after j next =>
      rw [runJob]
      dsimp only
      split
      · obtain ⟨t, op, done, same⟩ := done_complete
          { s with transport := { s.transport with ready := before ++ after } } j.job
        exact Or.inr (Or.inr ⟨before, j, after, t, op, next, done, same⟩)
      · next sleeps =>
          have sleeps : s.transport.latency j.job ≠ 0 := by
            simp only [Bool.or_eq_true, decide_eq_true_eq, not_or] at sleeps
            exact sleeps.2
          exact Or.inr (Or.inl ⟨_, moved_sleep next sleeps, rfl⟩)

/-! ## Operations run to their end -/

/-- An operation that starts between two steps goes on with a course of the client, and leaves it
nothing to do. -/
theorem invoke_course (quiet : s.client.agenda = []) {op : Operation}
    (may : s.client.Obeys allowed op) :
    (∃ past, Client.Course (Client.Obeys allowed) s.client past (s.invoke op).2.client) ∧
      (s.invoke op).2.client.agenda = [] := by
  have stays : Client.Course (Client.Obeys allowed) s.client [] s.client := .nil
  have course := (stays.invoke op (Client.awaits_of_quiet quiet) may).drive Transport.called
    s.transport
  exact ⟨course, Client.agenda_drive _ _ (Client.outside_invoke quiet op)⟩

theorem Step.course (quiet : s.client.agenda = []) (next : Step allowed s s') :
    (∃ past, Client.Course (Client.Obeys allowed) s.client past s'.client) ∧
      s'.client.agenda = [] := by
  rcases next.cases with ⟨op, may, rfl⟩ | ⟨t, -, rfl⟩ | ⟨before, j, after, t, op, -, done, rfl⟩
  · exact invoke_course quiet (Or.inl may)
  · exact ⟨⟨_, .nil⟩, quiet⟩
  · cases op with
    | none => exact ⟨⟨_, .nil⟩, quiet⟩
    | some op => exact invoke_course (s := ⟨s.client, t⟩) quiet (Or.inr done.isReport)

/-- What a simulation does is a course of its client. -/
theorem Runs.course (quiet : s.client.agenda = []) (run : Runs allowed s s') :
    (∃ past, Client.Course (Client.Obeys allowed) s.client past s'.client) ∧
      s'.client.agenda = [] := by
  induction run with
  | refl => exact ⟨⟨_, .nil⟩, quiet⟩
  | tail _ next ih =>
      obtain ⟨⟨_, course⟩, quiet⟩ := ih
      obtain ⟨⟨_, further⟩, quiet⟩ := next.course quiet
      exact ⟨⟨_, course.append further⟩, quiet⟩

/-- The client of a simulation is reached by a run, and has nothing to do between two steps. -/
theorem Reached.client_quiet (run : Reached allowed s) :
    Client.Reached (Client.Obeys allowed) s.client ∧ s.client.agenda = [] := by
  induction run with
  | start new timings =>
      refine ⟨.initial new, ?_⟩
      cases new <;> rfl
  | step _ next ih =>
      obtain ⟨⟨_, course⟩, quiet⟩ := next.course ih.2
      exact ⟨course.reached ih.1, quiet⟩

theorem Reached.client (run : Reached allowed s) :
    Client.Reached (Client.Obeys allowed) s.client :=
  run.client_quiet.1

theorem Reached.quiet (run : Reached allowed s) : s.client.agenda = [] := run.client_quiet.2

theorem Reached.waits (run : Reached allowed s) : s.client.awaits = true :=
  Client.awaits_of_quiet run.quiet

/-! ## What every part of a step keeps -/

/-- In simulations with `Past`, every part of a step keeps `P`: jobs that sleep or wake, the start
of an operation, a job that is done, and what the client does then. -/
structure Keeps (Past : Simulation → Prop) (allowed : Operation → Prop)
    (P : Client → Transport → Prop) : Prop where
  moved : ∀ {w t t'}, Past ⟨w, t⟩ → Moved t t' → P w t → P w t'
  command : ∀ {w t op}, Past ⟨w, t⟩ → allowed op → P w t → P (w.invoke op).2 t
  done : ∀ {w t before j after t' op}, Past ⟨w, t⟩ → t.ready = before ++ j :: after →
    Done ⟨w, { t with ready := before ++ after }⟩ j.job t' op → P w t → P (w.begun op) t'
  drives : Client.Drives (Client.Obeys allowed) Transport.called P

theorem keeps_invoke {P : Client → Transport → Prop}
    (drives : Client.Drives (Client.Obeys allowed) Transport.called P)
    (run : Client.Reached (Client.Obeys allowed) s.client) (quiet : s.client.agenda = [])
    {op : Operation} (may : s.client.Obeys allowed op)
    (started : P (s.client.invoke op).2 s.transport) :
    P (s.invoke op).2.client (s.invoke op).2.transport :=
  drives.drive (run.invoke op (Client.awaits_of_quiet quiet) may) started

/-- What every part of a step keeps, the step keeps. -/
theorem Step.keeps {Past : Simulation → Prop} {P : Client → Transport → Prop}
    (keeps : Keeps Past allowed P) (past : Past s) (run : Reached allowed s)
    (next : Step allowed s s') (h : P s.client s.transport) : P s'.client s'.transport := by
  rcases next.cases with ⟨op, may, rfl⟩ | ⟨t, moved, rfl⟩ |
    ⟨before, j, after, t, op, split, done, rfl⟩
  · exact keeps_invoke keeps.drives run.client run.quiet (Or.inl may) (keeps.command past may h)
  · exact keeps.moved past moved h
  · have kept := keeps.done past split done h
    cases op with
    | none => exact kept
    | some op =>
        exact keeps_invoke (s := ⟨s.client, t⟩) keeps.drives run.client run.quiet
          (Or.inr done.isReport) kept

/-- What new simulations have and every part of a step keeps holds of every simulation that is
reached. -/
theorem Reached.keeps {P : Client → Transport → Prop}
    (first : ∀ {w}, Client.Initial w → ∀ timings panicking, P w { timings, panicking })
    (keeps : Keeps (Reached allowed) allowed P) (run : Reached allowed s) :
    P s.client s.transport := by
  induction run with
  | start new timings => exact first new timings _
  | step past next ih => exact next.keeps keeps past past ih

/-! ## Time goes on -/

/-- Time does not go back, and no connection is forgotten. -/
theorem keeps_later (allowed : Operation → Prop) (now links : Nat) :
    Keeps (Reached allowed) allowed fun _ t => now ≤ t.now ∧ links ≤ t.links.length where
  moved _ moved h := ⟨Nat.le_trans h.1 moved.later, moved.links.symm ▸ h.2⟩
  command _ _ h := h
  done {w t before j after t' op} _ _ done h := by
    generalize j.job = job at done
    cases done with
    | connected =>
        refine ⟨h.1, Nat.le_trans h.2 ?_⟩
        rw [Transport.join, List.length_append]
        exact Nat.le_add_right _ _
    | stranded here opened stays => exact ⟨h.1, List.length_set.symm ▸ h.2⟩
    | returned here opened home => exact ⟨h.1, List.length_set.symm ▸ h.2⟩
    | _ => exact h
  drives := by
    refine ⟨fun _ _ _ h => h, fun {c w t} _ h => ?_⟩
    cases c with
    | connect d a =>
        simp only [Transport.called]
        split <;> exact h
    | close c => exact ⟨h.1, (List.length_modify ..).symm ▸ h.2⟩
    | _ => exact h

theorem Runs.later (run : Runs allowed s s') (past : Reached allowed s) :
    s.transport.now ≤ s'.transport.now ∧ s.transport.links.length ≤ s'.transport.links.length := by
  induction run with
  | refl => exact ⟨Nat.le_refl _, Nat.le_refl _⟩
  | tail before next ih =>
      have past := Runs.reached before past
      exact next.keeps (keeps_later allowed _ _) past past ih

/-! ## Running the queue and letting time pass -/

theorem runs_runFor (allowed : Operation → Prop) (n : Nat) (s : Simulation) :
    Runs allowed s (s.runFor n) := by
  induction n generalizing s with
  | zero => exact .refl
  | succ n ih =>
      rw [runFor]
      split
      · exact .refl
      · next j rest top =>
          have next : s.transport.ready = [] ++ j :: rest := top
          exact .head (.job next) (ih _)

theorem runs_runReady (allowed : Operation → Prop) (s : Simulation) : Runs allowed s s.runReady :=
  runs_runFor allowed s.backlog s

theorem runs_passTo (allowed : Operation → Prop) (s : Simulation) {moment : Nat}
    (later : s.transport.now ≤ moment) : Runs allowed s (s.passTo moment) :=
  .head (.pass later) (runs_runReady allowed _)

theorem runs_advance (allowed : Operation → Prop) (n : Nat) (s : Simulation) :
    Runs allowed s (s.advance n) := by
  induction n generalizing s with
  | zero => exact .refl
  | succ n ih => exact (runs_passTo allowed s (Nat.le_succ _)).trans (ih _)

end Simulation

end Loopback

end ConnectionPool
