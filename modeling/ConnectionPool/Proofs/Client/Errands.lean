import ConnectionPool.Proofs.Client.Agenda
import ConnectionPool.Proofs.Client.Attempts

/-!
# What the executor and the connector are asked for

A task is held by the executor from the moment it is left to it, and the executor is called for it;
an attempt begins when the connector is asked for a connection, and goes on until its end is
reported. Main statements: every task that a step adds is one that the executor is about to be
called for (`Turned.tasks`, `Started.tasks`), and a task that is run is dropped (`tasks_perform`);
every attempt that a turn begins is one that the connector is about to be asked for
(`Turned.connects`), and an attempt that goes on ends when that is reported
(`attempts_concluded`).
-/

set_option autoImplicit false

namespace ConnectionPool

/-- The attempt that the connector is going to be asked for, and the destination it is for. -/
def Frame.connection? : Frame → Option (AttemptId × DestinationId)
  | .call (.connect d a) => some (a, d)
  | _ => none

namespace Client

variable {w w' : Client}

/-! ## Tasks -/

theorem tasks_glance (w : Client) : w.glance.tasks = w.tasks := by rw [glance_eq]

theorem tasks_locate (w : Client) (a : Address) : (w.locate a).2.tasks = w.tasks := by
  simp only [locate]
  split <;> rfl

/-- The executor is called for every task that a turn leaves to it. -/
theorem Turned.tasks {f : Frame} (turn : Turned f w w') : w'.tasks = w.tasks ∨
    ∃ work, w'.tasks = w.tasks ++ [⟨w.nextTask, work⟩] ∧
      .call (.execute w.nextTask) ∈ w'.agenda := by
  cases turn with
  | assignDeferred here head unmarked => exact Or.inr ⟨_, rfl, List.mem_cons_self⟩
  | fail d e cause => cases cause <;> exact Or.inl rfl
  | parkIdle here empty room runs | parkStopped here empty room stopped =>
      exact Or.inl (tasks_glance w)
  | _ => exact Or.inl rfl

theorem Sent.tasks {d : DestinationId} {dest : Destination} {r : Request} {l : ListenerId}
    {reply : Reply} (sent : Sent d dest r l w reply w') : w'.tasks = w.tasks := by
  cases sent with
  | mismatched error => rfl
  | stopped meant stopped | full meant runs full => exact tasks_glance w
  | takenBack meant runs room stops taken | accepted meant runs room stillRuns =>
      exact (tasks_glance _).trans (tasks_glance w)

/-- The executor is called for every task that the start of an operation leaves to it. A task that
is run is held no more. -/
theorem Started.tasks {op : Operation} {reply : Reply} (start : Started op w reply w') :
    w'.tasks = w.tasks ∨
    (∃ work, w'.tasks = w.tasks ++ [⟨w.nextTask, work⟩] ∧
      .call (.execute w.nextTask) ∈ w'.agenda) ∨
    ∃ k, op = .perform k ∧ w'.tasks = w.tasks.filter (·.id != k) := by
  cases start with
  | send here sent => exact Or.inl sent.tasks
  | submit runs meets here sent =>
      exact Or.inl (sent.tasks.trans ((tasks_locate _ _).trans (tasks_glance w)))
  | submitAdrift runs meets missing => exact Or.inl ((tasks_locate _ _).trans (tasks_glance w))
  | locate meets => exact Or.inl (tasks_locate w _)
  | submitStopped stopped | submitUnsupported runs nowhere | releaseStopped here stopped
  | releaseStray here runs nothing | release here runs taken => exact Or.inl (tasks_glance w)
  | settleFailed underWay unsettled pooled here =>
      exact Or.inr (Or.inl ⟨_, rfl, List.mem_cons_self⟩)
  | deliver held work | failHeadAdrift held work missing | spare held work here empty
  | failHead held work here head => exact Or.inr (Or.inr ⟨_, rfl, rfl⟩)
  | _ => exact Or.inl rfl

/-- After a task was run, it is not held. -/
theorem tasks_perform (w : Client) (k : TaskId) :
    (w.start (.perform k)).2.tasks = w.tasks.filter (·.id != k) := by
  have start := started_start (.perform k) w
  cases held : w.tasks.find? (·.id == k) with
  | none =>
      generalize w.start (.perform k) = result at start
      obtain ⟨reply, w'⟩ := result
      cases start with
      | ignored op =>
          refine (List.filter_eq_self.2 fun task there => ?_).symm
          simpa using List.find?_eq_none.1 held task there
      | deliver found work | failHeadAdrift found work missing | spare found work here empty
      | failHead found work here head => cases held.symm.trans found
  | some found =>
      have answer := done_perform held
      generalize w.start (.perform k) = result at start answer
      obtain ⟨reply, w'⟩ := result
      cases answer
      cases start <;> rfl

/-! ## Attempts -/

/-- The attempts that the connector is still to be asked for, and the destinations they are for. -/
def connects (w : Client) : List (AttemptId × DestinationId) :=
  w.agenda.filterMap Frame.connection?

theorem connects_of_agenda {new : List Frame} (agenda : w'.agenda = new ++ w.agenda)
    (none : ∀ f ∈ new, f.connection? = none) : w'.connects = w.connects := by
  rw [connects, agenda, List.filterMap_append, List.filterMap_eq_nil_iff.2 none]
  rfl

/-- A failed exchange has nobody ask for a connection. -/
theorem failureCalls_connection (w : Client) (e : Exchange) (cause : Cause) :
    ∀ f ∈ (w.failureCalls e cause).map .call, Frame.connection? f = none := by
  intro f told
  obtain ⟨c, own, rfl⟩ := List.mem_map.1 told
  have guarded := isGuarded_of_mem_failureCalls own
  cases c with
  | connect d a => cases guarded
  | _ => rfl

/-- A turn begins an attempt only to ask the connector for it. -/
theorem Turned.connects {f : Frame} (turn : Turned f w w') :
    w'.attempts = w.attempts ∧ w'.connects = w.connects ∨
    ∃ d, w'.attempts = w.attempts ++ [{ destination := d, pooled := true }] ∧
      w'.connects = (w.attempts.length, d) :: w.connects := by
  cases turn with
  | @acquireNew _ d dest slots here nothing free => exact Or.inr ⟨d, rfl, rfl⟩
  | fail d e cause =>
      refine Or.inl ⟨by cases cause <;> rfl, ?_⟩
      exact connects_of_agenda (by simp; rfl) (failureCalls_connection _ e cause)
  | parkIdle here empty room runs | parkStopped here empty room stopped =>
      refine Or.inl ⟨attempts_glance w, ?_⟩
      simp [Client.connects, List.filterMap_cons, Frame.connection?]
  | closeIdle here | closeActive here | failQueued here =>
      refine Or.inl ⟨rfl, connects_of_agenda rfl ?_⟩
      simp [or_imp, forall_and, Frame.connection?]
  | _ => exact Or.inl ⟨rfl, rfl⟩

/-- An operation asks the connector for nothing when it starts, unless that is what it is for. -/
theorem Started.connects {op : Operation} {reply : Reply} (start : Started op w reply w')
    (other : ∀ d, op ≠ .connect d) : w'.connects = w.connects := by
  obtain ⟨new, agenda, puts⟩ := start.agenda
  refine connects_of_agenda agenda fun f hf => ?_
  cases puts f hf with
  | connect d a => exact absurd rfl (other d)
  | _ => rfl

/-- Attempts end where that is reported, and begin where one is asked for. -/
theorem Started.attempts {op : Operation} {reply : Reply} (start : Started op w reply w')
    (other : ∀ d, op ≠ .connect d) (goesOn : ∀ a o, op ≠ .settle a o) :
    w'.attempts = w.attempts := by
  cases start with
  | send here sent => exact sent.attempts
  | submit runs meets here sent =>
      exact sent.attempts.trans ((attempts_locate _ _).trans (attempts_glance w))
  | submitAdrift runs meets missing => exact (attempts_locate _ _).trans (attempts_glance w)
  | locate meets => exact attempts_locate w _
  | submitStopped stopped | submitUnsupported runs nowhere | releaseStopped here stopped
  | releaseStray here runs nothing | release here runs taken => exact attempts_glance w
  | connect here => exact absurd rfl (other _)
  | settleConnected underWay unsettled pooled | settleFailed underWay unsettled pooled here
  | settleAdrift underWay unsettled pooled missing | settleAbandoned underWay unsettled pooled
  | settleUnpooled underWay unsettled unpooled => exact absurd rfl (goesOn _ _)
  | _ => rfl

/-- An attempt that goes on ends as is reported. -/
theorem attempts_settle {a : AttemptId} {attempt : Attempt} {o : Outcome}
    (underWay : w.attempts[a]? = some attempt) (unsettled : attempt.outcome = none) :
    (w.start (.settle a o)).2.attempts =
      w.attempts.set a { attempt with outcome := some o } := by
  have start := started_start (.settle a o) w
  have answer := done_settle (o := o) underWay unsettled
  generalize w.start (.settle a o) = result at start answer
  obtain ⟨reply, w'⟩ := result
  cases answer
  cases start with
  | settleConnected known _ _ | settleFailed known _ _ _ | settleAdrift known _ _ _
  | settleAbandoned known _ _ | settleUnpooled known _ _ =>
      cases underWay.symm.trans known
      rfl

theorem attempts_concluded {a : AttemptId} {d : DestinationId}
    (underWay : w.attempts[a]? = some ⟨d, true, none⟩) (o : Outcome) :
    (w.invoke (.settle a o)).2.attempts = w.attempts.set a ⟨d, true, some o⟩ :=
  attempts_settle (w := w.push [.finish (.settle a o)]) underWay rfl

theorem attempts_invoke {op : Operation} (other : ∀ d, op ≠ .connect d)
    (goesOn : ∀ a o, op ≠ .settle a o) : (w.invoke op).2.attempts = w.attempts :=
  (started_start op (w.push [.finish op])).attempts other goesOn

theorem connects_invoke {op : Operation} (other : ∀ d, op ≠ .connect d) :
    (w.invoke op).2.connects = w.connects :=
  (started_start op (w.push [.finish op])).connects other

end Client

end ConnectionPool
