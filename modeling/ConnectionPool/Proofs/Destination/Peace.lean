import ConnectionPool.Proofs.Client.Errands
import ConnectionPool.Proofs.Destination.Attendance
import ConnectionPool.Proofs.Destination.Forgotten
import ConnectionPool.Proofs.Destination.Retirement

/-!
# Runs in which nothing is broken off

The outside is peaceful if it never stops the client, neither closes nor removes anything, and ends
attempts with connections only (`Client.Peaceful`). Main statements: such a client closes nothing
and takes nothing away (`Client.Reached.serene`), so if every connection is delivered once, then
between two outermost steps every connection that was delivered is pooled
(`Client.Reached.pooled`), and the slots taken are those of the pooled connections and of the
attempts that go on (`Client.Reached.slots_peaceful`).
-/

set_option autoImplicit false

namespace ConnectionPool

/-- The frame neither closes a connection nor takes one away. -/
def Frame.isSerene : Frame → Bool
  | .call (.close _) => false
  | .remove _ _ => false
  | .closeIdle _ => false
  | .closeActive _ => false
  | .failQueued _ => false
  | _ => true

/-- An entry notes the start of no operation. -/
theorem Ledger.Entry.invoked_iff {s s' : Ledger} (entry : s.Entry s') {op : Operation}
    {reply : Reply} : .invoked op reply ∈ s'.history ↔ .invoked op reply ∈ s.history := by
  rcases entry.history with same | ⟨ev, added, other⟩
  · rw [same]
  · rw [added, List.mem_cons]
    refine ⟨fun there => there.resolve_left fun own => ?_, Or.inr⟩
    rw [← own] at other
    cases other

namespace Client

variable {allowed : Client → Operation → Prop} {w w' : Client} {past : List Client}
  {d : DestinationId} {D : Destination}

theorem Course.delivered_sublist (course : Course allowed w past w') (d : DestinationId) :
    List.Sublist (delivered (w.attemptsOf d)) (delivered (w'.attemptsOf d)) := by
  rw [← delivered_ended (w.attemptsOf d), ← delivered_ended (w'.attemptsOf d), attemptsOf,
    attemptsOf, List.filter_comm, List.filter_comm _ _ w'.attempts]
  exact (course.ended_sublist.filter _).filterMap _

/-- A client that a course has left on the way is where the course can be split. -/
theorem Course.split (course : Course allowed w past w') {v : Client} (left : v ∈ past) :
    ∃ before after, Course allowed w before v ∧ Course allowed v after w' := by
  induction course with
  | nil => cases left
  | @snoc past u u' course next ih =>
      rcases List.mem_cons.1 left with rfl | earlier
      · exact ⟨past, _, course, .snoc .nil next⟩
      · obtain ⟨before, after, first, rest⟩ := ih earlier
        exact ⟨before, _, first, rest.snoc next⟩

/-- A client that is reached is so by a course of a new one. -/
theorem Reached.course (run : Reached allowed w) :
    ∃ w₀ past, Initial w₀ ∧ Course allowed w₀ past w := by
  induction run with
  | @initial w new => exact ⟨w, [], new, .nil⟩
  | step _ next ih =>
      obtain ⟨w₀, past, new, course⟩ := ih
      exact ⟨w₀, _, new, course.snoc next⟩

/-- What new clients have and every step keeps while connections are delivered once holds of every
client that is reached, if every connection is delivered once. -/
theorem Reached.delivering_once {P : Client → Prop} (first : ∀ {w}, Initial w → P w)
    (kept : ∀ {w w'}, Reached allowed w → (∀ d, (delivered (w.attemptsOf d)).Nodup) → P w →
      Step allowed w w' → P w')
    (run : Reached allowed w) (once : ∀ d, (delivered (w.attemptsOf d)).Nodup) : P w := by
  induction run with
  | initial new => exact first new
  | @step w w' past next ih =>
      have stays : Course allowed w [] w := .nil
      have earlier (d : DestinationId) : (delivered (w.attemptsOf d)).Nodup :=
        (once d).sublist ((stays.snoc next).delivered_sublist d)
      exact kept past earlier (ih earlier) next

/-! ## Peaceful runs -/

/-- The outside never stops the client, neither closes nor removes anything, sends nothing to a
destination directly, and ends attempts with connections only. -/
def Peaceful (_ : Client) : Operation → Prop
  | .submit _ _ => True
  | .locate _ _ _ => True
  | .abort _ _ _ => True
  | .mark _ => True
  | .release _ _ => True
  | .perform _ => True
  | .settle _ o => ∃ c, o = .connected c
  | _ => False

theorem running_glance (w : Client) : w.glance.running = w.running := by rw [glance_eq]

theorem Turned.running {f : Frame} (turn : Turned f w w') : w'.running = w.running := by
  cases turn with
  | fail d e cause => cases cause <;> rfl
  | parkIdle here empty room runs | parkStopped here empty room stopped => exact running_glance w
  | _ => rfl

theorem Sent.running {dest : Destination} {r : Request} {l : ListenerId} {reply : Reply}
    (sent : Sent d dest r l w reply w') : w'.running = w.running := by
  cases sent with
  | mismatched error => rfl
  | stopped meant stopped | full meant runs full => exact running_glance w
  | takenBack meant runs room stops taken | accepted meant runs room stillRuns =>
      exact (running_glance _).trans (running_glance w)

theorem Started.running {op : Operation} {reply : Reply} (start : Started op w reply w')
    (peaceful : Peaceful w op) : w'.running = w.running := by
  cases start with
  | send here sent => cases peaceful
  | submit runs meets here sent =>
      exact sent.running.trans ((running_locate _ _).trans (running_glance w))
  | submitAdrift runs meets missing => exact (running_locate _ _).trans (running_glance w)
  | locate meets => exact running_locate w _
  | submitStopped stopped | submitUnsupported runs nowhere | releaseStopped here stopped
  | releaseStray here runs nothing | release here runs taken => exact running_glance w
  | setRunning flag | stop => cases peaceful
  | _ => rfl

theorem Reached.runs (run : Reached Peaceful w) : w.running = true := by
  refine run.invariant (P := fun w => w.running = true) ?_ ?_ (fun h => h) ?_
  · intro w new
    cases new <;> rfl
  · intro f w w' _ h turn
    exact turn.running.trans h
  · intro op reply w w' _ _ may h start
    exact (start.running may).trans h

theorem unforeseen_of_peaceful (w : Client) (op : Operation) (may : Peaceful w op) :
    Unforeseen w op := by
  rintro answers rfl
  exact may

/-- Every check of the running flag finds the client running. -/
theorem Reached.sees (run : Reached Peaceful w) : w.seesRunning = true := by
  rw [seesRunning_of_foreseen_nil (run.mono unforeseen_of_peaceful).foreseen_nil]
  exact run.runs

/-- A peaceful outside leaves the slots of every destination in order. -/
theorem Reached.tidy_of_peaceful (run : Reached Peaceful w) (d : DestinationId) :
    Reached (Tidy d) w := by
  induction run with
  | initial new => exact .initial new
  | step past next ih =>
      cases next with
      | turn busy => exact ih.step (.turn busy)
      | resume inside => exact ih.step (.resume inside)
      | panic inside guarded => exact ih.step (.panic inside guarded)
      | invoke op waits may =>
          refine ih.step (.invoke op waits ?_)
          cases op with
          | close d | remove d c | stop => cases may
          | release d c => exact fun _ stopped => nomatch past.sees.symm.trans stopped
          | _ => trivial

/-! ## Nothing is closed or taken away -/

/-- Nothing is closed or about to be, nothing is about to be taken away, and the tasks that the
executor holds hand exchanges over. -/
structure Serene (w : Client) : Prop where
  agenda : ∀ f ∈ w.agenda, f.isSerene = true
  tasks : ∀ task ∈ w.tasks, ∃ c e, task.work = .deliver c e
  unclosed : ∀ c, .called (.close c) ∉ w.history

theorem failureCalls_serene (w : Client) (e : Exchange) (cause : Cause) :
    ∀ f ∈ (w.failureCalls e cause).map .call, Frame.isSerene f = true := by
  intro f told
  obtain ⟨c, own, rfl⟩ := List.mem_map.1 told
  have guarded := isGuarded_of_mem_failureCalls own
  cases c with
  | close c => cases guarded
  | _ => rfl

/-- While the client runs and there is room for a connection in hand, carrying out a frame closes
nothing and takes nothing away. -/
theorem Turned.serene {f : Frame} (turn : Turned f w w') (h : (w.push [f]).Serene)
    (runs : w.seesRunning = true) (room : ¬ ∃ d, (w.push [f]).IdleOverflow d) : w'.Serene := by
  obtain ⟨agenda, tasks, unclosed⟩ := h
  obtain ⟨own, below⟩ := List.forall_mem_cons.1 agenda
  have below : ∀ g ∈ w.agenda, g.isSerene = true := below
  have more {new : List Frame} (serene : ∀ g ∈ new, g.isSerene = true) :
      ∀ g ∈ new ++ w.agenda, g.isSerene = true := List.forall_mem_append.2 ⟨serene, below⟩
  have noted {ev : Event} (other : ∀ c, ev ≠ .called (.close c)) :
      ∀ c, .called (.close c) ∉ ev :: w.history := fun c there =>
    unclosed c ((List.mem_cons.1 there).resolve_left fun same => other c same.symm)
  cases turn with
  | call c =>
      refine ⟨more (List.forall_mem_singleton.2 rfl), tasks, noted fun c' same => ?_⟩
      cases same
      cases own
  | finish op => exact ⟨below, tasks, noted fun _ => nofun⟩
  | fail d e cause =>
      refine ⟨?_, by cases cause <;> exact tasks, by cases cause <;> exact noted fun _ => nofun⟩
      rw [agenda_push, agenda_countFate, agenda_record]
      exact more (failureCalls_serene _ e cause)
  | adrift names missing | takeNone here nothing => exact ⟨below, tasks, unclosed⟩
  | within c | acquireIdle here head | acquireFull here nothing full | takeIdle here head =>
      exact ⟨more (List.forall_mem_singleton.2 rfl), tasks, unclosed⟩
  | acquireNew here nothing free | passOver here head marked =>
      exact ⟨more (List.forall_mem_cons.2 ⟨rfl, List.forall_mem_singleton.2 rfl⟩), tasks, unclosed⟩
  | parkSurplus here empty full =>
      exact absurd ⟨_, _, _, _, _, rfl, here, empty, full⟩ room
  | parkIdle here empty free runs =>
      refine ⟨?_, ?_, ?_⟩
      · rw [agenda_putDestination, agenda_glance]
        exact below
      · intro task held
        exact tasks task (tasks_glance w ▸ held)
      · intro c there
        exact unclosed c (history_glance w ▸ there)
  | parkStopped here empty free stopped => cases runs.symm.trans stopped
  | assign here head unmarked =>
      exact ⟨more (List.forall_mem_singleton.2 rfl), tasks, noted fun _ => nofun⟩
  | assignDeferred here head unmarked =>
      refine ⟨more (List.forall_mem_singleton.2 rfl), ?_, noted fun _ => nofun⟩
      exact List.forall_mem_append.2 ⟨tasks, List.forall_mem_singleton.2 ⟨_, _, rfl⟩⟩
  | removeLast here empty | removeMore here waiting | closeIdle here | closeActive here
  | failQueued here => cases own

theorem Puts.serene {op : Operation} {f : Frame} (puts : w.Puts op f) (runs : w.seesRunning = true)
    (peaceful : Peaceful w op) : f.isSerene = true := by
  cases puts with
  | forget stopped d c | hangUp stopped d c => cases runs.symm.trans stopped
  | remove d c | close d | stop d => cases peaceful
  | _ => rfl

/-- What a peaceful operation leaves to the executor, it left before. -/
theorem Started.tasks_sublist {op : Operation} {reply : Reply} (start : Started op w reply w')
    (peaceful : Peaceful w op) : List.Sublist w'.tasks w.tasks := by
  rcases start.tasks with same | ⟨work, more, calls⟩ | ⟨k, -, dropped⟩
  · rw [same]
  · cases start with
    | settleFailed underWay unsettled pooled here =>
        obtain ⟨c, connected⟩ := peaceful
        cases connected
    | send here sent => cases peaceful
    | submit runs meets here sent =>
        rw [sent.tasks, tasks_locate, tasks_glance]
    | submitAdrift runs meets missing => rw [tasks_locate, tasks_glance]
    | locate meets => rw [tasks_locate]
    | submitStopped stopped | submitUnsupported runs nowhere | releaseStopped here stopped
    | releaseStray here runs nothing | release here runs taken =>
        exact (tasks_glance w).symm ▸ List.Sublist.refl _
    | deliver held work | failHeadAdrift held work missing | spare held work here empty
    | failHead held work here head => exact List.filter_sublist
    | _ => exact List.Sublist.refl _
  · rw [dropped]
    exact List.filter_sublist

/-- While connections are delivered once, a connection in hand finds room in both pools. -/
theorem Reached.room (run : Reached Peaceful w) (once : (delivered (w.attemptsOf d)).Nodup)
    {c : ConnectionId} {deferred : Bool} {rest : List Frame}
    (top : w.agenda = .serve d c deferred :: rest) (here : w.destinations[d]? = some D) :
    D.idle.items.length < D.idle.capacity ∧ D.active.items.length < D.active.capacity :=
  ((run.tidy_of_peaceful d).exact here).room once (framesAt_serve top)

/-- If every connection is delivered once, a client in a peaceful run closes nothing and takes
nothing away. -/
theorem Reached.serene (run : Reached Peaceful w)
    (once : ∀ d, (delivered (w.attemptsOf d)).Nodup) : w.Serene := by
  refine run.delivering_once (P := Serene) (fun new => ?_)
    (fun {w w'} past once before next => ?_) once
  · cases new <;>
      exact ⟨List.forall_mem_nil _, List.forall_mem_nil _, fun _ => List.not_mem_nil⟩
  · rcases next.cases with ⟨f, v, rfl, turn⟩ | ⟨c, rfl⟩ | ⟨op, reply, v, waits, may, start, rfl⟩
    · refine turn.serene before ((seesRunning_push v [f]).symm.trans past.sees) ?_
      rintro ⟨d, c, deferred, rest, D, top, here, -, full⟩
      have room := (past.room (once d) top here).1
      exact absurd (BoundedQueue.offer_eq_error_iff.1 full).1 (Nat.ne_of_lt room)
    · exact ⟨(List.forall_mem_cons.1 before.agenda).2, before.tasks, before.unclosed⟩
    · obtain ⟨new, agenda, puts⟩ := start.agenda
      have sees := (seesRunning_push w [.finish op]).trans past.sees
      have peaceful : Peaceful (w.push [.finish op]) op := may
      refine ⟨?_, fun task held => ?_, fun c there => ?_⟩
      · rw [agenda_record, agenda]
        refine List.forall_mem_append.2 ⟨fun f hf => (puts f hf).serene sees peaceful, ?_⟩
        exact List.forall_mem_cons.2 ⟨rfl, before.agenda⟩
      · exact before.tasks task ((start.tasks_sublist peaceful).subset held)
      · -- the start of an operation closes nothing by itself
        have there := (List.mem_cons.1 there).resolve_left nofun
        rcases start.history with same | ⟨d, error, spared⟩ | ⟨d, e, queued, -⟩
        · exact before.unclosed c (same ▸ there)
        · rw [spared] at there
          exact before.unclosed c ((List.mem_cons.1 there).resolve_left nofun)
        · rw [queued] at there
          exact before.unclosed c ((List.mem_cons.1 there).resolve_left nofun)

/-- What was invoked was allowed. -/
theorem Reached.invoked_allowed (run : Reached allowed w) {op : Operation} {reply : Reply}
    (invoked : .invoked op reply ∈ w.history) : ∃ v, allowed v op := by
  induction run with
  | initial new => cases new <;> cases invoked
  | @step w w' past next ih =>
      rcases next.cases with ⟨f, v, rfl, turn⟩ | ⟨c, rfl⟩ | ⟨op', reply', v, -, may, start, rfl⟩
      · exact ih (turn.ledger.invoked_iff.1 invoked)
      · exact ih invoked
      · rcases List.mem_cons.1 invoked with same | old
        · cases same
          exact ⟨w, may⟩
        · exact ih (start.ledger.invoked_iff.1 old)

/-! ## Between two outermost steps -/

/-- If every connection is delivered once, then between two outermost steps of a peaceful run every
connection that was delivered is idle or active. -/
theorem Reached.pooled (run : Reached Peaceful w) (once : ∀ d, (delivered (w.attemptsOf d)).Nodup)
    (quiet : w.agenda = []) (here : w.destinations[d]? = some D) {c : ConnectionId}
    (arrived : c ∈ delivered (w.attemptsOf d)) : c ∈ D.idle.items ∨ c ∈ D.active.items := by
  obtain ⟨w₀, past, first, course⟩ := run.course
  rcases course.custody_quiet first quiet here arrived with
    kept | closed | ⟨reply, removed⟩ |
    ⟨v, left, deferred, rest, D', e, queue, top, there, -, -, full⟩
  · exact kept
  · exact absurd closed ((run.serene once).unclosed c)
  · obtain ⟨v, may⟩ := run.invoked_allowed removed
    cases may
  · -- a connection that was put to work found room
    obtain ⟨before, after, reached, rest⟩ := course.split left
    have earlier := (once d).sublist (rest.delivered_sublist d)
    have room := ((reached.reached (.initial first)).room earlier top there).2
    exact absurd (BoundedQueue.offer_eq_error_iff.1 full).1 (Nat.ne_of_lt room)

/-- If every connection is delivered once, then between two outermost steps of a peaceful run the
slots taken are those of the pooled connections and of the attempts that go on, and within the
limit. -/
theorem Reached.slots_peaceful (run : Reached Peaceful w)
    (once : (delivered (w.attemptsOf d)).Nodup) (quiet : w.agenda = [])
    (here : w.destinations[d]? = some D) :
    D.slots.used = D.idle.items.length + D.active.items.length + unfinished (w.attemptsOf d) ∧
      D.slots.used ≤ w.limits.connections := by
  have account := (run.tidy_of_peaceful d).exact here
  have exact : D.slots.used = D.idle.items.length + D.active.items.length +
      (hands (w.framesAt d)).length + unfinished (w.attemptsOf d) := account.exact once
  have limit : D.slots.limit = w.limits.connections := account.accounted.sized.slots
  rw [framesAt_quiet quiet] at exact
  exact ⟨exact, limit ▸ D.slots.used_le⟩

/-- Attempts of a peaceful run go on or have delivered a connection. -/
theorem Reached.sound (run : Reached Peaceful w) : ∀ a ∈ w.attempts, a.isSound = true := by
  refine run.invariant (P := fun w => ∀ a ∈ w.attempts, a.isSound = true) ?_ ?_ (fun h => h) ?_
  · intro w new
    cases new <;> exact List.forall_mem_nil _
  · intro f w w' _ h turn
    rcases turn.connects with ⟨same, -⟩ | ⟨d, more, -⟩
    · rw [same]
      exact h
    · rw [more]
      exact List.forall_mem_append.2 ⟨h, List.forall_mem_singleton.2 rfl⟩
  · intro op reply w w' _ _ may h start
    have h : ∀ a ∈ (w.push [.finish op]).attempts, a.isSound = true := h
    have ended {a : AttemptId} {attempt : Attempt} {o : Outcome}
        (peaceful : ∃ c, o = .connected c) :
        ∀ x ∈ ((w.push [.finish op]).conclude a attempt o).attempts, x.isSound = true := by
      obtain ⟨c, rfl⟩ := peaceful
      intro x there
      rcases List.mem_or_eq_of_mem_set there with old | rfl
      · exact h x old
      · rfl
    by_cases settles : ∃ a o, op = .settle a o
    · obtain ⟨a, o, rfl⟩ := settles
      cases start with
      | ignored op => exact h
      | settleConnected underWay unsettled pooled => exact ended ⟨_, rfl⟩
      | settleFailed underWay unsettled pooled here | settleAdrift underWay unsettled pooled missing
      | settleAbandoned underWay unsettled pooled => exact nomatch may
      | settleUnpooled underWay unsettled unpooled => exact ended may
    · have same : w'.attempts = w.attempts := by
        refine start.attempts ?_ fun a o own => settles ⟨a, o, own⟩
        rintro d rfl
        exact may
      show ∀ a ∈ w'.attempts, a.isSound = true
      rw [same]
      exact h

end Client

end ConnectionPool
