import ConnectionPool.Proofs.Client.Run

/-!
# The ledger of a client

What becomes of exchanges is read off the history, the calls that are still to be made and the tasks
that the executor holds. These make up the ledger of a client (`Client.ledger`), and `Ledger.Entry`
lists what can happen to it; destinations and their pools do not appear there. Main statement: a
step of a client makes an entry into its ledger, and the start of an operation is noted after it
(`Client.Step.ledger`).
-/

set_option autoImplicit false

namespace ConnectionPool

/-- The call that a frame is going to make. -/
def Frame.call? : Frame → Option Call
  | .call c => some c
  | _ => none

/-- The exchange that a call hands over or tells about. -/
def Call.exchange? : Call → Option Exchange
  | .send _ e => some e
  | .responseFailed e _ => some e
  | .completed e _ => some e
  | .connect _ _ => none
  | .execute _ => none
  | .close _ => none
  | .requestQueued _ _ => none
  | .requestFailed _ _ _ => none

/-- What became of exchanges so far, and what is to become of them: the calls to be made, innermost
first, the tasks held, and the history, latest first. -/
structure Ledger where
  calls : List Call
  tasks : List Task
  nextTask : TaskId
  nextTicket : Nat
  history : List Event

/-- The calls that the agenda is going to make, innermost first. -/
def callsOf (fs : List Frame) : List Call := fs.filterMap Frame.call?

theorem callsOf_append (fs gs : List Frame) : callsOf (fs ++ gs) = callsOf fs ++ callsOf gs :=
  List.filterMap_append

theorem callsOf_map_call {α : Type} (f : α → Call) (l : List α) :
    callsOf (l.map fun x => .call (f x)) = l.map f := by
  induction l with
  | nil => rfl
  | cons x l ih => exact congrArg (f x :: ·) ih

theorem callsOf_calls (cs : List Call) : callsOf (cs.map .call) = cs :=
  (callsOf_map_call id cs).trans (List.map_id cs)

theorem mem_callsOf {fs : List Frame} {c : Call} : c ∈ callsOf fs ↔ .call c ∈ fs := by
  refine List.mem_filterMap.trans ⟨?_, fun h => ⟨_, h, rfl⟩⟩
  rintro ⟨f, hf, calls⟩
  cases f with
  | call c' => cases calls; exact hf
  | _ => cases calls

theorem callsOf_nil_of {fs : List Frame} (none : ∀ f ∈ fs, f.call? = none) : callsOf fs = [] :=
  List.filterMap_eq_nil_iff.2 none

/-- `op.Asks d e`: the operation asks for the exchange `e` to be queued at the destination `d`. -/
inductive Operation.Asks : Operation → DestinationId → Exchange → Prop
  | send (d : DestinationId) (ticket : Nat) (r : Request) (l : ListenerId) :
      Asks (.send d r l) d ⟨ticket, r, l⟩
  | submit (d : DestinationId) (ticket : Nat) (r : Request) (l : ListenerId) :
      Asks (.submit r l) d ⟨ticket, r, l⟩

/-- The operation asks for an exchange to be queued. -/
def Operation.asks : Operation → Bool
  | .send _ _ _ => true
  | .submit _ _ => true
  | _ => false

namespace Ledger

/-- Calls that are not about exchanges. -/
def Plain (cs : List Call) : Prop := ∀ c ∈ cs, c.exchange? = none

/-- What can happen to a ledger. -/
inductive Entry (s : Ledger) : Ledger → Prop
  | stay : Entry s s
  | make {c C} (next : s.calls = c :: C) :
      Entry s { s with calls := C, history := .called c :: s.history }
  | returned (op : Operation) : Entry s { s with history := .returned op :: s.history }
  | ask {cs} (plain : Plain cs) : Entry s { s with calls := cs ++ s.calls }
  | fail {cs} (d : DestinationId) (e : Exchange) (cause : Cause) (plain : Plain cs) :
      Entry s
        { s with
          calls := cs ++ .responseFailed e cause.responseFailure ::
            .completed e (.ofCause e.request cause) :: s.calls
          history := .failed d e cause :: s.history }
  | assign (d : DestinationId) (c : ConnectionId) (e : Exchange) :
      Entry s
        { s with calls := .send c e :: s.calls, history := .assigned d c e false :: s.history }
  | assignDeferred (d : DestinationId) (c : ConnectionId) (e : Exchange) :
      Entry s
        { s with
          calls := .execute s.nextTask :: s.calls
          tasks := s.tasks ++ [⟨s.nextTask, .deliver c e⟩]
          nextTask := s.nextTask + 1
          history := .assigned d c e true :: s.history }
  | accept {cs} (d : DestinationId) (r : Request) (l : ListenerId) (plain : Plain cs) :
      Entry s
        { s with
          calls := cs ++ s.calls
          nextTicket := s.nextTicket + 1
          history := .accepted d ⟨s.nextTicket, r, l⟩ :: s.history }
  | takeBack : Entry s { s with nextTicket := s.nextTicket + 1 }
  | leaveFailure (d : DestinationId) (error : TransportError) :
      Entry s
        { s with
          calls := .execute s.nextTask :: s.calls
          tasks := s.tasks ++ [⟨s.nextTask, .failHead d error⟩]
          nextTask := s.nextTask + 1 }
  | deliver {task c e} (held : task ∈ s.tasks) (work : task.work = .deliver c e) :
      Entry s
        { s with calls := .send c e :: s.calls, tasks := s.tasks.filter (·.id != task.id) }
  | failHead {task d error} (held : task ∈ s.tasks) (work : task.work = .failHead d error) :
      Entry s { s with tasks := s.tasks.filter (·.id != task.id) }
  | spare {task d error} (held : task ∈ s.tasks) (work : task.work = .failHead d error) :
      Entry s
        { s with
          tasks := s.tasks.filter (·.id != task.id)
          history := .spared d error :: s.history }

end Ledger

namespace Client

/-- The ledger of a client. -/
def ledger (w : Client) : Ledger :=
  ⟨callsOf w.agenda, w.tasks, w.nextTask, w.nextTicket, w.history⟩

/-! ## What the parts of a step do to the ledger -/

section Parts

variable (w : Client)

theorem ledger_push (fs : List Frame) :
    (w.push fs).ledger = { w.ledger with calls := callsOf fs ++ w.ledger.calls } := by
  simp only [ledger, push]
  rw [callsOf_append]

/-- Frames that are not calls leave the ledger as it is. -/
theorem ledger_push_silent {fs : List Frame} (silent : ∀ f ∈ fs, f.call? = none) :
    (w.push fs).ledger = w.ledger := by
  rw [ledger_push, callsOf_nil_of silent]
  rfl

theorem ledger_record (e : Event) :
    (w.record e).ledger = { w.ledger with history := e :: w.ledger.history } := rfl

theorem ledger_drawTicket :
    w.drawTicket.ledger = { w.ledger with nextTicket := w.ledger.nextTicket + 1 } := rfl

@[simp] theorem ledger_putDestination (d : DestinationId) (D : Destination) :
    (w.putDestination d D).ledger = w.ledger := rfl

@[simp] theorem ledger_glance : w.glance.ledger = w.ledger := by rw [glance_eq]; rfl

@[simp] theorem ledger_locate (a : Address) : (w.locate a).2.ledger = w.ledger := by
  simp only [locate]
  split <;> rfl

@[simp] theorem ledger_countFate (cause : Cause) : (w.countFate cause).ledger = w.ledger := by
  cases cause <;> rfl

@[simp] theorem ledger_countRejected : w.countRejected.ledger = w.ledger := rfl

@[simp] theorem ledger_countQueued : w.countQueued.ledger = w.ledger := rfl

end Parts

/-! ## Steps -/

/-- Calls that are not about exchanges are put on top of the others. -/
theorem entry_push {w w' : Client} {fs : List Frame} (same : w'.ledger = w.ledger)
    (plain : ∀ c, .call c ∈ fs → c.exchange? = none) : w.ledger.Entry (w'.push fs).ledger := by
  rw [ledger_push, same]
  exact .ask fun c hc => plain c (mem_callsOf.1 hc)

theorem entry_of_eq {w w' : Client} (same : w'.ledger = w.ledger) : w.ledger.Entry w'.ledger := by
  rw [same]
  exact .stay

/-- Carrying out a frame makes an entry. -/
theorem Turned.ledger {f : Frame} {w w' : Client} (turn : Turned f w w') :
    (w.push [f]).ledger.Entry w'.ledger := by
  cases turn with
  | call c =>
      rw [ledger_push_silent (w.record _) (by simp [Frame.call?])]
      exact .make rfl
  | within c => exact .stay
  | finish op => exact .returned op
  | fail d e cause =>
      show w.ledger.Entry _
      -- request listeners are told first, if at all, and then the exchange's own
      rw [ledger_push, callsOf_calls, ledger_countFate, failureCalls, List.append_assoc]
      apply Ledger.Entry.fail d e cause
      intro c hc
      split at hc
      · obtain ⟨i, -, rfl⟩ := List.mem_map.1 hc
        rfl
      · cases hc
  | adrift names missing =>
      refine entry_of_eq (ledger_push_silent w fun g hg => ?_).symm
      -- a frame that names a destination is no call
      rw [List.mem_singleton.1 hg]
      cases f with
      | call c => cases names
      | _ => rfl
  | acquireIdle here head | takeIdle here head | removeMore here waiting
  | passOver here head marked =>
      apply entry_of_eq
      rw [ledger_push_silent _ (by simp [Frame.call?])]
      rfl
  | acquireFull here nothing full => exact .stay
  | acquireNew here nothing free =>
      exact entry_push rfl (by simp [Call.exchange?])
  | takeNone here nothing => exact .stay
  | parkSurplus here empty full =>
      exact entry_push rfl (by simp [Call.exchange?])
  | parkIdle here empty room runs => exact entry_of_eq (ledger_glance w)
  | parkStopped here empty room stopped =>
      exact entry_push (ledger_glance w) (by simp [Call.exchange?])
  | assign here head unmarked => exact .assign _ _ _
  | assignDeferred here head unmarked => exact .assignDeferred _ _ _
  | removeLast here empty => exact .stay
  | closeIdle here | closeActive here =>
      refine entry_push rfl ?_
      simp [Call.exchange?]
  | failQueued here =>
      apply entry_of_eq
      rw [ledger_push_silent _ (by simp [Frame.call?])]
      rfl

/-- Queueing a request makes an entry. -/
theorem Sent.ledger {d : DestinationId} {dest : Destination} {r : Request} {l : ListenerId}
    {reply : Reply} {w w' : Client} (sent : Sent d dest r l w reply w') :
    w.ledger.Entry w'.ledger := by
  have ticket : w.glance.nextTicket = w.nextTicket := by rw [glance_eq]
  cases sent with
  | mismatched error => exact .stay
  | stopped meant stopped | full meant runs full => exact entry_of_eq (ledger_glance w)
  | takenBack meant runs room stops taken =>
      rw [ledger_countRejected, ledger_putDestination, ledger_glance, ledger_drawTicket,
        ledger_glance]
      exact .takeBack
  | accepted meant runs room stillRuns =>
      rw [ledger_push, ledger_countQueued, ledger_record, ledger_putDestination, ledger_glance,
        ledger_drawTicket, ledger_glance, callsOf_append, callsOf_map_call, ticket]
      apply Ledger.Entry.accept d r l
      intro c hc
      rcases List.mem_append.1 hc with told | rest
      · obtain ⟨i, -, rfl⟩ := List.mem_map.1 told
        rfl
      · cases rest

/-- Queueing a request is answered by `done` only where an exchange for it is accepted. -/
theorem Sent.answered {d : DestinationId} {dest : Destination} {r : Request} {l : ListenerId}
    {w w' : Client} (sent : Sent d dest r l w .done w') :
    ∃ ticket, w'.ledger.history = .accepted d ⟨ticket, r, l⟩ :: w.ledger.history := by
  cases sent with
  | accepted meant runs room stillRuns =>
      rw [ledger_push, ledger_countQueued, ledger_record, ledger_putDestination, ledger_glance,
        ledger_drawTicket, ledger_glance]
      exact ⟨_, rfl⟩

/-- The start of an operation makes an entry. -/
theorem Started.ledger {op : Operation} {reply : Reply} {w w' : Client}
    (start : Started op w reply w') : w.ledger.Entry w'.ledger := by
  have held {t : TaskId} {task : Task} (found : w.tasks.find? (·.id == t) = some task) :
      task ∈ w.ledger.tasks ∧ task.id = t :=
    ⟨List.mem_of_find?_eq_some found, by simpa using List.find?_some found⟩
  cases start with
  | send here sent => exact sent.ledger
  | submit runs meets here sent =>
      have entry := sent.ledger
      rw [ledger_locate, ledger_glance] at entry
      exact entry
  | submitStopped stopped | submitUnsupported runs nowhere | releaseStray here runs nothing =>
      exact entry_of_eq (ledger_glance w)
  | submitAdrift runs meets missing =>
      exact entry_of_eq ((ledger_locate _ _).trans (ledger_glance w))
  | locate meets => exact entry_of_eq (ledger_locate w _)
  | ignored op | locateUnsupported nowhere | abortMissed here nothing
  | settleAdrift underWay unsettled pooled missing | settleAbandoned underWay unsettled pooled
  | settleUnpooled underWay unsettled unpooled | mark r | setRunning flag | foresee answers =>
      exact .stay
  | abort here taken | remove here | close here | settleConnected underWay unsettled pooled =>
      exact entry_push rfl (by simp)
  | release here runs taken => exact entry_push (ledger_glance w) (by simp)
  | releaseStopped here stopped => exact entry_push (ledger_glance w) (by simp [Call.exchange?])
  | connect here => exact entry_push rfl (by simp [Call.exchange?])
  | stop => exact entry_push rfl (by simp)
  | settleFailed underWay unsettled pooled here => exact .leaveFailure _ _
  | deliver found work =>
      obtain ⟨mem, rfl⟩ := held found
      exact .deliver mem work
  | failHeadAdrift found work missing =>
      obtain ⟨mem, rfl⟩ := held found
      exact .failHead mem work
  | spare found work here empty =>
      obtain ⟨mem, rfl⟩ := held found
      exact .spare mem work
  | failHead found work here head =>
      obtain ⟨mem, rfl⟩ := held found
      exact .failHead mem work

/-- An operation that asks for an exchange to be queued is answered by `done` only where the
exchange is accepted. -/
theorem Started.answered {op : Operation} {w w' : Client} (start : Started op w .done w')
    (asks : op.asks = true) :
    ∃ d e, op.Asks d e ∧ w'.ledger.history = .accepted d e :: w.ledger.history := by
  cases start with
  | @send _ _ d dest r l _ here sent =>
      obtain ⟨ticket, accepted⟩ := sent.answered
      exact ⟨d, _, .send d ticket r l, accepted⟩
  | @submit _ _ a dest r l _ runs meets here sent =>
      obtain ⟨ticket, accepted⟩ := sent.answered
      rw [ledger_locate, ledger_glance] at accepted
      exact ⟨_, _, .submit _ ticket r l, accepted⟩
  | _ => cases asks

/-- A step makes an entry. Where it starts an operation, that is noted after the entry. -/
theorem Step.ledger {allowed : Client → Operation → Prop} {w w' : Client}
    (next : Step allowed w w') : ∃ mid, w.ledger.Entry mid ∧
      (w'.ledger = mid ∨ ∃ op reply,
        w'.ledger = { mid with history := .invoked op reply :: mid.history } ∧
        (reply = .done → op.asks = true →
          ∃ d e, op.Asks d e ∧ mid.history = .accepted d e :: w.ledger.history)) := by
  rcases next.cases with ⟨f, v, rfl, turn⟩ | ⟨c, rfl⟩ | ⟨op, reply, v, waits, may, start, rfl⟩
  · exact ⟨_, turn.ledger, Or.inl rfl⟩
  · exact ⟨_, .stay, Or.inl rfl⟩
  · refine ⟨_, start.ledger, Or.inr ⟨op, reply, rfl, ?_⟩⟩
    rintro rfl asks
    exact start.answered asks

theorem Initial.ledger {w : Client} (new : Initial w) : w.ledger = ⟨[], [], 0, 0, []⟩ := by
  cases new <;> rfl

/-- A law that holds of the empty ledger and that entries and the notes of operations keep holds of
the ledger of every client that is reached. -/
theorem Reached.ledger {allowed : Client → Operation → Prop} {P : Ledger → Prop}
    (new : P ⟨[], [], 0, 0, []⟩) (entry : ∀ {s s'}, P s → s.Entry s' → P s')
    (noted : ∀ {s} op reply, P s → P { s with history := .invoked op reply :: s.history })
    {w : Client} (run : Reached allowed w) : P w.ledger := by
  induction run with
  | initial first =>
      rw [first.ledger]
      exact new
  | step past next ih =>
      obtain ⟨mid, made, same | ⟨op, reply, note, -⟩⟩ := next.ledger
      · rw [same]
        exact entry ih made
      · rw [note]
        exact noted op reply (entry ih made)

end Client

end ConnectionPool
