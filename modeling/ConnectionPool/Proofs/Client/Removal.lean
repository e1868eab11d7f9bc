import ConnectionPool.Proofs.Client.Run

/-!
# Removals and hand-overs are carried out at once

What asks for a connection to be removed, or for an exchange to be handed over, asks for nothing
else before it. Main statement: in every client that is reached such a frame can only be on top of
the agenda (`Reached.urgent_on_top`), so no removal is under way when an operation starts
(`Reached.no_removal`).
-/

set_option autoImplicit false

namespace ConnectionPool

/-- The frame removes a connection. -/
def Frame.isRemoval : Frame → Bool
  | .remove _ _ => true
  | _ => false

/-- The frame removes a connection or hands an exchange over. -/
def Frame.isUrgent : Frame → Bool
  | .remove _ _ => true
  | .call (.send _ _) => true
  | _ => false

theorem Frame.isUrgent_of_isRemoval {f : Frame} (removal : f.isRemoval = true) :
    f.isUrgent = true := by
  cases f with
  | remove d c => rfl
  | _ => cases removal

namespace Client

/-- A removal is on top of the agenda, if anywhere. -/
def Prompt (w : Client) : Prop := w.agenda.tail.filter (·.isRemoval) = []

/-! ## What the parts of a step do to the agenda -/

section Parts

variable (w : Client)

@[simp] theorem agenda_push (fs : List Frame) : (w.push fs).agenda = fs ++ w.agenda := rfl

@[simp] theorem agenda_record (e : Event) : (w.record e).agenda = w.agenda := rfl

@[simp] theorem agenda_putDestination (d : DestinationId) (D : Destination) :
    (w.putDestination d D).agenda = w.agenda := rfl

@[simp] theorem agenda_addAttempt (d : DestinationId) (pooled : Bool) :
    (w.addAttempt d pooled).agenda = w.agenda := rfl

@[simp] theorem agenda_addTask (work : Work) :
    (w.addTask work).agenda = .call (.execute w.nextTask) :: w.agenda := rfl

@[simp] theorem agenda_conclude (a : AttemptId) (attempt : Attempt) (o : Outcome) :
    (w.conclude a attempt o).agenda = w.agenda := rfl

@[simp] theorem agenda_dropTask (t : TaskId) : (w.dropTask t).agenda = w.agenda := rfl

@[simp] theorem agenda_drawTicket : w.drawTicket.agenda = w.agenda := rfl

@[simp] theorem agenda_glance : w.glance.agenda = w.agenda := by rw [glance_eq]

@[simp] theorem agenda_locate (a : Address) : (w.locate a).2.agenda = w.agenda := by
  simp only [locate]
  split <;> rfl

@[simp] theorem agenda_countFate (cause : Cause) : (w.countFate cause).agenda = w.agenda := by
  cases cause <;> rfl

@[simp] theorem agenda_countRemoved : w.countRemoved.agenda = w.agenda := rfl

@[simp] theorem agenda_countRejected : w.countRejected.agenda = w.agenda := rfl

@[simp] theorem agenda_countQueued : w.countQueued.agenda = w.agenda := rfl

@[simp] theorem agenda_countCreated : w.countCreated.agenda = w.agenda := rfl

@[simp] theorem agenda_countFailure : w.countFailure.agenda = w.agenda := rfl

end Parts

/-! ## What the cases of a step put on the agenda -/

theorem urgent_tail_nil {fs : List Frame} (h : fs.filter (·.isUrgent) = []) :
    fs.tail.filter (·.isUrgent) = [] := by
  rw [List.filter_eq_nil_iff] at h ⊢
  exact fun f hf => h f (List.mem_of_mem_tail hf)

/-- A failed exchange is told of, and not handed over. -/
theorem failureCalls_not_urgent {w : Client} {e : Exchange} {cause : Cause} {c : Call}
    (told : c ∈ w.failureCalls e cause) : (Frame.call c).isUrgent = false := by
  have guarded := isGuarded_of_mem_failureCalls told
  cases c with
  | send c e => cases guarded
  | _ => rfl

/-- Carrying out a frame asks for a hand-over as the first thing to do, if at all. -/
theorem Turned.urgent {f : Frame} {w w' : Client} (turn : Turned f w w')
    (none : w.agenda.filter (·.isUrgent) = []) : w'.agenda.tail.filter (·.isUrgent) = [] := by
  cases turn with
  -- this one puts a hand-over on top of an agenda that has none
  | assign here head unmarked => exact none
  | fail d e cause =>
      apply urgent_tail_nil
      rw [agenda_push, List.filter_append, agenda_countFate, agenda_record, none, List.append_nil,
        List.filter_eq_nil_iff]
      intro f hf
      obtain ⟨c, told, rfl⟩ := List.mem_map.1 hf
      rw [failureCalls_not_urgent told]
      exact Bool.false_ne_true
  | _ =>
      apply urgent_tail_nil
      simpa [Frame.isUrgent, List.filter_cons, List.filter_map, Function.comp_def] using none

theorem Sent.urgent {d : DestinationId} {dest : Destination} {r : Request} {l : ListenerId}
    {reply : Reply} {w w' : Client} (sent : Sent d dest r l w reply w') :
    w'.agenda.filter (·.isUrgent) = w.agenda.filter (·.isUrgent) := by
  cases sent <;> simp [Frame.isUrgent, List.filter_map, Function.comp_def]

/-- The start of an operation asks for a removal or a hand-over as the first thing to do, if at
all. -/
theorem Started.urgent {op : Operation} {reply : Reply} {w w' : Client}
    (start : Started op w reply w') (none : w.agenda.filter (·.isUrgent) = []) :
    w'.agenda.tail.filter (·.isUrgent) = [] := by
  cases start with
  | send here sent => exact urgent_tail_nil (sent.urgent.trans none)
  | submit runs meets here sent =>
      refine urgent_tail_nil (sent.urgent.trans ?_)
      rw [agenda_locate, agenda_glance]
      exact none
  -- these put it on top of an agenda that has none
  | releaseStopped here stopped | remove here | deliver held work =>
      simpa [Frame.isUrgent, List.filter_cons] using none
  | _ =>
      apply urgent_tail_nil
      simpa [Frame.isUrgent, List.filter_cons, List.filter_map, Function.comp_def] using none

/-- While a client awaits the outside, nothing urgent is to be done if that is only ever on top. -/
theorem urgent_nil_of_awaits {w : Client} (onTop : w.agenda.tail.filter (·.isUrgent) = [])
    (waits : w.awaits = true) : w.agenda.filter (·.isUrgent) = [] := by
  simp only [awaits] at waits
  split at waits
  · next none => rw [none, List.filter_nil]
  · next c rest top =>
      -- the callback on top is not urgent, and below the top nothing is
      rw [top] at onTop ⊢
      exact onTop
  · cases waits

/-- In every client that is reached, a removal or a hand-over can only be on top of the agenda. -/
theorem Reached.urgent_on_top {allowed : Client → Operation → Prop} {w : Client}
    (run : Reached allowed w) : w.agenda.tail.filter (·.isUrgent) = [] := by
  refine run.invariant (P := fun w => w.agenda.tail.filter (·.isUrgent) = []) ?_ ?_
    urgent_tail_nil ?_
  · intro w new
    cases new <;> rfl
  · intro f w w' _ h turn
    exact turn.urgent h
  · intro op reply w w' _ waits _ h start
    have none := urgent_nil_of_awaits h waits
    exact start.urgent none

theorem Reached.prompt {allowed : Client → Operation → Prop} {w : Client}
    (run : Reached allowed w) : w.Prompt := by
  refine List.filter_eq_nil_iff.2 fun f hf removal => ?_
  exact List.filter_eq_nil_iff.1 run.urgent_on_top f hf (Frame.isUrgent_of_isRemoval removal)

/-- When an operation starts, no removal is under way. -/
theorem Reached.no_removal {allowed : Client → Operation → Prop} {w : Client}
    (run : Reached allowed w) (waits : w.awaits = true) (d : DestinationId) (c : ConnectionId) :
    .remove d c ∉ w.agenda :=
  fun h => List.filter_eq_nil_iff.1 (urgent_nil_of_awaits run.urgent_on_top waits) _ h rfl

/-- Below the frame on top of the agenda, no hand-over is to be made. -/
theorem Reached.no_handover {allowed : Client → Operation → Prop} {w : Client}
    (run : Reached allowed w) {f : Frame} {rest : List Frame} (top : w.agenda = f :: rest)
    (c : ConnectionId) (e : Exchange) : .call (.send c e) ∉ rest := by
  have onTop := run.urgent_on_top
  rw [top] at onTop
  exact fun h => List.filter_eq_nil_iff.1 onTop _ h rfl

end Client

end ConnectionPool
