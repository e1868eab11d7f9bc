import ConnectionPool.Proofs.Exchange.Ledger

/-!
# Handing exchanges over, and telling of failures

A connection that takes an exchange is handed it by a call, at once or through a task; an exchange
that fails has its listener told by two calls. Main statements: every assignment of an exchange is
matched by one call that hands it over, made or still to be made, or by one task
(`Client.Reached.handed`); and the listener of an exchange that failed once is told of that failure
in order, and of nothing else (`Client.Reached.told`).
-/

set_option autoImplicit false

namespace ConnectionPool

/-- A connection and an exchange that it takes. -/
abbrev Pairing := ConnectionId × Exchange

/-- The hand-over that a call makes. -/
def Call.handover? : Call → Option Pairing
  | .send c e => some (c, e)
  | _ => none

/-- The hand-over that a piece of work is going to make. -/
def Work.handover? : Work → Option Pairing
  | .deliver c e => some (c, e)
  | .failHead _ _ => none

/-- The call tells the listener of this exchange. -/
def Call.tells (e : Exchange) : Call → Bool
  | .responseFailed e' _ => e' == e
  | .completed e' _ => e' == e
  | _ => false

namespace Event

/-- The call that was made. -/
def call? : Event → Option Call
  | .called c => some c
  | _ => none

/-- The hand-over that was decided. -/
def assignment? : Event → Option Pairing
  | .assigned _ c e _ => some (c, e)
  | _ => none

/-- Why this exchange failed. -/
def cause? (e : Exchange) : Event → Option Cause
  | .failed _ e' cause => if e' = e then some cause else none
  | _ => none

end Event

/-- The calls made so far, in order, given the history. -/
def made (history : List Event) : List Call := (history.filterMap Event.call?).reverse

/-- The hand-overs that were decided, latest first. -/
def assignments (history : List Event) : List Pairing := history.filterMap Event.assignment?

/-- The hand-overs that calls make. -/
def handovers (cs : List Call) : List Pairing := cs.filterMap Call.handover?

/-- The hand-overs that are left to tasks. -/
def deferred (tasks : List Task) : List Pairing := tasks.filterMap (·.work.handover?)

/-- Why an exchange failed, every time it did. -/
def causes (e : Exchange) (history : List Event) : List Cause := history.filterMap (·.cause? e)

/-- What the listener of an exchange is told of its failure. -/
def Cause.notices (e : Exchange) (cause : Cause) : List Call :=
  [.responseFailed e cause.responseFailure, .completed e (.ofCause e.request cause)]

theorem made_called (c : Call) (history : List Event) :
    made (.called c :: history) = made history ++ [c] := by
  have head : (Event.called c).call? = some c := rfl
  simp only [made]
  rw [List.filterMap_cons_some head, List.reverse_cons]

theorem made_other {ev : Event} (other : ev.call? = none) (history : List Event) :
    made (ev :: history) = made history := by
  simp only [made]
  rw [List.filterMap_cons_none other]

theorem handovers_append (cs cs' : List Call) :
    handovers (cs ++ cs') = handovers cs ++ handovers cs' := List.filterMap_append

/-- Calls that are not about exchanges hand nothing over. -/
theorem handovers_plain {cs : List Call} (plain : Ledger.Plain cs) (cs' : List Call) :
    handovers (cs ++ cs') = handovers cs' := by
  have nothing : handovers cs = [] := by
    apply List.filterMap_eq_nil_iff.2
    intro c hc
    have none := plain c hc
    cases c with
    | send c' e => cases none
    | _ => rfl
  rw [handovers_append, nothing]
  rfl

/-- Calls that are not about exchanges tell no listener of one. -/
theorem filter_tells_plain (e : Exchange) {cs : List Call} (plain : Ledger.Plain cs)
    (cs' : List Call) : (cs ++ cs').filter (·.tells e) = cs'.filter (·.tells e) := by
  have nothing : cs.filter (·.tells e) = [] := by
    apply List.filter_eq_nil_iff.2
    intro c hc
    have none := plain c hc
    cases c with
    | responseFailed e' f => cases none
    | completed e' result => cases none
    | _ => exact Bool.false_ne_true
  rw [List.filter_append, nothing]
  rfl

theorem causes_failed_self (e : Exchange) (d : DestinationId) (cause : Cause)
    (history : List Event) : causes e (.failed d e cause :: history) = cause :: causes e history :=
  List.filterMap_cons_some (if_pos rfl)

theorem causes_failed_other {e e' : Exchange} (other : e' ≠ e) (d : DestinationId) (cause : Cause)
    (history : List Event) : causes e (.failed d e' cause :: history) = causes e history :=
  List.filterMap_cons_none (if_neg other)

/-! ## Tasks -/

/-- Tasks are told apart by identities below the next one. -/
structure Numbered (tasks : List Task) (next : TaskId) : Prop where
  apart : (tasks.map (·.id)).Nodup
  below : ∀ t ∈ tasks, t.id < next

namespace Numbered

variable {tasks : List Task} {next : TaskId}

theorem add (h : Numbered tasks next) (work : Work) :
    Numbered (tasks ++ [⟨next, work⟩]) (next + 1) := by
  constructor
  · rw [List.map_append]
    refine List.nodup_append.2 ⟨h.apart, List.pairwise_singleton _ _, ?_⟩
    intro x hx y hy same
    obtain ⟨t, ht, rfl⟩ := List.mem_map.1 hx
    rw [List.mem_singleton.1 hy] at same
    exact absurd same (Nat.ne_of_lt (h.below t ht))
  · intro t ht
    rcases List.mem_append.1 ht with old | new
    · exact Nat.lt_succ_of_lt (h.below t old)
    · rw [List.mem_singleton.1 new]
      exact Nat.lt_succ_self _

theorem drop (h : Numbered tasks next) (t : TaskId) :
    Numbered (tasks.filter (·.id != t)) next where
  apart := h.apart.sublist (List.filter_sublist.map _)
  below t' ht := h.below t' (List.mem_filter.1 ht).1

/-- Dropping a task by its identity drops that task and no other. -/
theorem perm_drop (h : Numbered tasks next) {task : Task} (held : task ∈ tasks) :
    List.Perm tasks (task :: tasks.filter (·.id != task.id)) := by
  obtain ⟨before, after, rfl⟩ := List.append_of_mem held
  have apart := h.apart
  rw [List.map_append, List.map_cons] at apart
  obtain ⟨-, later, disjoint⟩ := List.nodup_append.1 apart
  -- no task before or after it has the same identity
  have earlier : ∀ t ∈ before, (t.id != task.id) = true := fun t ht =>
    bne_iff_ne.2 (disjoint _ (List.mem_map_of_mem ht) _ List.mem_cons_self)
  have later : ∀ t ∈ after, (t.id != task.id) = true := fun t ht =>
    bne_iff_ne.2 fun same =>
      (List.nodup_cons.1 later).1 (same ▸ List.mem_map_of_mem ht)
  rw [List.filter_append, List.filter_eq_self.2 earlier, List.filter_cons_of_neg (by simp),
    List.filter_eq_self.2 later]
  exact List.perm_middle

/-- Whatever is read off the tasks, dropping one takes what was read off it. -/
theorem filterMap_drop {α : Type} (f : Task → Option α) (h : Numbered tasks next) {task : Task}
    (held : task ∈ tasks) : List.Perm (tasks.filterMap f)
      ((f task).toList ++ (tasks.filter (·.id != task.id)).filterMap f) := by
  have dropped := (h.perm_drop held).filterMap f
  rw [List.filterMap_cons] at dropped
  cases own : f task with
  | none =>
      rw [own] at dropped
      exact dropped
  | some x =>
      rw [own] at dropped
      exact dropped

theorem deferred_drop (h : Numbered tasks next) {task : Task} (held : task ∈ tasks) :
    List.Perm (deferred tasks)
      (task.work.handover?.toList ++ deferred (tasks.filter (·.id != task.id))) :=
  h.filterMap_drop _ held

end Numbered

theorem Ledger.Entry.numbered {s s' : Ledger} (entry : s.Entry s')
    (h : Numbered s.tasks s.nextTask) : Numbered s'.tasks s'.nextTask := by
  cases entry with
  | assignDeferred d c e => exact h.add _
  | leaveFailure d error => exact h.add _
  | deliver held work | failHead held work | spare held work => exact h.drop _
  | _ => exact h

/-! ## Hand-overs -/

namespace Ledger

variable {s s' : Ledger}

/-- Every hand-over that was decided is a call that was made or is still to be made, or is left to a
task. -/
def Handed (s : Ledger) : Prop :=
  List.Perm (assignments s.history)
    (handovers (made s.history) ++ (handovers s.calls ++ deferred s.tasks))

theorem Handed.entry (h : s.Handed) (numbered : Numbered s.tasks s.nextTask)
    (entry : s.Entry s') : s'.Handed := by
  simp only [Handed] at h ⊢
  cases entry with
  | stay | takeBack => exact h
  | returned op =>
      rw [made_other rfl]
      exact h
  | @make c C next =>
      -- the call moves from those to be made to those made
      rw [made_called, handovers_append, List.append_assoc, ← List.append_assoc (handovers [c]),
        ← handovers_append]
      rw [next] at h
      exact h
  | ask plain =>
      rw [handovers_plain plain]
      exact h
  | fail d e cause plain | accept d r l plain =>
      rw [made_other rfl, handovers_plain plain]
      exact h
  | assign d c e =>
      rw [made_other rfl]
      exact (h.cons (c, e)).trans List.perm_middle.symm
  | assignDeferred d c e =>
      have last : deferred (s.tasks ++ [⟨s.nextTask, .deliver c e⟩]) =
          deferred s.tasks ++ [(c, e)] := List.filterMap_append
      have grown := (h.cons (c, e)).trans (List.perm_append_singleton _ _).symm
      rw [List.append_assoc, List.append_assoc] at grown
      rw [made_other rfl, last]
      exact grown
  | leaveFailure d error =>
      have last : deferred (s.tasks ++ [⟨s.nextTask, .failHead d error⟩]) =
          deferred s.tasks ++ [] := List.filterMap_append
      rw [last, List.append_nil]
      exact h
  | @deliver task c e held work =>
      -- the hand-over moves from the task to the call
      have dropped := numbered.deferred_drop held
      rw [work] at dropped
      exact h.trans (((dropped.append_left _).trans List.perm_middle).append_left _)
  | failHead held work =>
      -- the task that is dropped hands nothing over
      have dropped := numbered.deferred_drop held
      rw [work] at dropped
      exact h.trans ((dropped.append_left _).append_left _)
  | spare held work =>
      have dropped := numbered.deferred_drop held
      rw [work] at dropped
      rw [made_other rfl]
      exact h.trans ((dropped.append_left _).append_left _)

/-! ## Notices -/

/-- The listener of an exchange that failed at most once is told of that failure, in order, by calls
that were made or are still to be made, and it is told nothing else. -/
def Told (s : Ledger) : Prop :=
  ∀ e, (causes e s.history).length ≤ 1 →
    (made s.history).filter (·.tells e) ++ s.calls.filter (·.tells e) =
      (causes e s.history).flatMap (Cause.notices e)

theorem Told.entry (h : s.Told) (entry : s.Entry s') : s'.Told := by
  intro e once
  cases entry with
  | stay | takeBack | leaveFailure d error | deliver held work | failHead held work =>
      exact h e once
  | returned op | assign d c e' | assignDeferred d c e' | spare held work =>
      rw [made_other rfl]
      exact h e once
  | @make c C next =>
      have before := h e once
      rw [next, ← List.filter_append] at before
      rw [made_called, ← List.filter_append, List.append_assoc]
      exact before
  | ask plain =>
      rw [filter_tells_plain e plain]
      exact h e once
  | accept d r l plain =>
      rw [made_other rfl, filter_tells_plain e plain]
      exact h e once
  | fail d e' cause plain =>
      rw [made_other rfl, filter_tells_plain e plain]
      by_cases same : e' = e
      · -- this is the only failure, so nothing was told or is to be told of an earlier one
        subst same
        dsimp only at once ⊢
        rw [causes_failed_self] at once ⊢
        have none : causes e' s.history = [] :=
          List.eq_nil_of_length_eq_zero (Nat.le_zero.1 (Nat.le_of_succ_le_succ once))
        have before := h e' (by rw [none]; exact Nat.zero_le _)
        rw [none, List.flatMap_nil] at before
        obtain ⟨notMade, notPending⟩ := List.append_eq_nil_iff.1 before
        rw [none, notMade, List.filter_cons_of_pos (by simp [Call.tells]),
          List.filter_cons_of_pos (by simp [Call.tells]), notPending]
        rfl
      · dsimp only at once ⊢
        rw [causes_failed_other same] at once ⊢
        rw [List.filter_cons_of_neg (by simp [Call.tells, same]),
          List.filter_cons_of_neg (by simp [Call.tells, same])]
        exact h e once

end Ledger

namespace Client

variable {allowed : Client → Operation → Prop} {w : Client}

theorem Reached.numbered (run : Reached allowed w) :
    Numbered w.ledger.tasks w.ledger.nextTask :=
  run.ledger (P := fun s => Numbered s.tasks s.nextTask)
    ⟨List.nodup_nil, List.forall_mem_nil _⟩ (fun h entry => entry.numbered h) fun _ _ h => h

/-- In every client that is reached, what was decided to be handed over is handed over by calls or
left to tasks, one to one. -/
theorem Reached.handed (run : Reached allowed w) : w.ledger.Handed := by
  have both : Numbered w.ledger.tasks w.ledger.nextTask ∧ w.ledger.Handed := by
    refine run.ledger (P := fun s => Numbered s.tasks s.nextTask ∧ s.Handed) ?_ ?_ ?_
    · exact ⟨⟨List.nodup_nil, List.forall_mem_nil _⟩, List.Perm.nil⟩
    · exact fun h entry => ⟨entry.numbered h.1, h.2.entry h.1 entry⟩
    · intro s op reply h
      refine ⟨h.1, ?_⟩
      simp only [Ledger.Handed]
      rw [made_other rfl]
      exact h.2
  exact both.2

/-- In every client that is reached, the listener of an exchange that failed at most once is told of
that failure, and of nothing else. -/
theorem Reached.told (run : Reached allowed w) : w.ledger.Told := by
  refine run.ledger (P := Ledger.Told) (fun e _ => rfl) (fun h entry => h.entry entry) ?_
  intro s op reply h e once
  rw [made_other rfl]
  exact h e once

end Client

end ConnectionPool
