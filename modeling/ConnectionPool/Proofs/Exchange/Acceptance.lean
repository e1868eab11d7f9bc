import Mathlib.Data.List.Nodup
import ConnectionPool.Proofs.Exchange.Ledger

/-!
# Accepted exchanges

Main statements: every exchange is accepted at most once, at one destination
(`Ledger.Ticketed.unique`), and an operation that asks for an exchange to be queued is answered by
`done` only where it has just been accepted (`Client.Reached.answered`).
-/

set_option autoImplicit false

namespace ConnectionPool

/-- The exchange that was accepted, and where. -/
def Event.acceptance? : Event → Option (DestinationId × Exchange)
  | .accepted d e => some (d, e)
  | _ => none

/-- The exchanges that were accepted and where, latest first. -/
def acceptances (history : List Event) : List (DestinationId × Exchange) :=
  history.filterMap Event.acceptance?

theorem mem_acceptances {history : List Event} {d : DestinationId} {e : Exchange} :
    (d, e) ∈ acceptances history ↔ .accepted d e ∈ history := by
  refine List.mem_filterMap.trans ⟨?_, fun h => ⟨_, h, rfl⟩⟩
  rintro ⟨ev, hev, accepts⟩
  cases ev with
  | accepted d' e' => cases accepts; exact hev
  | _ => cases accepts

/-- The event notes the start of an operation. -/
def Event.isInvocation : Event → Bool
  | .invoked _ _ => true
  | _ => false

namespace Ledger

variable {s s' : Ledger}

/-- Accepted exchanges are told apart by tickets below the next one. -/
structure Ticketed (s : Ledger) : Prop where
  apart : ((acceptances s.history).map (·.2.ticket)).Nodup
  below : ∀ x ∈ acceptances s.history, x.2.ticket < s.nextTicket

theorem Ticketed.entry (h : s.Ticketed) (entry : s.Entry s') : s'.Ticketed := by
  cases entry with
  | takeBack => exact ⟨h.apart, fun x hx => Nat.lt_succ_of_lt (h.below x hx)⟩
  | accept d r l plain =>
      constructor
      · -- the ticket that was drawn is above every ticket drawn before
        refine List.nodup_cons.2 ⟨fun again => ?_, h.apart⟩
        obtain ⟨x, hx, same⟩ := List.mem_map.1 again
        exact absurd same (Nat.ne_of_lt (h.below x hx))
      · intro x hx
        rcases List.mem_cons.1 hx with rfl | old
        · exact Nat.lt_succ_self _
        · exact Nat.lt_succ_of_lt (h.below x old)
  | _ => exact ⟨h.apart, h.below⟩

/-- An exchange is accepted at one destination only. -/
theorem Ticketed.unique (h : s.Ticketed) {d d' : DestinationId} {e : Exchange}
    (here : .accepted d e ∈ s.history) (there : .accepted d' e ∈ s.history) : d = d' := by
  have same := List.inj_on_of_nodup_map h.apart (mem_acceptances.2 here)
    (mem_acceptances.2 there) rfl
  exact congrArg Prod.fst same

/-- An exchange is accepted there once. -/
theorem Ticketed.count_eq_one (h : s.Ticketed) {d : DestinationId} {e : Exchange}
    (here : .accepted d e ∈ s.history) : (acceptances s.history).count (d, e) = 1 :=
  List.count_eq_one_of_mem h.apart.of_map (mem_acceptances.2 here)

/-! ## Answers -/

/-- Wherever an operation that asks for an exchange to be queued was answered by `done`, the event
before is the acceptance of that exchange. -/
def Answered (history : List Event) : Prop :=
  ∀ later op earlier, history = later ++ .invoked op .done :: earlier → op.asks = true →
    ∃ d e before, op.Asks d e ∧ earlier = .accepted d e :: before

/-- An event that notes no operation has no part in answers. -/
theorem Answered.cons {history : List Event} (h : Answered history) {ev : Event}
    (answered : ∀ op, ev = .invoked op .done → op.asks = true →
      ∃ d e before, op.Asks d e ∧ history = .accepted d e :: before) :
    Answered (ev :: history) := by
  intro later op earlier split asks
  cases later with
  | nil =>
      cases split
      exact answered op rfl asks
  | cons ev' later =>
      cases split
      exact h later op earlier rfl asks

/-- An entry adds at most one event, which notes no operation. -/
theorem Entry.history (entry : s.Entry s') : s'.history = s.history ∨
    ∃ ev, s'.history = ev :: s.history ∧ ev.isInvocation = false := by
  cases entry with
  | stay | ask plain | takeBack | leaveFailure d error | deliver held work | failHead held work =>
      exact Or.inl rfl
  | make next | returned op | fail d e cause plain | assign d c e | assignDeferred d c e
  | accept d r l plain | spare held work => exact Or.inr ⟨_, rfl, rfl⟩

/-- What has happened stays in the history. -/
theorem Entry.remembers (entry : s.Entry s') : ∀ ev ∈ s.history, ev ∈ s'.history := by
  intro ev happened
  rcases entry.history with same | ⟨new, added, -⟩
  · exact same ▸ happened
  · exact added ▸ List.mem_cons_of_mem _ happened

theorem Answered.entry (h : Answered s.history) (entry : s.Entry s') : Answered s'.history := by
  rcases entry.history with same | ⟨ev, added, other⟩
  · rw [same]
    exact h
  · rw [added]
    apply h.cons
    intro op note
    rw [note] at other
    cases other

end Ledger

namespace Client

variable {allowed : Client → Operation → Prop} {w w' : Client}

theorem Reached.ticketed (run : Reached allowed w) : w.ledger.Ticketed :=
  run.ledger (P := Ledger.Ticketed) ⟨List.nodup_nil, List.forall_mem_nil _⟩
    (fun h entry => h.entry entry) fun _ _ h => ⟨h.apart, h.below⟩

/-- In every client that is reached, operations that ask for an exchange to be queued were answered
by `done` only where the exchange had just been accepted. -/
theorem Reached.answered (run : Reached allowed w) : Ledger.Answered w.history := by
  induction run with
  | @initial w first =>
      show Ledger.Answered w.ledger.history
      rw [first.ledger]
      intro later op earlier split
      exact absurd split.symm (by simp)
  | @step w w' past next ih =>
      show Ledger.Answered w'.ledger.history
      obtain ⟨mid, made, same | ⟨op, reply, note, answer⟩⟩ := next.ledger
      · rw [same]
        exact Ledger.Answered.entry ih made
      · rw [note]
        apply Ledger.Answered.cons (Ledger.Answered.entry ih made)
        intro op' same asks
        cases same
        obtain ⟨d, e, queued, accepted⟩ := answer rfl asks
        exact ⟨d, e, _, queued, accepted⟩

/-- What has happened stays in the history. -/
theorem Step.remembers (next : Step allowed w w') {ev : Event} (happened : ev ∈ w.history) :
    ev ∈ w'.history := by
  obtain ⟨mid, entry, after⟩ := next.ledger
  have kept : ev ∈ mid.history := entry.remembers ev happened
  rcases after with same | ⟨op, reply, note, -⟩
  · rw [← same] at kept
    exact kept
  · have history : w'.history = _ := congrArg Ledger.history note
    rw [history]
    exact List.mem_cons_of_mem _ kept

end Client

end ConnectionPool
