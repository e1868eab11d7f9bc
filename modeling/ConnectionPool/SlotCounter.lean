/-!
# Slot counters

A slot counter bounds how many connections of one destination exist or are being made. A slot is
reserved before the connection exists and given back when the connection is gone. The counter stays
between zero and its limit: a reservation at the limit is refused and a release at zero does
nothing.
-/

set_option autoImplicit false

namespace ConnectionPool

/-- The number of slots in use, out of `limit`. -/
structure SlotCounter where
  limit : Nat
  used : Nat
  used_le : used ≤ limit
deriving DecidableEq

namespace SlotCounter

/-- All slots free. -/
def empty (limit : Nat) : SlotCounter := ⟨limit, 0, Nat.zero_le _⟩

/-- Take one slot, unless all are in use. -/
def reserve? (k : SlotCounter) : Option SlotCounter :=
  if h : k.used < k.limit then some ⟨k.limit, k.used + 1, h⟩ else none

/-- Give one slot back; at zero nothing changes. -/
def release (k : SlotCounter) : SlotCounter :=
  ⟨k.limit, k.used - 1, Nat.le_trans (Nat.sub_le _ _) k.used_le⟩

/-- Give all slots back. -/
def reset (k : SlotCounter) : SlotCounter := empty k.limit

theorem ext {k k' : SlotCounter} (hl : k.limit = k'.limit) (hu : k.used = k'.used) : k = k' := by
  cases k; cases k'; cases hl; cases hu; rfl

/-- A reservation is refused exactly at the limit. -/
theorem reserve?_eq_none_iff {k : SlotCounter} : k.reserve? = none ↔ k.used = k.limit := by
  have hle := k.used_le
  simp only [reserve?]
  split
  · next h => exact ⟨fun x => (nomatch x), fun x => by omega⟩
  · next h => exact ⟨fun _ => by omega, fun _ => rfl⟩

theorem reserve?_eq_some_iff {k k' : SlotCounter} :
    k.reserve? = some k' ↔ k.used < k.limit ∧ k'.limit = k.limit ∧ k'.used = k.used + 1 := by
  simp only [reserve?]
  split
  · next h =>
      refine ⟨fun x => ?_, fun x => ?_⟩
      · cases x; exact ⟨h, rfl, rfl⟩
      · exact congrArg some (ext x.2.1.symm x.2.2.symm)
  · next h => exact ⟨fun x => (nomatch x), fun x => absurd x.1 h⟩

@[simp] theorem used_release (k : SlotCounter) : k.release.used = k.used - 1 := rfl

@[simp] theorem limit_release (k : SlotCounter) : k.release.limit = k.limit := rfl

@[simp] theorem used_reset (k : SlotCounter) : k.reset.used = 0 := rfl

@[simp] theorem limit_reset (k : SlotCounter) : k.reset.limit = k.limit := rfl

end SlotCounter

end ConnectionPool
