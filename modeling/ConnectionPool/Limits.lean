import ConnectionPool.PoolError

/-!
# Limits of a client

How many connections and how many waiting requests a client allows per address. Limits are usable
when both are at least one; the connections are checked first.
-/

set_option autoImplicit false

namespace ConnectionPool

/-- What a client allows per address. -/
structure Limits where
  connections : Nat := 8
  queue : Nat := 1024
deriving DecidableEq, Repr

/-- The first of the two limits that is zero. -/
def Limits.error? (l : Limits) : Option ConfigError :=
  if l.connections = 0 then some .noConnections
  else if l.queue = 0 then some .noQueue
  else none

theorem Limits.error?_eq_none_iff (l : Limits) :
    l.error? = none ↔ 1 ≤ l.connections ∧ 1 ≤ l.queue := by
  unfold Limits.error?
  split
  · next h => exact ⟨fun x => (nomatch x), fun x => by omega⟩
  · next h =>
      split
      · next h' => exact ⟨fun x => (nomatch x), fun x => by omega⟩
      · next h' => exact ⟨fun _ => by omega, fun _ => rfl⟩

end ConnectionPool
