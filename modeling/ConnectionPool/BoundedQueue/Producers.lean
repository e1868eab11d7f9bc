import ConnectionPool.BoundedQueue
import ConnectionPool.Total

/-!
# Several producers of one queue

Producers offer their items to one queue, each its own items in order. The interleaving is given by
a schedule: the list of the producers that make the next offers. `offerAll` is one such schedule,
in which the producers take turns until nothing is left to offer.
-/

set_option autoImplicit false

namespace ConnectionPool

variable {α : Type}

structure Producer (α : Type) where
  /-- What is still to be offered. -/
  items : List α
  /-- What was accepted, latest first. -/
  accepted : List α := []

/-- A queue and the producers that offer to it. -/
structure Producers (α : Type) where
  queue : BoundedQueue α
  producers : List (Producer α)

namespace Producers

def start (capacity : Nat) (items : List (List α)) : Producers α :=
  ⟨.empty capacity, items.map fun l => { items := l }⟩

/-- The producer at that place offers its next item. -/
def step (s : Producers α) (i : Nat) : Producers α :=
  match s.producers[i]? with
  | none => s
  | some p =>
      match p.items with
      | [] => s
      | a :: rest =>
          match s.queue.offer a with
          | .error _ => { s with producers := s.producers.set i { p with items := rest } }
          | .ok queue => ⟨queue, s.producers.set i ⟨rest, a :: p.accepted⟩⟩

/-- Offers in the order of a schedule. -/
def run (s : Producers α) (schedule : List Nat) : Producers α := schedule.foldl step s

/-- The number of offers that are still to be made. -/
def remaining (s : Producers α) : Nat := total (·.items.length) s.producers

/-- The producers take turns. Each turn of all makes at least one offer if any is left. -/
def turns : Nat → Producers α → Producers α
  | 0, s => s
  | n + 1, s => if s.remaining = 0 then s else turns n (s.run (List.range s.producers.length))

def offerAll (s : Producers α) : Producers α := s.turns s.remaining

/-- The number of offers that were accepted. -/
def accepted (s : Producers α) : Nat := total (·.accepted.length) s.producers

end Producers

end ConnectionPool
