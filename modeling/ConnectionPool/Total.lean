/-!
# Totals

The total of a measure over a list. Bounds on the length of a run are totals of what each frame, job
or call may still cost, and so are the numbers of what is left to do.
-/

set_option autoImplicit false

namespace ConnectionPool

variable {α : Type}

/-- What a measure gives for all members together. -/
def total (measure : α → Nat) : List α → Nat
  | [] => 0
  | a :: rest => measure a + total measure rest

@[simp] theorem total_nil (measure : α → Nat) : total measure [] = 0 := rfl

@[simp] theorem total_cons (measure : α → Nat) (a : α) (rest : List α) :
    total measure (a :: rest) = measure a + total measure rest := rfl

theorem total_singleton (measure : α → Nat) (a : α) : total measure [a] = measure a := rfl

end ConnectionPool
