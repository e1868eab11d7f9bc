import ConnectionPool.Total
import Mathlib.Algebra.BigOperators.Ring.List
import Mathlib.Algebra.Order.BigOperators.Group.List
import Mathlib.Algebra.Order.Ring.Nat

/-!
# Totals are sums

A total is the sum of what the measure gives for each member (`total_eq_sum`), so what is known of
sums of lists holds of totals. What the bounds on runs use of it is stated here for totals.
-/

set_option autoImplicit false

namespace ConnectionPool

variable {α : Type}

theorem total_eq_sum (measure : α → Nat) (l : List α) : total measure l = (l.map measure).sum := by
  induction l with
  | nil => rfl
  | cons a l ih => rw [total_cons, ih, List.map_cons, List.sum_cons]

theorem total_append (measure : α → Nat) (l k : List α) :
    total measure (l ++ k) = total measure l + total measure k := by
  rw [total_eq_sum, total_eq_sum, total_eq_sum, List.map_append, List.sum_append]

theorem total_filter_add (measure : α → Nat) (p : α → Bool) (l : List α) :
    total measure (l.filter p) + total measure (l.filter fun a => !p a) = total measure l := by
  rw [← total_append, total_eq_sum, total_eq_sum]
  exact ((List.filter_append_perm p l).map measure).sum_eq

theorem total_map {β : Type} (measure : β → Nat) (f : α → β) (l : List α) :
    total measure (l.map f) = total (fun a => measure (f a)) l := by
  rw [total_eq_sum, total_eq_sum, List.map_map]
  rfl

/-- Where one member is replaced by another, the total changes by what the two have. -/
theorem total_set (measure : α → Nat) {l : List α} {i : Nat} {a : α} (here : l[i]? = some a)
    (b : α) : total measure (l.set i b) + measure a = total measure l + measure b := by
  obtain ⟨inside, rfl⟩ := List.getElem?_eq_some_iff.1 here
  obtain ⟨before, after, split, -, replaced⟩ : ∃ before after, l = before ++ l[i] :: after ∧
      before.length = i ∧ l.set i b = before ++ b :: after := List.exists_of_set inside
  have old := congrArg (total measure) split
  have new := congrArg (total measure) replaced
  rw [total_append, total_cons] at old new
  omega

theorem le_total_of_mem (measure : α → Nat) {a : α} {l : List α} (there : a ∈ l) :
    measure a ≤ total measure l := by
  rw [total_eq_sum]
  exact List.le_sum_of_mem (List.mem_map_of_mem there)

theorem total_mul (measure : α → Nat) (n : Nat) (l : List α) :
    total (fun a => n * measure a) l = n * total measure l := by
  rw [total_eq_sum, total_eq_sum, List.sum_map_mul_left]

/-- What each member has at most, all together have at most as often as there are members. -/
theorem total_le_mul {measure : α → Nat} {n : Nat} {l : List α}
    (each : ∀ a ∈ l, measure a ≤ n) : total measure l ≤ l.length * n := by
  have bounded := List.sum_le_card_nsmul (l.map measure) n (List.forall_mem_map.2 each)
  rwa [List.length_map, Nat.nsmul_eq_mul, ← total_eq_sum] at bounded

end ConnectionPool
