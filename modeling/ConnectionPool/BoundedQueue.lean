/-!
# Bounded first-in first-out queues

A queue holds at most `capacity` items, oldest first. Nothing waits for room: an offer to a full
queue hands the item back. The view of a queue is its list of items, and each operation below comes
with the one equation that says what it does to that view.
-/

set_option autoImplicit false

namespace ConnectionPool

/-- A queue of at most `capacity` items, oldest first. -/
structure BoundedQueue (α : Type) where
  capacity : Nat
  items : List α
  length_le : items.length ≤ capacity
deriving DecidableEq

namespace BoundedQueue

variable {α : Type}

/-- The queue without items. Room for all of them is reserved when a queue is made, and where so
much cannot be reserved there is no queue. That is left out: here every capacity has one. -/
def empty (capacity : Nat) : BoundedQueue α := ⟨capacity, [], Nat.zero_le _⟩

def size (q : BoundedQueue α) : Nat := q.items.length

def isEmpty (q : BoundedQueue α) : Bool := q.items.isEmpty

/-- Append an item at the end, or hand it back if there is no room. -/
def offer (q : BoundedQueue α) (a : α) : Except α (BoundedQueue α) :=
  if h : q.items.length < q.capacity then
    .ok ⟨q.capacity, q.items ++ [a], by rw [List.length_append]; exact h⟩
  else .error a

/-- Take the oldest item. -/
def poll (q : BoundedQueue α) : Option (α × BoundedQueue α) :=
  match h : q.items with
  | [] => none
  | a :: rest => some (a, ⟨q.capacity, rest, by
      have := q.length_le
      rw [h, List.length_cons] at this
      exact Nat.le_of_succ_le this⟩)

/-- Split a list at the first item that satisfies `p`: that item, and the list without it. -/
def extract (p : α → Bool) : List α → Option (α × List α)
  | [] => none
  | a :: rest => if p a then some (a, rest) else (extract p rest).map fun (b, l) => (b, a :: l)

theorem length_of_extract {p : α → Bool} {l l' : List α} {a : α}
    (h : extract p l = some (a, l')) : l'.length + 1 = l.length := by
  induction l generalizing l' with
  | nil => cases h
  | cons b rest ih =>
      rw [extract] at h
      by_cases hb : p b = true
      · rw [if_pos hb] at h; cases h; rfl
      · rw [if_neg hb] at h
        obtain ⟨⟨c, m⟩, hm, heq⟩ := Option.map_eq_some_iff.1 h
        cases heq
        rw [List.length_cons, List.length_cons, ih hm]

theorem extract_eq_none_iff {p : α → Bool} {l : List α} :
    extract p l = none ↔ ∀ a ∈ l, p a = false := by
  induction l with
  | nil => exact ⟨fun _ a ha => (nomatch ha), fun _ => rfl⟩
  | cons b rest ih =>
      rw [extract, List.forall_mem_cons]
      by_cases hb : p b = true
      · rw [if_pos hb]
        exact ⟨fun x => (nomatch x), fun x => absurd (x.1.symm.trans hb) Bool.false_ne_true⟩
      · rw [if_neg hb, Option.map_eq_none_iff, ih]
        exact ⟨fun x => ⟨Bool.eq_false_iff.2 hb, x⟩, fun x => x.2⟩

/-- What is taken out is the first item that satisfies `p`, and the others stay in order. -/
theorem split_of_extract {p : α → Bool} {l l' : List α} {a : α} (h : extract p l = some (a, l')) :
    ∃ before after, l = before ++ a :: after ∧ l' = before ++ after ∧ p a = true ∧
      ∀ b ∈ before, p b = false := by
  induction l generalizing l' with
  | nil => cases h
  | cons b rest ih =>
      rw [extract] at h
      by_cases hb : p b = true
      · rw [if_pos hb] at h
        cases h
        exact ⟨[], _, rfl, rfl, hb, fun b hb => (nomatch hb)⟩
      · rw [if_neg hb] at h
        obtain ⟨⟨c, m⟩, hm, heq⟩ := Option.map_eq_some_iff.1 h
        cases heq
        obtain ⟨before, after, rfl, rfl, ha, hbefore⟩ := ih hm
        refine ⟨b :: before, after, rfl, rfl, ha, ?_⟩
        exact List.forall_mem_cons.2 ⟨Bool.eq_false_iff.2 hb, hbefore⟩

theorem extract_of_split {p : α → Bool} {a : α} {before after : List α}
    (earlier : ∀ b ∈ before, p b = false) (own : p a = true) :
    extract p (before ++ a :: after) = some (a, before ++ after) := by
  induction before with
  | nil => exact if_pos own
  | cons b before ih =>
      obtain ⟨first, earlier⟩ := List.forall_mem_cons.1 earlier
      rw [List.cons_append, extract, if_neg (Bool.eq_false_iff.1 first), ih earlier]
      rfl

/-- Take the oldest item that satisfies `p`. -/
def removeFirst (q : BoundedQueue α) (p : α → Bool) : Option (α × BoundedQueue α) :=
  match h : extract p q.items with
  | none => none
  | some (a, rest) => some (a, ⟨q.capacity, rest, by
      have := length_of_extract h
      have := q.length_le
      omega⟩)

/-- Take every item, oldest first. -/
def drain (q : BoundedQueue α) : List α × BoundedQueue α := (q.items, empty q.capacity)

/-- The queue after the oldest item that satisfies `p`, if any, has been taken and dropped. -/
def discard (q : BoundedQueue α) (p : α → Bool) : BoundedQueue α :=
  match q.removeFirst p with
  | none => q
  | some (_, rest) => rest

/-- The queue after an offer whose refusal is of no consequence. -/
def offerOrDrop (q : BoundedQueue α) (a : α) : BoundedQueue α :=
  match q.offer a with
  | .error _ => q
  | .ok q' => q'

/-! ## What each operation does to the items -/

theorem ext {q q' : BoundedQueue α} (hc : q.capacity = q'.capacity) (hi : q.items = q'.items) :
    q = q' := by
  cases q; cases q'; cases hc; cases hi; rfl

@[simp] theorem items_empty (n : Nat) : (empty n : BoundedQueue α).items = [] := rfl

@[simp] theorem capacity_empty (n : Nat) : (empty n : BoundedQueue α).capacity = n := rfl

/-- An offer is refused exactly when the queue is full, and then the item itself comes back. -/
theorem offer_eq_error_iff {q : BoundedQueue α} {a b : α} :
    q.offer a = .error b ↔ q.items.length = q.capacity ∧ a = b := by
  have hle := q.length_le
  simp only [offer]
  split
  · next h => exact ⟨fun x => (nomatch x), fun x => by omega⟩
  · next h => exact ⟨fun x => by cases x; exact ⟨by omega, rfl⟩, fun x => by rw [x.2]⟩

/-- An accepted item stands behind all others. -/
theorem offer_eq_ok_iff {q q' : BoundedQueue α} {a : α} :
    q.offer a = .ok q' ↔
      q.items.length < q.capacity ∧ q'.capacity = q.capacity ∧ q'.items = q.items ++ [a] := by
  simp only [offer]
  split
  · next h =>
      refine ⟨fun x => ?_, fun x => ?_⟩
      · cases x; exact ⟨h, rfl, rfl⟩
      · exact congrArg Except.ok (ext x.2.1.symm x.2.2.symm)
  · next h => exact ⟨fun x => (nomatch x), fun x => absurd x.1 h⟩

theorem poll_eq_none_iff {q : BoundedQueue α} : q.poll = none ↔ q.items = [] := by
  simp only [poll]
  split
  · next h => exact ⟨fun _ => h, fun _ => rfl⟩
  · next a rest h => exact ⟨fun x => (nomatch x), fun x => by rw [h] at x; cases x⟩

/-- What is taken is the oldest item, and the others stay in order. -/
theorem poll_eq_some_iff {q q' : BoundedQueue α} {a : α} :
    q.poll = some (a, q') ↔ q.items = a :: q'.items ∧ q'.capacity = q.capacity := by
  simp only [poll]
  split
  · next h => exact ⟨fun x => (nomatch x), fun x => by rw [h] at x; cases x.1⟩
  · next b rest h =>
      refine ⟨fun x => ?_, fun x => ?_⟩
      · cases x; exact ⟨h, rfl⟩
      · obtain ⟨hx, hc⟩ := x
        rw [h] at hx
        obtain ⟨hb, hr⟩ := List.cons.inj hx
        subst hb
        exact congrArg (fun r => some (b, r)) (ext hc.symm hr)

/-- What stands at the head of a queue is what is taken off it. -/
theorem poll_of_items {q : BoundedQueue α} {a : α} {l : List α} (items : q.items = a :: l) :
    ∃ q', q.poll = some (a, q') ∧ q'.items = l ∧ q'.capacity = q.capacity := by
  cases head : q.poll with
  | none => cases items.symm.trans (poll_eq_none_iff.1 head)
  | some result =>
      obtain ⟨b, q'⟩ := result
      obtain ⟨split, capacity⟩ := poll_eq_some_iff.1 head
      obtain ⟨rfl, behind⟩ := List.cons.inj (items.symm.trans split)
      exact ⟨q', rfl, behind.symm, capacity⟩

theorem removeFirst_eq_none_iff {q : BoundedQueue α} {p : α → Bool} :
    q.removeFirst p = none ↔ extract p q.items = none := by
  simp only [removeFirst]
  split
  · next h => exact ⟨fun _ => h, fun _ => rfl⟩
  · next a rest h => exact ⟨fun x => (nomatch x), fun x => by rw [h] at x; cases x⟩

theorem removeFirst_eq_some_iff {q q' : BoundedQueue α} {p : α → Bool} {a : α} :
    q.removeFirst p = some (a, q') ↔
      extract p q.items = some (a, q'.items) ∧ q'.capacity = q.capacity := by
  simp only [removeFirst]
  split
  · next h => exact ⟨fun x => (nomatch x), fun x => by rw [h] at x; cases x.1⟩
  · next b rest h =>
      refine ⟨fun x => ?_, fun x => ?_⟩
      · cases x; exact ⟨h, rfl⟩
      · obtain ⟨hx, hc⟩ := x
        rw [h] at hx
        cases hx
        exact congrArg (fun r => some (_, r)) (ext hc.symm rfl)

theorem length_of_offer {q q' : BoundedQueue α} {a : α} (h : q.offer a = .ok q') :
    q'.items.length = q.items.length + 1 := by
  rw [(offer_eq_ok_iff.1 h).2.2, List.length_append, List.length_singleton]

theorem length_of_poll {q q' : BoundedQueue α} {a : α} (h : q.poll = some (a, q')) :
    q.items.length = q'.items.length + 1 := by
  rw [(poll_eq_some_iff.1 h).1, List.length_cons]

theorem length_of_removeFirst {q q' : BoundedQueue α} {p : α → Bool} {a : α}
    (h : q.removeFirst p = some (a, q')) : q.items.length = q'.items.length + 1 :=
  (length_of_extract (removeFirst_eq_some_iff.1 h).1).symm

/-- What is taken out stands between the others, which stay in order. -/
theorem split_of_removeFirst {q q' : BoundedQueue α} {p : α → Bool} {a : α}
    (h : q.removeFirst p = some (a, q')) :
    ∃ before after, q.items = before ++ a :: after ∧ q'.items = before ++ after ∧ p a = true ∧
      ∀ b ∈ before, p b = false :=
  split_of_extract (removeFirst_eq_some_iff.1 h).1

/-- The first item that satisfies `p` is the one that a search for it takes out. -/
theorem removeFirst_of_split {q : BoundedQueue α} {p : α → Bool} {a : α} {before after : List α}
    (split : q.items = before ++ a :: after) (earlier : ∀ b ∈ before, p b = false)
    (own : p a = true) :
    ∃ q', q.removeFirst p = some (a, q') ∧ q'.items = before ++ after ∧
      q'.capacity = q.capacity := by
  have found : extract p q.items = some (a, before ++ after) := by
    rw [split]
    exact extract_of_split earlier own
  cases taken : q.removeFirst p with
  | none => cases found.symm.trans (removeFirst_eq_none_iff.1 taken)
  | some result =>
      obtain ⟨a', q'⟩ := result
      obtain ⟨same, capacity⟩ := removeFirst_eq_some_iff.1 taken
      obtain ⟨rfl, left⟩ := Prod.mk.inj (Option.some.inj (found.symm.trans same))
      exact ⟨q', rfl, left.symm, capacity⟩

theorem sublist_of_removeFirst {q q' : BoundedQueue α} {p : α → Bool} {a : α}
    (h : q.removeFirst p = some (a, q')) : List.Sublist q'.items q.items := by
  obtain ⟨before, after, split, left, -⟩ := split_of_removeFirst h
  rw [split, left]
  exact (List.sublist_cons_self a after).append_left before

/-- Dropping the oldest item that satisfies `p` leaves the others in order, or all of them where
none does. -/
theorem items_discard (q : BoundedQueue α) (p : α → Bool) :
    (∀ a ∈ q.items, p a = false) ∧ q.discard p = q ∨
    ∃ before a after, q.items = before ++ a :: after ∧ p a = true ∧
      (q.discard p).items = before ++ after := by
  simp only [discard]
  split
  · next none =>
      exact Or.inl ⟨extract_eq_none_iff.1 (removeFirst_eq_none_iff.1 none), rfl⟩
  · next a rest some =>
      obtain ⟨before, after, split, left, ha, -⟩ := split_of_removeFirst some
      exact Or.inr ⟨before, a, after, split, ha, left⟩

theorem mem_of_mem_discard {q : BoundedQueue α} {p : α → Bool} {x : α}
    (h : x ∈ (q.discard p).items) : x ∈ q.items := by
  simp only [discard] at h
  split at h
  · exact h
  · next a rest some => exact (sublist_of_removeFirst some).subset h

theorem mem_of_offer {q q' : BoundedQueue α} {a : α} (h : q.offer a = .ok q') {x : α} :
    x ∈ q'.items ↔ x ∈ q.items ∨ x = a := by
  rw [(offer_eq_ok_iff.1 h).2.2, List.mem_append, List.mem_singleton]

theorem mem_offerOrDrop {q : BoundedQueue α} {a x : α} (h : x ∈ (q.offerOrDrop a).items) :
    x ∈ q.items ∨ x = a := by
  simp only [offerOrDrop] at h
  split at h
  · exact Or.inl h
  · next q' room => exact (mem_of_offer room).1 h

theorem length_discard_le (q : BoundedQueue α) (p : α → Bool) :
    (q.discard p).items.length ≤ q.items.length := by
  simp only [discard]
  split
  · exact Nat.le_refl _
  · next a rest some => exact (sublist_of_removeFirst some).length_le

/-- What was just offered is not there too once one of its like is dropped. -/
theorem length_discard_of_offer {q q' : BoundedQueue α} {a : α} (h : q.offer a = .ok q')
    {p : α → Bool} (own : p a = true) : (q'.discard p).items.length = q.items.length := by
  have longer := length_of_offer h
  rcases items_discard q' p with ⟨none, -⟩ | ⟨before, b, after, split, -, left⟩
  · cases (none a ((mem_of_offer h).2 (Or.inr rfl))).symm.trans own
  · have parts := congrArg List.length split
    rw [left, List.length_append]
    rw [List.length_append, List.length_cons] at parts
    omega

theorem length_offerOrDrop_le (q : BoundedQueue α) (a : α) :
    (q.offerOrDrop a).items.length ≤ q.items.length + 1 := by
  simp only [offerOrDrop]
  split
  · exact Nat.le_succ _
  · next q' room => exact Nat.le_of_eq (length_of_offer room)

@[simp] theorem capacity_discard (q : BoundedQueue α) (p : α → Bool) :
    (q.discard p).capacity = q.capacity := by
  simp only [discard]
  split
  · rfl
  · next a rest some => exact (removeFirst_eq_some_iff.1 some).2

@[simp] theorem capacity_offerOrDrop (q : BoundedQueue α) (a : α) :
    (q.offerOrDrop a).capacity = q.capacity := by
  simp only [offerOrDrop]
  split
  · rfl
  · next q' room => exact (offer_eq_ok_iff.1 room).2.1

/-! ## How often an item occurs -/

section Count

variable [DecidableEq α] {q q' : BoundedQueue α} {a : α}

/-- An item at the head is counted apart. -/
theorem count_cons_eq (a : α) (l : List α) (x : α) :
    (a :: l).count x = [a].count x + l.count x := by
  rw [← List.count_append]
  rfl

theorem count_of_offer (h : q.offer a = .ok q') (x : α) :
    q'.items.count x = q.items.count x + [a].count x := by
  rw [(offer_eq_ok_iff.1 h).2.2, List.count_append]

theorem count_of_poll (h : q.poll = some (a, q')) (x : α) :
    q.items.count x = [a].count x + q'.items.count x := by
  rw [(poll_eq_some_iff.1 h).1, count_cons_eq]

theorem count_of_split {l before after : List α} (split : l = before ++ a :: after) (x : α) :
    l.count x = [a].count x + (before ++ after).count x := by
  rw [split, ← count_cons_eq]
  exact List.perm_middle.count_eq x

theorem count_of_removeFirst {p : α → Bool} (h : q.removeFirst p = some (a, q')) (x : α) :
    q.items.count x = [a].count x + q'.items.count x := by
  obtain ⟨before, after, split, left, -⟩ := split_of_removeFirst h
  rw [left]
  exact count_of_split split x

theorem count_offerOrDrop_le (q : BoundedQueue α) (a x : α) :
    (q.offerOrDrop a).items.count x ≤ q.items.count x + [a].count x := by
  simp only [offerOrDrop]
  split
  · exact Nat.le_add_right _ _
  · next q' room => exact Nat.le_of_eq (count_of_offer room x)

theorem count_le_offerOrDrop (q : BoundedQueue α) (a x : α) :
    q.items.count x ≤ (q.offerOrDrop a).items.count x := by
  simp only [offerOrDrop]
  split
  · exact Nat.le_refl _
  · next q' room =>
      rw [count_of_offer room]
      exact Nat.le_add_right _ _

/-- Dropping one item that equals `a` drops it where it occurs, and nothing else. -/
theorem count_discard (q : BoundedQueue α) (a x : α) :
    q.items.count a = 0 ∧ q.discard (· == a) = q ∨
    q.items.count x = [a].count x + (q.discard (· == a)).items.count x ∧
      q.items.length = (q.discard (· == a)).items.length + 1 := by
  rcases q.items_discard (· == a) with ⟨none, same⟩ | ⟨before, b, after, split, hb, left⟩
  · refine Or.inl ⟨List.count_eq_zero.2 fun ha => ?_, same⟩
    exact absurd (none a ha) (by simp)
  · cases eq_of_beq hb
    refine Or.inr ⟨?_, ?_⟩
    · rw [left]
      exact count_of_split split x
    · rw [left, split]
      simp only [List.length_append, List.length_cons]
      omega

end Count

@[simp] theorem fst_drain (q : BoundedQueue α) : q.drain.1 = q.items := rfl

@[simp] theorem items_drain (q : BoundedQueue α) : q.drain.2.items = [] := rfl

@[simp] theorem capacity_drain (q : BoundedQueue α) : q.drain.2.capacity = q.capacity := rfl

end BoundedQueue

end ConnectionPool
