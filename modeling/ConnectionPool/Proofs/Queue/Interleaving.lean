import Mathlib.Data.List.Nodup
import ConnectionPool.BoundedQueue.Producers
import ConnectionPool.Proofs.Queue.Refinement
import ConnectionPool.Proofs.Total

/-!
# Queues that several producers share

Producers offer to one queue in the order of a schedule, so what they do is one row of offers, each
by its producer. Main statement: a queue answers as a bounded list does, and whatever the schedule
is, it holds the first offers of the row, as many as there is room for: the least of its capacity
and the number of all items was accepted, and a drain takes exactly these, those of one producer in
its order (`BoundedQueue.refines_bounded_list`).
-/

set_option autoImplicit false

namespace ConnectionPool

variable {α : Type}

/-- A member that gains one item adds it to all that the members have. -/
theorem flatMap_set_perm {β : Type} {f : β → List α} {l : List β} {i : Nat} {b b' : β} {a : α}
    (here : l[i]? = some b) (more : f b' = a :: f b) :
    ((l.set i b').flatMap f).Perm (a :: l.flatMap f) := by
  induction l generalizing i with
  | nil => cases here
  | cons x l ih =>
      cases i with
      | zero =>
          cases here
          rw [List.set_cons_zero, List.flatMap_cons, List.flatMap_cons, more]
          exact .refl _
      | succ i =>
          rw [List.set_cons_succ, List.flatMap_cons, List.flatMap_cons]
          exact ((ih here).append_left _).trans List.perm_middle

/-- A member that gains nothing leaves all that the members have as it is. -/
theorem flatMap_set_same {β : Type} {f : β → List α} {l : List β} {i : Nat} {b b' : β}
    (here : l[i]? = some b) (same : f b' = f b) : (l.set i b').flatMap f = l.flatMap f := by
  induction l generalizing i with
  | nil => cases here
  | cons x l ih =>
      cases i with
      | zero =>
          cases here
          rw [List.set_cons_zero, List.flatMap_cons, List.flatMap_cons, same]
      | succ i => rw [List.set_cons_succ, List.flatMap_cons, List.flatMap_cons, ih here]

theorem length_flatten (items : List (List α)) :
    items.flatten.length = total List.length items := by
  induction items with
  | nil => rfl
  | cons l items ih => rw [List.flatten_cons, List.length_append, ih, total_cons]

namespace Producers

variable {capacity : Nat} {items : List (List α)} {s : Producers α} {row : List (Nat × α)}

/-- The offers `row` were made to the queue, and `items` is what the producers had to offer. -/
structure Offered (capacity : Nat) (items : List (List α)) (s : Producers α)
    (row : List (Nat × α)) : Prop where
  sized : s.queue.capacity = capacity
  queue : s.queue.items = (row.take capacity).map Prod.snd
  lasts : ∀ i l, items[i]? = some l → ∃ p, s.producers[i]? = some p ∧
    l = (row.filter (·.1 == i)).map Prod.snd ++ p.items ∧
    p.accepted.reverse = ((row.take capacity).filter (·.1 == i)).map Prod.snd
  spread : (row.map Prod.snd ++ s.producers.flatMap (·.items)).Perm items.flatten
  counted : s.accepted = s.queue.items.length
  drained : (s.producers.flatMap (·.accepted)).Perm s.queue.items

theorem offered_start (capacity : Nat) (items : List (List α)) :
    Offered capacity items (start capacity items) [] where
  sized := rfl
  queue := by simp [start]
  lasts i l there := ⟨{ items := l }, by simp [start, there], rfl, by simp⟩
  spread := by
    induction items with
    | nil => exact .refl _
    | cons l items ih => exact ih.append_left l
  counted := by
    rw [accepted, start, total_map]
    induction items with
    | nil => rfl
    | cons l items ih => exact (Nat.zero_add _).trans ih
  drained := by
    induction items with
    | nil => exact .refl _
    | cons l items ih => exact ih

/-- The offers of a producer after one more. -/
theorem offers_of_append (row : List (Nat × α)) (i j : Nat) (a : α) :
    ((row ++ [(i, a)]).filter (·.1 == j)).map Prod.snd =
      (row.filter (·.1 == j)).map Prod.snd ++ if i = j then [a] else [] := by
  rw [List.filter_append, List.map_append]
  by_cases same : i = j
  · simp [same]
  · simp [same]

/-- A producer that offers an item has one less to offer, and has it accepted or not. -/
theorem Offered.lasts_set (h : Offered capacity items s row) {i : Nat} {p : Producer α} {a : α}
    {rest : List α} (here : s.producers[i]? = some p) (next : p.items = a :: rest)
    {accepted : List α} {kept : List (Nat × α)}
    (told : accepted.reverse = p.accepted.reverse ++ kept.map Prod.snd)
    (taken : (row ++ [(i, a)]).take capacity = row.take capacity ++ kept)
    (own : ∀ e ∈ kept, e.1 = i) (j : Nat) (l : List α) (there : items[j]? = some l) :
    ∃ p', (s.producers.set i ⟨rest, accepted⟩)[j]? = some p' ∧
      l = ((row ++ [(i, a)]).filter (·.1 == j)).map Prod.snd ++ p'.items ∧
      p'.accepted.reverse =
        (((row ++ [(i, a)]).take capacity).filter (·.1 == j)).map Prod.snd := by
  obtain ⟨q, at_j, offered, heard⟩ := h.lasts j l there
  rw [offers_of_append, taken, List.filter_append, List.map_append]
  by_cases same : i = j
  · subst same
    cases here.symm.trans at_j
    have all : kept.filter (·.1 == i) = kept :=
      List.filter_eq_self.2 fun e there => beq_iff_eq.2 (own e there)
    refine ⟨⟨rest, accepted⟩, List.getElem?_set_self (List.getElem?_eq_some_iff.1 here).1, ?_, ?_⟩
    · rw [if_pos rfl, List.append_assoc, List.singleton_append, ← next]
      exact offered
    · rw [told, heard, all]
  · have none : kept.filter (·.1 == j) = [] :=
      List.filter_eq_nil_iff.2 fun e there own' =>
        same ((own e there).symm.trans (beq_iff_eq.1 own'))
    refine ⟨q, (List.getElem?_set_ne same).trans at_j, ?_, ?_⟩
    · rw [if_neg same, List.append_nil]
      exact offered
    · rw [heard, none, List.map_nil, List.append_nil]

/-- A producer that offers an item has one less to offer. -/
theorem Offered.spread_set (h : Offered capacity items s row) {i : Nat} {p : Producer α} {a : α}
    {rest : List α} (here : s.producers[i]? = some p) (next : p.items = a :: rest)
    (accepted : List α) : ((row ++ [(i, a)]).map Prod.snd ++
      (s.producers.set i ⟨rest, accepted⟩).flatMap (·.items)).Perm items.flatten := by
  have lt := (List.getElem?_eq_some_iff.1 here).1
  have there : (s.producers.set i ⟨rest, accepted⟩)[i]? = some ⟨rest, accepted⟩ :=
    List.getElem?_set_self lt
  -- to put the producer back gives it the item back
  have back : (s.producers.set i ⟨rest, accepted⟩).set i p = s.producers := by
    rw [List.set_set]
    obtain ⟨lt, own⟩ := List.getElem?_eq_some_iff.1 here
    rw [← own, List.set_getElem_self]
  have gains := flatMap_set_perm (f := fun p : Producer α => p.items) there next
  rw [back] at gains
  rw [List.map_append, List.append_assoc]
  exact (gains.symm.append_left _).trans h.spread

/-- An offer that finds no room: no later one finds any either. -/
theorem Offered.refused (h : Offered capacity items s row) {i : Nat} {p : Producer α} {a : α}
    {rest : List α} (here : s.producers[i]? = some p) (next : p.items = a :: rest)
    (full : s.queue.items.length = s.queue.capacity) :
    Offered capacity items { s with producers := s.producers.set i { p with items := rest } }
      (row ++ [(i, a)]) := by
  rw [h.sized, h.queue, List.length_map, List.length_take] at full
  have taken : (row ++ [(i, a)]).take capacity = row.take capacity ++ [] := by
    rw [List.take_append_of_le_length (by omega), List.append_nil]
  have told := total_set (fun p : Producer α => p.accepted.length) here ⟨rest, p.accepted⟩
  have same : (s.producers.set i ⟨rest, p.accepted⟩).flatMap Producer.accepted =
      s.producers.flatMap Producer.accepted := flatMap_set_same here rfl
  refine ⟨h.sized, ?_, ?_, h.spread_set here next _, ?_, ?_⟩
  · rw [h.queue, taken, List.append_nil]
  · exact h.lasts_set here next (List.append_nil _).symm taken (List.forall_mem_nil _)
  · exact (Nat.add_right_cancel told).trans h.counted
  · exact (List.Perm.of_eq same).trans h.drained

/-- An offer that finds room: all those before it have found some. -/
theorem Offered.admitted (h : Offered capacity items s row) {i : Nat} {p : Producer α} {a : α}
    {rest : List α} (here : s.producers[i]? = some p) (next : p.items = a :: rest)
    {queue : BoundedQueue α} (room : s.queue.offer a = .ok queue) :
    Offered capacity items ⟨queue, s.producers.set i ⟨rest, a :: p.accepted⟩⟩
      (row ++ [(i, a)]) := by
  obtain ⟨free, sized, joined⟩ := BoundedQueue.offer_eq_ok_iff.1 room
  rw [h.sized, h.queue, List.length_map, List.length_take] at free
  have before : row.take capacity = row := List.take_of_length_le (by omega)
  have taken : (row ++ [(i, a)]).take capacity = row.take capacity ++ [(i, a)] := by
    rw [before]
    refine List.take_of_length_le ?_
    rw [List.length_append, List.length_singleton]
    omega
  have told := total_set (fun p : Producer α => p.accepted.length) here ⟨rest, a :: p.accepted⟩
  refine ⟨sized.trans h.sized, ?_, ?_, h.spread_set here next _, ?_, ?_⟩
  · rw [joined, h.queue, taken, List.map_append]
    rfl
  · exact h.lasts_set here next List.reverse_cons taken (List.forall_mem_singleton.2 rfl)
  · have counted := h.counted
    simp only [accepted, List.length_cons] at counted told ⊢
    rw [joined, List.length_append, List.length_singleton]
    omega
  · rw [joined]
    exact (flatMap_set_perm here rfl).trans
      ((h.drained.cons a).trans (List.perm_append_singleton a _).symm)

/-- One more offer is made, if the producer has any left. -/
theorem Offered.step (h : Offered capacity items s row) (i : Nat) :
    ∃ row', Offered capacity items (s.step i) row' := by
  rw [Producers.step]
  split
  · exact ⟨row, h⟩
  · next p here =>
      split
      · exact ⟨row, h⟩
      · next a rest next =>
          split
          · next b full => exact ⟨_, h.refused here next (BoundedQueue.offer_eq_error_iff.1 full).1⟩
          · next queue room => exact ⟨_, h.admitted here next room⟩

theorem Offered.run (h : Offered capacity items s row) (schedule : List Nat) :
    ∃ row', Offered capacity items (s.run schedule) row' := by
  induction schedule generalizing s row with
  | nil => exact ⟨row, h⟩
  | cons i schedule ih =>
      obtain ⟨row', next⟩ := h.step i
      exact ih next

/-! ## Schedules that leave nothing to offer -/

/-- What the producer at that place has left to offer. -/
def left (s : Producers α) (j : Nat) : Option (List α) := (s.producers[j]?).map Producer.items

theorem left_step (s : Producers α) (i j : Nat) :
    (s.step i).left j = (s.left j).map (·.drop (if i = j then 1 else 0)) := by
  -- a producer that is replaced has one item less, the others have what they had
  have replaced {p : Producer α} {a : α} {rest accepted : List α} {queue : BoundedQueue α}
      (here : s.producers[i]? = some p) (next : p.items = a :: rest) :
      left ⟨queue, s.producers.set i ⟨rest, accepted⟩⟩ j =
        (s.left j).map (·.drop (if i = j then 1 else 0)) := by
    by_cases same : i = j
    · subst same
      have lt := (List.getElem?_eq_some_iff.1 here).1
      rw [left, left, List.getElem?_set_self lt, here, Option.map_some, Option.map_some,
        Option.map_some, next, if_pos rfl]
      rfl
    · simp [left, same, Function.comp_def]
  rw [step]
  split
  · next missing =>
      by_cases same : i = j
      · subst same
        simp [left, missing]
      · simp [same]
  · next p here =>
      split
      · next nothing =>
          by_cases same : i = j
          · subst same
            simp [left, here, nothing]
          · simp [same]
      · next a rest next =>
          split
          · exact replaced here next
          · exact replaced here next

/-- A producer has left what it had, less one item for each of its turns. -/
theorem left_run (s : Producers α) (schedule : List Nat) (j : Nat) :
    (s.run schedule).left j = (s.left j).map (·.drop (schedule.count j)) := by
  induction schedule generalizing s with
  | nil => simp [run]
  | cons i schedule ih =>
      have further : (s.run (i :: schedule)).left j = ((s.step i).run schedule).left j := rfl
      rw [further, ih, left_step, Option.map_map, List.count_cons]
      congr 1
      funext l
      simp [List.drop_drop, Nat.add_comm]

/-- Whatever the schedule, a producer was there before and has dropped an item for each turn. -/
theorem exists_left_of_mem_run {s : Producers α} {schedule : List Nat} {p : Producer α}
    (there : p ∈ (s.run schedule).producers) :
    ∃ j l, s.left j = some l ∧ p.items = l.drop (schedule.count j) := by
  obtain ⟨j, lt, at_j⟩ := List.getElem_of_mem there
  have now : (s.run schedule).left j = some p.items := by
    rw [left, List.getElem?_eq_getElem lt, at_j]
    rfl
  rw [left_run, Option.map_eq_some_iff] at now
  obtain ⟨l, before, dropped⟩ := now
  exact ⟨j, l, before, dropped.symm⟩

theorem remaining_eq_zero {s : Producers α} (none : ∀ p ∈ s.producers, p.items.length ≤ 0) :
    s.remaining = 0 := by
  have bound := total_le_mul none
  rw [Nat.mul_zero] at bound
  exact Nat.le_zero.1 bound

/-- If each producer has as many turns as items, all offers are made. -/
theorem remaining_run_start {capacity : Nat} {items : List (List α)} {schedule : List Nat}
    (enough : ∀ i l, items[i]? = some l → l.length ≤ schedule.count i) :
    ((start capacity items).run schedule).remaining = 0 := by
  refine remaining_eq_zero fun p there => ?_
  obtain ⟨j, l, before, dropped⟩ := exists_left_of_mem_run there
  have begun : (start capacity items).left j = items[j]? := by
    simp [left, start, Option.map_map, Function.comp_def]
  rw [dropped, List.length_drop]
  exact Nat.le_of_eq (Nat.sub_eq_zero_of_le (enough j l (begun.symm.trans before)))

/-- To take turns is to follow a schedule. -/
theorem exists_turns_eq_run (s : Producers α) (n : Nat) :
    ∃ schedule, s.turns n = s.run schedule := by
  induction n generalizing s with
  | zero => exact ⟨[], rfl⟩
  | succ n ih =>
      rw [turns]
      split
      · exact ⟨[], rfl⟩
      · obtain ⟨further, same⟩ := ih (s.run (List.range s.producers.length))
        refine ⟨List.range s.producers.length ++ further, same.trans ?_⟩
        exact (List.foldl_append ..).symm

/-- In each turn of all every producer offers an item, so they are done after as many turns as any
of them has items. -/
theorem remaining_turns {s : Producers α} {n : Nat}
    (few : ∀ p ∈ s.producers, p.items.length ≤ n) : (s.turns n).remaining = 0 := by
  induction n generalizing s with
  | zero => exact remaining_eq_zero few
  | succ n ih =>
      rw [turns]
      split
      · next none => exact none
      · refine ih fun p there => ?_
        obtain ⟨j, l, before, dropped⟩ := exists_left_of_mem_run there
        obtain ⟨q, at_j, rfl⟩ := Option.map_eq_some_iff.1 before
        have turn : 0 < (List.range s.producers.length).count j :=
          List.count_pos_iff.2 (List.mem_range.2 (List.getElem?_eq_some_iff.1 at_j).1)
        have bound := few q (List.mem_of_getElem? at_j)
        rw [dropped, List.length_drop]
        omega

theorem remaining_offerAll (s : Producers α) : s.offerAll.remaining = 0 :=
  remaining_turns fun _ there => le_total_of_mem (fun p : Producer α => p.items.length) there

/-! ## What the producers come to -/

/-- What comes of the producers who had `items` to offer, once all offers are made. An item that is
drained bears the place of its producer in `row`; where no two offers are of the same item, the item
tells whose it is. -/
structure Shared [DecidableEq α] (capacity : Nat) (items : List (List α)) (s : Producers α) :
    Prop where
  exhausted : s.remaining = 0
  admitted : s.accepted = min capacity (total List.length items)
  drained : s.queue.drain.1.Perm (s.producers.flatMap Producer.accepted)
  inOrder : ∃ row : List (Nat × α), row.map Prod.snd = s.queue.drain.1 ∧
    ∀ (i : Nat) (l : List α), items[i]? = some l → ∃ p : Producer α, s.producers[i]? = some p ∧
      List.Sublist p.accepted.reverse l ∧
      (row.filter (·.1 == i)).map Prod.snd = p.accepted.reverse
  once : items.flatten.Nodup → s.queue.drain.1.Nodup
  own : items.flatten.Nodup → ∀ (i : Nat) (l : List α), items[i]? = some l →
    ∃ p : Producer α, s.producers[i]? = some p ∧
      s.queue.drain.1.filter (· ∈ l) = p.accepted.reverse

/-- Among offers of distinct items, those of one producer are known by their items. -/
theorem filter_offers [DecidableEq α] {row offers : List (Nat × α)} {i : Nat}
    (apart : (row.map Prod.snd).Nodup) (sub : List.Sublist offers row) :
    (offers.map Prod.snd).filter (· ∈ (row.filter (·.1 == i)).map Prod.snd) =
      (offers.filter (·.1 == i)).map Prod.snd := by
  rw [List.filter_map]
  refine congrArg _ (List.filter_congr fun e taken => ?_)
  have made := sub.subset taken
  rw [Function.comp_apply, Bool.eq_iff_iff, decide_eq_true_iff, beq_iff_eq]
  constructor
  · intro own
    obtain ⟨e', also, same⟩ := List.mem_map.1 own
    obtain ⟨made', tag⟩ := List.mem_filter.1 also
    rw [← List.inj_on_of_nodup_map apart made' made same]
    exact beq_iff_eq.1 tag
  · intro tag
    exact List.mem_map_of_mem (List.mem_filter.2 ⟨made, beq_iff_eq.2 tag⟩)

theorem Offered.shared [DecidableEq α] (h : Offered capacity items s row)
    (exhausted : s.remaining = 0) : Shared capacity items s := by
  have none : ∀ p ∈ s.producers, p.items = [] := by
    intro p there
    have bound := le_total_of_mem (fun p : Producer α => p.items.length) there
    exact List.eq_nil_of_length_eq_zero
      (Nat.le_zero.1 (Nat.le_trans bound (Nat.le_of_eq exhausted)))
  have all : (row.map Prod.snd).Perm items.flatten := by
    have spread := h.spread
    rw [List.flatMap_eq_nil_iff.2 none, List.append_nil] at spread
    exact spread
  have sub : List.Sublist (row.take capacity) row := List.take_sublist _ _
  -- what a producer had to offer is its part of the row
  have offers : ∀ i l, items[i]? = some l → ∃ p, s.producers[i]? = some p ∧
      l = (row.filter (·.1 == i)).map Prod.snd ∧
      p.accepted.reverse = ((row.take capacity).filter (·.1 == i)).map Prod.snd := by
    intro i l there
    obtain ⟨p, here, offered, told⟩ := h.lasts i l there
    rw [none p (List.mem_of_getElem? here), List.append_nil] at offered
    exact ⟨p, here, offered, told⟩
  refine ⟨exhausted, ?_, h.drained.symm, ⟨row.take capacity, h.queue.symm, ?_⟩, ?_, ?_⟩
  · rw [h.counted, h.queue, List.length_map, List.length_take, ← length_flatten, ← all.length_eq,
      List.length_map]
  · intro i l there
    obtain ⟨p, here, offered, told⟩ := offers i l there
    refine ⟨p, here, ?_, told.symm⟩
    rw [told, offered]
    exact (sub.filter _).map _
  · intro distinct
    rw [BoundedQueue.fst_drain, h.queue]
    exact (all.nodup_iff.2 distinct).sublist (sub.map _)
  · intro distinct i l there
    obtain ⟨p, here, offered, told⟩ := offers i l there
    refine ⟨p, here, ?_⟩
    rw [BoundedQueue.fst_drain, h.queue, told, offered]
    exact filter_offers (all.nodup_iff.2 distinct) sub

/-- What comes of producers who take turns. -/
theorem shared_offerAll [DecidableEq α] (capacity : Nat) (items : List (List α)) :
    Shared capacity items (start capacity items).offerAll := by
  obtain ⟨schedule, same⟩ :=
    exists_turns_eq_run (start capacity items) (start capacity items).remaining
  obtain ⟨row, offered⟩ := (offered_start capacity items).run schedule
  rw [← same] at offered
  exact offered.shared (remaining_offerAll _)

end Producers

/-! ## The main statement -/

/-- A queue answers as a bounded list of its capacity does, whatever is asked of it. If several
producers have offered their items to it, each in its own order and whatever the order among them,
it has accepted as many as there was room for, and a drain takes exactly these, each once and those
of one producer in its order. -/
theorem BoundedQueue.refines_bounded_list [DecidableEq α] (capacity : Nat) :
    (∀ ops : List (QueueOperation α), ∃ s : Archive α,
      Conforms capacity ops ((empty capacity).play ops).2 ((empty capacity).play ops).1 s) ∧
    ∀ (items : List (List α)) (schedule : List Nat),
      (∀ i l, items[i]? = some l → l.length ≤ schedule.count i) →
        Producers.Shared capacity items ((Producers.start capacity items).run schedule) := by
  constructor
  · exact exists_conforms capacity
  · intro items schedule enough
    obtain ⟨row, offered⟩ := (Producers.offered_start capacity items).run schedule
    exact offered.shared (Producers.remaining_run_start enough)

/-- With room for two, the first two of three offers are accepted. -/
theorem two_of_three_accepted :
    ∃ s : Producers Nat, s = (Producers.start 2 [[1, 2], [3]]).run [1, 0, 0] ∧
      Producers.Shared 2 [[1, 2], [3]] s ∧ s.queue.drain.1 = [3, 1] ∧
      s.producers.map Producer.accepted = [[1], [3]] := by
  refine ⟨_, rfl, (BoundedQueue.refines_bounded_list 2).2 [[1, 2], [3]] [1, 0, 0] ?_, rfl, rfl⟩
  intro i l there
  rcases i with _ | _ | i
  · cases there
    decide
  · cases there
    decide
  · cases there

end ConnectionPool
