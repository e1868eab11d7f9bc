import Mathlib.Data.List.Perm.Basic
import ConnectionPool.BoundedQueue

/-!
# Queues as bounded lists

What a queue is to its users is said with tickets: an archive remembers every item that was
accepted, in order, and which of them were returned. Those that were not are present, so items that
are equal can still be told apart. Main statement: whatever is asked of a queue, it answers as an
archive of its capacity does (`BoundedQueue.exists_conforms`). Each accepted item is present or was
returned, once, and what is present stands in the order of acceptance.
-/

set_option autoImplicit false

namespace ConnectionPool

variable {α : Type}

/-! ## Operations and answers -/

inductive QueueOperation (α : Type) where
  | offer (a : α)
  | poll
  | removeFirst (p : α → Bool)
  | drain
  | snapshot

inductive QueueAnswer (α : Type) where
  | accepted
  /-- The queue is full, and the item comes back. -/
  | refused (a : α)
  | taken (a : Option α)
  | drained (l : List α)
  | copied (l : List α)

/-- The items that leave the queue with an answer. -/
def QueueAnswer.returned : QueueAnswer α → List α
  | .taken a => a.toList
  | .drained l => l
  | .accepted => []
  | .refused _ => []
  | .copied _ => []

/-- The items that an operation was accepted with. -/
def acceptedWith : QueueOperation α × QueueAnswer α → List α
  | (.offer a, .accepted) => [a]
  | _ => []

namespace BoundedQueue

/-- The answer to an operation, and the queue after it. -/
def perform (q : BoundedQueue α) : QueueOperation α → QueueAnswer α × BoundedQueue α
  | .offer a =>
      match q.offer a with
      | .error b => (.refused b, q)
      | .ok q' => (.accepted, q')
  | .poll =>
      match q.poll with
      | none => (.taken none, q)
      | some (a, q') => (.taken (some a), q')
  | .removeFirst p =>
      match q.removeFirst p with
      | none => (.taken none, q)
      | some (a, q') => (.taken (some a), q')
  | .drain => (.drained q.drain.1, q.drain.2)
  | .snapshot => (.copied q.items, q)

/-- The operations with their answers, one after another, and the queue after them. -/
def play (q : BoundedQueue α) :
    List (QueueOperation α) → List (QueueOperation α × QueueAnswer α) × BoundedQueue α
  | [] => ([], q)
  | op :: ops =>
      let (answer, q') := q.perform op
      let (log, last) := q'.play ops
      ((op, answer) :: log, last)

end BoundedQueue

/-! ## Archives -/

/-- What a bounded list has accepted, in order, and what it has returned: items with their tickets.
The ticket of an item is the number of those that were accepted before it. -/
structure Archive (α : Type) where
  capacity : Nat
  accepted : List α := []
  gone : List (α × Nat) := []

namespace Archive

/-- The accepted items that were not returned, with their tickets, in the order of acceptance. -/
def present (s : Archive α) : List (α × Nat) :=
  s.accepted.zipIdx.filter fun e => !s.gone.any (·.2 == e.2)

/-- The archive after items were returned. -/
def returning (s : Archive α) (es : List (α × Nat)) : Archive α := { s with gone := s.gone ++ es }

/-- What a bounded list may answer, and what it is then. -/
inductive Step : Archive α → QueueOperation α → QueueAnswer α → Archive α → Prop
  | accept {s : Archive α} {a : α} (room : s.present.length < s.capacity) :
      Step s (.offer a) .accepted { s with accepted := s.accepted ++ [a] }
  | refuse {s : Archive α} {a : α} (full : s.present.length = s.capacity) :
      Step s (.offer a) (.refused a) s
  | pollNone {s : Archive α} (nothing : s.present = []) : Step s .poll (.taken none) s
  | poll {s : Archive α} {e : α × Nat} (there : e ∈ s.present)
      (earliest : ∀ e' ∈ s.present, e.2 ≤ e'.2) :
      Step s .poll (.taken (some e.1)) (s.returning [e])
  | removeNone {s : Archive α} {p : α → Bool} (nothing : ∀ e ∈ s.present, p e.1 = false) :
      Step s (.removeFirst p) (.taken none) s
  | remove {s : Archive α} {p : α → Bool} {e : α × Nat} (there : e ∈ s.present)
      (own : p e.1 = true) (earliest : ∀ e' ∈ s.present, p e'.1 = true → e.2 ≤ e'.2) :
      Step s (.removeFirst p) (.taken (some e.1)) (s.returning [e])
  | drain {s : Archive α} :
      Step s .drain (.drained (s.present.map Prod.fst)) (s.returning s.present)
  | snapshot {s : Archive α} : Step s .snapshot (.copied (s.present.map Prod.fst)) s

inductive Run : Archive α → List (QueueOperation α × QueueAnswer α) → Archive α → Prop
  | nil {s : Archive α} : Run s [] s
  | cons {s s' s'' : Archive α} {op : QueueOperation α} {answer : QueueAnswer α}
      {log : List (QueueOperation α × QueueAnswer α)} (step : Step s op answer s')
      (rest : Run s' log s'') : Run s ((op, answer) :: log) s''

/-! ## What an archive remembers -/

theorem Step.remembers {s s' : Archive α} {op : QueueOperation α} {answer : QueueAnswer α}
    (step : Step s op answer s') : s'.accepted = s.accepted ++ acceptedWith (op, answer) ∧
      s'.gone.map Prod.fst = s.gone.map Prod.fst ++ answer.returned ∧
      s'.capacity = s.capacity := by
  cases step with
  | accept room => exact ⟨rfl, (List.append_nil _).symm, rfl⟩
  | poll there earliest => exact ⟨(List.append_nil _).symm, List.map_append, rfl⟩
  | remove there own earliest => exact ⟨(List.append_nil _).symm, List.map_append, rfl⟩
  | drain => exact ⟨(List.append_nil _).symm, List.map_append, rfl⟩
  | _ => exact ⟨(List.append_nil _).symm, (List.append_nil _).symm, rfl⟩

/-- An archive remembers exactly what was accepted and what was returned. -/
theorem Run.remembers {s s' : Archive α} {log : List (QueueOperation α × QueueAnswer α)}
    (run : Run s log s') : s'.accepted = s.accepted ++ log.flatMap acceptedWith ∧
      s'.gone.map Prod.fst = s.gone.map Prod.fst ++ log.flatMap (·.2.returned) ∧
      s'.capacity = s.capacity := by
  induction run with
  | nil => exact ⟨(List.append_nil _).symm, (List.append_nil _).symm, rfl⟩
  | cons step rest ih =>
      obtain ⟨accepted, gone, sized⟩ := step.remembers
      rw [ih.1, ih.2.1, accepted, gone]
      exact ⟨List.append_assoc .., List.append_assoc .., ih.2.2.trans sized⟩

/-! ## Tickets -/

/-- Tickets are given out in increasing order. -/
theorem pairwise_present (s : Archive α) : s.present.Pairwise (·.2 < ·.2) := by
  refine List.Pairwise.filter _ ?_
  rw [← List.pairwise_map (f := Prod.snd) (R := (· < ·)), List.zipIdx_map_snd]
  exact List.pairwise_lt_range'

theorem earlier_or_le {s : Archive α} {earlier later : List (α × Nat)} {e e' : α × Nat}
    (split : s.present = earlier ++ e :: later) (there : e' ∈ s.present) :
    e' ∈ earlier ∨ e.2 ≤ e'.2 := by
  have sorted := s.pairwise_present
  rw [split, List.pairwise_append, List.pairwise_cons] at sorted
  rw [split] at there
  rcases List.mem_append.1 there with before | onwards
  · exact Or.inl before
  · rcases List.mem_cons.1 onwards with rfl | after
    · exact Or.inr (Nat.le_refl _)
    · exact Or.inr (Nat.le_of_lt (sorted.2.1.1 e' after))

theorem present_returning (s : Archive α) (es : List (α × Nat)) :
    (s.returning es).present = s.present.filter fun e => !es.any (·.2 == e.2) := by
  rw [present, present, List.filter_filter]
  simp only [returning, List.any_append, Bool.not_or, Bool.and_comm]

/-- An item that is returned leaves the others as they are. -/
theorem present_returning_one {s : Archive α} {before after : List (α × Nat)} {e : α × Nat}
    (split : s.present = before ++ e :: after) :
    (s.returning [e]).present = before ++ after := by
  have sorted := s.pairwise_present
  rw [split, List.pairwise_append, List.pairwise_cons] at sorted
  obtain ⟨-, ⟨later, -⟩, earlier⟩ := sorted
  have other (es : List (α × Nat)) (differ : ∀ e' ∈ es, e'.2 ≠ e.2) :
      es.filter (fun e' => !(e.2 == e'.2)) = es := by
    refine List.filter_eq_self.2 fun e' there => ?_
    simpa using (differ e' there).symm
  simp only [present_returning, split, List.any_cons, List.any_nil, Bool.or_false,
    List.filter_append, List.filter_cons, beq_self_eq_true, Bool.not_true, Bool.false_eq_true,
    if_false]
  rw [other before fun e' there => Nat.ne_of_lt (earlier e' there e List.mem_cons_self),
    other after fun e' there => Nat.ne_of_gt (later e' there)]

theorem present_returning_all (s : Archive α) : (s.returning s.present).present = [] := by
  rw [present_returning, List.filter_eq_nil_iff]
  intro e there left
  rw [Bool.not_eq_true', List.any_eq_false] at left
  exact left e there (beq_self_eq_true _)

/-- Each accepted item is present or was returned, once. -/
def Sound (s : Archive α) : Prop := (s.gone ++ s.present).Perm s.accepted.zipIdx

theorem Sound.present_accept {s : Archive α} (sound : s.Sound) (a : α) :
    ({ s with accepted := s.accepted ++ [a] } : Archive α).present =
      s.present ++ [(a, s.accepted.length)] := by
  have known : ∀ e ∈ s.gone, e.2 < s.accepted.length := fun e there =>
    List.snd_lt_of_mem_zipIdx (sound.subset (List.mem_append_left _ there))
  have new : s.gone.any (·.2 == s.accepted.length) = false := by
    rw [List.any_eq_false]
    intro e there same
    exact Nat.ne_of_lt (known e there) (beq_iff_eq.1 same)
  simp only [present, List.zipIdx_append, List.zipIdx_singleton, List.filter_append, Nat.zero_add,
    List.filter_cons, List.filter_nil, new, Bool.not_false, if_true]

theorem Sound.accept {s : Archive α} (sound : s.Sound) (a : α) :
    ({ s with accepted := s.accepted ++ [a] } : Archive α).Sound := by
  rw [Sound, sound.present_accept, ← List.append_assoc, List.zipIdx_append, List.zipIdx_singleton,
    Nat.zero_add]
  exact sound.append_right _

theorem Sound.returning {s : Archive α} (sound : s.Sound) {es rest : List (α × Nat)}
    (left : (s.returning es).present = rest) (split : (es ++ rest).Perm s.present) :
    (s.returning es).Sound := by
  rw [Sound, left]
  show (s.gone ++ es ++ rest).Perm s.accepted.zipIdx
  rw [List.append_assoc]
  exact (split.append_left _).trans sound

end Archive

/-! ## Queues and archives -/

namespace BoundedQueue

/-- The queue holds what is present in the archive, in order. -/
structure Represents (q : BoundedQueue α) (s : Archive α) : Prop where
  capacity : q.capacity = s.capacity
  items : q.items = s.present.map Prod.fst
  sound : s.Sound

/-- Where an item stands in the queue, its entry stands in the archive. -/
theorem Represents.split {q : BoundedQueue α} {s : Archive α} (h : q.Represents s)
    {before after : List α} {a : α} (split : q.items = before ++ a :: after) :
    ∃ earlier t later, s.present = earlier ++ (a, t) :: later ∧
      earlier.map Prod.fst = before ∧ later.map Prod.fst = after := by
  obtain ⟨earlier, rest, entries, first, last⟩ :=
    List.map_eq_append_iff.1 (h.items.symm.trans split)
  obtain ⟨⟨b, t⟩, later, rfl, rfl, rfl⟩ := List.map_eq_cons_iff.1 last
  exact ⟨earlier, t, later, entries, first, rfl⟩

/-- An item that leaves the queue is returned. -/
theorem Represents.taken {q q' : BoundedQueue α} {s : Archive α} (h : q.Represents s)
    {earlier later : List (α × Nat)} {e : α × Nat} (entries : s.present = earlier ++ e :: later)
    (sized : q'.capacity = q.capacity) (left : q'.items = (earlier ++ later).map Prod.fst) :
    q'.Represents (s.returning [e]) := by
  have present := Archive.present_returning_one entries
  refine ⟨sized.trans h.capacity, left.trans (congrArg _ present.symm), ?_⟩
  refine h.sound.returning present ?_
  rw [entries, List.singleton_append]
  exact List.perm_middle.symm

/-- Whatever is asked of it, a queue answers as the archive does. -/
theorem Represents.step {q : BoundedQueue α} {s : Archive α} (h : q.Represents s)
    (op : QueueOperation α) :
    ∃ s', s.Step op (q.perform op).1 s' ∧ (q.perform op).2.Represents s' := by
  have length : s.present.length = q.items.length := by rw [h.items, List.length_map]
  cases op with
  | offer a =>
      rw [perform]
      split
      · next b full =>
          obtain ⟨filled, rfl⟩ := offer_eq_error_iff.1 full
          exact ⟨s, .refuse (length.trans (filled.trans h.capacity)), h⟩
      · next q' room =>
          obtain ⟨room, sized, joined⟩ := offer_eq_ok_iff.1 room
          refine ⟨_, .accept (by rw [length, ← h.capacity]; exact room),
            sized.trans h.capacity, ?_, h.sound.accept a⟩
          rw [joined, h.items, h.sound.present_accept, List.map_append]
          rfl
  | poll =>
      rw [perform]
      split
      · next empty =>
          have nothing := List.map_eq_nil_iff.1 (h.items.symm.trans (poll_eq_none_iff.1 empty))
          exact ⟨s, .pollNone nothing, h⟩
      · next a q' head =>
          obtain ⟨first, sized⟩ := poll_eq_some_iff.1 head
          have first : q.items = [] ++ a :: q'.items := first
          obtain ⟨earlier, t, later, entries, none, left⟩ := h.split first
          cases List.map_eq_nil_iff.1 none
          refine ⟨s.returning [(a, t)], ?_, h.taken entries sized left.symm⟩
          refine .poll (e := (a, t)) (by simp [entries]) fun e' there => ?_
          exact (Archive.earlier_or_le entries there).resolve_left (List.not_mem_nil)
  | removeFirst p =>
      rw [perform]
      split
      · next missing =>
          have nothing := extract_eq_none_iff.1 (removeFirst_eq_none_iff.1 missing)
          refine ⟨s, .removeNone fun e there => nothing e.1 ?_, h⟩
          rw [h.items]
          exact List.mem_map_of_mem there
      · next a q' found =>
          obtain ⟨before, after, split, left, own, first⟩ := split_of_removeFirst found
          have sized := (removeFirst_eq_some_iff.1 found).2
          obtain ⟨earlier, t, later, entries, rfl, rfl⟩ := h.split split
          refine ⟨s.returning [(a, t)], ?_,
            h.taken entries sized (left.trans List.map_append.symm)⟩
          refine .remove (e := (a, t)) (by simp [entries]) own fun e' there also => ?_
          refine (Archive.earlier_or_le entries there).resolve_left fun before => ?_
          cases (first e'.1 (List.mem_map_of_mem before)).symm.trans also
  | drain =>
      have none := s.present_returning_all
      refine ⟨s.returning s.present, ?_, h.capacity, ?_, ?_⟩
      · show s.Step .drain (.drained q.items) _
        rw [h.items]
        exact .drain
      · rw [none]
        rfl
      · exact h.sound.returning none (by rw [List.append_nil])
  | snapshot =>
      refine ⟨s, ?_, h⟩
      show s.Step .snapshot (.copied q.items) s
      rw [h.items]
      exact .snapshot

/-- Whatever is asked of it, and however often, a queue answers as the archive does. -/
theorem Represents.run {q : BoundedQueue α} {s : Archive α} (h : q.Represents s)
    (ops : List (QueueOperation α)) :
    ∃ s', s.Run (q.play ops).1 s' ∧ (q.play ops).2.Represents s' := by
  induction ops generalizing q s with
  | nil => exact ⟨s, .nil, h⟩
  | cons op ops ih =>
      obtain ⟨s', step, next⟩ := h.step op
      obtain ⟨s'', rest, last⟩ := ih next
      exact ⟨s'', .cons step rest, last⟩

theorem represents_empty (capacity : Nat) :
    (empty capacity : BoundedQueue α).Represents { capacity := capacity } :=
  ⟨rfl, rfl, List.Perm.refl _⟩

/-- What is true of a queue after some operations: it has answered as an archive of its capacity
does, which is now `s`, and the next offer is refused exactly if the queue is full. -/
structure Conforms (capacity : Nat) (ops : List (QueueOperation α)) (q : BoundedQueue α)
    (log : List (QueueOperation α × QueueAnswer α)) (s : Archive α) : Prop where
  asked : log.map Prod.fst = ops
  answers : Archive.Run { capacity := capacity } log s
  present : q.items = s.present.map Prod.fst
  bounded : q.items.length ≤ capacity
  accepted : s.accepted = log.flatMap acceptedWith
  returned : s.gone.map Prod.fst = log.flatMap (·.2.returned)
  once : (s.gone ++ s.present).Perm s.accepted.zipIdx
  ordered : s.present.Pairwise (·.2 < ·.2)
  refuses : ∀ a, q.items.length = capacity → q.perform (.offer a) = (.refused a, q)
  accepts : ∀ a, q.items.length ≠ capacity → (q.perform (.offer a)).1 = .accepted ∧
    (q.perform (.offer a)).2.items = q.items ++ [a]

theorem map_fst_play (q : BoundedQueue α) (ops : List (QueueOperation α)) :
    (q.play ops).1.map Prod.fst = ops := by
  induction ops generalizing q with
  | nil => rfl
  | cons op ops ih => exact congrArg (op :: ·) (ih _)

theorem perform_full {q : BoundedQueue α} (full : q.items.length = q.capacity) (a : α) :
    q.perform (.offer a) = (.refused a, q) := by
  rw [perform, offer_eq_error_iff.2 ⟨full, rfl⟩]

theorem perform_room {q : BoundedQueue α} (room : q.items.length ≠ q.capacity) (a : α) :
    (q.perform (.offer a)).1 = .accepted ∧ (q.perform (.offer a)).2.items = q.items ++ [a] := by
  have bound := q.length_le
  rw [perform]
  split
  · next b full => exact absurd (offer_eq_error_iff.1 full).1 room
  · next q' joined => exact ⟨rfl, (offer_eq_ok_iff.1 joined).2.2⟩

theorem exists_conforms (capacity : Nat) (ops : List (QueueOperation α)) :
    ∃ s, Conforms capacity ops ((empty capacity).play ops).2 ((empty capacity).play ops).1 s := by
  obtain ⟨s, run, represents⟩ := (represents_empty capacity).run ops
  obtain ⟨accepted, returned, kept⟩ := run.remembers
  have sized : ((empty capacity).play ops).2.capacity = capacity := represents.capacity.trans kept
  refine ⟨s, map_fst_play _ ops, run, represents.items, ?_, accepted, returned, represents.sound,
    s.pairwise_present, ?_, ?_⟩
  · exact Nat.le_trans (BoundedQueue.length_le _) (Nat.le_of_eq sized)
  · exact fun a full => perform_full (full.trans sized.symm) a
  · exact fun a room => perform_room (sized.symm ▸ room) a

end BoundedQueue

end ConnectionPool
