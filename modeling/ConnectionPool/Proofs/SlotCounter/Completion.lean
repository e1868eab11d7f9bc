import ConnectionPool.Proofs.SlotCounter.Linearization
import ConnectionPool.Proofs.Total

/-!
# Threads that share a counter come to an end

A reservation that finds the count changed starts again, so a thread may make many steps for one
call; but then another thread was answered. While no thread is answered the count stays, and by its
third step a thread that has not finished is answered (`Machine.Sound.due_run_lt`). Main statements:
every schedule that leaves no thread out finishes all calls (`Machine.Sound.exists_finished`). So
does `finish`, where four turns of every thread finish a call (`Machine.Sound.remaining_finish`).
-/

set_option autoImplicit false

namespace ConnectionPool.Contention

/-- Where a total is not zero, some member adds to it. -/
theorem exists_of_total_ne_zero {α : Type} {measure : α → Nat} {l : List α}
    (positive : total measure l ≠ 0) : ∃ (i : Nat) (a : α), l[i]? = some a ∧ measure a ≠ 0 := by
  by_contra none
  have zero : ∀ a ∈ l, measure a ≤ 0 := by
    intro a there
    obtain ⟨i, here⟩ := List.getElem?_of_mem there
    by_contra more
    exact none ⟨i, a, here, fun same => more (Nat.le_of_eq same)⟩
  have bound := total_le_mul zero
  omega

/-! ## What a thread has before it -/

namespace Thread

variable {limit n n' : Nat} {t t' : Thread} {r : Option CallResult}

/-- The number of borrowed slots that the thread holds. -/
def held (t : Thread) : Nat :=
  match t.phase with
  | .holding => 1
  | .ready | .seen _ => 0

/-- A bound on the answers that the thread is going to get: two for a call, of which a slot that is
held was one. -/
def due (t : Thread) : Nat := 2 * t.calls.length - t.held

/-- While the count stays, the thread is answered within so many steps of its own. -/
def distance (t : Thread) (count : Nat) : Nat :=
  match t.phase with
  | .seen n => if n = count then 1 else 3
  | .ready => 2
  | .holding => 1

theorem one_le_distance (t : Thread) (count : Nat) : 1 ≤ t.distance count := by
  rw [distance]
  split
  · split <;> decide
  · decide
  · decide

theorem distance_le_three (t : Thread) (count : Nat) : t.distance count ≤ 3 := by
  rw [distance]
  split
  · split <;> decide
  · decide
  · decide

/-- Each answer takes one off what is due. -/
theorem Moved.due_add_le (h : t.Moved limit n r n' t') : t'.due + r.toList.length ≤ t.due := by
  cases h with
  | rest | look asks room | retry asks changed => exact Nat.le_refl _
  | giveBack gives | saturate gives =>
      cases gives <;>
        simp only [due, held, List.length_cons, Option.toList_some, List.length_nil] <;> omega
  | _ =>
      simp only [due, held, List.length_cons, Option.toList_some, List.length_nil]
      omega

theorem Moved.length_calls_le (h : t.Moved limit n r n' t') : t'.calls.length ≤ t.calls.length := by
  cases h with
  | rest | look asks room | retry asks changed | borrow room => exact Nat.le_refl _
  | _ => exact Nat.le_succ _

/-- A thread that holds a slot gives it back at its next step, which finishes the call. -/
theorem Moved.length_calls_lt (h : t.Moved limit n r n' t') (holds : t.held = 1) :
    t'.calls.length < t.calls.length := by
  cases h with
  | rest | look asks room | retry asks changed | borrow room => cases holds
  | _ => exact Nat.lt_succ_self _

/-- A silent step brings an unfinished thread nearer to its next answer. -/
theorem Moved.silent (h : t.Moved limit n none n' t') : n' = n ∧ t'.calls = t.calls ∧
    (t.calls ≠ [] → t'.distance n + 1 = t.distance n) := by
  cases h with
  | rest => exact ⟨rfl, rfl, fun busy => absurd rfl busy⟩
  | look asks room => exact ⟨rfl, rfl, fun _ => by simp [distance]⟩
  | retry asks changed => exact ⟨rfl, rfl, fun _ => by simp [distance, changed.symm]⟩

theorem Sound.two_mul_length_calls (h : t.Sound limit) : t.due + t.held = 2 * t.calls.length := by
  cases h <;> simp only [due, held, List.length_cons] <;> omega

end Thread

/-! ## What the threads have before them -/

namespace Machine

variable {s s' : Machine} {i : Nat} {r : Option CallResult}

def due (s : Machine) : Nat := total Thread.due s.threads

def held (s : Machine) : Nat := total Thread.held s.threads

/-- What a step takes off one thread it takes off all together. -/
theorem Moved.total_add_le {f : Thread → Nat} {d : Nat} (moved : s.Moved i r s')
    (silent : r = none → d = 0)
    (lowers : ∀ {t t' n}, t.Moved s.limit s.count r n t' → f t' + d ≤ f t) :
    total f s'.threads + d ≤ total f s.threads := by
  cases moved with
  | absent missing => exact Nat.le_of_eq (congrArg _ (silent rfl))
  | @thread t t' n r here moved =>
      have told := total_set f here t'
      have step := lowers moved
      dsimp only
      omega

theorem Sound.total_run_le {f : Thread → Nat}
    (lowers : ∀ {limit n n' r t t'}, t.Moved limit n r n' t' → f t' ≤ f t) (h : s.Sound)
    (schedule : List Nat) : total f (s.run schedule).threads ≤ total f s.threads :=
  h.run_induction (P := fun s' => total f s'.threads ≤ total f s.threads) (Nat.le_refl _)
    (fun bound moved => Nat.le_trans (moved.total_add_le (d := 0) (fun _ => rfl) lowers) bound)
    schedule

theorem Sound.due_run_le (h : s.Sound) (schedule : List Nat) : (s.run schedule).due ≤ s.due :=
  h.total_run_le (fun moved => Nat.le_trans (Nat.le_add_right _ _) moved.due_add_le) schedule

theorem Sound.remaining_run_le (h : s.Sound) (schedule : List Nat) :
    (s.run schedule).remaining ≤ s.remaining :=
  h.total_run_le (f := fun t => t.calls.length) Thread.Moved.length_calls_le schedule

theorem Sound.two_mul_remaining (h : s.Sound) : s.due + s.held = 2 * s.remaining := by
  rw [due, held, remaining, ← total_mul]
  obtain ⟨limit, count, threads⟩ := s
  induction threads with
  | nil => rfl
  | cons t threads ih =>
      obtain ⟨first, rest⟩ := List.forall_mem_cons.1 h
      have same := first.two_mul_length_calls
      have further := ih rest
      simp only [total_cons] at further ⊢
      omega

theorem calls_eq_nil (none : s.remaining = 0) {t : Thread} (there : t ∈ s.threads) :
    t.calls = [] := by
  have bound := le_total_of_mem (fun t : Thread => t.calls.length) there
  exact List.eq_nil_of_length_eq_zero (Nat.le_zero.1 (Nat.le_trans bound (Nat.le_of_eq none)))

/-! ## Steps without an answer -/

/-- As long as no thread is answered, an unfinished thread comes nearer to its answer with each step
of its own, and stays where it is with each step of another. -/
theorem Sound.quiet_step (h : s.Sound) {j : Nat} {t : Thread} (here : s.threads[j]? = some t)
    (busy : t.calls ≠ []) (quiet : s.due ≤ (s.step i).due) :
    ∃ t', (s.step i).threads[j]? = some t' ∧ t'.calls ≠ [] ∧
      t'.distance (s.step i).count + (if i = j then 1 else 0) = t.distance s.count := by
  obtain ⟨r, moved⟩ := h.moved i
  have answered := moved.total_add_le (f := Thread.due) (d := r.toList.length)
    (fun none => by rw [none]; rfl) Thread.Moved.due_add_le
  generalize s.step i = s' at moved quiet answered ⊢
  cases r with
  | some r =>
      rw [due, due] at quiet
      simp only [Option.toList_some, List.length_singleton] at answered
      omega
  | none =>
      cases moved with
      | absent missing =>
          refine ⟨t, here, busy, ?_⟩
          rw [if_neg, Nat.add_zero]
          rintro rfl
          cases missing.symm.trans here
      | @thread t₀ t' n _ here₀ moved =>
          obtain ⟨rfl, same, nearer⟩ := moved.silent
          by_cases own : i = j
          · subst own
            cases here₀.symm.trans here
            refine ⟨t', List.getElem?_set_self (List.getElem?_eq_some_iff.1 here).1, ?_, ?_⟩
            · rw [same]
              exact busy
            · rw [if_pos rfl]
              exact nearer busy
          · exact ⟨t, (List.getElem?_set_ne own).trans here, busy, by rw [if_neg own]; rfl⟩

theorem Sound.quiet_run (h : s.Sound) {schedule : List Nat} {j : Nat} {t : Thread}
    (here : s.threads[j]? = some t) (busy : t.calls ≠ []) (quiet : s.due ≤ (s.run schedule).due) :
    ∃ t' : Thread,
      t'.distance (s.run schedule).count + schedule.count j = t.distance s.count := by
  induction schedule generalizing s t with
  | nil => exact ⟨t, rfl⟩
  | cons i schedule ih =>
      have later := (h.run [i]).due_run_le schedule
      have first := h.due_run_le [i]
      obtain ⟨t', here', busy', nearer⟩ := h.quiet_step here busy (Nat.le_trans quiet later)
      obtain ⟨t'', further⟩ := ih (h.run [i]) here' busy' (Nat.le_trans first quiet)
      refine ⟨t'', ?_⟩
      have counted : (i :: schedule).count j = schedule.count j + if i = j then 1 else 0 := by
        simp [List.count_cons]
      rw [counted, ← Nat.add_assoc, ← nearer]
      exact congrArg (· + _) further

/-- By the time an unfinished thread has made three steps, some thread has been answered. -/
theorem Sound.due_run_lt (h : s.Sound) {schedule : List Nat} {t : Thread}
    (here : s.threads[i]? = some t) (busy : t.calls ≠ []) (often : 3 ≤ schedule.count i) :
    (s.run schedule).due < s.due := by
  by_contra quiet
  obtain ⟨t', nearer⟩ := h.quiet_run here busy (Nat.le_of_not_lt quiet)
  have still := t'.one_le_distance (s.run schedule).count
  have close := t.distance_le_three s.count
  omega

theorem exists_busy (left : s.remaining ≠ 0) :
    ∃ (i : Nat) (t : Thread), s.threads[i]? = some t ∧ t.calls ≠ [] := by
  obtain ⟨i, t, here, some⟩ := exists_of_total_ne_zero left
  exact ⟨i, t, here, fun none => some (congrArg List.length none)⟩

theorem length_threads_step (s : Machine) (i : Nat) :
    (s.step i).threads.length = s.threads.length := by
  rw [step]
  split
  · rfl
  · exact List.length_set

theorem length_threads_run (s : Machine) (schedule : List Nat) :
    (s.run schedule).threads.length = s.threads.length := by
  induction schedule generalizing s with
  | nil => rfl
  | cons i schedule ih => exact (ih (s.step i)).trans (length_threads_step s i)

/-! ## Schedules that leave no thread out -/

/-- The first steps of a schedule that goes on for ever. -/
def firstSteps (f : Nat → Nat) (n : Nat) : List Nat := (List.range n).map f

/-- Each of the threads makes a step again and again. -/
def Fair (threads : Nat) (f : Nat → Nat) : Prop := ∀ i < threads, ∀ n, ∃ m, n ≤ m ∧ f m = i

theorem firstSteps_add (f : Nat → Nat) (n m : Nat) :
    firstSteps f (n + m) = firstSteps f n ++ firstSteps (fun k => f (n + k)) m := by
  rw [firstSteps, List.range_add, List.map_append, List.map_map]
  rfl

theorem Fair.later {threads : Nat} {f : Nat → Nat} (fair : Fair threads f) (n : Nat) :
    Fair threads fun k => f (n + k) := by
  intro i lt k
  obtain ⟨m, le, own⟩ := fair i lt (n + k)
  refine ⟨m - n, by omega, ?_⟩
  rw [← own]
  exact congrArg f (by omega)

theorem Fair.exists_count_le {threads : Nat} {f : Nat → Nat} (fair : Fair threads f)
    (lt : i < threads) (k : Nat) : ∃ n, k ≤ (firstSteps f n).count i := by
  induction k with
  | zero => exact ⟨0, Nat.zero_le _⟩
  | succ k ih =>
      obtain ⟨n, enough⟩ := ih
      obtain ⟨m, le, own⟩ := fair i lt n
      refine ⟨m + 1, ?_⟩
      obtain ⟨d, rfl⟩ := Nat.exists_eq_add_of_le le
      have last : firstSteps (fun j => f (n + d + j)) 1 = [i] := congrArg (fun j => [j]) own
      rw [firstSteps_add, firstSteps_add, last, List.count_append, List.count_append,
        List.count_singleton_self]
      omega

/-- Every schedule that leaves no thread out finishes all calls. -/
theorem Sound.exists_finished (h : s.Sound) {f : Nat → Nat} (fair : Fair s.threads.length f) :
    ∃ n, (s.run (firstSteps f n)).remaining = 0 := by
  -- on the answers that are due: an unfinished thread makes three more steps, and then fewer are
  induction bound : s.due using Nat.strongRecOn generalizing s f with
  | _ due ih =>
      subst bound
      by_cases none : s.remaining = 0
      · exact ⟨0, none⟩
      · obtain ⟨i, t, here, busy⟩ := exists_busy none
        obtain ⟨n, often⟩ := fair.exists_count_le (List.getElem?_eq_some_iff.1 here).1 3
        have fewer := h.due_run_lt here busy often
        have later : Fair (s.run (firstSteps f n)).threads.length fun k => f (n + k) := by
          rw [length_threads_run]
          exact fair.later n
        obtain ⟨m, finished⟩ := ih _ fewer (h.run _) later rfl
        refine ⟨n + m, ?_⟩
        rw [firstSteps_add, run_append]
        exact finished

/-! ## Rounds -/

/-- Threads that have finished do nothing more. -/
theorem step_of_remaining_eq_zero (none : s.remaining = 0) (i : Nat) : s.step i = s := by
  rw [step]
  split
  · rfl
  · next t here =>
      have stays : t.step s.limit s.count = (s.count, t) := by
        rw [Thread.step, calls_eq_nil none (List.mem_of_getElem? here)]
      have same : s.threads.set i t = s.threads := by
        rw [← (List.getElem?_eq_some_iff.1 here).2, List.set_getElem_self]
      rw [stays]
      exact congrArg (fun threads => { s with threads }) same

theorem run_of_remaining_eq_zero (none : s.remaining = 0) (schedule : List Nat) :
    s.run schedule = s := by
  induction schedule with
  | nil => rfl
  | cons i schedule ih =>
      exact (congrArg (run · schedule) (step_of_remaining_eq_zero none i)).trans ih

/-- Every thread in turn, so many times. -/
def turns (threads k : Nat) : List Nat := (List.replicate k (List.range threads)).flatten

theorem turns_add (threads k l : Nat) :
    turns threads (k + l) = turns threads k ++ turns threads l := by
  rw [turns, ← List.replicate_append_replicate, List.flatten_append]
  rfl

theorem turns_one (threads : Nat) : turns threads 1 = List.range threads := List.append_nil _

theorem le_count_turns {threads : Nat} (lt : i < threads) (k : Nat) :
    k ≤ (turns threads k).count i := by
  induction k with
  | zero => exact Nat.zero_le _
  | succ k ih =>
      have own : 0 < (List.range threads).count i := List.count_pos_iff.2 (List.mem_range.2 lt)
      rw [turns_add, turns_one, List.count_append]
      omega

theorem rounds_eq_run (s : Machine) (k : Nat) : s.rounds k = s.run (turns s.threads.length k) := by
  induction k generalizing s with
  | zero => rfl
  | succ k ih =>
      rw [rounds]
      split
      · next none => exact (run_of_remaining_eq_zero none _).symm
      · rw [ih, length_threads_run, Nat.add_comm, turns_add, turns_one, run_append]

/-- A thread that holds a slot finishes its call with its next step. -/
theorem Sound.remaining_run_lt (h : s.Sound) {schedule : List Nat} {t : Thread}
    (here : s.threads[i]? = some t) (holds : t.held = 1) (there : i ∈ schedule) :
    (s.run schedule).remaining < s.remaining := by
  induction schedule generalizing s with
  | nil => cases there
  | cons k schedule ih =>
      have first := h.remaining_run_le [k]
      have later : (s.run (k :: schedule)).remaining ≤ (s.step k).remaining :=
        (h.run [k]).remaining_run_le schedule
      by_cases own : k = i
      · subst own
        refine Nat.lt_of_le_of_lt later ?_
        obtain ⟨r, moved⟩ := h.moved k
        generalize s.step k = s' at moved
        cases moved with
        | absent missing => cases missing.symm.trans here
        | @thread t₀ t' n r here₀ moved =>
            cases here₀.symm.trans here
            have told := total_set (fun t : Thread => t.calls.length) here t'
            have fewer := moved.length_calls_lt holds
            simp only [remaining] at told ⊢
            omega
      · have here' : (s.step k).threads[i]? = some t := by
          rw [Machine.step]
          split
          · exact here
          · exact (List.getElem?_set_ne own).trans here
        have there' := (List.mem_cons.1 there).resolve_left (Ne.symm own)
        exact Nat.lt_of_lt_of_le (ih (h.run [k]) here' there') first

theorem exists_holding (holding : s.held ≠ 0) :
    ∃ (i : Nat) (t : Thread), s.threads[i]? = some t ∧ t.held = 1 := by
  obtain ⟨i, t, here, holds⟩ := exists_of_total_ne_zero holding
  refine ⟨i, t, here, ?_⟩
  rw [Thread.held] at holds ⊢
  split at holds
  · rfl
  · exact absurd rfl holds
  · exact absurd rfl holds

/-- Four turns of every thread finish a call. In three of them some thread is answered; if that
finishes no call then a slot has been borrowed, which is given back in the fourth. -/
theorem Sound.remaining_four_turns_lt (h : s.Sound) (left : s.remaining ≠ 0) :
    (s.run (turns s.threads.length 4)).remaining < s.remaining := by
  obtain ⟨i, t, here, busy⟩ := exists_busy left
  have lt := (List.getElem?_eq_some_iff.1 here).1
  have answered := h.due_run_lt here busy (le_count_turns lt 3)
  have still := length_threads_run s (turns s.threads.length 3)
  have sound := h.run (turns s.threads.length 3)
  have fewer := h.remaining_run_le (turns s.threads.length 3)
  rw [turns_add s.threads.length 3 1, run_append]
  generalize s.run (turns s.threads.length 3) = s₃ at answered still sound fewer ⊢
  have last := sound.remaining_run_le (turns s.threads.length 1)
  by_cases finished : s₃.remaining < s.remaining
  · exact Nat.lt_of_le_of_lt last finished
  · -- fewer answers are due for as many calls, so more slots are held than before
    have before := h.two_mul_remaining
    have after := sound.two_mul_remaining
    obtain ⟨j, t₃, here₃, holds⟩ := exists_holding (s := s₃) (by omega)
    have lt₃ := (List.getElem?_eq_some_iff.1 here₃).1
    have there : j ∈ turns s.threads.length 1 :=
      List.count_pos_iff.1 (le_count_turns (still ▸ lt₃) 1)
    exact Nat.lt_of_lt_of_le (sound.remaining_run_lt here₃ holds there) fewer

theorem Sound.remaining_turns (h : s.Sound) {k : Nat} (enough : s.remaining ≤ k) :
    (s.run (turns s.threads.length (4 * k))).remaining = 0 := by
  induction k generalizing s with
  | zero => exact Nat.le_zero.1 enough
  | succ k ih =>
      by_cases none : s.remaining = 0
      · rw [run_of_remaining_eq_zero none]
        exact none
      · have fewer := h.remaining_four_turns_lt none
        have rest := ih (h.run (turns s.threads.length 4)) (by omega)
        rw [length_threads_run] at rest
        rw [Nat.mul_succ, Nat.add_comm, turns_add, run_append]
        exact rest

theorem Sound.remaining_finish (h : s.Sound) : s.finish.remaining = 0 := by
  rw [finish, rounds_eq_run]
  exact h.remaining_turns (Nat.le_refl _)

end Machine

end ConnectionPool.Contention
