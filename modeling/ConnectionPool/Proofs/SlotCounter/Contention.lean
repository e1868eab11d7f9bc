import ConnectionPool.Proofs.SlotCounter.Completion

/-!
# What a counter comes to when threads share it

Main statement: whatever the threads do and in whatever order, the count stays within the limit, it
is the number of the slots that were granted less those that were given back, and a reservation is
refused only at a moment of its own at which the limit is reached. Threads that only reserve take
every slot there is or as many as they ask for, and threads that give back what they get leave none
in use (`Machine.counts_exactly`).
-/

set_option autoImplicit false

namespace ConnectionPool.Contention

def CallResult.isGranted : CallResult → Bool
  | .granted _ => true
  | _ => false

/-- The release found a slot in use. -/
def CallResult.isReleased : CallResult → Bool
  | .released _ => true
  | _ => false

def CallResult.isCleared : CallResult → Bool
  | .cleared => true
  | _ => false

/-! ## Steps of a thread -/

namespace Thread

variable {limit n n' : Nat} {t t' : Thread} {r : Option CallResult}

/-- A step that is no reset adds to the count what it grants and takes off what it releases. -/
theorem Moved.balance (h : t.Moved limit n r n' t')
    (kept : r.toList.countP CallResult.isCleared = 0) :
    n' + r.toList.countP CallResult.isReleased = n + r.toList.countP CallResult.isGranted := by
  cases h with
  | reset => cases kept
  | _ => rfl

theorem Moved.mem_calls (h : t.Moved limit n r n' t') {call : CounterCall}
    (there : call ∈ t'.calls) : call ∈ t.calls := by
  cases h with
  | rest | look asks room | retry asks changed | borrow room => exact there
  | _ => exact List.mem_cons_of_mem _ there

/-- A thread that only reserves goes on with its call, is refused a slot at the limit, or takes one
below it. -/
theorem Moved.reserving (h : t.Moved limit n r n' t')
    (only : ∀ call ∈ t.calls, call = .reserve) :
    n' = n ∧ t'.granted = t.granted ∧ t'.calls.length = t.calls.length ∨
    n' = n ∧ limit ≤ n ∧ t'.granted = t.granted ∧ t'.calls.length + 1 = t.calls.length ∨
    n' = n + 1 ∧ n < limit ∧ t'.granted = t.granted + 1 ∧
      t'.calls.length + 1 = t.calls.length := by
  cases h with
  | rest | look asks room | retry asks changed => exact Or.inl ⟨rfl, rfl, rfl⟩
  | refuse asks full => exact Or.inr (Or.inl ⟨rfl, full, rfl, rfl⟩)
  | reserve room => exact Or.inr (Or.inr ⟨rfl, room, List.countP_cons_of_pos rfl, rfl⟩)
  | borrow room => cases only _ List.mem_cons_self
  | giveBack gives | saturate gives => cases gives <;> cases only _ List.mem_cons_self
  | reset => cases only _ List.mem_cons_self

/-- A thread that only borrows adds to the count what it comes to hold. The count has the slot that
it holds, so the thread never gives back one at zero. -/
theorem Moved.borrowing (h : t.Moved limit n r n' t') (only : ∀ call ∈ t.calls, call = .borrow)
    (counted : t.held ≤ n) : n' + t.held = n + t'.held := by
  cases h with
  | rest | look asks room | retry asks changed | refuse asks full | borrow room => rfl
  | giveBack gives =>
      cases gives with
      | borrow => rfl
      | release => cases only _ List.mem_cons_self
  | saturate gives =>
      cases gives with
      | borrow => cases counted
      | release => cases only _ List.mem_cons_self
  | reserve room | reset => cases only _ List.mem_cons_self

end Thread

namespace Machine

variable {s s' : Machine} {i : Nat} {r : Option CallResult}

/-! ## The count and the answers -/

/-- The number of answers of one kind that the threads have. -/
def answers (p : CallResult → Bool) (s : Machine) : Nat :=
  total (fun t => t.results.countP p) s.threads

/-- The number of releases that found a slot in use. -/
def released (s : Machine) : Nat := s.answers CallResult.isReleased

/-- The number of resets. -/
def cleared (s : Machine) : Nat := s.answers CallResult.isCleared

theorem granted_eq_answers (s : Machine) : s.granted = s.answers CallResult.isGranted := rfl

theorem Moved.answers_eq (moved : s.Moved i r s') (p : CallResult → Bool) :
    s'.answers p = s.answers p + r.toList.countP p := by
  cases moved with
  | absent missing => rfl
  | @thread t t' n r here moved =>
      have told := total_set (fun t : Thread => t.results.countP p) here t'
      simp only [moved.results, List.countP_append] at told
      simp only [answers]
      omega

theorem Moved.balance (moved : s.Moved i r s') (kept : r.toList.countP CallResult.isCleared = 0) :
    s'.count + r.toList.countP CallResult.isReleased =
      s.count + r.toList.countP CallResult.isGranted := by
  cases moved with
  | absent missing => rfl
  | thread here moved => exact moved.balance kept

/-- While the counter is not reset, the count changes by what is granted and what is released. -/
theorem Sound.balance_run (h : s.Sound) {schedule : List Nat}
    (kept : (s.run schedule).cleared = s.cleared) :
    (s.run schedule).count + (s.run schedule).released + s.granted =
      s.count + (s.run schedule).granted + s.released := by
  -- the number of resets never falls, so there was none before any step either
  have balance := h.run_induction (P := fun s' => s.cleared ≤ s'.cleared ∧ (s'.cleared = s.cleared →
    s'.count + s'.released + s.granted = s.count + s'.granted + s.released)) ?_ ?_ schedule
  · exact balance.2 kept
  · exact ⟨Nat.le_refl _, fun _ => Nat.add_right_comm _ _ _⟩
  · rintro s₁ s₂ i r ⟨grown, balanced⟩ moved
    have resets := moved.answers_eq CallResult.isCleared
    have grants := moved.answers_eq CallResult.isGranted
    have releases := moved.answers_eq CallResult.isReleased
    have step := moved.balance
    simp only [cleared, released, granted_eq_answers] at grown balanced ⊢
    refine ⟨by omega, fun still => ?_⟩
    have first := balanced (by omega)
    have last := step (by omega)
    omega

/-! ## Threads that make one kind of call -/

/-- Every call that is left is this one. -/
def Makes (call : CounterCall) (s : Machine) : Prop := ∀ t ∈ s.threads, ∀ c ∈ t.calls, c = call

theorem Makes.step {call : CounterCall} (h : s.Makes call) (moved : s.Moved i r s') :
    s'.Makes call := by
  cases moved with
  | absent missing => exact h
  | thread here moved =>
      intro t there c own
      rcases List.mem_or_eq_of_mem_set there with before | rfl
      · exact h t before c own
      · exact h _ (List.mem_of_getElem? here) c (moved.mem_calls own)

theorem makes_start (limit threads each : Nat) (call : CounterCall) :
    (start limit (List.replicate threads (List.replicate each call))).Makes call := by
  intro t there c own
  obtain ⟨l, same, rfl⟩ := List.mem_map.1 there
  rw [(List.mem_replicate.1 same).2] at own
  exact (List.mem_replicate.1 own).2

theorem remaining_start (limit threads each : Nat) (call : CounterCall) :
    (start limit (List.replicate threads (List.replicate each call))).remaining =
      threads * each := by
  rw [remaining, start, total_map]
  induction threads with
  | zero => exact (Nat.zero_mul each).symm
  | succ threads ih =>
      rw [List.replicate_succ, total_cons, ih, List.length_replicate, Nat.succ_mul, Nat.add_comm]

theorem total_start {f : Thread → Nat} (none : ∀ l, f { calls := l } = 0) (limit : Nat)
    (calls : List (List CounterCall)) : total f (start limit calls).threads = 0 := by
  have each : ∀ t ∈ (start limit calls).threads, f t ≤ 0 := by
    intro t there
    obtain ⟨l, -, rfl⟩ := List.mem_map.1 there
    exact Nat.le_of_eq (none l)
  exact Nat.le_zero.1 (total_le_mul each)

/-- The threads were to reserve `asked` slots in all. Each slot that they have got is in use, and a
reservation was refused only if every slot is. -/
structure Reserving (asked : Nat) (s : Machine) : Prop where
  makes : s.Makes .reserve
  counted : s.count = s.granted
  within : s.count ≤ s.limit
  bounded : s.granted + s.remaining ≤ asked
  served : s.count = s.limit ∨ s.granted + s.remaining = asked

theorem Reserving.step {asked : Nat} (h : s.Reserving asked) (moved : s.Moved i r s') :
    s'.Reserving asked := by
  have makes := h.makes.step moved
  obtain ⟨own, counted, within, bounded, served⟩ := h
  cases moved with
  | absent missing => exact ⟨own, counted, within, bounded, served⟩
  | @thread t t' n r here moved =>
      have slots := total_set (fun t : Thread => t.granted) here t'
      have left := total_set (fun t : Thread => t.calls.length) here t'
      have step := moved.reserving (own t (List.mem_of_getElem? here))
      simp only [granted, remaining] at counted bounded served
      refine ⟨makes, ?_, ?_, ?_, ?_⟩ <;> simp only [granted, remaining] <;> omega

theorem reserving_start (limit threads each : Nat) :
    (start limit (List.replicate threads (List.replicate each .reserve))).Reserving
      (threads * each) := by
  have slots : (start limit (List.replicate threads (List.replicate each .reserve))).granted = 0 :=
    total_start (fun _ => rfl) limit _
  have left := remaining_start limit threads each .reserve
  have asked := (congrArg₂ (· + ·) slots left).trans (Nat.zero_add _)
  exact ⟨makes_start limit threads each .reserve, slots.symm, Nat.zero_le _, Nat.le_of_eq asked,
    Or.inr asked⟩

/-- Once they have finished, the threads have got every slot there is, or as many as they asked
for. -/
theorem Reserving.finished {asked : Nat} (h : s.Reserving asked) (none : s.remaining = 0) :
    s.granted = min s.limit asked ∧ s.count = min s.limit asked := by
  obtain ⟨-, counted, within, bounded, served⟩ := h
  omega

/-- The slots in use are those that the threads hold. -/
structure Borrowing (s : Machine) : Prop where
  makes : s.Makes .borrow
  counted : s.count = s.held

theorem Borrowing.step (h : s.Borrowing) (moved : s.Moved i r s') : s'.Borrowing := by
  have makes := h.makes.step moved
  obtain ⟨own, counted⟩ := h
  cases moved with
  | absent missing => exact ⟨own, counted⟩
  | @thread t t' n r here moved =>
      have there := List.mem_of_getElem? here
      have holds := le_total_of_mem Thread.held there
      have slots := total_set Thread.held here t'
      rw [held] at counted
      have step := moved.borrowing (own t there) (by omega)
      refine ⟨makes, ?_⟩
      simp only [held]
      omega

theorem borrowing_start (limit threads each : Nat) :
    (start limit (List.replicate threads (List.replicate each .borrow))).Borrowing :=
  ⟨makes_start limit threads each .borrow,
    (total_start (f := Thread.held) (fun _ => rfl) limit _).symm⟩

theorem Borrowing.finished (h : s.Borrowing) (sound : s.Sound) (none : s.remaining = 0) :
    s.count = 0 := by
  have bound := sound.two_mul_remaining
  have counted := h.counted
  omega

/-! ## The main statement -/

/-- With the step from `s` to `s'`, a reservation of the thread at place `i` reads the count `c`
when the limit is reached, and ends with the refusal, which is the thread's answer number `j`. -/
structure SeesFull (limit i j c : Nat) (s s' : Machine) : Prop where
  count : s.count = c
  full : limit ≤ c
  refused : ∃ call rest results, call.asks = true ∧
    s.threads[i]? = some ⟨call :: rest, .ready, results⟩ ∧ results.length = j ∧
    s'.threads[i]? = some ⟨rest, .ready, .refused c :: results⟩

/-- What is true of a counter with `limit` slots that threads share, after the steps of a schedule.
Every number that a step computes is the count at that moment, the next one or the one before, so
under a limit that is half a word at most none of them overflows. -/
structure Exact (limit : Nat) (calls : List (List CounterCall)) (schedule : List Nat)
    (s : Machine) : Prop where
  bounded : s.count ≤ limit
  fits : limit < UInt64.size / 2 → s.count + 1 < UInt64.size
  balanced : s.cleared = 0 → s.count + s.released = s.granted
  balancedSince : ∀ before after s₀, schedule = before ++ after →
    s₀ = (start limit calls).run before → s.cleared = s₀.cleared →
      s.count + s.released + s₀.granted = s₀.count + s.granted + s₀.released
  refusals : ∀ (i : Nat) (t : Thread) (j c : Nat), s.threads[i]? = some t →
    t.results.reverse[j]? = some (.refused c) → ∃ before after, schedule = before ++ i :: after ∧
      SeesFull limit i j c ((start limit calls).run before)
        ((start limit calls).run (before ++ [i]))
  linear : ∃ history k, (start limit calls).Ran schedule history s ∧
    ServesAll (SlotCounter.empty limit) (history.map Prod.snd) k ∧ k.used = s.count ∧
    ∀ (i : Nat) (t : Thread), s.threads[i]? = some t →
      t.results.reverse = (history.filter (·.1 == i)).map Prod.snd

theorem fresh_start (limit : Nat) (calls : List (List CounterCall)) :
    ∀ t ∈ (start limit calls).threads, t.results = [] := by
  intro t there
  obtain ⟨l, -, rfl⟩ := List.mem_map.1 there
  rfl

theorem Gives.seesFull {before : List Nat} {j c : Nat} {t t' : Thread}
    (h : s.Gives before i j (.refused c) t t') :
    SeesFull s.limit i j c (s.run before) (s.run (before ++ [i])) := by
  obtain ⟨here, number, moved, next⟩ := h
  generalize seen : (s.run before).count = n at moved
  generalize (s.run (before ++ [i])).count = n' at moved
  cases moved with
  | refuse asks full => exact ⟨seen, full, _, _, _, asks, here, number, next⟩

/-- Between two moments of a run without a reset, the count changes by what is granted and what is
released. -/
theorem Sound.balance_since (h : s.Sound) {schedule before after : List Nat}
    (split : schedule = before ++ after)
    (kept : (s.run schedule).cleared = (s.run before).cleared) :
    (s.run schedule).count + (s.run schedule).released + (s.run before).granted =
      (s.run before).count + (s.run schedule).granted + (s.run before).released := by
  subst split
  rw [run_append] at kept ⊢
  exact (h.run before).balance_run kept

/-- As long as the counter was not reset, the slots in use are those that were granted and not
released. -/
theorem balance_start {limit : Nat} {calls : List (List CounterCall)} {schedule : List Nat}
    (kept : ((start limit calls).run schedule).cleared = 0) :
    ((start limit calls).run schedule).count + ((start limit calls).run schedule).released =
      ((start limit calls).run schedule).granted := by
  have zero (p : CallResult → Bool) : ((start limit calls).run []).answers p = 0 :=
    total_start (fun _ => rfl) limit calls
  have balance := (sound_start limit calls).balance_since (List.nil_append schedule).symm
    (kept.trans (zero _).symm)
  have count : ((start limit calls).run []).count = 0 := rfl
  have granted : ((start limit calls).run []).granted = 0 := zero _
  have released : ((start limit calls).run []).released = 0 := zero _
  rw [count, granted, released] at balance
  omega

theorem exact_run (limit : Nat) (calls : List (List CounterCall)) (schedule : List Nat) :
    Exact limit calls schedule ((start limit calls).run schedule) := by
  have sound := sound_start limit calls
  have fresh := fresh_start limit calls
  have bounded : ((start limit calls).run schedule).count ≤ limit :=
    sound.count_le (Nat.zero_le _) schedule
  obtain ⟨history, ran⟩ := sound.ran schedule
  obtain ⟨k, shows, served⟩ := ran.serves (k := SlotCounter.empty limit) ⟨rfl, rfl⟩
  refine ⟨bounded, fun small => by omega, balance_start, ?_, ?_, ?_⟩
  · rintro before after s₀ split rfl kept
    exact sound.balance_since split kept
  · intro i t j c here there
    obtain ⟨before, after, t₀, t₁, split, gives⟩ := sound.exists_gives fresh here there
    exact ⟨before, after, split, gives.seesFull⟩
  · exact ⟨history, k, ran, served, shows.used, fun i t here => ran.own fresh here⟩

/-- A counter that threads share keeps its limit and counts exactly, whatever they call and in
whatever order they make their steps. All calls come to an end unless a thread is left out for ever,
and `finish` leaves none out. In the end, threads that only reserve have been granted the least of
the limit and the number of their calls, and threads that give back what they get leave no slot in
use. -/
theorem counts_exactly (limit : Nat) :
    (∀ calls schedule, Exact limit calls schedule ((start limit calls).run schedule)) ∧
    (∀ calls f, Fair calls.length f →
      ∃ n, ((start limit calls).run (firstSteps f n)).remaining = 0) ∧
    (∀ calls, (start limit calls).finish.remaining = 0 ∧
      ∃ schedule, (start limit calls).finish = (start limit calls).run schedule) ∧
    (∀ threads each schedule s,
      s = (start limit (List.replicate threads (List.replicate each .reserve))).run schedule →
      s.remaining = 0 →
        s.granted = min limit (threads * each) ∧ s.count = min limit (threads * each)) ∧
    ∀ threads each schedule s,
      s = (start limit (List.replicate threads (List.replicate each .borrow))).run schedule →
      s.remaining = 0 → s.count = 0 := by
  refine ⟨exact_run limit, ?_, ?_, ?_, ?_⟩
  · intro calls f fair
    refine (sound_start limit calls).exists_finished ?_
    rw [start, List.length_map]
    exact fair
  · intro calls
    exact ⟨(sound_start limit calls).remaining_finish, _, rounds_eq_run _ _⟩
  · rintro threads each schedule s rfl none
    have sound := sound_start limit (List.replicate threads (List.replicate each .reserve))
    have begun := reserving_start limit threads each
    have finished := (sound.run_induction begun Reserving.step schedule).finished none
    rw [sound.limit_run] at finished
    exact finished
  · rintro threads each schedule s rfl none
    have sound := sound_start limit (List.replicate threads (List.replicate each .borrow))
    have begun := borrowing_start limit threads each
    exact (sound.run_induction begun Borrowing.step schedule).finished (sound.run schedule) none

/-- Two threads want the only slot, and both have seen it free. The first takes it; the second finds
the count changed, reads it again and is refused. If the first gives the slot back in between, the
second gets it as well. -/
theorem two_threads_one_slot :
    (Fair 2 (· % 2) ∧
      ∃ n, ((start 1 [[.reserve], [.reset]]).run (firstSteps (· % 2) n)).remaining = 0) ∧
    (∃ s, s = (start 1 (List.replicate 2 (List.replicate 1 .reserve))).run [0, 1, 0, 1, 1] ∧
      s.remaining = 0 ∧ s.granted = 1 ∧ s.count = 1 ∧
      s.threads.map (·.results) = [[.granted 1], [.refused 1]] ∧
      ∃ before after, [0, 1, 0, 1, 1] = before ++ 1 :: after ∧
        SeesFull 1 1 0 1 ((start 1 [[.reserve], [.reserve]]).run before)
          ((start 1 [[.reserve], [.reserve]]).run (before ++ [1]))) ∧
    ∃ s, s = (start 1 (List.replicate 2 (List.replicate 1 .borrow))).run [0, 1, 0, 1, 0, 1, 1, 1] ∧
      s.remaining = 0 ∧ s.granted = 2 ∧ s.count = 0 := by
  obtain ⟨always, ends, -, reserved, borrowed⟩ := counts_exactly 1
  have fair : Fair 2 (· % 2) := by
    intro i lt n
    have own : (2 * n + i) % 2 = i := by omega
    exact ⟨2 * n + i, by omega, own⟩
  refine ⟨⟨fair, ends [[.reserve], [.reset]] _ fair⟩, ⟨_, rfl, rfl, ?_⟩, ⟨_, rfl, rfl, rfl, ?_⟩⟩
  · obtain ⟨granted, count⟩ := reserved 2 1 [0, 1, 0, 1, 1] _ rfl rfl
    exact ⟨granted, count, rfl, (always _ _).refusals 1 _ 0 1 rfl rfl⟩
  · exact borrowed 2 1 [0, 1, 0, 1, 0, 1, 1, 1] _ rfl rfl

end Machine

end ConnectionPool.Contention
