import Mathlib.Data.List.Induction
import ConnectionPool.SlotCounter
import ConnectionPool.SlotCounter.Contention

/-!
# A contended counter answers one call after another

A step of a thread is silent or answers a call, and only a step that answers changes the count
(`Thread.Moved`). So the answers of a run, in the order of the steps that give them, are those that
one slot counter gives to calls made one after another (`Machine.Ran.serves`), and each thread has
its own answers in that order (`Machine.Ran.own`). Since a slot counter stays within its limit, the
count does (`Machine.Sound.count_le`).
-/

set_option autoImplicit false

namespace ConnectionPool.Contention

/-! ## One step of a thread -/

/-- The calls that begin with a reservation. -/
def CounterCall.asks : CounterCall → Bool
  | .reserve | .borrow => true
  | .release | .reset => false

/-- The calls and phases in which a thread gives a slot back. -/
inductive GivesBack : CounterCall → Phase → Prop
  | release : GivesBack .release .ready
  | borrow : GivesBack .borrow .holding

namespace Thread

/-- Only a call that asks for a slot has seen a count, which was below the limit, and only one that
borrows holds a slot. -/
inductive Sound (limit : Nat) : Thread → Prop
  | ready {calls : List CounterCall} {results : List CallResult} :
      Sound limit ⟨calls, .ready, results⟩
  | seen {call : CounterCall} {rest : List CounterCall} {n : Nat} {results : List CallResult}
      (asks : call.asks = true) (room : n < limit) : Sound limit ⟨call :: rest, .seen n, results⟩
  | holding {rest : List CounterCall} {results : List CallResult} :
      Sound limit ⟨.borrow :: rest, .holding, results⟩

/-- What a step does: the thread and the count before, the answer if one is given, the count and
the thread afterwards. -/
inductive Moved (limit : Nat) : Thread → Nat → Option CallResult → Nat → Thread → Prop
  | rest {n : Nat} {results : List CallResult} :
      Moved limit ⟨[], .ready, results⟩ n none n ⟨[], .ready, results⟩
  | look {call : CounterCall} {rest : List CounterCall} {n : Nat} {results : List CallResult}
      (asks : call.asks = true) (room : n < limit) :
      Moved limit ⟨call :: rest, .ready, results⟩ n none n ⟨call :: rest, .seen n, results⟩
  | retry {call : CounterCall} {rest : List CounterCall} {seen n : Nat} {results : List CallResult}
      (asks : call.asks = true) (changed : n ≠ seen) :
      Moved limit ⟨call :: rest, .seen seen, results⟩ n none n ⟨call :: rest, .ready, results⟩
  | refuse {call : CounterCall} {rest : List CounterCall} {n : Nat} {results : List CallResult}
      (asks : call.asks = true) (full : limit ≤ n) :
      Moved limit ⟨call :: rest, .ready, results⟩ n (some (.refused n)) n
        ⟨rest, .ready, .refused n :: results⟩
  | reserve {rest : List CounterCall} {n : Nat} {results : List CallResult} (room : n < limit) :
      Moved limit ⟨.reserve :: rest, .seen n, results⟩ n (some (.granted (n + 1))) (n + 1)
        ⟨rest, .ready, .granted (n + 1) :: results⟩
  | borrow {rest : List CounterCall} {n : Nat} {results : List CallResult} (room : n < limit) :
      Moved limit ⟨.borrow :: rest, .seen n, results⟩ n (some (.granted (n + 1))) (n + 1)
        ⟨.borrow :: rest, .holding, .granted (n + 1) :: results⟩
  | giveBack {call : CounterCall} {phase : Phase} {rest : List CounterCall} {n : Nat}
      {results : List CallResult} (gives : GivesBack call phase) :
      Moved limit ⟨call :: rest, phase, results⟩ (n + 1) (some (.released n)) n
        ⟨rest, .ready, .released n :: results⟩
  | saturate {call : CounterCall} {phase : Phase} {rest : List CounterCall}
      {results : List CallResult} (gives : GivesBack call phase) :
      Moved limit ⟨call :: rest, phase, results⟩ 0 (some .saturated) 0
        ⟨rest, .ready, .saturated :: results⟩
  | reset {rest : List CounterCall} {n : Nat} {results : List CallResult} :
      Moved limit ⟨.reset :: rest, .ready, results⟩ n (some .cleared) 0
        ⟨rest, .ready, .cleared :: results⟩

variable {limit n n' : Nat} {t t' : Thread} {r : Option CallResult}

/-- A reservation that reads the count is refused exactly at the limit. -/
theorem moved_look {call : CounterCall} {rest : List CounterCall} {results : List CallResult}
    (asks : call.asks = true) (n : Nat) :
    ∃ r, Moved limit ⟨call :: rest, .ready, results⟩ n r n
      (look ⟨call :: rest, .ready, results⟩ limit n) := by
  rw [look]
  split
  · next full => exact ⟨_, .refuse asks (Nat.lt_succ_iff.1 full)⟩
  · next room => exact ⟨_, .look asks (Nat.lt_of_not_le fun full => room (Nat.lt_succ_of_le full))⟩

theorem moved_giveBack {call : CounterCall} {phase : Phase} {rest : List CounterCall}
    {results : List CallResult} (gives : GivesBack call phase) (n : Nat) :
    ∃ r, Moved limit ⟨call :: rest, phase, results⟩ n r
      (giveBack ⟨call :: rest, phase, results⟩ n).1
      (giveBack ⟨call :: rest, phase, results⟩ n).2 := by
  cases n with
  | zero => exact ⟨_, .saturate gives⟩
  | succ n => exact ⟨_, .giveBack gives⟩

/-- A reservation that has seen a count takes the slot exactly if the count is still the same. -/
theorem moved_takeSlot {call : CounterCall} {rest : List CounterCall} {seen : Nat}
    {results : List CallResult} (asks : call.asks = true) (room : seen < limit) (n : Nat) :
    ∃ r, Moved limit ⟨call :: rest, .seen seen, results⟩ n r
      (step ⟨call :: rest, .seen seen, results⟩ limit n).1
      (step ⟨call :: rest, .seen seen, results⟩ limit n).2 := by
  by_cases same : n = seen
  · subst same
    cases call with
    | reserve =>
        refine ⟨some (.granted (n + 1)), ?_⟩
        simp only [step, takeSlot, if_pos]
        exact .reserve room
    | borrow =>
        refine ⟨some (.granted (n + 1)), ?_⟩
        simp only [step, takeSlot, if_pos]
        exact .borrow room
    | release | reset => cases asks
  · refine ⟨none, ?_⟩
    cases call with
    | reserve | borrow =>
        simp only [step, takeSlot, if_neg same]
        exact .retry asks same
    | release | reset => cases asks

theorem Sound.moved (h : t.Sound limit) (n : Nat) :
    ∃ r, t.Moved limit n r (t.step limit n).1 (t.step limit n).2 := by
  cases h with
  | @ready calls results =>
      cases calls with
      | nil => exact ⟨none, .rest⟩
      | cons call rest =>
          cases call with
          | reserve | borrow => exact moved_look rfl n
          | release => exact moved_giveBack .release n
          | reset => exact ⟨_, .reset⟩
  | seen asks room => exact moved_takeSlot asks room n
  | holding => exact moved_giveBack .borrow n

theorem Moved.sound (h : t.Moved limit n r n' t') : t'.Sound limit := by
  cases h with
  | look asks room => exact .seen asks room
  | borrow room => exact .holding
  | _ => exact .ready

/-- The latest answer stands first. -/
theorem Moved.results (h : t.Moved limit n r n' t') : t'.results = r.toList ++ t.results := by
  cases h <;> rfl

end Thread

/-! ## Calls made one after another -/

/-- What a counter answers to a call that is made all at once. -/
inductive Serves : SlotCounter → CallResult → SlotCounter → Prop
  | grant {k k' : SlotCounter} (taken : k.reserve? = some k') : Serves k (.granted k'.used) k'
  | refuse {k : SlotCounter} (full : k.reserve? = none) : Serves k (.refused k.used) k
  | giveBack {k : SlotCounter} (inUse : 0 < k.used) : Serves k (.released k.release.used) k.release
  | saturate {k : SlotCounter} (free : k.used = 0) : Serves k .saturated k.release
  | reset {k : SlotCounter} : Serves k .cleared k.reset

inductive ServesAll : SlotCounter → List CallResult → SlotCounter → Prop
  | nil {k : SlotCounter} : ServesAll k [] k
  | cons {k k' k'' : SlotCounter} {r : CallResult} {history : List CallResult}
      (first : Serves k r k') (later : ServesAll k' history k'') : ServesAll k (r :: history) k''

theorem ServesAll.append {k k' k'' : SlotCounter} {history more : List CallResult}
    (h : ServesAll k history k') (later : ServesAll k' more k'') :
    ServesAll k (history ++ more) k'' := by
  induction h with
  | nil => exact later
  | cons first _ ih => exact .cons first (ih later)

/-- The counter that a machine's limit and count stand for. -/
structure Shows (k : SlotCounter) (limit n : Nat) : Prop where
  limit : k.limit = limit
  used : k.used = n

/-- A silent step leaves the counter as it is, and a step that answers is one call to it. -/
theorem Thread.Moved.serves {limit n n' : Nat} {t t' : Thread} {r : Option CallResult}
    (h : t.Moved limit n r n' t') {k : SlotCounter} (shows : Shows k limit n) :
    ∃ k', Shows k' limit n' ∧ ServesAll k r.toList k' := by
  obtain ⟨rfl, used⟩ := shows
  have bound := k.used_le
  cases h with
  | rest | look asks room | retry asks changed => exact ⟨k, ⟨rfl, used⟩, .nil⟩
  | refuse asks full =>
      subst used
      have none := SlotCounter.reserve?_eq_none_iff.2 (Nat.le_antisymm bound full)
      exact ⟨k, ⟨rfl, rfl⟩, .cons (.refuse none) .nil⟩
  | reserve room | borrow room =>
      subst used
      have taken : k.reserve? = some ⟨k.limit, k.used + 1, room⟩ :=
        SlotCounter.reserve?_eq_some_iff.2 ⟨room, rfl, rfl⟩
      exact ⟨⟨k.limit, k.used + 1, room⟩, ⟨rfl, rfl⟩, .cons (.grant taken) .nil⟩
  | giveBack gives =>
      have left : k.release.used = n' := by rw [SlotCounter.used_release, used, Nat.add_sub_cancel]
      subst left
      exact ⟨k.release, ⟨rfl, rfl⟩, .cons (.giveBack (used ▸ Nat.succ_pos _)) .nil⟩
  | saturate gives =>
      have left : k.release.used = 0 := by rw [SlotCounter.used_release, used]
      exact ⟨k.release, ⟨rfl, left⟩, .cons (.saturate used) .nil⟩
  | reset => exact ⟨k.reset, ⟨rfl, rfl⟩, .cons .reset .nil⟩

/-! ## Steps and runs of a machine -/

namespace Machine

variable {s s' : Machine} {i : Nat} {r : Option CallResult}

def Sound (s : Machine) : Prop := ∀ t ∈ s.threads, t.Sound s.limit

/-- What a step does: nothing if there is no thread at that place, else what the thread does. -/
inductive Moved (s : Machine) (i : Nat) : Option CallResult → Machine → Prop
  | absent (missing : s.threads[i]? = none) : Moved s i none s
  | thread {t t' : Thread} {n : Nat} {r : Option CallResult} (here : s.threads[i]? = some t)
      (moved : t.Moved s.limit s.count r n t') :
      Moved s i r { s with count := n, threads := s.threads.set i t' }

theorem Sound.moved (h : s.Sound) (i : Nat) : ∃ r, s.Moved i r (s.step i) := by
  rw [step]
  split
  · next missing => exact ⟨none, .absent missing⟩
  · next t here =>
      obtain ⟨r, moved⟩ := (h t (List.mem_of_getElem? here)).moved s.count
      exact ⟨r, .thread here moved⟩

theorem Moved.limit_eq (h : s.Moved i r s') : s'.limit = s.limit := by cases h <;> rfl

theorem Moved.sound (h : s.Sound) (moved : s.Moved i r s') : s'.Sound := by
  cases moved with
  | absent missing => exact h
  | thread here moved =>
      intro t there
      rcases List.mem_or_eq_of_mem_set there with before | rfl
      · exact h t before
      · exact moved.sound

theorem sound_start (limit : Nat) (calls : List (List CounterCall)) :
    (start limit calls).Sound := by
  intro t there
  obtain ⟨l, -, rfl⟩ := List.mem_map.1 there
  exact .ready

theorem run_append (s : Machine) (before after : List Nat) :
    s.run (before ++ after) = (s.run before).run after := List.foldl_append

/-- What each step keeps a run keeps. -/
theorem Sound.run_induction {P : Machine → Prop} (h : s.Sound) (base : P s)
    (kept : ∀ {s₁ s₂ i r}, P s₁ → Moved s₁ i r s₂ → P s₂) (schedule : List Nat) :
    P (s.run schedule) := by
  induction schedule generalizing s with
  | nil => exact base
  | cons i schedule ih =>
      obtain ⟨r, moved⟩ := h.moved i
      exact ih (moved.sound h) (kept base moved)

theorem Sound.run (h : s.Sound) (schedule : List Nat) : (s.run schedule).Sound :=
  h.run_induction h (fun sound moved => moved.sound sound) schedule

theorem Sound.limit_run (h : s.Sound) (schedule : List Nat) : (s.run schedule).limit = s.limit :=
  h.run_induction (P := fun s' => s'.limit = s.limit) rfl
    (fun same moved => moved.limit_eq.trans same) schedule

/-- A run with the answers that it gives, in the order of the steps that give them. -/
inductive Ran (s : Machine) : List Nat → List (Nat × CallResult) → Machine → Prop
  | nil : Ran s [] [] s
  | snoc {schedule : List Nat} {history : List (Nat × CallResult)} {i : Nat}
      {r : Option CallResult} {s' s'' : Machine} (earlier : Ran s schedule history s')
      (moved : s'.Moved i r s'') :
      Ran s (schedule ++ [i]) (history ++ r.toList.map (i, ·)) s''

/-- Every schedule gives a run. -/
theorem Sound.ran (h : s.Sound) (schedule : List Nat) :
    ∃ history, s.Ran schedule history (s.run schedule) := by
  induction schedule using List.reverseRecOn with
  | nil => exact ⟨[], .nil⟩
  | append_singleton schedule i ih =>
      obtain ⟨history, ran⟩ := ih
      obtain ⟨r, moved⟩ := (h.run schedule).moved i
      rw [run_append]
      exact ⟨_, .snoc ran moved⟩

/-! ## The answers of a run -/

/-- Whatever the threads do, the count is that of a counter to which the calls were made one after
another, and the answers are those of that counter. -/
theorem Ran.serves {schedule : List Nat} {history : List (Nat × CallResult)}
    (ran : s.Ran schedule history s') {k : SlotCounter} (shows : Shows k s.limit s.count) :
    ∃ k', Shows k' s'.limit s'.count ∧ ServesAll k (history.map Prod.snd) k' := by
  induction ran with
  | nil => exact ⟨k, shows, .nil⟩
  | snoc earlier moved ih =>
      obtain ⟨k', shows', served⟩ := ih
      cases moved with
      | absent missing => exact ⟨k', shows', by simpa using served⟩
      | thread here moved =>
          obtain ⟨k'', shows'', last⟩ := moved.serves shows'
          exact ⟨k'', shows'', by simpa [Function.comp_def] using served.append last⟩

/-- After a step a thread is as it was, or the step was its own. -/
theorem Moved.before (moved : s.Moved i r s') {j : Nat} {t' : Thread}
    (there : s'.threads[j]? = some t') : ∃ t, s.threads[j]? = some t ∧
      (i = j ∧ t.Moved s.limit s.count r s'.count t' ∨ i ≠ j ∧ t' = t) := by
  cases moved with
  | absent missing =>
      refine ⟨t', there, Or.inr ⟨?_, rfl⟩⟩
      rintro rfl
      cases missing.symm.trans there
  | @thread t t'' n r here moved =>
      by_cases same : i = j
      · subst same
        rw [List.getElem?_set_self (List.getElem?_eq_some_iff.1 here).1] at there
        cases there
        exact ⟨t, here, Or.inl ⟨rfl, moved⟩⟩
      · rw [List.getElem?_set_ne same] at there
        exact ⟨t', there, Or.inr ⟨same, rfl⟩⟩

/-- Each thread has its own answers, in the order in which they were given. -/
theorem Ran.own {schedule : List Nat} {history : List (Nat × CallResult)}
    (ran : s.Ran schedule history s') (fresh : ∀ t ∈ s.threads, t.results = []) {j : Nat}
    {t : Thread} (there : s'.threads[j]? = some t) :
    t.results.reverse = (history.filter (·.1 == j)).map Prod.snd := by
  induction ran generalizing t with
  | nil => rw [fresh t (List.mem_of_getElem? there)]; rfl
  | @snoc schedule history i r s' s'' earlier moved ih =>
      obtain ⟨t₀, here, ⟨rfl, moved⟩ | ⟨other, rfl⟩⟩ := moved.before there
      · rw [moved.results, List.reverse_append, ih here, List.filter_append, List.map_append]
        cases r <;> simp
      · rw [ih here, List.filter_append, List.map_append]
        cases r <;> simp [other]

/-- The count never goes past the limit. -/
theorem Sound.count_le (h : s.Sound) (bound : s.count ≤ s.limit) (schedule : List Nat) :
    (s.run schedule).count ≤ s.limit := by
  obtain ⟨history, ran⟩ := h.ran schedule
  obtain ⟨k, shows, -⟩ := ran.serves (k := ⟨s.limit, s.count, bound⟩) ⟨rfl, rfl⟩
  rw [← shows.used, ← h.limit_run schedule, ← shows.limit]
  exact k.used_le

/-- After the steps `before`, the next step of the thread at place `i` answers `r`, as its answer
number `j`. The thread is `t` at that moment, and `t'` after the step. -/
structure Gives (s : Machine) (before : List Nat) (i j : Nat) (r : CallResult) (t t' : Thread) :
    Prop where
  here : (s.run before).threads[i]? = some t
  number : t.results.length = j
  moved : t.Moved s.limit (s.run before).count (some r) (s.run (before ++ [i])).count t'
  next : (s.run (before ++ [i])).threads[i]? = some t'

/-- Every answer that a thread has was given by a step of its own. -/
theorem Sound.exists_gives (h : s.Sound) (fresh : ∀ t ∈ s.threads, t.results = [])
    {schedule : List Nat} {j : Nat} {t : Thread} {r : CallResult}
    (here : (s.run schedule).threads[i]? = some t) (there : t.results.reverse[j]? = some r) :
    ∃ before after t₀ t₁, schedule = before ++ i :: after ∧ s.Gives before i j r t₀ t₁ := by
  -- on the last step, which either has given the answer or has found it there
  induction schedule using List.reverseRecOn generalizing t with
  | nil =>
      rw [fresh t (List.mem_of_getElem? here)] at there
      cases there
  | append_singleton schedule k ih =>
      have last : s.run (schedule ++ [k]) = (s.run schedule).step k := run_append s schedule [k]
      obtain ⟨r', moved⟩ := (h.run schedule).moved k
      rw [← last] at moved
      obtain ⟨t₀, here₀, ⟨rfl, moved⟩ | ⟨other, rfl⟩⟩ := moved.before here
      · rw [h.limit_run] at moved
        rw [moved.results, List.reverse_append] at there
        by_cases earlier : j < t₀.results.reverse.length
        · rw [List.getElem?_append_left earlier] at there
          obtain ⟨before, after, t₁, t₂, rfl, gives⟩ := ih here₀ there
          exact ⟨before, after ++ [k], t₁, t₂, by simp, gives⟩
        · rw [List.getElem?_append_right (Nat.le_of_not_lt earlier), List.length_reverse] at there
          rw [List.length_reverse] at earlier
          cases r' with
          | none => cases there
          | some r' =>
              obtain ⟨first, rfl⟩ : j - t₀.results.length = 0 ∧ r' = r := by
                simpa [List.getElem?_singleton] using there
              exact ⟨schedule, [], t₀, t, rfl, here₀, by omega, moved, here⟩
      · obtain ⟨before, after, t₁, t₂, rfl, gives⟩ := ih here₀ there
        exact ⟨before, after ++ [k], t₁, t₂, by simp, gives⟩

end Machine

end ConnectionPool.Contention
