import ConnectionPool.Total

/-!
# Slot counters under contention

Several threads use one counter without a lock. A reservation reads the count and then writes the
next number only if the count is still the one it read, else it reads again; a release and a reset
are one step each. This module has the steps of single threads and of a whole system, whose
interleaving is given by a schedule: the list of the threads that make the next steps. `finish` is
one such schedule that lets every thread finish.
-/

set_option autoImplicit false

namespace ConnectionPool.Contention

/-- A call that a thread makes. -/
inductive CounterCall where
  | reserve
  | release
  | reset
  /-- Reserve a slot and, if it was granted, release it. -/
  | borrow
deriving DecidableEq, Repr

/-- How far a thread is with the first of its calls. -/
inductive Phase where
  | ready
  /-- The reservation has read the count and found it below the limit. -/
  | seen (count : Nat)
  /-- The slot that was borrowed is to be released. -/
  | holding
deriving DecidableEq, Repr

/-- What a call, or a part of it, came to. -/
inductive CallResult where
  | granted (count : Nat)
  | refused (count : Nat)
  | released (left : Nat)
  | saturated
  | cleared
deriving DecidableEq, Repr

structure Thread where
  calls : List CounterCall
  phase : Phase := .ready
  /-- The results so far, latest first. -/
  results : List CallResult := []
deriving DecidableEq, Repr

/-- A counter and the threads that use it. -/
structure Machine where
  limit : Nat
  count : Nat := 0
  threads : List Thread
deriving DecidableEq, Repr

namespace Thread

/-- The first call is over. -/
def done (t : Thread) (r : CallResult) : Thread :=
  ⟨t.calls.tail, .ready, r :: t.results⟩

/-- A reservation reads the count: it is refused at the limit. -/
def look (t : Thread) (limit count : Nat) : Thread :=
  if limit < count + 1 then t.done (.refused count) else { t with phase := .seen count }

/-- A reservation writes the next number, provided the count is the one it has seen. -/
def takeSlot (t : Thread) (seen count : Nat) (last : Bool) : Nat × Thread :=
  if count = seen then
    let t := if last then t.done (.granted (seen + 1))
      else { t with phase := .holding, results := .granted (seen + 1) :: t.results }
    (seen + 1, t)
  else (count, { t with phase := .ready })

/-- A release takes one off the count, or leaves it at zero. -/
def giveBack (t : Thread) (count : Nat) : Nat × Thread :=
  match count with
  | 0 => (0, t.done .saturated)
  | n + 1 => (n, t.done (.released n))

/-- One step of a thread: the count afterwards and the thread. -/
def step (t : Thread) (limit count : Nat) : Nat × Thread :=
  match t.calls, t.phase with
  | [], _ => (count, t)
  | .reserve :: _, .seen n => t.takeSlot n count true
  | .reserve :: _, _ => (count, t.look limit count)
  | .borrow :: _, .ready => (count, t.look limit count)
  | .borrow :: _, .seen n => t.takeSlot n count false
  | .borrow :: _, .holding => t.giveBack count
  | .release :: _, _ => t.giveBack count
  | .reset :: _, _ => (0, t.done .cleared)

/-- The number of reservations that were granted to the thread. -/
def granted (t : Thread) : Nat :=
  t.results.countP fun
    | .granted _ => true
    | _ => false

end Thread

namespace Machine

/-- The thread at that place makes one step. -/
def step (s : Machine) (i : Nat) : Machine :=
  match s.threads[i]? with
  | none => s
  | some t =>
      let (count, t) := t.step s.limit s.count
      { s with count := count, threads := s.threads.set i t }

/-- Steps in the order of a schedule. -/
def run (s : Machine) (schedule : List Nat) : Machine := schedule.foldl step s

/-- Threads that have not made a call yet. -/
def start (limit : Nat) (calls : List (List CounterCall)) : Machine :=
  { limit, threads := calls.map fun l => { calls := l } }

/-- The number of calls that are not over. -/
def remaining (s : Machine) : Nat := total (·.calls.length) s.threads

/-- Every thread in turn, again and again. In four such rounds at least one call is over: if none of
the threads holds a slot or finds the count unchanged, all of them look at it anew. -/
def rounds : Nat → Machine → Machine
  | 0, s => s
  | n + 1, s => if s.remaining = 0 then s else rounds n (s.run (List.range s.threads.length))

/-- Let every thread finish. -/
def finish (s : Machine) : Machine := s.rounds (4 * s.remaining)

/-- The number of reservations that were granted. -/
def granted (s : Machine) : Nat := total (·.granted) s.threads

end Machine

end ConnectionPool.Contention
