import ConnectionPool.Proofs.Client.Uninterrupted
import ConnectionPool.Proofs.Exchange.Turnover

/-!
# Taking requests back

An abort takes the earliest exchange for a request off the queue and fails it, or finds none and
does nothing (`Client.Withdraws`). Whatever the outside does, each abort that found its request has
an exchange for that request fail, so aborts and hand-overs of a request never use up more exchanges
than were accepted for it. Main statement: `Client.Reached.aborts_exactly`.
-/

set_option autoImplicit false

namespace ConnectionPool

/-- An abort of this request was answered by yes. -/
def Event.withdraws (r : RequestId) : Event → Bool
  | .invoked (.abort _ r' _) (.found true) => r' == r
  | _ => false

/-- The number of aborts of a request that found it. -/
def withdrawals (r : RequestId) (history : List Event) : Nat := history.countP (Event.withdraws r)

theorem withdrawals_other {r : RequestId} {ev : Event} (other : ev.withdraws r = false)
    (history : List Event) : withdrawals r (ev :: history) = withdrawals r history :=
  List.countP_cons_of_neg (Bool.eq_false_iff.1 other)

theorem failing_cons (f : Frame) (fs : List Frame) :
    failing (f :: fs) = f.failing?.toList ++ failing fs := by
  simp only [failing, List.filterMap_cons]
  cases f.failing? <;> rfl

theorem failed_cons (ev : Event) (events : List Event) :
    failed (ev :: events) = ev.failed?.toList ++ failed events := by
  simp only [failed, List.filterMap_cons]
  cases ev.failed? <;> rfl

namespace Client

variable {allowed : Client → Operation → Prop} {w w' : Client} {d : DestinationId}
  {D : Destination} {r : RequestId} {reason : String}

/-! ## What an abort does -/

theorem start_abort_missed (here : w.destinations[d]? = some D)
    (nothing : D.queue.removeFirst (·.isFor r) = none) (reason : String) :
    w.start (.abort d r reason) = (.found false, w) := by
  rw [start, here]
  simp only [nothing]

/-- What aborting the request `r` at `d` does, where no callback calls back: `answers` whether an
exchange for the request waits; if so it takes the earliest of them off the queue and fails it
(`found`), and if not nothing changes and nobody is called (`missed`). -/
structure Withdraws (w : Client) (d : DestinationId) (D : Destination) (r : RequestId)
    (reason : String) : Prop where
  answers : (w.invoke (.abort d r reason)).1 = .found (D.queue.items.any (·.isFor r))
  found : ∀ before e after, D.queue.items = before ++ e :: after →
    (∀ b ∈ before, b.isFor r = false) → e.isFor r = true →
    ∃ queue : BoundedQueue Exchange, queue.items = before ++ after ∧
      queue.capacity = D.queue.capacity ∧
      (w.invoke (.abort d r reason)).2.settle = { w with
        destinations := w.destinations.set d { D with queue := queue }
        metrics.requestsAborted := w.metrics.requestsAborted + 1
        history := .returned (.abort d r reason) :: ((abortEvents d reason e).reverse ++
          .invoked (.abort d r reason) (.found true) :: w.history) }
  missed : (∀ e ∈ D.queue.items, e.isFor r = false) →
    (w.invoke (.abort d r reason)).2.settle = { w with
      history := .returned (.abort d r reason) ::
        .invoked (.abort d r reason) (.found false) :: w.history }

theorem withdraws_of_here (waits : w.awaits = true) (here : w.destinations[d]? = some D)
    (r : RequestId) (reason : String) : w.Withdraws d D r reason := by
  have begun : (w.push [.finish (.abort d r reason)]).destinations[d]? = some D := here
  have nowhere (none : ∀ e ∈ D.queue.items, e.isFor r = false) : w.invoke (.abort d r reason) =
      (.found false, (w.push [.finish (.abort d r reason)]).record
        (.invoked (.abort d r reason) (.found false))) := by
    have nothing := BoundedQueue.removeFirst_eq_none_iff.2
      (BoundedQueue.extract_eq_none_iff.2 none)
    exact invoke_of_start (start_abort_missed begun nothing reason)
  constructor
  · cases found : D.queue.removeFirst (·.isFor r) with
    | none =>
        have none := BoundedQueue.extract_eq_none_iff.1
          (BoundedQueue.removeFirst_eq_none_iff.1 found)
        rw [nowhere none, List.any_eq_false.2 fun e there => by simp [none e there]]
    | some result =>
        obtain ⟨before, after, split, -, own, -⟩ := BoundedQueue.split_of_removeFirst found
        have there : result.1 ∈ D.queue.items :=
          split ▸ List.mem_append_right _ List.mem_cons_self
        rw [invoke_of_start (start_abort begun found reason), List.any_eq_true.2 ⟨_, there, own⟩]
  · intro before e after split earlier own
    obtain ⟨queue, found, left, capacity⟩ := BoundedQueue.removeFirst_of_split split earlier own
    refine ⟨queue, left, capacity, ?_⟩
    have begun : w.invoke (.abort d r reason) = (.found true, { w with
        destinations := w.destinations.set d { D with queue := queue }
        agenda := .fail d e (.aborted reason) :: .finish (.abort d r reason) :: w.agenda
        history := .invoked (.abort d r reason) (.found true) :: w.history }) :=
      invoke_of_start (start_abort (w := w.push [.finish (.abort d r reason)]) here found reason)
    rw [begun]
    exact ((leadsTo_aborted rfl).trans (leadsTo_finish rfl)).settle waits
  · intro none
    rw [nowhere none]
    have finished := leadsTo_finish (w := (w.push [.finish (.abort d r reason)]).record
      (.invoked (.abort d r reason) (.found false))) rfl
    exact finished.settle waits

/-! ## Aborts along a run -/

/-- The number of exchanges for a request that are about to fail or have failed. -/
def recalls (r : RequestId) (w : Client) : Nat :=
  countFor (· == r) (failing w.agenda) + countFor (· == r) (failed w.history)

/-- What is put on top of the agenda takes nothing from those that are about to fail. -/
theorem countFor_failing_le (q : RequestId → Bool) {new : List Frame}
    (agenda : w'.agenda = new ++ w.agenda) :
    countFor q (failing w.agenda) ≤ countFor q (failing w'.agenda) := by
  rw [agenda, failing, failing, List.filterMap_append, countFor_append]
  exact Nat.le_add_left _ _

/-- A turn notes one event at most, which is no start of an operation, and is the failure of an
exchange just where the frame was to fail that exchange. -/
theorem Turned.noted {f : Frame} (turn : Turned f w w') (named : (w.push [f]).Scoped) :
    w'.history = w.history ∧ f.failing? = none ∨
    ∃ ev, w'.history = ev :: w.history ∧ ev.failed? = f.failing? ∧
      ∀ r, ev.withdraws r = false := by
  cases turn with
  | call c | finish op | assign here head unmarked | assignDeferred here head unmarked =>
      exact Or.inr ⟨_, rfl, rfl, fun _ => rfl⟩
  | fail d e cause =>
      refine Or.inr ⟨.failed d e cause, ?_, rfl, fun _ => rfl⟩
      cases cause <;> rfl
  | adrift names missing =>
      obtain ⟨D, here⟩ := named.exists_of_frame names
      cases missing.symm.trans here
  | parkIdle here empty room runs | parkStopped here empty room stopped =>
      exact Or.inl ⟨history_glance w, rfl⟩
  | _ => exact Or.inl ⟨rfl, rfl⟩

/-- A turn takes nothing from those that are about to fail or have failed. -/
theorem Turned.recalls_le {f : Frame} (turn : Turned f w w') (named : (w.push [f]).Scoped) :
    (w.push [f]).recalls r ≤ w'.recalls r ∧
      withdrawals r w'.history = withdrawals r w.history := by
  obtain ⟨new, agenda⟩ := turn.agenda
  have kept := countFor_failing_le (· == r) agenda
  have before : (w.push [f]).recalls r = countFor (· == r) f.failing?.toList +
      countFor (· == r) (failing w.agenda) + countFor (· == r) (failed w.history) := by
    rw [← countFor_append, ← failing_cons]
    rfl
  rw [before, recalls]
  rcases turn.noted named with ⟨same, silent⟩ | ⟨ev, noted, failure, other⟩
  · rw [same, silent]
    refine ⟨?_, rfl⟩
    show 0 + _ + _ ≤ _
    omega
  · -- the exchange moves from those about to fail to those that have failed
    rw [noted, failed_cons, failure, countFor_append, withdrawals_other (other r)]
    refine ⟨?_, rfl⟩
    omega

/-- An operation that is noted as an abort which found its request is about to fail an exchange for
it. -/
theorem Started.fails_of_withdraws {op : Operation} {reply : Reply}
    (start : Started op w reply w') (noted : Event.withdraws r (.invoked op reply) = true) :
    ∃ d e reason, w'.agenda = .fail d e (.aborted reason) :: w.agenda ∧ e.isFor r = true := by
  cases start with
  | @abort _ d D r' reason e queue here taken =>
      obtain ⟨-, -, -, -, own, -⟩ := BoundedQueue.split_of_removeFirst taken
      rw [beq_iff_eq.1 noted] at own
      exact ⟨d, e, reason, rfl, own⟩
  | ignored op => cases op <;> cases noted
  | _ => cases noted

/-- An abort that finds its request adds to those that are about to fail. -/
theorem Started.recalls_le {op : Operation} {reply : Reply} (start : Started op w reply w') :
    withdrawals r (.invoked op reply :: w'.history) + w.recalls r ≤
      withdrawals r w.history + w'.recalls r := by
  have noted : failed w'.history = failed w.history ∧
      withdrawals r w'.history = withdrawals r w.history := by
    rcases start.history with same | ⟨d, error, spared⟩ | ⟨d, e, queued, -⟩
    · rw [same]
      exact ⟨rfl, rfl⟩
    · rw [spared]
      exact ⟨rfl, withdrawals_other rfl _⟩
    · rw [queued]
      exact ⟨rfl, withdrawals_other rfl _⟩
  cases withdraws : Event.withdraws r (.invoked op reply) with
  | false =>
      obtain ⟨new, agenda, -⟩ := start.agenda
      have kept := countFor_failing_le (· == r) agenda
      rw [withdrawals_other withdraws, noted.2, recalls, recalls, noted.1]
      omega
  | true =>
      obtain ⟨d, e, reason, agenda, own⟩ := start.fails_of_withdraws withdraws
      have one : withdrawals r (.invoked op reply :: w'.history) = withdrawals r w'.history + 1 :=
        List.countP_cons_of_pos withdraws
      have more : countFor (· == r) (failing w'.agenda) =
          1 + countFor (· == r) (failing w.agenda) := by
        rw [agenda]
        show countFor (· == r) (e :: failing w.agenda) = _
        rw [countFor_cons, countFor, List.countP_singleton]
        exact congrArg (· + _) (if_pos own)
      rw [one, noted.2, recalls, recalls, noted.1, more]
      omega

/-- In every client that is reached, each abort that found its request is matched by an exchange for
that request that is about to fail or has failed. -/
theorem Reached.withdrawals_le (run : Reached allowed w) (r : RequestId) :
    withdrawals r w.history ≤ w.recalls r := by
  apply run.invariant (P := fun w => withdrawals r w.history ≤ w.recalls r)
  · intro w new
    cases new <;> exact Nat.le_refl 0
  · intro f w w' past h turn
    obtain ⟨grown, noted⟩ := turn.recalls_le past.scoped (r := r)
    rw [noted]
    exact h.trans grown
  · intro c w h
    exact h
  · intro op reply w w' _ _ _ h start
    have counted := start.recalls_le (r := r)
    change _ + w.recalls r ≤ withdrawals r w.history + _ at counted
    change withdrawals r (.invoked op reply :: w'.history) ≤ w'.recalls r
    omega

/-- In every client that is reached, no request was handed over more often than connections took
it. -/
theorem Reached.handovers_le (run : Reached allowed w) (r : RequestId) :
    (handovers (made w.history)).countP (·.2.isFor r) ≤ countFor (· == r) (taken w.history) := by
  have handed : (assignments w.history).countP (·.2.isFor r) = _ :=
    run.handed.countP_eq (·.2.isFor r)
  have same : countFor (· == r) (taken w.history) =
      (assignments w.history).countP (·.2.isFor r) := by
    rw [taken_eq_map, countFor, List.countP_map]
    rfl
  rw [same, handed, List.countP_append]
  exact Nat.le_add_right _ _

/-- An abort does what `Withdraws` says. Along every run, the aborts of a request that found it and
its hand-overs together are at most the sends of it that were answered by `done`. -/
theorem Reached.aborts_exactly (run : Reached Anything w) :
    (∀ d D r reason, w.awaits = true → w.destinations[d]? = some D → w.Withdraws d D r reason) ∧
      ∀ r, withdrawals r w.history + (handovers (made w.history)).countP (·.2.isFor r) ≤
        (sends w.history).countP (·.1.id == r) := by
  refine ⟨fun d D r reason waits here => withdraws_of_here waits here r reason, fun r => ?_⟩
  have aborted := run.withdrawals_le r
  have handed := run.handovers_le r
  have sent : (sends w.history).countP (·.1.id == r) =
      countFor (· == r) (accepted w.history) := by
    rw [run.sends_eq, accepted_eq_map, countFor, List.countP_map, List.countP_map]
    rfl
  rw [sent, run.turnover (· == r), whereabouts]
  rw [recalls] at aborted
  omega

/-- Two exchanges for the second of three requests were accepted at the narrow client. One of them
was given up, the other was handed over, and the third request waits. -/
def narrowWithdrawn : Client :=
  let w := (narrow.invoke (.send 0 (narrowRequest 0) 0)).2.settle
  let w := (w.invoke (.send 0 (narrowRequest 1) 1)).2.settle
  let w := (w.invoke (.send 0 (narrowRequest 1) 2)).2.settle
  let w := (w.invoke (.send 0 (narrowRequest 2) 3)).2.settle
  let w := (w.invoke (.settle 0 (.connected 7))).2.settle
  let w := (w.invoke (.abort 0 1 "gone")).2.settle
  (w.invoke (.release 0 7)).2.settle

/-- There the two exchanges are used up, so that a further abort finds nothing; the third request
looks like the second one and is found. -/
theorem narrowWithdrawn_withdraws : ∃ D, narrowWithdrawn.awaits = true ∧
    narrowWithdrawn.destinations[0]? = some D ∧ D.queue.items = [⟨3, narrowRequest 2, 3⟩] ∧
    (narrowWithdrawn.Withdraws 0 D 1 "again" ∧ narrowWithdrawn.Withdraws 0 D 2 "late") ∧
    withdrawals 1 narrowWithdrawn.history = 1 ∧
    (handovers (made narrowWithdrawn.history)).countP (·.2.isFor 1) = 1 ∧
    (sends narrowWithdrawn.history).countP (·.1.id == 1) = 2 ∧
    ∀ r, withdrawals r narrowWithdrawn.history +
      (handovers (made narrowWithdrawn.history)).countP (·.2.isFor r) ≤
        (sends narrowWithdrawn.history).countP (·.1.id == r) := by
  have new : Reached Anything narrow := .initial (.lone _ _ _ _)
  have first := (new.invoke (.send 0 (narrowRequest 0) 0) (by decide) trivial).settle
  have second := (first.invoke (.send 0 (narrowRequest 1) 1) (by decide) trivial).settle
  have again := (second.invoke (.send 0 (narrowRequest 1) 2) (by decide) trivial).settle
  have third := (again.invoke (.send 0 (narrowRequest 2) 3) (by decide) trivial).settle
  have connected := (third.invoke (.settle 0 (.connected 7)) (by decide) trivial).settle
  have aborted := (connected.invoke (.abort 0 1 "gone") (by decide) trivial).settle
  have run : Reached Anything narrowWithdrawn :=
    (aborted.invoke (.release 0 7) (by decide) trivial).settle
  have here : narrowWithdrawn.destinations[0]? =
      some (narrowWithdrawn.destinations.get ⟨0, by decide⟩) := List.getElem?_eq_getElem _
  have waits : narrowWithdrawn.awaits = true := by decide
  obtain ⟨aborts, bound⟩ := run.aborts_exactly
  exact ⟨_, waits, here, by decide,
    ⟨aborts 0 _ 1 "again" waits here, aborts 0 _ 2 "late" waits here⟩, by decide, by decide,
    by decide, bound⟩

end Client

end ConnectionPool
