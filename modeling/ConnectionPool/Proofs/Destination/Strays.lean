import ConnectionPool.Proofs.Client.Attempts
import ConnectionPool.Proofs.Client.Driven
import ConnectionPool.Proofs.Client.Unrolled

/-!
# Connections that a pool does not hold

A connection that is in neither pool of a destination may still be removed or released there: it was
removed before, taken out by a close, or made for a caller of its own. Main statement: while nothing
waits, to remove such a connection gives one slot back and leaves the pools alone, and so does to
release it at a client that has stopped; at a client that runs to release it changes nothing; and a
connection that was made for a caller never touches the pool
(`Client.givesBack`). So a slot that another connection holds can be given away
(`Client.narrowWorking_loses`).
-/

set_option autoImplicit false

namespace ConnectionPool

namespace BoundedQueue

variable {q : BoundedQueue ConnectionId} {c : ConnectionId}

/-- To drop what is not there changes nothing. -/
theorem discard_of_not_mem (absent : c ∉ q.items) : q.discard (· == c) = q := by
  rcases q.items_discard (· == c) with ⟨-, same⟩ | ⟨before, b, after, split, own, -⟩
  · exact same
  · rw [beq_iff_eq.1 own] at split
    exact absurd (split ▸ List.mem_append_right _ List.mem_cons_self) absent

/-- What is there once is not there once it was dropped. -/
theorem not_mem_discard (once : q.items.count c ≤ 1) : c ∉ (q.discard (· == c)).items := by
  rw [← List.count_eq_zero]
  rcases count_discard q c c with ⟨none, same⟩ | ⟨counted, -⟩
  · exact same.symm ▸ none
  · rw [List.count_singleton_self] at counted
    omega

end BoundedQueue

namespace Destination

variable {D : Destination} {c : ConnectionId}

/-- The connection is in neither pool. -/
structure Strays (D : Destination) (c : ConnectionId) : Prop where
  idle : c ∉ D.idle.items
  active : c ∉ D.active.items

/-- To forget a connection that is in neither pool gives a slot back all the same. -/
theorem forget_stray (strays : D.Strays c) : D.forget c = { D with slots := D.slots.release } := by
  rw [forget, BoundedQueue.discard_of_not_mem strays.idle,
    BoundedQueue.discard_of_not_mem strays.active]

/-- A connection that each pool holds once at most is in neither once it was forgotten. -/
theorem strays_forget (idle : D.idle.items.count c ≤ 1) (active : D.active.items.count c ≤ 1) :
    (D.forget c).Strays c :=
  ⟨BoundedQueue.not_mem_discard idle, BoundedQueue.not_mem_discard active⟩

end Destination

/-- What an attempt is for. -/
def Attempt.purpose (a : Attempt) : DestinationId × Bool := (a.destination, a.pooled)

/-- What an attempt is for does not change, and attempts are not forgotten. -/
theorem Furthered.purposes {attempts attempts' : List Attempt}
    (furthered : Furthered attempts attempts') :
    attempts.map Attempt.purpose <+: attempts'.map Attempt.purpose := by
  cases furthered with
  | stay => exact List.prefix_refl _
  | begin _ unsettled =>
      rw [List.map_append]
      exact List.prefix_append _ _
  | conclude before after unsettled o =>
      rw [List.map_append, List.map_append]
      exact List.prefix_refl _

namespace Client

variable {allowed : Client → Operation → Prop} {w w' v : Client} {past : List Client}
  {d : DestinationId} {D : Destination} {c : ConnectionId}

/-- A connection is removed in one turn where nothing waits. -/
theorem turn_remove {rest : List Frame} (top : w.agenda = .remove d c :: rest)
    (here : w.destinations[d]? = some D) (empty : D.queue.items = []) :
    w.turn = { w with
      destinations := w.destinations.set d (D.forget c)
      metrics.connectionsRemoved := w.metrics.connectionsRemoved + 1
      agenda := rest } := by
  exact turn_eq top rfl here (.removeLast here empty)

theorem Course.purposes (course : Course allowed w past v) :
    w.attempts.map Attempt.purpose <+: v.attempts.map Attempt.purpose := by
  induction course with
  | nil => exact List.prefix_refl _
  | snoc _ next ih => exact ih.trans next.furthered.purposes

/-- The end of an attempt that was made for a caller does not concern its destination. -/
theorem invoke_settle_unpooled {a : AttemptId} {attempt : Attempt}
    (there : w.attempts[a]? = some attempt) (unpooled : attempt.pooled = false) (o : Outcome) :
    (w.invoke (.settle a o)).2.destinations = w.destinations ∧
      (w.invoke (.settle a o)).2.agenda = .finish (.settle a o) :: w.agenda := by
  have start := started_start (.settle a o) (w.push [.finish (.settle a o)])
  generalize started : (w.push [.finish (.settle a o)]).start (.settle a o) = result at start
  obtain ⟨reply, v⟩ := result
  rw [invoke_of_start started]
  cases start with
  | ignored op => exact ⟨rfl, rfl⟩
  | settleUnpooled underWay unsettled _ => exact ⟨rfl, rfl⟩
  | settleConnected underWay _ pooled | settleFailed underWay _ pooled _
  | settleAdrift underWay _ pooled _ | settleAbandoned underWay _ pooled =>
      cases there.symm.trans underWay
      cases unpooled.symm.trans pooled

/-- What removing and releasing `c` at `d` does while nothing waits there, or while the client runs:
`removed`, `stopped` and `running` for a connection that is not pooled, and `again` for any that
each pool holds once at most. `apart` is about connections that are made for a caller. -/
structure GivesBack (w : Client) (d : DestinationId) (D : Destination) (c : ConnectionId) :
    Prop where
  removed : D.queue.items = [] → D.Strays c → (w.invoke (.remove d c)).2.turn = { w with
    destinations := w.destinations.set d { D with slots := D.slots.release }
    metrics.connectionsRemoved := w.metrics.connectionsRemoved + 1
    agenda := .finish (.remove d c) :: w.agenda
    history := .invoked (.remove d c) .done :: w.history }
  stopped : w.seesRunning = false → D.queue.items = [] → D.Strays c →
    (w.invoke (.release d c)).2.turn = { w with
      destinations := w.destinations.set d { D with slots := D.slots.release }
      foreseen := w.foreseen.tail
      metrics.connectionsRemoved := w.metrics.connectionsRemoved + 1
      agenda := .call (.close c) :: .finish (.release d c) :: w.agenda
      history := .invoked (.release d c) .done :: w.history }
  running : w.seesRunning = true → c ∉ D.active.items → (w.invoke (.release d c)).2 = { w with
    foreseen := w.foreseen.tail
    agenda := .finish (.release d c) :: w.agenda
    history := .invoked (.release d c) .done :: w.history }
  again : D.queue.items = [] → D.idle.items.count c ≤ 1 → D.active.items.count c ≤ 1 →
    (w.invoke (.remove d c)).2.turn.turn.destinations = w.destinations.set d (D.forget c) ∧
      ((w.invoke (.remove d c)).2.turn.turn.invoke (.remove d c)).2.turn.destinations =
        w.destinations.set d { D.forget c with slots := D.slots.release.release }
  apart : (w.invoke (.connect d)).2.destinations = w.destinations ∧
    ∀ past v o, Course Anything (w.invoke (.connect d)).2 past v →
      (v.invoke (.settle w.attempts.length o)).2.destinations = v.destinations ∧
        (v.invoke (.settle w.attempts.length o)).2.agenda =
          .finish (.settle w.attempts.length o) :: v.agenda

/-- The only turn of a removal while nothing waits. -/
theorem turn_invoke_remove (here : w.destinations[d]? = some D) (empty : D.queue.items = [])
    (c : ConnectionId) : (w.invoke (.remove d c)).2.turn = { w with
      destinations := w.destinations.set d (D.forget c)
      metrics.connectionsRemoved := w.metrics.connectionsRemoved + 1
      agenda := .finish (.remove d c) :: w.agenda
      history := .invoked (.remove d c) .done :: w.history } := by
  have begun : (w.push [.finish (.remove d c)]).destinations[d]? = some D := here
  rw [invoke_of_start (start_remove begun c)]
  exact turn_remove rfl here empty

theorem destinations_removed (here : w.destinations[d]? = some D) (empty : D.queue.items = [])
    (c : ConnectionId) : (w.invoke (.remove d c)).2.turn.turn.destinations =
      w.destinations.set d (D.forget c) := by
  rw [turn_invoke_remove here empty, turn_finish rfl]

/-- The second removal finds the connection in neither pool, and gives a slot back all the same. -/
theorem destinations_removed_twice (here : w.destinations[d]? = some D)
    (empty : D.queue.items = []) (idle : D.idle.items.count c ≤ 1)
    (active : D.active.items.count c ≤ 1) :
    ((w.invoke (.remove d c)).2.turn.turn.invoke (.remove d c)).2.turn.destinations =
      w.destinations.set d { D.forget c with slots := D.slots.release.release } := by
  have removed := destinations_removed here empty c
  have there : (w.invoke (.remove d c)).2.turn.turn.destinations[d]? = some (D.forget c) := by
    rw [removed]
    exact List.getElem?_set_self (List.getElem?_eq_some_iff.1 here).1
  rw [turn_invoke_remove there empty,
    Destination.forget_stray (Destination.strays_forget idle active), removed]
  exact List.set_set _

/-- A connection is asked for that is for the caller. -/
theorem invoke_connect (here : w.destinations[d]? = some D) :
    (w.invoke (.connect d)).2.destinations = w.destinations ∧
      (w.invoke (.connect d)).2.attempts =
        w.attempts ++ [{ destination := d, pooled := false }] := by
  have begun : (w.push [.finish (.connect d)]).destinations[d]? = some D := here
  rw [invoke_of_start (start_connect begun)]
  exact ⟨rfl, rfl⟩

/-- An attempt that was made for a caller stays one for the caller. -/
theorem Course.attempt_for_caller (course : Course allowed w' past v)
    (made : w'.attempts = w.attempts ++ [{ destination := d, pooled := false }]) :
    ∃ attempt, v.attempts[w.attempts.length]? = some attempt ∧ attempt.pooled = false := by
  obtain ⟨later, kept⟩ := course.purposes
  have purpose : (v.attempts.map Attempt.purpose)[w.attempts.length]? = some (d, false) := by
    rw [← kept, made]
    simp [Attempt.purpose]
  rw [List.getElem?_map] at purpose
  obtain ⟨attempt, there, own⟩ := Option.map_eq_some_iff.1 purpose
  exact ⟨attempt, there, congrArg Prod.snd own⟩

/-- While nothing waits, to remove a connection that is not pooled gives a slot back, whoever holds
it, and so does to release it at a client that has stopped. At a client that runs to release it
changes nothing, and whatever becomes of a connection that is made for a caller, the pool stays as
it is. -/
theorem givesBack (here : w.destinations[d]? = some D) (c : ConnectionId) : w.GivesBack d D c := by
  have begun (op : Operation) : (w.push [.finish op]).destinations[d]? = some D := here
  refine ⟨?_, ?_, ?_, ?_, ?_⟩
  · intro empty strays
    rw [turn_invoke_remove here empty, Destination.forget_stray strays]
  · intro stopped empty strays
    have stopped : (w.push [.finish (.release d c)]).seesRunning = false :=
      (seesRunning_push w _).trans stopped
    rw [invoke_of_start (start_release_stopped (begun _) stopped c), glance_eq,
      ← Destination.forget_stray strays]
    exact turn_remove rfl here empty
  · intro runs absent
    have runs : (w.push [.finish (.release d c)]).seesRunning = true :=
      (seesRunning_push w _).trans runs
    have nothing : D.active.removeFirst (· == c) = none := by
      refine BoundedQueue.removeFirst_eq_none_iff.2 (BoundedQueue.extract_eq_none_iff.2 ?_)
      intro b there
      exact beq_eq_false_iff_ne.2 fun same => absent (same ▸ there)
    rw [invoke_of_start (start_release_stray (begun _) runs nothing), glance_eq]
    rfl
  · intro empty idle active
    exact ⟨destinations_removed here empty c, destinations_removed_twice here empty idle active⟩
  · obtain ⟨same, made⟩ := invoke_connect here
    refine ⟨same, fun past v o course => ?_⟩
    obtain ⟨attempt, there, unpooled⟩ := course.attempt_for_caller made
    exact invoke_settle_unpooled there unpooled o

/-- The narrow client while its connection carries an exchange and no other one waits. -/
def narrowWorking : Client :=
  let w := (narrow.invoke (.send 0 (narrowRequest 0) 0)).2.settle
  (w.invoke (.settle 0 (.connected 7))).2.settle

theorem reached_narrowWorking : Reached Anything narrowWorking := by
  have new : Reached Anything narrow := .initial (.lone _ _ _ _)
  have sent := (new.invoke (.send 0 (narrowRequest 0) 0) (by decide) trivial).settle
  exact (sent.invoke (.settle 0 (.connected 7)) (by decide) trivial).settle

/-- To remove another connection there gives away the slot of the one that is at work. -/
theorem narrowWorking_givesBack : ∃ D, narrowWorking.destinations[0]? = some D ∧
    D.queue.items = [] ∧ D.Strays 9 ∧ D.active.items = [7] ∧ D.slots.used = 1 ∧
    D.slots.release.used = 0 ∧ narrowWorking.GivesBack 0 D 9 := by
  have here : narrowWorking.destinations[0]? =
      some (narrowWorking.destinations.get ⟨0, by decide⟩) := List.getElem?_eq_getElem _
  exact ⟨_, here, by decide, ⟨by decide, by decide⟩, by decide, by decide, by decide,
    givesBack here 9⟩

/-- While nothing waits, to remove a connection that is not pooled leaves the destination as it
is. -/
def StraysTakeNothing (w : Client) : Prop :=
  ∀ d D D' c, w.destinations[d]? = some D → D.queue.items = [] → D.Strays c →
    (w.invoke (.remove d c)).2.settle.destinations[d]? = some D' → D' = D

/-- The slot is given away although its connection stays pooled. -/
theorem narrowWorking_loses : Reached Anything narrowWorking ∧ narrowWorking.agenda = [] ∧
    ¬ narrowWorking.StraysTakeNothing := by
  refine ⟨reached_narrowWorking, by decide, fun nothing => ?_⟩
  have same := nothing 0 _ _ 9 (List.getElem?_eq_getElem (by decide)) (by decide)
    ⟨by decide, by decide⟩ (List.getElem?_eq_getElem (by decide))
  exact absurd (congrArg (·.slots.used) same) (by decide)

end Client

end ConnectionPool
