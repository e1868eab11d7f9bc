import ConnectionPool.Proofs.Client.Bookkeeping
import ConnectionPool.Proofs.Destination.Peace
import ConnectionPool.Proofs.Loopback.Run

/-!
# Clients that are left to themselves

A client is left to itself while nothing is invoked but what the transport reports: attempts that
end with a connection, connections that come back, and tasks. `Undisturbed v w` says what the client
`v` has kept when it has become `w` that way: its destinations with their addresses, slots and
capacities, the registry, what was queued and what was noted. It asks for no connection and gives no
slot back. Main statements: turns keep this (`Client.Undisturbed.turned`), and so do reports
(`Client.Undisturbed.reported`).
-/

set_option autoImplicit false

namespace ConnectionPool

/-- Carrying out the frame neither asks for a connection nor gives a slot back. -/
def Frame.isMild : Frame → Bool
  | .call (.connect _ _) => false
  | .acquire _ => false
  | .remove _ _ => false
  | .closeIdle _ => false
  | .closeActive _ => false
  | .failQueued _ => false
  | _ => true

/-- What a destination keeps whatever its connections do. -/
def Destination.fixture (D : Destination) : Address × SlotCounter × Nat :=
  (D.address, D.slots, D.queue.capacity)

/-- A report asks for no exchange. -/
theorem Operation.send?_of_isReport {op : Operation} (reports : op.isReport = true)
    (reply : Reply) : (Event.invoked op reply).send? = none := by
  cases op with
  | release d c | settle a o | perform k => rfl
  | _ => cases reports

namespace Client

variable {v w w' : Client} {d : DestinationId} {D D' : Destination}

/-- The client `w` is what became of `v` while it was left to itself. -/
structure Undisturbed (v w : Client) : Prop where
  agenda : ∀ f ∈ w.agenda, f.isMild = true
  registry : w.registry = v.registry
  limits : w.limits = v.limits
  fixtures : w.destinations.map (·.fixture) = v.destinations.map (·.fixture)
  queued : w.metrics.requestsQueued = v.metrics.requestsQueued
  sends : ConnectionPool.sends w.history = ConnectionPool.sends v.history
  history : ∀ ev ∈ v.history, ev ∈ w.history

theorem Undisturbed.refl (quiet : v.agenda = []) : Undisturbed v v where
  agenda f there := by
    rw [quiet] at there
    cases there
  registry := rfl
  limits := rfl
  fixtures := rfl
  queued := rfl
  sends := rfl
  history _ there := there

theorem fixtures_putDestination (here : w.destinations[d]? = some D)
    (same : D'.fixture = D.fixture) :
    (w.putDestination d D').destinations.map (·.fixture) = w.destinations.map (·.fixture) :=
  map_set_of_same here same

/-- An exchange that is taken off the queue leaves the queue its capacity. -/
theorem fixture_of_poll {e : Exchange} {queue : BoundedQueue Exchange}
    (head : D.queue.poll = some (e, queue)) (active : BoundedQueue ConnectionId) :
    ({ D with queue := queue, active := active } : Destination).fixture = D.fixture :=
  congrArg (D.address, D.slots, ·) (BoundedQueue.poll_eq_some_iff.1 head).2

theorem failureCalls_mild (w : Client) (e : Exchange) (cause : Cause) :
    ∀ f ∈ (w.failureCalls e cause).map .call, Frame.isMild f = true := by
  intro f told
  obtain ⟨c, own, rfl⟩ := List.mem_map.1 told
  have guarded := isGuarded_of_mem_failureCalls own
  cases c with
  | connect d a => cases guarded
  | _ => rfl

/-! ## Turns -/

/-- While the client runs, carrying out a mild frame leaves every destination its slots. -/
theorem Turned.fixtures {f : Frame} (turn : Turned f w w') (mild : f.isMild = true)
    (runs : w.seesRunning = true) :
    w'.destinations.map (·.fixture) = w.destinations.map (·.fixture) := by
  cases turn with
  | fail d e cause => cases cause <;> rfl
  | takeIdle here head => exact fixtures_putDestination here rfl
  | passOver here head marked => exact fixtures_putDestination here (fixture_of_poll head _)
  | assign here head unmarked | assignDeferred here head unmarked =>
      exact fixtures_putDestination here (fixture_of_poll head _)
  | parkIdle here empty room runs =>
      rw [← destinations_glance] at here
      exact Eq.trans (fixtures_putDestination here rfl) (by rw [destinations_glance])
  | parkStopped here empty room stopped => cases runs.symm.trans stopped
  | acquireIdle here head | acquireNew here nothing free | removeLast here empty
  | removeMore here waiting | closeIdle here | closeActive here | failQueued here => cases mild
  | _ => rfl

/-- While the client runs, carrying out a mild frame puts mild frames in its place. -/
theorem Turned.mild {f : Frame} (turn : Turned f w w') (mild : f.isMild = true)
    (runs : w.seesRunning = true) (below : ∀ g ∈ w.agenda, g.isMild = true) :
    ∀ g ∈ w'.agenda, g.isMild = true := by
  have more {new : List Frame} (own : ∀ g ∈ new, g.isMild = true) :
      ∀ g ∈ new ++ w.agenda, g.isMild = true := List.forall_mem_append.2 ⟨own, below⟩
  cases turn with
  | fail d e cause =>
      rw [agenda_push, agenda_countFate, agenda_record]
      exact more (failureCalls_mild _ e cause)
  | finish op | adrift names missing | takeNone here nothing => exact below
  | parkIdle here empty room runs =>
      rw [agenda_putDestination, agenda_glance]
      exact below
  | parkStopped here empty room stopped => cases runs.symm.trans stopped
  | passOver here head marked =>
      exact more (List.forall_mem_cons.2 ⟨rfl, List.forall_mem_singleton.2 rfl⟩)
  | acquireIdle here head | acquireNew here nothing free | acquireFull here nothing full
  | removeLast here empty | removeMore here waiting | closeIdle here | closeActive here
  | failQueued here => cases mild
  | _ => exact more (List.forall_mem_singleton.2 rfl)

/-- While the client runs, a turn leaves it undisturbed. -/
theorem Undisturbed.turned {f : Frame} (h : Undisturbed v (w.push [f])) (turn : Turned f w w')
    (runs : w.seesRunning = true) : Undisturbed v w' := by
  obtain ⟨mild, below⟩ := List.forall_mem_cons.1 h.agenda
  refine ⟨turn.mild mild runs below, (Prod.mk.inj turn.routes).2.trans h.registry,
    turn.limits.trans h.limits, (turn.fixtures mild runs).trans h.fixtures, ?_,
    turn.sends.1.trans h.sends, fun ev there => ?_⟩
  · rw [turn.metrics]
    exact h.queued
  · exact turn.ledger.remembers ev (h.history ev there)

/-- A call that returns leaves the client undisturbed. -/
theorem Undisturbed.called {c : Call} (h : Undisturbed v (w.push [.call c])) :
    Undisturbed v (w.record (.called c)) where
  agenda := (List.forall_mem_cons.1 h.agenda).2
  registry := h.registry
  limits := h.limits
  fixtures := h.fixtures
  queued := h.queued
  sends := h.sends
  history ev there := List.mem_cons_of_mem _ (h.history ev there)

/-! ## Reports -/

section Report

variable {op : Operation} {reply : Reply}

/-- A report notes at its start no more than that a failed attempt found nothing to fail. -/
theorem Started.history_of_report (start : Started op w reply w') (reports : op.isReport = true) :
    w'.history = w.history ∨ ∃ d error, w'.history = .spared d error :: w.history := by
  rcases start.history with same | spared | ⟨d, e, -, asks, -⟩
  · exact Or.inl same
  · exact Or.inr spared
  · cases asks <;> cases reports

/-- At its start a report that is no failure changes neither slots nor the routing, and counts no
request as queued. -/
theorem Started.fixtures (start : Started op w reply w') (reports : op.isReport = true)
    (peaceful : Peaceful w op) :
    w'.destinations.map (·.fixture) = w.destinations.map (·.fixture) ∧
      w'.registry = w.registry ∧ w'.metrics.requestsQueued = w.metrics.requestsQueued := by
  have glanced : w.glance.destinations.map (·.fixture) = w.destinations.map (·.fixture) ∧
      w.glance.registry = w.registry ∧
      w.glance.metrics.requestsQueued = w.metrics.requestsQueued := by
    rw [glance_eq]
    exact ⟨rfl, rfl, rfl⟩
  cases start with
  | releaseStopped here stopped | releaseStray here runs nothing => exact glanced
  | release here runs taken =>
      rw [← destinations_glance] at here
      exact ⟨Eq.trans (fixtures_putDestination here rfl) glanced.1, glanced.2⟩
  | failHead held work here head =>
      exact ⟨fixtures_putDestination (w := w.dropTask _) here (fixture_of_poll head _), rfl, rfl⟩
  | settleFailed underWay unsettled pooled here =>
      obtain ⟨c, connected⟩ := peaceful
      cases connected
  | ignored op | settleConnected underWay unsettled pooled
  | settleAdrift underWay unsettled pooled missing | settleAbandoned underWay unsettled pooled
  | settleUnpooled underWay unsettled unpooled | deliver held work
  | failHeadAdrift held work missing | spare held work here empty => exact ⟨rfl, rfl, rfl⟩
  | _ => cases reports

/-- A report that is no failure puts mild frames on the agenda of a client that runs. -/
theorem Started.mild (start : Started op w reply w') (reports : op.isReport = true)
    (peaceful : Peaceful w op) (runs : w.seesRunning = true)
    (below : ∀ g ∈ w.agenda, g.isMild = true) : ∀ g ∈ w'.agenda, g.isMild = true := by
  have one {f : Frame} (own : f.isMild = true) : ∀ g ∈ f :: w.agenda, g.isMild = true :=
    List.forall_mem_cons.2 ⟨own, below⟩
  cases start with
  | ignored op => exact below
  | releaseStopped here stopped => cases runs.symm.trans stopped
  | releaseStray here runs nothing =>
      rw [agenda_glance]
      exact below
  | release here runs taken =>
      rw [agenda_push, agenda_putDestination, agenda_glance]
      exact one rfl
  | settleFailed underWay unsettled pooled here =>
      obtain ⟨c, connected⟩ := peaceful
      cases connected
  | settleConnected underWay unsettled pooled | deliver held work | failHead held work here head =>
      exact one rfl
  | settleAdrift underWay unsettled pooled missing | settleAbandoned underWay unsettled pooled
  | settleUnpooled underWay unsettled unpooled | failHeadAdrift held work missing
  | spare held work here empty => exact below
  | _ => cases reports

theorem Undisturbed.started (h : Undisturbed v w) (start : Started op w reply w')
    (reports : op.isReport = true) (peaceful : Peaceful w op) (runs : w.seesRunning = true) :
    Undisturbed v (w'.record (.invoked op reply)) := by
  obtain ⟨fixtures, registry, queued⟩ := start.fixtures reports peaceful
  refine ⟨start.mild reports peaceful runs h.agenda, registry.trans h.registry,
    start.limits.trans h.limits, fixtures.trans h.fixtures, queued.trans h.queued, ?_,
    fun ev there => List.mem_cons_of_mem _ ?_⟩
  · refine (sends_other (Operation.send?_of_isReport reports reply) _).trans ?_
    rcases start.history_of_report reports with same | ⟨d, error, spared⟩
    · exact same ▸ h.sends
    · rw [spared, sends_other rfl]
      exact h.sends
  · have old := h.history ev there
    rcases start.history_of_report reports with same | ⟨d, error, spared⟩
    · exact same ▸ old
    · exact spared ▸ List.mem_cons_of_mem _ old

/-- While the client runs, a report that is no failure leaves it undisturbed. -/
theorem Undisturbed.reported (h : Undisturbed v w) (reports : op.isReport = true)
    (peaceful : Peaceful w op) (runs : w.seesRunning = true) : Undisturbed v (w.invoke op).2 := by
  have marked : Undisturbed v (w.push [.finish op]) :=
    ⟨List.forall_mem_cons.2 ⟨rfl, h.agenda⟩, h.registry, h.limits, h.fixtures, h.queued, h.sends,
      h.history⟩
  exact marked.started (started_start op _) reports peaceful
    ((seesRunning_push w [.finish op]).trans runs)

end Report

end Client

end ConnectionPool
