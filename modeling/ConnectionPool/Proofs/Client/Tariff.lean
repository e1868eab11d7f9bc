import ConnectionPool.Client.Drive
import ConnectionPool.Proofs.Client.Agenda
import ConnectionPool.Proofs.Client.Scope
import ConnectionPool.Proofs.Total

/-!
# What a client has still to do

What a client has still to do can be priced: each frame of its agenda, each exchange and connection
that a destination holds, and each task. A tariff gives the prices, and it covers turns if every
frame is worth at least what it can lead to (`Tariff.Covers`). Main statements: with such a tariff a
turn does not raise the price of a client, and lowers it where there is something to spare
(`Turned.price_le`); so a client that is not within a callback ends its agenda when it is driven
(`agenda_drive`).
-/

set_option autoImplicit false

namespace ConnectionPool

/-- Prices of what a client has still to do. -/
structure Tariff where
  frame : Frame → Nat
  /-- The price of a waiting exchange. -/
  queued : Nat
  idle : Nat
  active : Nat
  work : Work → Nat

namespace Tariff

/-- The price of what a destination holds. -/
def pool (p : Tariff) (D : Destination) : Nat :=
  p.queued * D.queue.items.length + p.idle * D.idle.items.length + p.active * D.active.items.length

/-- The price of what a client has still to do. -/
def price (p : Tariff) (w : Client) : Nat :=
  total p.frame w.agenda + total p.pool w.destinations + total (fun t => p.work t.work) w.tasks

/-! ### What a destination gives up and takes -/

section Pools

variable (p : Tariff) {D : Destination} {c : ConnectionId} {e : Exchange}
variable {idle : BoundedQueue ConnectionId} {queue : BoundedQueue Exchange}

theorem pool_slots (slots : SlotCounter) : p.pool { D with slots := slots } = p.pool D := rfl

theorem pool_takeIdle (head : D.idle.poll = some (c, idle)) :
    p.pool { D with idle := idle } + p.idle = p.pool D := by
  simp only [pool, BoundedQueue.length_of_poll head, Nat.mul_succ]
  omega

theorem pool_park (room : D.idle.offer c = .ok idle) :
    p.pool { D with idle := idle } = p.pool D + p.idle := by
  simp only [pool, BoundedQueue.length_of_offer room, Nat.mul_succ]
  omega

theorem pool_takeExchange (head : D.queue.poll = some (e, queue)) :
    p.pool { D with queue := queue } + p.queued = p.pool D := by
  simp only [pool, BoundedQueue.length_of_poll head, Nat.mul_succ]
  omega

/-- An exchange is taken by a connection, which is active from then on if there is room. -/
theorem pool_assign_le (head : D.queue.poll = some (e, queue)) (c : ConnectionId) :
    p.pool { D with queue := queue, active := D.active.offerOrDrop c } + p.queued ≤
      p.pool D + p.active := by
  have joined := Nat.mul_le_mul_left p.active (BoundedQueue.length_offerOrDrop_le D.active c)
  simp only [pool, BoundedQueue.length_of_poll head, Nat.mul_succ] at joined ⊢
  omega

theorem pool_forget_le (D : Destination) (c : ConnectionId) : p.pool (D.forget c) ≤ p.pool D := by
  have idleLeft := Nat.mul_le_mul_left p.idle (BoundedQueue.length_discard_le D.idle (· == c))
  have activeLeft := Nat.mul_le_mul_left p.active (BoundedQueue.length_discard_le D.active (· == c))
  simp only [pool, Destination.forget]
  omega

/-- A connection that is parked and forgotten leaves nothing behind. -/
theorem pool_forget_of_offer (room : D.idle.offer c = .ok idle) :
    p.pool ({ D with idle := idle }.forget c) ≤ p.pool D := by
  have activeLeft := Nat.mul_le_mul_left p.active (BoundedQueue.length_discard_le D.active (· == c))
  have idleLeft := BoundedQueue.length_discard_of_offer room (p := (· == c)) (beq_self_eq_true c)
  simp only [pool, Destination.forget, idleLeft]
  omega

theorem pool_drainIdle (D : Destination) :
    p.pool { D with idle := D.idle.drain.2 } + p.idle * D.idle.items.length = p.pool D := by
  simp only [pool, BoundedQueue.items_drain, List.length_nil, Nat.mul_zero]
  omega

theorem pool_drainActive (D : Destination) :
    p.pool { D with active := D.active.drain.2 } + p.active * D.active.items.length = p.pool D := by
  simp only [pool, BoundedQueue.items_drain, List.length_nil, Nat.mul_zero]
  omega

theorem pool_drainQueue (D : Destination) :
    p.pool { D with slots := D.slots.reset, queue := D.queue.drain.2 } +
      p.queued * D.queue.items.length = p.pool D := by
  simp only [pool, BoundedQueue.items_drain, List.length_nil, Nat.mul_zero]
  omega

/-- Where each item leaves a frame, the items pay for the frames at their price. -/
theorem total_map_le {α : Type} {f : α → Frame} {n : Nat} (each : ∀ a, p.frame (f a) ≤ n)
    (l : List α) : total p.frame (l.map f) ≤ n * l.length := by
  rw [total_map, Nat.mul_comm]
  exact total_le_mul fun a _ => each a

end Pools

/-- Whatever carrying out a frame leads to is paid for, and `spare` is left over. -/
structure Covers (p : Tariff) (listeners spare : Nat) : Prop where
  finish : ∀ op, spare ≤ p.frame (.finish op)
  told : ∀ (w : Client) d e cause, w.listeners = listeners →
    total p.frame ((w.failureCalls e cause).map .call) + spare ≤ p.frame (.fail d e cause)
  adrift : ∀ f d, f.destination? = some d → spare ≤ p.frame f
  found : ∀ d c, p.frame (.serve d c false) + spare ≤ p.frame (.takeIdle d) + p.idle
  sought : ∀ d a, p.frame (.call (.connect d a)) + p.frame (.takeIdle d) + spare ≤
    p.frame (.acquire d)
  surplus : ∀ d c deferred, p.frame (.call (.close c)) + spare ≤ p.frame (.serve d c deferred)
  parked : ∀ d c deferred, p.idle + spare ≤ p.frame (.serve d c deferred)
  passedOver : ∀ d e cause, p.frame (.fail d e cause) + spare ≤ p.queued
  sent : ∀ d c e, p.frame (.call (.send c e)) + p.active + spare ≤
    p.queued + p.frame (.serve d c false)
  left : ∀ d c e t, p.frame (.call (.execute t)) + p.work (.deliver c e) + p.active + spare ≤
    p.queued + p.frame (.serve d c true)
  removed : ∀ d c, p.frame (.acquire d) + spare ≤ p.frame (.remove d c)
  closedIdle : ∀ d, p.frame (.closeActive d) + spare ≤ p.frame (.closeIdle d)
  closedActive : ∀ d, p.frame (.failQueued d) + spare ≤ p.frame (.closeActive d)
  hungUp : ∀ c, p.frame (.call (.close c)) ≤ p.idle ∧ p.frame (.call (.close c)) ≤ p.active

end Tariff

namespace Client

variable (p : Tariff) (w : Client)

/-! ## What the parts of a step do to the price -/

theorem price_push (fs : List Frame) : p.price (w.push fs) = total p.frame fs + p.price w := by
  simp only [Tariff.price, push]
  rw [total_append, Nat.add_assoc, Nat.add_assoc, Nat.add_assoc]

@[simp] theorem price_record (ev : Event) : p.price (w.record ev) = p.price w := rfl

@[simp] theorem price_countFate (cause : Cause) : p.price (w.countFate cause) = p.price w := by
  cases cause <;> rfl

@[simp] theorem price_glance : p.price w.glance = p.price w := by
  rw [glance_eq]
  rfl

@[simp] theorem price_addAttempt (d : DestinationId) (pooled : Bool) :
    p.price (w.addAttempt d pooled) = p.price w := rfl

@[simp] theorem price_countRemoved : p.price w.countRemoved = p.price w := rfl

@[simp] theorem price_conclude (a : AttemptId) (attempt : Attempt) (o : Outcome) :
    p.price (w.conclude a attempt o) = p.price w := rfl

@[simp] theorem price_countCreated : p.price w.countCreated = p.price w := rfl

@[simp] theorem price_countFailure : p.price w.countFailure = p.price w := rfl

theorem price_addTask (work : Work) : p.price (w.addTask work) =
    p.price w + p.frame (.call (.execute w.nextTask)) + p.work work := by
  simp only [Tariff.price, addTask]
  rw [total_append, total_cons, total_cons, total_nil]
  dsimp only
  omega

variable {p w} {w' : Client} {d : DestinationId}

theorem price_putDestination {D : Destination} (here : w.destinations[d]? = some D)
    (D' : Destination) :
    p.price (w.putDestination d D') + p.pool D = p.price w + p.pool D' := by
  have changed := total_set p.pool here D'
  simp only [Tariff.price, putDestination]
  omega

theorem listeners_glance (w : Client) : w.glance.listeners = w.listeners := by rw [glance_eq]

theorem Turned.listeners {f : Frame} (turn : Turned f w w') : w'.listeners = w.listeners := by
  cases turn with
  | fail d e cause => cases cause <;> rfl
  | parkIdle here empty room runs | parkStopped here empty room stopped =>
      exact listeners_glance w
  | _ => rfl

/-- What a turn leaves to be done is paid for by its frame and by what its destination gives up. -/
theorem price_put_le {D D' : Destination} {new worth spare : Nat}
    (here : w.destinations[d]? = some D) (paid : new + p.pool D' + spare ≤ worth + p.pool D) :
    new + p.price (w.putDestination d D') + spare ≤ worth + p.price w := by
  have changed := price_putDestination (p := p) here D'
  omega

/-! ## What a turn costs, frame by frame -/

section Frames

variable {n spare : Nat} {c : ConnectionId}

/-- A frame that does nothing is worth something all the same. -/
theorem price_adrift_le (covers : p.Covers n spare) {f : Frame} (names : f.destination? = some d) :
    p.price w + spare ≤ p.frame f + p.price w := by
  have paid := covers.adrift f d names
  omega

theorem Turned.price_acquire_le (covers : p.Covers n spare) (turn : Turned (.acquire d) w w') :
    p.price w' + spare ≤ p.frame (.acquire d) + p.price w := by
  have sought := covers.sought d w.attempts.length
  cases turn with
  | adrift names missing => exact price_adrift_le covers names
  | @acquireIdle _ _ D c idle here head =>
      have paid := covers.found d c
      have taken := p.pool_takeIdle head
      rw [price_push]
      exact price_put_le here (by rw [total_singleton]; omega)
  | @acquireNew _ _ D slots here nothing free =>
      rw [price_push, price_addAttempt]
      exact price_put_le here (by rw [total_cons, total_singleton, p.pool_slots]; omega)
  | acquireFull here nothing full =>
      rw [price_push, total_singleton]
      omega

theorem Turned.price_takeIdle_le (covers : p.Covers n spare) (turn : Turned (.takeIdle d) w w') :
    p.price w' + spare ≤ p.frame (.takeIdle d) + p.price w := by
  cases turn with
  | adrift names missing => exact price_adrift_le covers names
  | @takeIdle _ _ D c idle here head =>
      have paid := covers.found d c
      have taken := p.pool_takeIdle head
      rw [price_push]
      exact price_put_le here (by rw [total_singleton]; omega)
  | takeNone here nothing => exact price_adrift_le covers rfl

/-- A connection in hand is parked, or pays for itself together with the exchange that it takes. -/
theorem Turned.price_serve_le {deferred : Bool} (covers : p.Covers n spare)
    (turn : Turned (.serve d c deferred) w w') :
    p.price w' + spare ≤ p.frame (.serve d c deferred) + p.price w := by
  have hungUp := covers.surplus d c deferred
  cases turn with
  | adrift names missing => exact price_adrift_le covers names
  | parkSurplus here empty full =>
      rw [price_push, total_singleton]
      omega
  | @parkIdle _ _ D _ _ idle here empty room runs =>
      have paid := covers.parked d c deferred
      have parked := p.pool_park room
      rw [← destinations_glance] at here
      have changed := price_putDestination (p := p) here { D with idle := idle }
      rw [price_glance] at changed
      omega
  | @parkStopped _ _ D _ _ idle here empty room stopped =>
      have left := p.pool_forget_of_offer room
      rw [← destinations_glance] at here
      have changed := price_putDestination (p := p) here ({ D with idle := idle }.forget c)
      rw [price_glance] at changed
      rw [price_push, price_countRemoved, total_singleton]
      omega
  | @passOver _ _ D _ _ e queue here head marked =>
      have paid := covers.passedOver d e (.aborted passedOverReason)
      have taken := p.pool_takeExchange head
      rw [price_push]
      exact price_put_le here (by rw [total_cons, total_singleton]; omega)
  | @assign _ _ D _ e queue here head unmarked =>
      have paid := covers.sent d c e
      have assigned := p.pool_assign_le head c
      rw [price_push, price_record]
      exact price_put_le here (by rw [total_singleton]; omega)
  | @assignDeferred _ _ D _ e queue here head unmarked =>
      have paid := covers.left d c e w.nextTask
      have assigned := p.pool_assign_le head c
      have changed := price_putDestination (p := p) here
        { D with queue := queue, active := D.active.offerOrDrop c }
      rw [price_addTask, price_record]
      show p.price (w.putDestination d _) + p.frame (.call (.execute w.nextTask)) + _ + spare ≤ _
      omega

theorem Turned.price_remove_le (covers : p.Covers n spare) (turn : Turned (.remove d c) w w') :
    p.price w' + spare ≤ p.frame (.remove d c) + p.price w := by
  cases turn with
  | adrift names missing => exact price_adrift_le covers names
  | @removeLast _ _ D _ here empty =>
      have paid := covers.adrift (.remove d c) d rfl
      have left := p.pool_forget_le D c
      have changed := price_putDestination (p := p) here (D.forget c)
      rw [price_countRemoved]
      omega
  | @removeMore _ _ D _ here waiting =>
      have paid := covers.removed d c
      have left := p.pool_forget_le D c
      rw [price_push, price_countRemoved]
      exact price_put_le here (by rw [total_singleton]; omega)

theorem Turned.price_closeIdle_le (covers : p.Covers n spare) (turn : Turned (.closeIdle d) w w') :
    p.price w' + spare ≤ p.frame (.closeIdle d) + p.price w := by
  cases turn with
  | adrift names missing => exact price_adrift_le covers names
  | @closeIdle _ _ D here =>
      have paid := covers.closedIdle d
      have drained := p.pool_drainIdle D
      have calls := p.total_map_le (fun c => (covers.hungUp c).1) D.idle.items
      rw [price_push]
      exact price_put_le here (by rw [total_append, total_singleton]; omega)

theorem Turned.price_closeActive_le (covers : p.Covers n spare)
    (turn : Turned (.closeActive d) w w') :
    p.price w' + spare ≤ p.frame (.closeActive d) + p.price w := by
  cases turn with
  | adrift names missing => exact price_adrift_le covers names
  | @closeActive _ _ D here =>
      have paid := covers.closedActive d
      have drained := p.pool_drainActive D
      have calls := p.total_map_le (fun c => (covers.hungUp c).2) D.active.items
      rw [price_push]
      exact price_put_le here (by rw [total_append, total_singleton]; omega)

theorem Turned.price_failQueued_le (covers : p.Covers n spare)
    (turn : Turned (.failQueued d) w w') :
    p.price w' + spare ≤ p.frame (.failQueued d) + p.price w := by
  cases turn with
  | adrift names missing => exact price_adrift_le covers names
  | @failQueued _ _ D here =>
      have paid := covers.adrift (.failQueued d) d rfl
      have drained := p.pool_drainQueue D
      have fails := p.total_map_le (fun e => Nat.le_of_add_right_le (covers.passedOver d e .closed))
        D.queue.items
      rw [price_push]
      exact price_put_le here (by omega)

end Frames

/-- Carrying out a frame, other than making a call, costs no more than the frame is worth. -/
theorem Turned.price_le {f : Frame} {n spare : Nat} (turn : Turned f w w')
    (covers : p.Covers n spare) (listening : w.listeners = n) (uncalled : ∀ c, f ≠ .call c)
    (outside : ∀ c, f ≠ .within c) : p.price w' + spare ≤ p.frame f + p.price w := by
  cases f with
  | call c => exact absurd rfl (uncalled c)
  | within c => exact absurd rfl (outside c)
  | finish op =>
      have paid := covers.finish op
      cases turn with
      | adrift names missing => exact price_adrift_le covers names
      | finish op =>
          rw [price_record]
          omega
  | fail d e cause =>
      cases turn with
      | adrift names missing => exact price_adrift_le covers names
      | fail d e cause =>
          have paid := covers.told ((w.record (.failed d e cause)).countFate cause) d e cause
            (by cases cause <;> exact listening)
          rw [price_push, price_countFate, price_record]
          omega
  | acquire d => exact turn.price_acquire_le covers
  | takeIdle d => exact turn.price_takeIdle_le covers
  | serve d c deferred => exact turn.price_serve_le covers
  | remove d c => exact turn.price_remove_le covers
  | closeIdle d => exact turn.price_closeIdle_le covers
  | closeActive d => exact turn.price_closeActive_le covers
  | failQueued d => exact turn.price_failQueued_le covers

/-! ## Agendas end -/

/-- What turns cost, so that each of them costs something: waiting exchanges, connections and frames
as `Client.workload` prices them. -/
def turnTariff (listeners : Nat) : Tariff where
  frame := Frame.cost listeners
  queued := listeners + 4
  idle := 1
  active := 1
  work _ := 0

theorem covers_turnTariff (n : Nat) : (turnTariff n).Covers n 1 where
  finish _ := Nat.le_refl 1
  told w d e cause listening := by
    have each : total (Frame.cost n) ((w.failureCalls e cause).map .call) ≤
        (w.failureCalls e cause).length * 1 := by
      rw [total_map]
      exact total_le_mul fun c _ => Nat.le_refl 1
    have calls : (w.failureCalls e cause).length ≤ n + 2 := by
      rw [failureCalls, List.length_append]
      split
      · simp [listening]
      · simp
    simp only [turnTariff, Frame.cost]
    omega
  adrift f d names := by cases f <;> simp [turnTariff, Frame.cost]
  found _ _ := by simp [turnTariff, Frame.cost]
  sought _ _ := by simp [turnTariff, Frame.cost]
  surplus _ _ _ := by simp [turnTariff, Frame.cost]
  parked _ _ _ := by simp [turnTariff, Frame.cost]
  passedOver _ _ _ := by simp [turnTariff, Frame.cost]
  sent _ _ _ := by simp [turnTariff, Frame.cost]
  left _ _ _ _ := by simp [turnTariff, Frame.cost]
  removed _ _ := by simp [turnTariff, Frame.cost]
  closedIdle _ := by simp [turnTariff, Frame.cost]
  closedActive _ := by simp [turnTariff, Frame.cost]
  hungUp _ := by simp [turnTariff, Frame.cost]

theorem workload_eq (w : Client) : w.workload = (turnTariff w.listeners).price w := by
  have pools : Destination.cost w.listeners = (turnTariff w.listeners).pool := by
    funext D
    simp only [Destination.cost, Tariff.pool, turnTariff, BoundedQueue.size]
    omega
  have none : total (fun t : Task => (turnTariff w.listeners).work t.work) w.tasks = 0 :=
    Nat.le_zero.1 (total_le_mul fun _ _ => Nat.le_refl 0)
  rw [workload, Tariff.price, none, pools]
  rfl

/-- No callback is under way. -/
def Outside (w : Client) : Prop := ∀ c, .within c ∉ w.agenda

/-- Only making a call leads into a callback. -/
theorem Turned.outside {f : Frame} (turn : Turned f w w') (outside : (w.push [f]).Outside)
    (uncalled : ∀ c, f ≠ .call c) : w'.Outside := by
  have below : ∀ c, .within c ∉ w.agenda := fun c hc => outside c (List.mem_cons_of_mem _ hc)
  intro c there
  cases turn with
  | call c' => exact uncalled c' rfl
  | within c' => exact outside c' List.mem_cons_self
  | finish op | adrift names missing | takeNone here nothing => exact below c there
  | _ => exact below c (by simpa using there)

/-- Every frame costs something, so a client on which no turn is to be spent has nothing to do. -/
theorem agenda_nil_of_workload (none : w.workload = 0) : w.agenda = [] := by
  cases todo : w.agenda with
  | nil => rfl
  | cons f rest =>
      rw [workload, todo, total_cons] at none
      have costs : 1 ≤ Frame.cost w.listeners f := by
        cases f <;> simp [Frame.cost]
      omega

/-- A call that returns at once costs something. -/
theorem workload_called {c : Call} {rest : List Frame} (top : w.agenda = .call c :: rest) :
    w.turn.resume.workload + 1 = w.workload := by
  have back : w.turn.resume.workload = total (Frame.cost w.listeners) rest +
      total (Destination.cost w.listeners) w.destinations := by
    rw [resume_turn top]
    rfl
  rw [back, workload, top, total_cons, Frame.cost]
  omega

/-- So does every other turn. -/
theorem workload_turn {f : Frame} {rest : List Frame} (top : w.agenda = f :: rest)
    (uncalled : ∀ c, f ≠ .call c) (outside : ∀ c, f ≠ .within c) :
    w.turn.workload + 1 ≤ w.workload := by
  obtain ⟨v, rfl, turn⟩ := turned_of_top top
  cases top
  have paid := turn.price_le (covers_turnTariff v.listeners) rfl uncalled outside
  have before : (v.push [f]).workload = _ := workload_eq (v.push [f])
  have after := workload_eq (v.push [f]).turn
  rw [turn.listeners] at after
  rw [price_push, total_cons, total_nil] at before
  have listening : (v.push [f]).listeners = v.listeners := rfl
  rw [listening] at before
  omega

/-- A client that is not within a callback ends its agenda when it is driven. -/
theorem agenda_driveFor {σ : Type} (note : Client → Call → σ → σ) {n : Nat} (s : σ)
    (outside : w.Outside) (enough : w.workload ≤ n) : (w.driveFor note n s).1.agenda = [] := by
  induction n generalizing w s with
  | zero =>
      rw [driveFor]
      exact agenda_nil_of_workload (Nat.le_zero.1 enough)
  | succ n ih =>
      rw [driveFor]
      split
      · next done => exact done
      · next c rest inside => exact absurd (inside ▸ List.mem_cons_self) (outside c)
      · next c rest top =>
          have cost := workload_called top
          refine ih _ ?_ (by omega)
          rw [resume_turn top]
          exact fun c' hc => outside c' (top ▸ List.mem_cons_of_mem _ hc)
      · next f rest inside uncalled top =>
          have other : ∀ c, f ≠ .call c := by
            rintro c rfl
            exact uncalled c rfl
          have away : ∀ c, f ≠ .within c := by
            rintro c rfl
            exact inside c rfl
          have cost := workload_turn top other away
          refine ih s ?_ (by omega)
          obtain ⟨v, rfl, turn⟩ := turned_of_top top
          cases top
          exact turn.outside outside other

theorem agenda_drive {σ : Type} (note : Client → Call → σ → σ) (s : σ) (outside : w.Outside) :
    (w.drive note s).1.agenda = [] :=
  agenda_driveFor note s outside (Nat.le_refl _)

end Client

end ConnectionPool
