import Mathlib.Data.List.TakeWhile
import ConnectionPool.Proofs.Destination.Strays
import ConnectionPool.Proofs.Exchange.Delivery
import ConnectionPool.Proofs.Exchange.Recall
import ConnectionPool.Proofs.Exchange.Tasks

/-!
# What a connection in hand is put to

A connection in hand goes through the queue: the exchanges at its head whose request was given up
fail one after another, and the first other one is taken. If there is none, the connection is
parked, or closed where there is no room for it or the client has stopped. Main statement: where no
callback calls back, exactly the marked exchanges at the head of the queue are passed over and the
connection is placed as `Placed` says; an exchange that is left to a task is handed over when the
task is run; and in no run is an exchange handed over whose request was marked before a connection
took it (`Client.dispatches`).
-/

set_option autoImplicit false

namespace ConnectionPool

namespace BoundedQueue

variable {α : Type}

/-- `q.Gains a q'`: `q'` holds `a` behind what `q` holds, or is `q` where that has no room. -/
structure Gains (q : BoundedQueue α) (a : α) (q' : BoundedQueue α) : Prop where
  capacity : q'.capacity = q.capacity
  items : q'.items = if q.items.length < q.capacity then q.items ++ [a] else q.items

theorem gains_offerOrDrop (q : BoundedQueue α) (a : α) : q.Gains a (q.offerOrDrop a) := by
  refine ⟨capacity_offerOrDrop q a, ?_⟩
  simp only [offerOrDrop]
  split
  · next full =>
      have full := (offer_eq_error_iff.1 full).1
      rw [if_neg (by omega)]
  · next q' room =>
      obtain ⟨free, -, joined⟩ := offer_eq_ok_iff.1 room
      rw [if_pos free, joined]

/-- The queue without the items at its head that satisfy `p`. -/
theorem exists_dropWhile (q : BoundedQueue α) (p : α → Bool) :
    ∃ q' : BoundedQueue α, q'.items = q.items.dropWhile p ∧ q'.capacity = q.capacity :=
  ⟨⟨q.capacity, _, (List.dropWhile_sublist p).length_le.trans q.length_le⟩, rfl, rfl⟩

/-- To drop one item that equals `c` is to erase it. -/
theorem items_discard_eq_erase (q : BoundedQueue ConnectionId) (c : ConnectionId) :
    (q.discard (· == c)).items = q.items.erase c := by
  simp only [discard]
  split
  · next none =>
      have absent := extract_eq_none_iff.1 (removeFirst_eq_none_iff.1 none)
      exact (List.erase_of_not_mem fun there => by simpa using absent c there).symm
  · next a rest some =>
      obtain ⟨before, after, split, left, own, earlier⟩ := split_of_removeFirst some
      have first : c ∉ before := fun there => by simpa using earlier c there
      rw [left, split, List.erase_append_right _ first, beq_iff_eq.1 own, List.erase_cons_head]

end BoundedQueue

namespace Client

variable {allowed : Client → Operation → Prop} {w w' : Client} {d : DestinationId}
  {D : Destination} {c : ConnectionId} {deferred : Bool} {rest : List Frame}

/-! ## Exchanges that are passed over -/

/-- The client after the exchanges `es`, which stood at the head of the queue at `d`, were given up
one after another, so that `queue` is left there. -/
def passing (w : Client) (d : DestinationId) (D : Destination) (es : List Exchange)
    (queue : BoundedQueue Exchange) : Client :=
  { w with
    destinations := w.destinations.set d { D with queue := queue }
    metrics.requestsAborted := w.metrics.requestsAborted + es.length
    history := (es.flatMap (abortEvents d passedOverReason)).reverse ++ w.history }

theorem turn_passOver {e : Exchange} {queue : BoundedQueue Exchange}
    (top : w.agenda = .serve d c deferred :: rest) (here : w.destinations[d]? = some D)
    (head : D.queue.poll = some (e, queue)) (marked : w.isMarked e.request.id = true) :
    w.turn = { w with
      destinations := w.destinations.set d { D with queue := queue }
      agenda := .fail d e (.aborted passedOverReason) :: .serve d c deferred :: rest } := by
  exact turn_eq top rfl here (.passOver here head marked)

/-- An exchange at the head of the queue that is marked is given up, and the connection stays in
hand. -/
theorem leadsTo_passOver {e : Exchange} {queue : BoundedQueue Exchange}
    (top : w.agenda = .serve d c deferred :: rest) (here : w.destinations[d]? = some D)
    (head : D.queue.poll = some (e, queue)) (marked : w.isMarked e.request.id = true) :
    w.LeadsTo (w.passing d D [e] queue) := by
  have one : w.passing d D [e] queue = { w with
      destinations := w.destinations.set d { D with queue := queue }
      metrics.requestsAborted := w.metrics.requestsAborted + 1
      agenda := .serve d c deferred :: rest
      history := (abortEvents d passedOverReason e).reverse ++ w.history } := by
    simp only [passing, top, List.flatMap_cons, List.flatMap_nil, List.append_nil,
      List.length_singleton]
  rw [one]
  apply LeadsTo.turn top (by simp) (by simp)
  rw [turn_passOver top here head marked]
  exact leadsTo_aborted rfl

theorem passing_cons (w : Client) (d : DestinationId) (D : Destination) (e : Exchange)
    (es : List Exchange) (left queue : BoundedQueue Exchange) :
    (w.passing d D [e] left).passing d { D with queue := left } es queue =
      w.passing d D (e :: es) queue := by
  simp only [passing, List.set_set, List.flatMap_cons, List.flatMap_nil, List.append_nil,
    List.reverse_append, List.append_assoc, List.length_cons, List.length_nil]
  rw [Nat.zero_add, Nat.add_assoc, Nat.add_comm 1]

/-- Marked exchanges at the head of the queue are given up one after another, and the connection
stays in hand. -/
theorem leadsTo_passing {es : List Exchange} {queue : BoundedQueue Exchange}
    (top : w.agenda = .serve d c deferred :: rest) (here : w.destinations[d]? = some D)
    (split : D.queue.items = es ++ queue.items) (sized : queue.capacity = D.queue.capacity)
    (marked : ∀ e ∈ es, w.isMarked e.request.id = true) : w.LeadsTo (w.passing d D es queue) := by
  -- induction on what is passed over; each time the same frame stands on top again
  induction es generalizing w D with
  | nil =>
      cases BoundedQueue.ext sized.symm split
      obtain ⟨lt, own⟩ := List.getElem?_eq_some_iff.1 here
      have same : w.destinations.set d D = w.destinations := own ▸ List.set_getElem_self lt
      have stays : w.passing d D [] D.queue = w := by
        show { w with destinations := w.destinations.set d D } = w
        rw [same]
      rw [stays]
      exact .refl w
  | cons e es ih =>
      obtain ⟨first, marked⟩ := List.forall_mem_cons.1 marked
      obtain ⟨left, head, behind, capacity⟩ := BoundedQueue.poll_of_items split
      have there := List.getElem?_set_self (a := { D with queue := left })
        (List.getElem?_eq_some_iff.1 here).1
      have later := ih (w := w.passing d D [e] left) top there behind (sized.trans capacity.symm)
        marked
      rw [passing_cons] at later
      exact (leadsTo_passOver top here head first).trans later

/-! ## Where the connection is placed -/

/-- `w.Placed d D c rest deferred v`: what becomes of the connection `c` in hand, given that the
head of the queue at `d`, if there is one, is not marked. The agenda below is `rest`. -/
inductive Placed (w : Client) (d : DestinationId) (D : Destination) (c : ConnectionId)
    (rest : List Frame) : Bool → Client → Prop
  /-- The connection takes the head of the queue and is handed it at once. -/
  | handed {e : Exchange} {queue : BoundedQueue Exchange} {active : BoundedQueue ConnectionId}
      (head : D.queue.items = e :: queue.items) (sized : queue.capacity = D.queue.capacity)
      (gains : D.active.Gains c active) :
      Placed w d D c rest false { w with
        destinations := w.destinations.set d { D with queue := queue, active := active }
        agenda := rest
        history := .called (.send c e) :: .assigned d c e false :: w.history }
  /-- The connection takes the head of the queue, and one task is left to the executor. -/
  | deferred {e : Exchange} {queue : BoundedQueue Exchange} {active : BoundedQueue ConnectionId}
      (head : D.queue.items = e :: queue.items) (sized : queue.capacity = D.queue.capacity)
      (gains : D.active.Gains c active) :
      Placed w d D c rest true { w with
        destinations := w.destinations.set d { D with queue := queue, active := active }
        tasks := w.tasks ++ [⟨w.nextTask, .deliver c e⟩]
        nextTask := w.nextTask + 1
        agenda := rest
        history := .called (.execute w.nextTask) :: .assigned d c e true :: w.history }
  /-- Nothing waits, there is room and the client runs: the connection becomes idle. -/
  | parked {deferred : Bool} {idle : BoundedQueue ConnectionId} (empty : D.queue.items = [])
      (room : D.idle.items.length < D.idle.capacity) (runs : w.seesRunning = true)
      (joined : idle.items = D.idle.items ++ [c]) (sized : idle.capacity = D.idle.capacity) :
      Placed w d D c rest deferred { w with
        foreseen := w.foreseen.tail
        destinations := w.destinations.set d { D with idle := idle }
        agenda := rest }
  /-- Nothing waits and there is no room: the connection is closed. -/
  | surplus {deferred : Bool} (empty : D.queue.items = [])
      (full : D.idle.items.length = D.idle.capacity) :
      Placed w d D c rest deferred { w with
        agenda := rest
        history := .called (.close c) :: w.history }
  /-- Nothing waits and the client does not run: the connection is taken out of the pools and
  closed. If it was in neither pool before, the pools are as they were. -/
  | stopped {deferred : Bool} {idle active : BoundedQueue ConnectionId}
      (empty : D.queue.items = []) (room : D.idle.items.length < D.idle.capacity)
      (halts : w.seesRunning = false) (left : idle.items = (D.idle.items ++ [c]).erase c)
      (also : active.items = D.active.items.erase c)
      (spared : D.Strays c → idle = D.idle ∧ active = D.active) :
      Placed w d D c rest deferred { w with
        foreseen := w.foreseen.tail
        destinations := w.destinations.set d
          { D with slots := D.slots.release, idle := idle, active := active }
        metrics.connectionsRemoved := w.metrics.connectionsRemoved + 1
        agenda := rest
        history := .called (.close c) :: w.history }

/-- A connection that was parked and taken out again leaves the pools as they were, if it was in
neither of them. -/
theorem forget_of_offer {idle : BoundedQueue ConnectionId} (room : D.idle.offer c = .ok idle)
    (strays : D.Strays c) :
    idle.discard (· == c) = D.idle ∧ D.active.discard (· == c) = D.active := by
  obtain ⟨-, sized, joined⟩ := BoundedQueue.offer_eq_ok_iff.1 room
  refine ⟨BoundedQueue.ext ?_ ?_, BoundedQueue.discard_of_not_mem strays.active⟩
  · rw [BoundedQueue.capacity_discard, sized]
  · rw [BoundedQueue.items_discard_eq_erase, joined, List.erase_append_right _ strays.idle,
      List.erase_cons_head, List.append_nil]

theorem placed (top : w.agenda = .serve d c deferred :: rest) (here : w.destinations[d]? = some D)
    (clear : ∀ e queue, D.queue.poll = some (e, queue) → w.isMarked e.request.id = false) :
    ∃ v, w.LeadsTo v ∧ w.Placed d D c rest deferred v := by
  -- four of the cases end in a call, which is all that is left to do
  have called {v : Client} {k : Call} (turned : w.turn = v) (next : v.agenda = .call k :: rest) :
      w.LeadsTo { v with agenda := rest, history := .called k :: v.history } := by
    apply LeadsTo.turn top (by simp) (by simp)
    rw [turned]
    exact leadsTo_call next
  obtain ⟨v, pushed, turned⟩ := turned_of_top top
  have sees : v.seesRunning = w.seesRunning := by
    rw [pushed]
    exact (seesRunning_push v _).symm
  have below : v = { w with agenda := rest } := by
    subst pushed
    cases top
    rfl
  subst below
  generalize turns : w.turn = w' at turned
  cases turned with
  | adrift names missing =>
      cases names
      cases missing.symm.trans here
  | @parkSurplus _ _ dest _ _ there empty full =>
      cases here.symm.trans there
      exact ⟨_, called turns rfl, .surplus (BoundedQueue.poll_eq_none_iff.1 empty)
        (BoundedQueue.offer_eq_error_iff.1 full).1⟩
  | @parkIdle _ _ dest _ _ idle there empty room runs =>
      cases here.symm.trans there
      obtain ⟨free, sized, joined⟩ := BoundedQueue.offer_eq_ok_iff.1 room
      refine ⟨_, ?_, .parked (BoundedQueue.poll_eq_none_iff.1 empty) free (sees.symm.trans runs)
        joined sized⟩
      apply LeadsTo.turn top (by simp) (by simp)
      rw [turns, glance_eq]
      exact .refl _
  | @parkStopped _ _ dest _ _ idle there empty room stopped =>
      cases here.symm.trans there
      obtain ⟨free, sized, joined⟩ := BoundedQueue.offer_eq_ok_iff.1 room
      rw [glance_eq] at turns
      refine ⟨_, called turns rfl, ?_⟩
      exact .stopped (BoundedQueue.poll_eq_none_iff.1 empty) free (sees.symm.trans stopped)
        (joined ▸ BoundedQueue.items_discard_eq_erase idle c)
        (BoundedQueue.items_discard_eq_erase D.active c) (forget_of_offer room)
  | passOver there head marked =>
      cases here.symm.trans there
      cases marked.symm.trans (clear _ _ head)
  | assign there head unmarked =>
      cases here.symm.trans there
      obtain ⟨first, sized⟩ := BoundedQueue.poll_eq_some_iff.1 head
      exact ⟨_, called turns rfl, .handed first sized (BoundedQueue.gains_offerOrDrop _ _)⟩
  | assignDeferred there head unmarked =>
      cases here.symm.trans there
      obtain ⟨first, sized⟩ := BoundedQueue.poll_eq_some_iff.1 head
      exact ⟨_, called turns rfl, .deferred first sized (BoundedQueue.gains_offerOrDrop _ _)⟩

/-! ## A connection in hand -/

/-- A connection in hand passes over exactly the marked exchanges at the head of the queue, and is
then placed. -/
theorem exists_placed (top : w.agenda = .serve d c deferred :: rest)
    (here : w.destinations[d]? = some D) :
    ∃ queue u v, queue.items = D.queue.items.dropWhile (fun e => w.isMarked e.request.id) ∧
      queue.capacity = D.queue.capacity ∧
      u = w.passing d D (D.queue.items.takeWhile fun e => w.isMarked e.request.id) queue ∧
      w.LeadsTo u ∧ u.LeadsTo v ∧ u.Placed d { D with queue := queue } c rest deferred v := by
  obtain ⟨queue, left, sized⟩ := D.queue.exists_dropWhile fun e => w.isMarked e.request.id
  have split : D.queue.items =
      D.queue.items.takeWhile (fun e => w.isMarked e.request.id) ++ queue.items := by
    rw [left, List.takeWhile_append_dropWhile]
  have marked : ∀ e ∈ D.queue.items.takeWhile (fun e => w.isMarked e.request.id),
      w.isMarked e.request.id = true := fun e there =>
    List.mem_takeWhile_imp (p := fun e : Exchange => w.isMarked e.request.id) there
  have passes := leadsTo_passing top here split sized marked
  have there := List.getElem?_set_self (a := { D with queue := queue })
    (List.getElem?_eq_some_iff.1 here).1
  -- what is left begins with an exchange that is not marked, if with any
  have clear : ∀ e behind, queue.poll = some (e, behind) → w.isMarked e.request.id = false := by
    intro e behind head
    have unmarked := List.head?_dropWhile_not (fun e => w.isMarked e.request.id) D.queue.items
    rw [← left, (BoundedQueue.poll_eq_some_iff.1 head).1] at unmarked
    exact unmarked
  obtain ⟨v, goesOn, ends⟩ := placed (w := w.passing d D _ queue) top there clear
  exact ⟨queue, _, v, left, sized, rfl, passes, goesOn, ends⟩

/-! ## Requests that were marked -/

/-- A turn has at most one exchange taken, and its request is not marked. -/
theorem Turned.taken {f : Frame} (turn : Turned f w w') :
    ConnectionPool.taken w'.history = ConnectionPool.taken w.history ∨
    ∃ e, ConnectionPool.taken w'.history = e :: ConnectionPool.taken w.history ∧
      w.isMarked e.request.id = false := by
  cases turn with
  | assign here head unmarked | assignDeferred here head unmarked =>
      exact Or.inr ⟨_, rfl, unmarked⟩
  | fail d e cause => cases cause <;> exact Or.inl rfl
  | parkIdle here empty room runs | parkStopped here empty room stopped =>
      exact Or.inl (congrArg _ (history_glance w))
  | _ => exact Or.inl rfl

/-- No exchange is taken when an operation starts, and marks stay. -/
theorem Started.untaken {op : Operation} {reply : Reply} (start : Started op w reply w') :
    taken w'.history = taken w.history ∧ ∀ r, w.isMarked r = true → w'.isMarked r = true := by
  constructor
  · rcases start.history with same | ⟨d, error, spared⟩ | ⟨d, e, queued, -⟩
    · rw [same]
    · rw [spared]
      rfl
    · rw [queued]
      rfl
  · intro r marked
    rw [isMarked] at marked ⊢
    rcases start.marked with ⟨same, -⟩ | ⟨r', -, -, more⟩
    · rw [same]
      exact marked
    · rw [more, List.contains_cons, marked, Bool.or_true]

/-- An exchange that no connection took before its request was marked is never taken. -/
theorem Course.untaken_of_marked {v : Client} {past : List Client}
    (course : Course allowed w past v) {e : Exchange} (marked : w.isMarked e.request.id = true)
    (untaken : e ∉ taken w.history) : e ∉ taken v.history := by
  refine (course.keeps (P := fun v => v.isMarked e.request.id = true ∧ e ∉ taken v.history)
    ?_ ⟨marked, untaken⟩).2
  intro u u' h next
  rcases next.cases with ⟨f, x, rfl, turn⟩ | ⟨k, rfl⟩ | ⟨op, reply, x, waits, may, start, rfl⟩
  · have still : u'.isMarked e.request.id = true := by
      rw [isMarked, turn.marked]
      exact h.1
    refine ⟨still, ?_⟩
    rcases turn.taken with same | ⟨e', more, unmarked⟩
    · rw [same]
      exact h.2
    · -- what is taken now is not marked, so it is another exchange
      rw [more]
      intro there
      rcases List.mem_cons.1 there with rfl | before
      · cases unmarked.symm.trans h.1
      · exact h.2 before
  · exact h
  · obtain ⟨same, marks⟩ := start.untaken
    refine ⟨marks _ h.1, ?_⟩
    show e ∉ taken x.history
    rw [same]
    exact h.2

/-- What was handed over was taken. -/
theorem Reached.taken_of_handed (run : Reached allowed w) {e : Exchange}
    (handed : .called (.send c e) ∈ w.history) : e ∈ taken w.history := by
  have made : (c, e) ∈ handovers (made w.history) :=
    List.mem_filterMap.2 ⟨_, List.mem_reverse.2 (List.mem_filterMap.2 ⟨_, handed, rfl⟩), rfl⟩
  obtain ⟨d, deferred, took⟩ := mem_assignments.1 (run.mem_assignments_of_handed made)
  exact List.mem_filterMap.2 ⟨_, took, rfl⟩

/-! ## The main statement -/

/-- Whatever the queue, the marks and the pools are, a connection in hand passes over exactly the
marked exchanges at the head of the queue and is then placed. A task that hands an exchange over
does so when it is run, and is not held again. An exchange that no connection took before its
request was marked is never taken, let alone handed over. -/
theorem dispatches (top : w.agenda = .serve d c deferred :: rest)
    (here : w.destinations[d]? = some D) :
    (∃ queue u v, queue.items = D.queue.items.dropWhile (fun e => w.isMarked e.request.id) ∧
      queue.capacity = D.queue.capacity ∧
      u = w.passing d D (D.queue.items.takeWhile fun e => w.isMarked e.request.id) queue ∧
      w.LeadsTo u ∧ u.LeadsTo v ∧ u.Placed d { D with queue := queue } c rest deferred v) ∧
    (∀ u t c e, Reached Anything u → u.awaits = true → ⟨t, .deliver c e⟩ ∈ u.tasks →
      (u.invoke (.perform t)).2.settle = { u with
        tasks := u.tasks.filter (·.id != t)
        history := .returned (.perform t) :: .called (.send c e) ::
          .invoked (.perform t) .done :: u.history } ∧
      ∀ past v, Course Anything (u.invoke (.perform t)).2 past v → ∀ task ∈ v.tasks, task.id ≠ t) ∧
    ∀ u past v e, Reached Anything u → Course Anything u past v →
      u.isMarked e.request.id = true → e ∉ taken u.history →
      e ∉ taken v.history ∧ ∀ c, .called (.send c e) ∉ v.history := by
  refine ⟨exists_placed top here, ?_, ?_⟩
  · intro u t c e run waits there
    exact ⟨run.deliver waits there, fun past v course => run.dropped there course⟩
  · intro u past v e run course marked untaken
    have never := course.untaken_of_marked marked untaken
    exact ⟨never, fun c handed => never ((course.reached run).taken_of_handed handed)⟩

/-- The narrow client while its connection is at work for the first of three requests, the second of
which was given up. -/
def narrowMarked : Client :=
  let w := (narrow.invoke (.send 0 (narrowRequest 0) 0)).2.settle
  let w := (w.invoke (.send 0 (narrowRequest 1) 1)).2.settle
  let w := (w.invoke (.send 0 (narrowRequest 2) 2)).2.settle
  let w := (w.invoke (.settle 0 (.connected 7))).2.settle
  (w.invoke (.mark 1)).2.settle

/-- The connection is in hand again. -/
def narrowSkipping : Client := (narrowMarked.invoke (.release 0 7)).2

theorem reached_narrowMarked : Reached Anything narrowMarked := by
  have new : Reached Anything narrow := .initial (.lone _ _ _ _)
  have first := (new.invoke (.send 0 (narrowRequest 0) 0) (by decide) trivial).settle
  have second := (first.invoke (.send 0 (narrowRequest 1) 1) (by decide) trivial).settle
  have third := (second.invoke (.send 0 (narrowRequest 2) 2) (by decide) trivial).settle
  have made := (third.invoke (.settle 0 (.connected 7)) (by decide) trivial).settle
  exact (made.invoke (.mark 1) (by decide) trivial).settle

/-- The second request is passed over there, and the connection takes the third. The first one was
left to a task, and the second is never handed over. -/
theorem narrowSkipping_dispatches : ∃ D,
    narrowSkipping.agenda = [.serve 0 7 false, .finish (.release 0 7)] ∧
    narrowSkipping.destinations[0]? = some D ∧
    D.queue.items = [⟨1, narrowRequest 1, 1⟩, ⟨2, narrowRequest 2, 2⟩] ∧
    (∃ queue u v,
      queue.items = D.queue.items.dropWhile (fun e => narrowSkipping.isMarked e.request.id) ∧
      queue.capacity = D.queue.capacity ∧
      u = narrowSkipping.passing 0 D
        (D.queue.items.takeWhile fun e => narrowSkipping.isMarked e.request.id) queue ∧
      narrowSkipping.LeadsTo u ∧ u.LeadsTo v ∧
      u.Placed 0 { D with queue := queue } 7 [.finish (.release 0 7)] false v) ∧
    (narrowMarked.invoke (.perform 0)).2.settle = { narrowMarked with
      tasks := []
      history := .returned (.perform 0) :: .called (.send 7 ⟨0, narrowRequest 0, 0⟩) ::
        .invoked (.perform 0) .done :: narrowMarked.history } ∧
    ∀ past v, Course Anything narrowMarked past v →
      ∀ c, .called (.send c ⟨1, narrowRequest 1, 1⟩) ∉ v.history := by
  have top : narrowSkipping.agenda = [.serve 0 7 false, .finish (.release 0 7)] := by decide
  have here : narrowSkipping.destinations[0]? =
      some (narrowSkipping.destinations.get ⟨0, by decide⟩) := List.getElem?_eq_getElem _
  obtain ⟨skips, delivers, never⟩ := dispatches top here
  refine ⟨_, top, here, by decide, skips, ?_, ?_⟩
  · exact (delivers narrowMarked 0 7 ⟨0, narrowRequest 0, 0⟩ reached_narrowMarked (by decide)
      (by decide)).1
  · intro past v course
    exact (never narrowMarked past v ⟨1, narrowRequest 1, 1⟩ reached_narrowMarked course (by decide)
      (by decide)).2

end Client

end ConnectionPool
