import Mathlib.Data.List.Sort
import ConnectionPool.Proofs.Exchange.Acceptance
import ConnectionPool.Proofs.Exchange.Fate
import ConnectionPool.Proofs.Exchange.PromptHandover

/-!
# The order of service

Exchanges are numbered by their tickets in the order in which they join queues. The line of a
destination lists the exchanges that connections took there, in order, and then those that wait
(`Client.line`). A step appends an exchange with a new ticket to one line, or only takes exchanges
out of lines (`Client.Lined`), so every line stays in the order of tickets.

Main statement: an exchange that a free connection takes, that is passed over or that fails after a
failed attempt stands at the head of its queue, and whatever joined before it has left; so
connections take exchanges in the order in which these joined, and an executor that performs tasks
at once hands them over in that order too (`Client.Reached.served_in_order`).
-/

set_option autoImplicit false

namespace ConnectionPool

theorem taken_cons_of_none {ev : Event} (other : ev.taken? = none) (events : List Event) :
    taken (ev :: events) = taken events :=
  List.filterMap_cons_none other

namespace Client

/-- The exchanges that wait at a destination, oldest first. -/
def waiting (w : Client) (d : DestinationId) : List Exchange :=
  (w.destinations[d]?.map (·.queue.items)).getD []

/-- The exchanges that connections took at a destination, in order, and then those that wait. -/
def line (w : Client) (d : DestinationId) : List Exchange :=
  (taken (w.eventsAt d)).reverse ++ w.waiting d

/-- What the order of service depends on: every line, and the next ticket. -/
def lines (w : Client) : (DestinationId → List Exchange) × Nat := (w.line, w.nextTicket)

/-- What a step can do to the lines. -/
inductive Lined (w w' : Client) : Prop
  | fewer (each : ∀ d, List.Sublist (w'.line d) (w.line d)) (same : w'.nextTicket = w.nextTicket)
  /-- One exchange joins one line, with a ticket of its own. -/
  | joined (d₀ : DestinationId) (e : Exchange) (ticket : e.ticket = w.nextTicket)
      (drawn : w'.nextTicket = w.nextTicket + 1)
      (each : ∀ d, List.Sublist (w'.line d) (w.line d ++ if d = d₀ then [e] else []))

/-! ## What the parts of a step do to the lines -/

section Parts

variable (w : Client)

@[simp] theorem lines_push (fs : List Frame) : (w.push fs).lines = w.lines := rfl

theorem lines_record {ev : Event} (other : ev.taken? = none) : (w.record ev).lines = w.lines := by
  have same (d : DestinationId) : (w.record ev).line d = w.line d := by
    simp only [line, eventsAt, record]
    by_cases here : ev.isAt d = true
    · rw [List.filter_cons_of_pos here, taken_cons_of_none other]
      rfl
    · rw [List.filter_cons_of_neg here]
      rfl
  exact congrArg (·, w.nextTicket) (funext same)

@[simp] theorem lines_addAttempt (d : DestinationId) (pooled : Bool) :
    (w.addAttempt d pooled).lines = w.lines := rfl

@[simp] theorem lines_addTask (work : Work) : (w.addTask work).lines = w.lines := rfl

@[simp] theorem lines_conclude (a : AttemptId) (attempt : Attempt) (o : Outcome) :
    (w.conclude a attempt o).lines = w.lines := rfl

@[simp] theorem lines_dropTask (t : TaskId) : (w.dropTask t).lines = w.lines := rfl

@[simp] theorem lines_glance : w.glance.lines = w.lines := by
  rw [glance_eq]
  rfl

@[simp] theorem lines_countFate (cause : Cause) : (w.countFate cause).lines = w.lines := by
  cases cause <;> rfl

@[simp] theorem lines_countRemoved : w.countRemoved.lines = w.lines := rfl

@[simp] theorem lines_countRejected : w.countRejected.lines = w.lines := rfl

@[simp] theorem lines_countQueued : w.countQueued.lines = w.lines := rfl

@[simp] theorem lines_countCreated : w.countCreated.lines = w.lines := rfl

@[simp] theorem lines_countFailure : w.countFailure.lines = w.lines := rfl

/-- A destination that was just made has an empty line. -/
@[simp] theorem lines_locate (a : Address) : (w.locate a).2.lines = w.lines := by
  simp only [locate]
  split
  · rfl
  · have same (d : DestinationId) :
        ({ w with
            destinations := w.destinations ++ [.fresh a w.limits]
            registry := w.registry ++ [(a, w.destinations.length)] } : Client).waiting d =
          w.waiting d := by
      simp only [waiting]
      rcases Nat.lt_trichotomy d w.destinations.length with old | rfl | beyond
      · rw [List.getElem?_append_left old]
      · rw [List.getElem?_concat_length, List.getElem?_eq_none_iff.2 (Nat.le_refl _)]
        rfl
      · rw [List.getElem?_eq_none_iff.2 (List.length_append.trans_le beyond),
          List.getElem?_eq_none_iff.2 (Nat.le_of_lt beyond)]
    exact congrArg (·, w.nextTicket) (funext fun d => congrArg (_ ++ ·) (same d))

end Parts

variable {allowed : Client → Operation → Prop} {w w' : Client} {d : DestinationId} {e : Exchange}

theorem waiting_of_here {D : Destination} (here : w.destinations[d]? = some D) :
    w.waiting d = D.queue.items := by
  rw [waiting, here]
  rfl

theorem waiting_putDestination {D D' : Destination} (here : w.destinations[d]? = some D)
    (x : DestinationId) :
    (w.putDestination d D').waiting x = if x = d then D'.queue.items else w.waiting x := by
  by_cases same : x = d
  · subst same
    rw [if_pos rfl]
    exact waiting_of_here (here_putDestination here)
  · rw [if_neg same, waiting, elsewhere_putDestination (Ne.symm same)]
    rfl

/-- A destination that keeps its queue keeps its line. -/
theorem lines_putDestination {D D' : Destination} (here : w.destinations[d]? = some D)
    (same : D'.queue = D.queue) : (w.putDestination d D').lines = w.lines := by
  have kept (x : DestinationId) : (w.putDestination d D').waiting x = w.waiting x := by
    rw [waiting_putDestination here]
    split
    · next eq => rw [eq, waiting_of_here here, same]
    · rfl
  exact congrArg (·, w.nextTicket) (funext fun x => congrArg (_ ++ ·) (kept x))

/-- A destination whose queue gets shorter leaves the other lines as they are. -/
theorem line_putDestination_sublist {D D' : Destination} (here : w.destinations[d]? = some D)
    (fewer : List.Sublist D'.queue.items D.queue.items) (x : DestinationId) :
    List.Sublist ((w.putDestination d D').line x) (w.line x) := by
  refine List.Sublist.append_left ?_ _
  rw [waiting_putDestination here]
  split
  · next eq =>
      rw [eq, waiting_of_here here]
      exact fewer
  · exact List.Sublist.refl _

/-- A connection that takes the head of a queue moves it within the line. -/
theorem lines_assign {D : Destination} {c : ConnectionId} {deferred : Bool}
    (here : w.destinations[d]? = some D) (D' : Destination)
    (head : D.queue.poll = some (e, D'.queue)) :
    ((w.putDestination d D').record (.assigned d c e deferred)).lines = w.lines := by
  refine congrArg (·, w.nextTicket) (funext fun x => ?_)
  have polled := (BoundedQueue.poll_eq_some_iff.1 head).1
  show (taken (List.filter _ (_ :: w.history))).reverse ++ (w.putDestination d D').waiting x = _
  rw [waiting_putDestination here]
  by_cases same : x = d
  · subst same
    have own : taken (.assigned x c e deferred :: w.eventsAt x) = e :: taken (w.eventsAt x) := rfl
    rw [List.filter_cons_of_pos (by simp [Event.destination?]), if_pos rfl]
    show (taken (.assigned x c e deferred :: w.eventsAt x)).reverse ++ _ = _
    rw [own, List.reverse_cons, List.append_assoc, line, waiting_of_here here, polled]
    rfl
  · rw [List.filter_cons_of_neg (by simp [Event.destination?, Ne.symm same]), if_neg same]
    rfl

theorem lined_of_eq (same : w'.lines = w.lines) : Lined w w' := by
  obtain ⟨lines, ticket⟩ := Prod.mk.inj same
  refine .fewer (fun d => ?_) ticket
  rw [lines]

/-! ## Steps -/

theorem Turned.lined {f : Frame} (turn : Turned f w w') : Lined w w' := by
  cases turn with
  | call c | finish op => exact lined_of_eq (lines_record w rfl)
  | within c | adrift names missing | acquireFull here nothing full | takeNone here nothing
  | parkSurplus here empty full => exact lined_of_eq rfl
  | fail d e cause =>
      apply lined_of_eq
      rw [lines_push, lines_countFate]
      exact lines_record w rfl
  | acquireIdle here head | acquireNew here nothing free | takeIdle here head
  | removeLast here empty | removeMore here waiting | closeIdle here | closeActive here =>
      exact lined_of_eq (lines_putDestination here rfl)
  | parkIdle here empty room runs | parkStopped here empty room stopped =>
      rw [← destinations_glance] at here
      exact lined_of_eq (Eq.trans (lines_putDestination here rfl) (lines_glance w))
  | passOver here head marked =>
      refine .fewer (line_putDestination_sublist here ?_) rfl
      rw [(BoundedQueue.poll_eq_some_iff.1 head).1]
      exact List.sublist_cons_self _ _
  | assign here head unmarked | assignDeferred here head unmarked =>
      exact lined_of_eq (lines_assign here _ head)
  | failQueued here =>
      exact .fewer (line_putDestination_sublist here (List.nil_sublist _)) rfl

/-- An exchange that joins a queue joins the line with a ticket of its own, and it may be that an
exchange is taken back. -/
theorem lined_of_offer {dest D : Destination} {queue : BoundedQueue Exchange}
    (here : w.destinations[d]? = some dest) (room : dest.queue.offer e = .ok queue)
    (ticket : e.ticket = w.nextTicket) (left : List.Sublist D.queue.items queue.items) :
    Lined w (w.drawTicket.putDestination d D) := by
  refine .joined d e ticket rfl fun x => ?_
  rw [line, line, List.append_assoc]
  refine List.Sublist.append_left ?_ _
  rw [waiting_putDestination (w := w.drawTicket) here]
  split
  · next eq =>
      rw [eq, waiting_of_here here, ← (BoundedQueue.offer_eq_ok_iff.1 room).2.2]
      exact left
  · rw [List.append_nil]
    exact List.Sublist.refl _

theorem Lined.of_lines {v v' : Client} (h : Lined v v') (first : v.lines = w.lines)
    (last : w'.lines = v'.lines) : Lined w w' := by
  obtain ⟨first, ticket⟩ := Prod.mk.inj first
  obtain ⟨last, ticket'⟩ := Prod.mk.inj last
  cases h with
  | fewer each same =>
      refine .fewer (fun d => ?_) (by rw [ticket', same, ticket])
      rw [last, ← first]
      exact each d
  | joined d₀ e own drawn each =>
      refine .joined d₀ e (own.trans ticket) (by rw [ticket', drawn, ticket]) fun d => ?_
      rw [last, ← first]
      exact each d

theorem Sent.lined {dest : Destination} {r : Request} {l : ListenerId} {reply : Reply}
    (sent : Sent d dest r l w reply w') (here : w.destinations[d]? = some dest) : Lined w w' := by
  -- the two checks of the running flag are at no line
  have glanced : w.glance.glance.lines = w.lines := by simp
  have here' : w.glance.glance.destinations[d]? = some dest := by
    rw [destinations_glance, destinations_glance]
    exact here
  have checks : w.glance.drawTicket.glance = w.glance.glance.drawTicket := by
    simp only [glance_eq, drawTicket]
  have ticket : w.glance.nextTicket = w.glance.glance.nextTicket := by
    rw [glance_eq w.glance]
  cases sent with
  | mismatched error => exact lined_of_eq rfl
  | stopped meant stopped | full meant runs full => exact lined_of_eq (lines_glance w)
  | takenBack meant runs room stops taken =>
      rw [checks]
      have joined := lined_of_offer (D := { dest with queue := _ }) here' room ticket
        (BoundedQueue.sublist_of_removeFirst taken)
      exact joined.of_lines glanced (lines_countRejected _)
  | accepted meant runs room stillRuns =>
      rw [checks]
      have joined := lined_of_offer (D := { dest with queue := _ }) here' room ticket
        (List.Sublist.refl _)
      refine joined.of_lines glanced ?_
      rw [lines_push, lines_countQueued]
      exact lines_record _ rfl

theorem Started.lined {op : Operation} {reply : Reply} (start : Started op w reply w') :
    Lined w w' := by
  cases start with
  | send here sent => exact sent.lined here
  | submit runs meets here sent => exact (sent.lined here).of_lines (by simp) rfl
  | submitAdrift runs meets missing => exact lined_of_eq (by simp)
  | locate meets => exact lined_of_eq (lines_locate w _)
  | submitStopped stopped | submitUnsupported runs nowhere | releaseStopped here stopped
  | releaseStray here runs nothing => exact lined_of_eq (lines_glance w)
  | abort here taken =>
      exact .fewer
        (line_putDestination_sublist here (BoundedQueue.sublist_of_removeFirst taken)) rfl
  | release here runs taken =>
      rw [← destinations_glance] at here
      exact lined_of_eq (Eq.trans (lines_putDestination here rfl) (lines_glance w))
  | settleFailed underWay unsettled pooled here =>
      exact lined_of_eq (lines_putDestination (w := w.conclude _ _ _) here rfl)
  | spare held work here empty => exact lined_of_eq (lines_record (w.dropTask _) rfl)
  | failHead held work here head =>
      refine .fewer (line_putDestination_sublist (w := w.dropTask _) here ?_) rfl
      rw [(BoundedQueue.poll_eq_some_iff.1 head).1]
      exact List.sublist_cons_self _ _
  | _ => exact lined_of_eq rfl

/-- A step appends one exchange to one line, or only takes exchanges out of lines. -/
theorem Step.lined (next : Step allowed w w') : Lined w w' := by
  rcases next.cases with ⟨f, v, rfl, turn⟩ | ⟨c, rfl⟩ | ⟨op, reply, v, waits, may, start, rfl⟩
  · exact turn.lined.of_lines rfl rfl
  · exact lined_of_eq rfl
  · exact start.lined.of_lines rfl (lines_record v rfl)

/-! ## Lines are in order -/

/-- Every line is in the order of tickets, which are below the next one, and no two lines have a
ticket in common. -/
structure Ordered (w : Client) : Prop where
  sorted : ∀ d, (w.line d).Pairwise (·.ticket < ·.ticket)
  below : ∀ d, ∀ e ∈ w.line d, e.ticket < w.nextTicket
  apart : ∀ d d', ∀ e ∈ w.line d, ∀ e' ∈ w.line d', e.ticket = e'.ticket → d = d'

theorem Ordered.lined (h : w.Ordered) (lined : Lined w w') : w'.Ordered := by
  cases lined with
  | fewer each same =>
      constructor
      · exact fun d => (h.sorted d).sublist (each d)
      · intro d e he
        rw [same]
        exact h.below d e ((each d).subset he)
      · exact fun d d' e he e' he' => h.apart d d' e ((each d).subset he) e' ((each d').subset he')
  | joined d₀ new ticket drawn each =>
      -- what is in a line now was there before, or is what joined
      have cases {d : DestinationId} {e : Exchange} (there : e ∈ w'.line d) :
          e ∈ w.line d ∨ e = new ∧ d = d₀ := by
        rcases List.mem_append.1 ((each d).subset there) with old | joined
        · exact Or.inl old
        · split at joined
          · next same => exact Or.inr ⟨List.mem_singleton.1 joined, same⟩
          · cases joined
      constructor
      · intro d
        refine List.Pairwise.sublist (each d) (List.pairwise_append.2 ⟨h.sorted d, ?_, ?_⟩)
        · split
          · exact List.pairwise_singleton _ _
          · exact List.Pairwise.nil
        · intro e he e' he'
          split at he'
          · rw [List.mem_singleton.1 he', ticket]
            exact h.below d e he
          · cases he'
      · intro d e there
        rw [drawn]
        rcases cases there with old | ⟨rfl, -⟩
        · exact Nat.lt_succ_of_lt (h.below d e old)
        · exact Nat.lt_succ_of_le (Nat.le_of_eq ticket)
      · intro d d' e he e' he' same
        rcases cases he with old | ⟨rfl, here⟩
        · rcases cases he' with old' | ⟨rfl, -⟩
          · exact h.apart d d' e old e' old' same
          · exact absurd (same.trans ticket) (Nat.ne_of_lt (h.below d e old))
        · rcases cases he' with old' | ⟨-, here'⟩
          · exact absurd (same.symm.trans ticket) (Nat.ne_of_lt (h.below d' e' old'))
          · exact here.trans here'.symm

theorem Reached.ordered (run : Reached allowed w) : w.Ordered := by
  induction run with
  | initial new =>
      have none (d : DestinationId) : ∀ {v : Client}, Initial v → v.line d = [] := by
        intro v new
        cases new with
        | fresh name limits listeners => rfl
        | lone name limits listeners a => cases d <;> rfl
      constructor
      · intro d
        rw [none d new]
        exact List.Pairwise.nil
      · intro d e there
        rw [none d new] at there
        cases there
      · intro d d' e there
        rw [none d new] at there
        cases there
  | step _ next ih => exact ih.lined next.lined

/-! ## Taking up -/

/-- The step from `w` to `w'` takes the exchange off its queue because its turn has come: a free
connection takes it, it is passed over, or it is to fail because an attempt failed. -/
inductive TakesUp (d : DestinationId) (e : Exchange) (w w' : Client) : Prop
  | assigned {c : ConnectionId} {deferred : Bool}
      (noted : w'.history = .assigned d c e deferred :: w.history)
  | passedOver {c : ConnectionId} {deferred : Bool} {rest : List Frame}
      (inHand : w.agenda = .serve d c deferred :: rest)
      (fails : w'.agenda = .fail d e (.aborted passedOverReason) :: w.agenda)
  | unconnected {t : TaskId} {error : TransportError} {rest : List Frame}
      (performs : w' = (w.invoke (.perform t)).2)
      (fails : w'.agenda = .fail d e (.unconnected error) :: rest)

theorem waiting_of_poll {D : Destination} (here : w.destinations[d]? = some D) (D' : Destination)
    (head : D.queue.poll = some (e, D'.queue))
    (put : w'.destinations = (w.putDestination d D').destinations) :
    w.waiting d = e :: w'.waiting d := by
  have now : w'.waiting d = D'.queue.items := by
    apply waiting_of_here
    rw [put]
    exact here_putDestination here
  rw [waiting_of_here here, now]
  exact (BoundedQueue.poll_eq_some_iff.1 head).1

/-- A connection takes the head of the queue. -/
theorem Turned.head_of_assigned {f : Frame} {c : ConnectionId} {deferred : Bool}
    (turn : Turned f w w') (noted : w'.history = .assigned d c e deferred :: w.history) :
    w.waiting d = e :: w'.waiting d := by
  cases turn with
  | assign here head unmarked | assignDeferred here head unmarked =>
      cases noted
      exact waiting_of_poll here _ head rfl
  | fail d e cause => cases cause <;> cases noted
  | call c | finish op => cases noted
  | parkIdle here empty room runs | parkStopped here empty room stopped =>
      exact absurd ((history_glance w).symm.trans noted) List.ne_cons_self
  | _ => exact absurd noted List.ne_cons_self

/-- What is passed over is the head of the queue. -/
theorem Turned.head_of_passedOver {c : ConnectionId} {deferred : Bool} {cause : Cause}
    (turn : Turned (.serve d c deferred) w w')
    (fails : w'.agenda = .fail d e cause :: .serve d c deferred :: w.agenda) :
    w.waiting d = e :: w'.waiting d := by
  cases turn with
  | passOver here head marked =>
      cases fails
      exact waiting_of_poll here _ head rfl
  | parkSurplus here empty full | parkStopped here empty room stopped
  | assign here head unmarked | assignDeferred here head unmarked => cases fails
  | adrift names missing | parkIdle here empty room runs =>
      have length := congrArg List.length fails
      simp at length
      omega

/-- What fails after a failed attempt is the head of the queue. -/
theorem Started.head_of_unconnected {t : TaskId} {reply : Reply} {error : TransportError}
    {rest : List Frame} (start : Started (.perform t) (w.push [.finish (.perform t)]) reply w')
    (fails : w'.agenda = .fail d e (.unconnected error) :: rest) :
    w.waiting d = e :: w'.waiting d := by
  cases start with
  | failHead held work here head =>
      cases fails
      exact waiting_of_poll (w := w) here _ head rfl
  | ignored op | deliver held work | failHeadAdrift held work missing
  | spare held work here empty => cases fails

/-- What is taken up stands at the head of its queue. -/
theorem Step.head_of_takesUp (next : Step allowed w w') (takes : TakesUp d e w w') :
    w.waiting d = e :: w'.waiting d := by
  cases takes with
  | assigned noted =>
      rcases next.cases with ⟨f, v, rfl, turn⟩ | ⟨c, rfl⟩ | ⟨op, reply, v, waits, may, start, rfl⟩
      · exact turn.head_of_assigned noted
      · exact absurd noted List.ne_cons_self
      · cases noted
  | passedOver inHand fails =>
      rcases next.cases with ⟨f, v, rfl, turn⟩ | ⟨c, rfl⟩ | ⟨op, reply, v, waits, may, start, rfl⟩
      · cases inHand
        exact turn.head_of_passedOver fails
      · cases inHand
      · -- between two frames of an operation nothing is invoked
        rw [awaits, inHand] at waits
        cases waits
  | @unconnected t error rest performs fails =>
      subst performs
      exact (started_start (.perform t) (w.push [.finish (.perform t)])).head_of_unconnected fails

/-- What joined before an exchange that is taken up does not wait any more. -/
theorem Reached.none_before (run : Reached allowed w) (next : Step allowed w w')
    (takes : TakesUp d e w w') {e' : Exchange} (earlier : e'.ticket < e.ticket) :
    e' ∉ w.waiting d := by
  intro waits
  have sorted := (List.pairwise_append.1 (run.ordered.sorted d)).2.1
  rw [next.head_of_takesUp takes] at sorted waits
  rcases List.mem_cons.1 waits with rfl | later
  · exact Nat.lt_irrefl _ earlier
  · exact Nat.lt_asymm earlier (List.rel_of_pairwise_cons sorted later)

/-! ## The order in which connections take exchanges -/

/-- Tickets that are in order and below a number are some of the numbers below it, in order. -/
theorem sublist_range {ts : List Nat} {n : Nat} (sorted : ts.Pairwise (· < ·))
    (below : ∀ t ∈ ts, t < n) : List.Sublist ts (List.range n) := by
  have distinct : ts.Nodup := sorted.imp Nat.ne_of_lt
  exact List.sublist_of_subperm_of_pairwise
    (List.subperm_of_subset distinct fun t ht => List.mem_range.2 (below t ht)) sorted
    List.pairwise_lt_range

/-- Connections take exchanges in the order in which these joined. -/
theorem Ordered.taken_sublist (h : w.Ordered) (d : DestinationId) :
    List.Sublist ((taken (w.eventsAt d)).reverse.map (·.ticket)) (List.range w.nextTicket) := by
  have first := List.sublist_append_left (taken (w.eventsAt d)).reverse (w.waiting d)
  apply sublist_range
  · exact List.pairwise_map.2 ((h.sorted d).sublist first)
  · intro t ht
    obtain ⟨e, he, rfl⟩ := List.mem_map.1 ht
    exact h.below d e (first.subset he)

end Client

/-- The exchanges that were accepted have rising tickets. -/
theorem Ledger.Entry.rising {s s' : Ledger} (entry : s.Entry s') (ticketed : s.Ticketed)
    (h : (acceptances s.history).Pairwise fun x y => y.2.ticket < x.2.ticket) :
    (acceptances s'.history).Pairwise fun x y => y.2.ticket < x.2.ticket := by
  cases entry with
  | accept d r l plain => exact List.pairwise_cons.2 ⟨ticketed.below, h⟩
  | _ => exact h

namespace Client

variable {allowed : Client → Operation → Prop} {w w' : Client} {d : DestinationId} {e : Exchange}

theorem Reached.rising (run : Reached allowed w) :
    (acceptances w.history).Pairwise fun x y => y.2.ticket < x.2.ticket := by
  have both := run.ledger (P := fun s => s.Ticketed ∧
    (acceptances s.history).Pairwise fun x y => y.2.ticket < x.2.ticket)
    ⟨⟨List.nodup_nil, List.forall_mem_nil _⟩, List.Pairwise.nil⟩
    (fun h entry => ⟨h.1.entry entry, entry.rising h.1 h.2⟩)
    fun _ _ h => ⟨⟨h.1.apart, h.1.below⟩, h.2⟩
  exact both.2

/-- What a destination accepted is, in order, a part of what was accepted anywhere. -/
theorem accepted_sublist (w : Client) (d : DestinationId) :
    List.Sublist (accepted (w.eventsAt d)) ((acceptances w.history).map Prod.snd) := by
  have same : (acceptances w.history).map Prod.snd = accepted w.history := by
    rw [acceptances, accepted, List.map_filterMap]
    refine List.filterMap_congr fun ev _ => ?_
    cases ev <;> rfl
  rw [same]
  exact List.filter_sublist.filterMap _

/-- In a steady run, connections take what was accepted, in the order in which it was. -/
theorem Reached.taken_sublist_accepted (run : Reached Steady w) (d : DestinationId) :
    List.Sublist (taken (w.eventsAt d)) (accepted (w.eventsAt d)) := by
  have antisymm : Std.Antisymm fun x y : Exchange => y.ticket < x.ticket :=
    ⟨fun x y less more => absurd less (Nat.lt_asymm more)⟩
  have sorted : (taken (w.eventsAt d)).Pairwise fun x y => y.ticket < x.ticket := by
    have line := (run.ordered.sorted d).sublist (List.sublist_append_left _ _)
    exact List.pairwise_reverse.1 line
  have rising : (accepted (w.eventsAt d)).Pairwise fun x y => y.ticket < x.ticket :=
    List.Pairwise.sublist (accepted_sublist w d) (List.pairwise_map.2 run.rising)
  have contained : taken (w.eventsAt d) ⊆ accepted (w.eventsAt d) := by
    intro e he
    obtain ⟨ev, there, takes⟩ := List.mem_filterMap.1 he
    obtain ⟨happened, about⟩ := List.mem_filter.1 there
    have accepts := run.accepted_of_event happened (Event.isAt_iff.1 about) (Or.inl takes)
    refine List.mem_filterMap.2 ⟨_, List.mem_filter.2 ⟨accepts, ?_⟩, rfl⟩
    exact Event.isAt_iff.2 rfl
  have distinct : (taken (w.eventsAt d)).Nodup := by
    refine List.Pairwise.imp (fun {a b} less same => ?_) sorted
    exact Nat.ne_of_gt less (congrArg Exchange.ticket same)
  exact List.sublist_of_subperm_of_pairwise (List.subperm_of_subset distinct contained) sorted
    rising

/-- The exchanges that were handed over, in order, of those that connections took at a
destination. -/
def handedAt (w : Client) (d : DestinationId) : List Exchange :=
  ((handovers (made w.history)).map Prod.snd).filter fun e => decide (e ∈ taken (w.eventsAt d))

/-- Of what was taken anywhere, a destination had just what was taken there. -/
theorem Ordered.filter_taken (h : w.Ordered) (d : DestinationId) :
    (taken w.history).filter (fun e => decide (e ∈ taken (w.eventsAt d))) =
      taken (w.eventsAt d) := by
  have inLine {d : DestinationId} {e : Exchange} (there : e ∈ taken (w.eventsAt d)) :
      e ∈ w.line d := List.mem_append_left _ (List.mem_reverse.2 there)
  have takenAt {d : DestinationId} {c : ConnectionId} {e : Exchange} {deferred : Bool}
      (happened : .assigned d c e deferred ∈ w.history) : e ∈ taken (w.eventsAt d) :=
    List.mem_filterMap.2 ⟨_, List.mem_filter.2 ⟨happened, Event.isAt_iff.2 rfl⟩, rfl⟩
  show List.filter _ (List.filterMap _ w.history) = List.filterMap _ (w.history.filter _)
  rw [List.filter_filterMap, List.filterMap_filter]
  refine List.filterMap_congr fun ev happened => ?_
  cases ev with
  | assigned d' c e deferred =>
      by_cases here : d' = d
      · subst here
        have own := takenAt happened
        rw [if_pos (Event.isAt_iff.2 rfl)]
        exact Option.filter_some_pos (decide_eq_true own)
      · -- an exchange is in one line only
        have other : e ∉ taken (w.eventsAt d) := fun there =>
          here (h.apart _ _ e (inLine (takenAt happened)) e (inLine there) rfl)
        have elsewhere : ¬ (Event.assigned d' c e deferred).isAt d = true := fun is =>
          here (Option.some.inj (Event.isAt_iff.1 is : some d' = some d))
        rw [if_neg elsewhere]
        exact Option.filter_some_neg (decide_eq_false other)
  | _ => exact (ite_self _).symm

/-- Where tasks are performed at once, a destination's exchanges are handed over in the order in
which connections took them, and in the end all of them are. -/
theorem AtOnce.handedAt_prefix (run : AtOnce allowed w) (d : DestinationId) :
    w.handedAt d <+: (taken (w.eventsAt d)).reverse ∧
      (w.agenda = [] → w.handedAt d = (taken (w.eventsAt d)).reverse) := by
  have same : ((assignments w.history).reverse.map Prod.snd) = (taken w.history).reverse := by
    rw [List.map_reverse, assignments, List.map_filterMap]
    refine congrArg List.reverse (List.filterMap_congr fun ev _ => ?_)
    cases ev <;> rfl
  have whole : ((assignments w.history).reverse.map Prod.snd).filter
      (fun e => decide (e ∈ taken (w.eventsAt d))) = (taken (w.eventsAt d)).reverse := by
    rw [same, List.filter_reverse, run.reached.ordered.filter_taken]
  constructor
  · rw [← whole]
    exact (run.handed_in_order.map _).filter _
  · intro done
    rw [← whole, handedAt, run.handed_all (run.clear.quiet_of_done done)]

/-- Exchanges are served in the order in which they joined. What a connection takes, what is passed
over and what fails after a failed attempt stands at the head of its queue, and whatever joined
before it has left the queue. So connections, all of a destination together, take exchanges in the
order in which these joined; and where tasks are performed at once, they are handed over in that
order too. -/
theorem Reached.served_in_order (run : Reached allowed w) (d : DestinationId) :
    (∀ e w', Step allowed w w' → TakesUp d e w w' →
      w.waiting d = e :: w'.waiting d ∧ ∀ e', e'.ticket < e.ticket → e' ∉ w.waiting d) ∧
    List.Sublist ((taken (w.eventsAt d)).reverse.map (·.ticket)) (List.range w.nextTicket) ∧
    (Reached Steady w → List.Sublist (taken (w.eventsAt d)) (accepted (w.eventsAt d))) ∧
    (AtOnce allowed w → w.handedAt d <+: (taken (w.eventsAt d)).reverse ∧
      (w.agenda = [] → w.handedAt d = (taken (w.eventsAt d)).reverse)) := by
  refine ⟨fun e w' next takes => ⟨next.head_of_takesUp takes, fun e' earlier => ?_⟩,
    run.ordered.taken_sublist d, fun steady => steady.taken_sublist_accepted d,
    fun atOnce => atOnce.handedAt_prefix d⟩
  exact run.none_before next takes earlier

/-- A connection was made for an exchange that waits, and is going to serve. -/
def narrowMade : Client :=
  let sent := (narrow.invoke (.send 0 (narrowRequest 0) 0)).2.turn.turn.resume.turn.turn
  (sent.invoke (.settle 0 (.connected 7))).2

/-- The connection took the exchange, and the task was performed at once. -/
def narrowPrompt : Client :=
  (narrowMade.turn.turn.invoke (.perform 0)).2.turn.resume.turn.resume.turn

theorem atOnce_narrowMade : AtOnce Anything narrowMade := by
  have new : AtOnce Anything narrow := .initial (.lone _ _ _ _)
  have asked := ((new.invoke (.send 0 (narrowRequest 0) 0) rfl trivial).turn rfl).turn rfl
  have sent := ((asked.resume rfl rfl).turn rfl).turn rfl
  exact sent.invoke (.settle 0 (.connected 7)) rfl trivial

theorem atOnce_narrowPrompt : AtOnce Anything narrowPrompt := by
  have given := (atOnce_narrowMade.turn rfl).turn rfl
  have handed := (given.perform rfl trivial).turn rfl
  have back := (handed.resume rfl rfl).turn rfl
  exact (back.resume rfl rfl).turn rfl

theorem narrowPrompt_served :
    narrowMade.waiting 0 = ⟨0, narrowRequest 0, 0⟩ :: narrowMade.turn.waiting 0 ∧
      narrowPrompt.handedAt 0 = [⟨0, narrowRequest 0, 0⟩] := by
  constructor
  · have takes : TakesUp 0 ⟨0, narrowRequest 0, 0⟩ narrowMade narrowMade.turn := .assigned rfl
    have served := atOnce_narrowMade.reached.served_in_order 0
    exact (served.1 _ _ (.turn rfl) takes).1
  · have served := atOnce_narrowPrompt.reached.served_in_order 0
    exact (served.2.2.2 atOnce_narrowPrompt).2 rfl

end Client

end ConnectionPool
