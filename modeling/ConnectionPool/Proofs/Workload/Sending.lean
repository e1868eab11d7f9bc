import ConnectionPool.Proofs.Client.Unrolled
import ConnectionPool.Proofs.Loopback.Waiting
import ConnectionPool.Workload

/-!
# Sending a workload

As long as no connection is there, nothing happens on the transport but that connections are asked
for, and each queue holds the requests that were accepted for its destination and not taken back.
`Stocked` says this of what was sent so far. Main statements: a request is refused where that queue
is full and accepted where it is not (`Stocked.refuse`, `Stocked.accept`), and one that is given up
is taken back (`Stocked.takeBack`).
-/

set_option autoImplicit false

namespace ConnectionPool

namespace BoundedQueue

variable {α : Type}

theorem extract_last {p : α → Bool} {l : List α} {a : α} (own : p a = true)
    (first : ∀ b ∈ l, p b = false) : extract p (l ++ [a]) = some (a, l) := by
  induction l with
  | nil => simp [extract, own]
  | cons b l ih =>
      obtain ⟨other, further⟩ := List.forall_mem_cons.1 first
      rw [List.cons_append, extract, if_neg (by simp [other]), ih further]
      rfl

/-- The last item is taken where no other satisfies `p`. -/
theorem removeFirst_last {q : BoundedQueue α} {p : α → Bool} {l : List α} {a : α}
    (items : q.items = l ++ [a]) (own : p a = true) (first : ∀ b ∈ l, p b = false) :
    ∃ q', q.removeFirst p = some (a, q') ∧ q'.items = l ∧ q'.capacity = q.capacity := by
  have taken : extract p q.items = some (a, l) := by
    rw [items]
    exact extract_last own first
  cases found : q.removeFirst p with
  | none => cases taken.symm.trans (removeFirst_eq_none_iff.1 found)
  | some x =>
      obtain ⟨b, q'⟩ := x
      obtain ⟨same, capacity⟩ := removeFirst_eq_some_iff.1 found
      cases taken.symm.trans same
      exact ⟨q', rfl, rfl, capacity⟩

end BoundedQueue

namespace Workload

open Loopback Loopback.Simulation

variable {w : Workload} {limits : Limits}

/-! ## Where requests go -/

/-- The destination that the `i`-th request is for. -/
def place (w : Workload) (i : Nat) : Nat := i % max w.destinations 1

/-- The address of the `k`-th destination. -/
def address (k : Nat) : Address := ⟨"http", s!"svc-{k}.local", 80⟩

theorem address?_request (w : Workload) (i : Nat) :
    (w.request i).address? = some (address (w.place i)) := rfl

theorem address_injective {k k' : Nat} (same : address k = address k') : k = k' := by
  have hosts : "svc-" ++ k.repr ++ ".local" = "svc-" ++ k'.repr ++ ".local" :=
    congrArg Address.host same
  have digits := congrArg String.toList hosts
  simp only [String.toList_append, List.append_cancel_left_eq, List.append_cancel_right_eq,
    Nat.repr_eq_ofList_toDigits, String.toList_ofList] at digits
  rw [← Nat.ofDigitChars_ten_toDigits (n := k), digits, Nat.ofDigitChars_ten_toDigits]

/-- The first `m` destinations, each under its address. -/
def routes (m : Nat) : List (Address × DestinationId) := (List.range m).map fun k => (address k, k)

theorem routes_succ (m : Nat) : routes (m + 1) = routes m ++ [(address m, m)] := by
  simp [routes, List.range_succ]

theorem lookup_routes (m k : Nat) :
    (routes m).lookup (address k) = if k < m then some k else none := by
  induction m with
  | zero => rfl
  | succ m ih =>
      rw [routes_succ, List.lookup_append, ih]
      rcases Nat.lt_trichotomy k m with less | rfl | more
      · simp [less, Nat.lt_succ_of_lt less]
      · simp
      · have other : (address k == address m) = false :=
          beq_eq_false_iff_ne.2 fun same => Nat.ne_of_gt more (address_injective same)
        simp [Nat.not_lt.2 (Nat.le_of_lt more), Nat.not_lt.2 more, List.lookup_cons, other]

/-! ## What the client holds while a workload is sent -/

/-- The exchange of the `i`-th request has failed by an abort of the workload. -/
def TakenBack (w : Workload) (history : List Event) (i : Nat) : Prop :=
  ∃ ticket, .failed (w.place i) ⟨ticket, w.request i, i⟩ (.aborted abortReason) ∈ history

theorem TakenBack.mono {history history' : List Event} {i : Nat} (h : w.TakenBack history i)
    (more : ∀ ev ∈ history, ev ∈ history') : w.TakenBack history' i :=
  h.imp fun _ there => more _ there

/-- What the `k`-th destination holds after the requests `sent` were accepted, of which all but
those `kept` were taken back. No connection is there yet. -/
structure Holds (w : Workload) (limits : Limits) (sent kept : List Nat) (k : Nat)
    (D : Destination) : Prop where
  address : D.address = address k
  idle : D.idle.items = []
  limit : D.slots.limit = limits.connections
  used : D.slots.used = min limits.connections (sent.countP (w.place · == k))
  capacity : D.queue.capacity = limits.queue
  queue : D.queue.items.map (fun e => (e.request, e.listener)) =
    (kept.filter (w.place · == k)).map fun j => (w.request j, j)

/-- The `k`-th destination, as it is or as it would be made. -/
def poolAt (v : Client) (k : Nat) : Destination :=
  v.destinations[k]?.getD (.fresh (address k) v.limits)

/-- What a client with the first `m` destinations holds then. -/
structure Stock (w : Workload) (limits : Limits) (m : Nat) (sent kept : List Nat) (v : Client) :
    Prop where
  unheard : v.listeners = 0
  limited : v.limits = limits
  registry : v.registry = routes m
  made : v.destinations.length = m
  pools : ∀ k, w.Holds limits sent kept k (poolAt v k)
  sends : sends v.history = (sent.map fun i => (w.request i, i)).reverse
  queued : v.metrics.requestsQueued = sent.length
  takenBack : ∀ i ∈ sent, i ∉ kept → w.TakenBack v.history i

variable {sent kept : List Nat} {m : Nat} {v u : Client} {D : Destination}

theorem poolAt_of_here {k : Nat} (here : v.destinations[k]? = some D) : poolAt v k = D := by
  rw [poolAt, here]
  rfl

/-- Only the destination that is replaced differs. -/
theorem poolAt_of_set {k : Nat} (here : v.destinations[k]? = some D) {D' : Destination}
    (destinations : u.destinations = v.destinations.set k D') (limits : u.limits = v.limits)
    (k' : Nat) : poolAt u k' = if k = k' then D' else poolAt v k' := by
  rw [poolAt, destinations, limits, List.getElem?_set]
  split
  · next own =>
      subst own
      rw [if_pos (List.getElem?_eq_some_iff.1 here).1]
      rfl
  · rfl

/-- A destination that is made is as it was counted on before. -/
theorem poolAt_of_append {k : Nat} (made : v.destinations.length = k)
    (destinations : u.destinations = v.destinations ++ [.fresh (address k) v.limits])
    (limits : u.limits = v.limits) (k' : Nat) : poolAt u k' = poolAt v k' := by
  rw [poolAt, poolAt, destinations, limits, List.getElem?_append, made]
  split
  · rfl
  · next beyond =>
      have none : v.destinations[k']? = none :=
        List.getElem?_eq_none (made.symm ▸ Nat.le_of_not_lt beyond)
      rw [none]
      cases ahead : k' - k with
      | zero =>
          obtain rfl : k' = k := by omega
          rfl
      | succ j => rfl

theorem Holds.other {i k : Nat} (h : w.Holds limits sent kept k D) (other : w.place i ≠ k) :
    w.Holds limits (sent ++ [i]) (kept ++ [i]) k D := by
  have none : [i].countP (w.place · == k) = 0 := by simp [other]
  refine ⟨h.address, h.idle, h.limit, ?_, h.capacity, ?_⟩
  · rw [List.countP_append, none]
    exact h.used
  · rw [List.filter_append, List.filter_cons_of_neg (by simp [other]), List.filter_nil,
      List.append_nil]
    exact h.queue

/-- The destination of the next request is the next one, or it was made before. -/
theorem Stock.locate (h : w.Stock limits m sent kept v) {k : Nat} (next : k ≤ m) :
    ∃ u, v.locate (address k) = (k, u) ∧ w.Stock limits (max m (k + 1)) sent kept u ∧
      u.destinations[k]? = some (poolAt u k) := by
  rcases Nat.lt_or_eq_of_le next with known | rfl
  · have named : v.registry.lookup (address k) = some k := by
      rw [h.registry, lookup_routes, if_pos known]
    have there : v.destinations[k]? = some _ := List.getElem?_eq_getElem (h.made.symm ▸ known)
    refine ⟨v, Client.locate_of_lookup named, ?_, ?_⟩
    · rw [Nat.max_eq_left known]
      exact h
    · rw [poolAt_of_here there, there]
  · have unknown : v.registry.lookup (address k) = none := by
      rw [h.registry, lookup_routes, if_neg (Nat.lt_irrefl k)]
    have found := Client.locate_of_unknown unknown
    rw [h.made] at found
    refine ⟨_, found, ?_, ?_⟩
    · refine ⟨h.unheard, h.limited, ?_, ?_, fun k' => ?_, h.sends, h.queued, h.takenBack⟩
      · rw [h.registry, Nat.max_eq_right (Nat.le_succ k), routes_succ]
      · rw [List.length_append, h.made, Nat.max_eq_right (Nat.le_succ k)]
        rfl
      · have same := poolAt_of_append (u := { v with
          destinations := v.destinations ++ [.fresh (address k) v.limits]
          registry := v.registry ++ [(address k, k)] }) h.made rfl rfl k'
        rw [same]
        exact h.pools k'
    · have last : (v.destinations ++ [.fresh (address k) v.limits])[k]? =
          some (.fresh (address k) v.limits) := by
        rw [← h.made, List.getElem?_concat_length]
      rw [poolAt, last]
      rfl

/-- A request joins the queue of its destination, and a slot is taken if one is free. -/
theorem Holds.accept {i ticket : Nat} {queue : BoundedQueue Exchange} {slots : SlotCounter}
    (h : w.Holds limits sent kept (w.place i) D)
    (room : D.queue.offer ⟨ticket, w.request i, i⟩ = .ok queue)
    (limit : slots.limit = D.slots.limit)
    (used : slots.used = min D.slots.limit (D.slots.used + 1)) :
    w.Holds limits (sent ++ [i]) (kept ++ [i]) (w.place i)
      { D with queue := queue, slots := slots } := by
  obtain ⟨-, capacity, joined⟩ := BoundedQueue.offer_eq_ok_iff.1 room
  have one : [i].countP (w.place · == w.place i) = 1 := by simp
  refine ⟨h.address, h.idle, limit.trans h.limit, ?_, capacity.trans h.capacity, ?_⟩
  · have before := h.used
    have bound := h.limit
    rw [List.countP_append, one]
    show slots.used = _
    omega
  · show queue.items.map _ = _
    rw [joined, List.map_append, h.queue, List.filter_append, List.map_append,
      List.filter_cons_of_pos (by simp)]
    rfl

theorem Stock.accept {i ticket : Nat} {queue : BoundedQueue Exchange} {slots : SlotCounter}
    (h : w.Stock limits m sent kept v) (here : v.destinations[w.place i]? = some D)
    (room : D.queue.offer ⟨ticket, w.request i, i⟩ = .ok queue)
    (limit : slots.limit = D.slots.limit) (used : slots.used = min D.slots.limit (D.slots.used + 1))
    (same : u.listeners = v.listeners ∧ u.limits = v.limits ∧ u.registry = v.registry)
    (destinations : u.destinations =
      v.destinations.set (w.place i) { D with queue := queue, slots := slots })
    (queued : u.metrics.requestsQueued = v.metrics.requestsQueued + 1)
    (accepted : ConnectionPool.sends u.history =
      (w.request i, i) :: ConnectionPool.sends v.history)
    (more : ∀ ev ∈ v.history, ev ∈ u.history) :
    w.Stock limits m (sent ++ [i]) (kept ++ [i]) u := by
  obtain ⟨unheard, limited, registry⟩ := same
  refine ⟨unheard.trans h.unheard, limited.trans h.limited, registry.trans h.registry, ?_,
    fun k => ?_, ?_, ?_, fun j there taken => ?_⟩
  · rw [destinations, List.length_set]
    exact h.made
  · rw [poolAt_of_set here destinations limited]
    split
    · next own =>
        rw [← own]
        have before := h.pools (w.place i)
        rw [poolAt_of_here here] at before
        exact before.accept room limit used
    · next other => exact (h.pools k).other other
  · rw [accepted, h.sends, List.map_append, List.reverse_append]
    rfl
  · rw [queued, h.queued, List.length_append]
    rfl
  · obtain ⟨away, other⟩ : j ∉ kept ∧ j ≠ i := by simpa using taken
    have old : j ∈ sent := by simpa [other] using there
    exact (h.takenBack j old away).mono more

/-- Where no destination changes and nothing is accepted, the client holds what it held. -/
theorem Stock.of_same (h : w.Stock limits m sent kept v)
    (same : u.listeners = v.listeners ∧ u.limits = v.limits ∧ u.registry = v.registry)
    (destinations : u.destinations = v.destinations)
    (queued : u.metrics.requestsQueued = v.metrics.requestsQueued)
    (accepted : ConnectionPool.sends u.history = ConnectionPool.sends v.history)
    (more : ∀ ev ∈ v.history, ev ∈ u.history) : w.Stock limits m sent kept u := by
  obtain ⟨unheard, limited, registry⟩ := same
  refine ⟨unheard.trans h.unheard, limited.trans h.limited, registry.trans h.registry, ?_,
    fun k => ?_, accepted.trans h.sends, queued.trans h.queued,
    fun j there away => (h.takenBack j there away).mono more⟩
  · rw [destinations]
    exact h.made
  · rw [poolAt, destinations, limited]
    exact h.pools k

/-- The request that joined the queue last stands at its end, and no other one there is the same. -/
theorem Holds.last {i : Nat} (h : w.Holds limits sent (kept ++ [i]) (w.place i) D)
    (new : i ∉ kept) : ∃ before ticket, D.queue.items = before ++ [⟨ticket, w.request i, i⟩] ∧
      ∀ e ∈ before, e.isFor i = false := by
  have queue := h.queue
  rw [List.filter_append, List.map_append, List.filter_cons_of_pos (by simp)] at queue
  obtain ⟨before, last, split, waiting, single⟩ := List.map_eq_append_iff.1 queue
  obtain ⟨e, rest, rfl, own, none⟩ := List.map_eq_cons_iff.1 single
  cases List.map_eq_nil_iff.1 none
  have own : (w.request i, i) = (e.request, e.listener) := own.symm
  obtain ⟨ticket, r, l⟩ := e
  obtain ⟨rfl, rfl⟩ := Prod.mk.inj own
  refine ⟨before, ticket, split, fun e there => ?_⟩
  have listed : (e.request, e.listener) ∈ before.map fun e => (e.request, e.listener) :=
    List.mem_map_of_mem there
  rw [waiting] at listed
  obtain ⟨j, old, same⟩ := List.mem_map.1 listed
  have id : e.request.id = j := congrArg (·.1.id) same.symm
  rw [Exchange.isFor, id]
  refine beq_eq_false_iff_ne.2 ?_
  rintro rfl
  exact new (List.mem_filter.1 old).1

theorem Holds.takeBack {i : Nat} {e : Exchange} {queue : BoundedQueue Exchange}
    (h : w.Holds limits sent (kept ++ [i]) (w.place i) D)
    (items : D.queue.items = queue.items ++ [e]) (capacity : queue.capacity = D.queue.capacity) :
    w.Holds limits sent kept (w.place i) { D with queue := queue } := by
  have waiting := h.queue
  rw [items, List.filter_append, List.map_append, List.map_append,
    List.filter_cons_of_pos (by simp)] at waiting
  exact ⟨h.address, h.idle, h.limit, h.used, capacity.trans h.capacity,
    (List.append_inj' waiting rfl).1⟩

theorem Holds.spare {i k : Nat} (h : w.Holds limits sent (kept ++ [i]) k D)
    (other : w.place i ≠ k) : w.Holds limits sent kept k D := by
  have waiting := h.queue
  rw [List.filter_append, List.filter_cons_of_neg (by simp [other]), List.filter_nil,
    List.append_nil] at waiting
  exact ⟨h.address, h.idle, h.limit, h.used, h.capacity, waiting⟩

/-- A request that has just joined its queue is taken back. -/
theorem Stock.takeBack {i : Nat} {e : Exchange} {queue : BoundedQueue Exchange}
    (h : w.Stock limits m sent (kept ++ [i]) v) (here : v.destinations[w.place i]? = some D)
    (items : D.queue.items = queue.items ++ [e]) (capacity : queue.capacity = D.queue.capacity)
    (same : u.listeners = v.listeners ∧ u.limits = v.limits ∧ u.registry = v.registry)
    (destinations : u.destinations = v.destinations.set (w.place i) { D with queue := queue })
    (queued : u.metrics.requestsQueued = v.metrics.requestsQueued)
    (accepted : ConnectionPool.sends u.history = ConnectionPool.sends v.history)
    (more : ∀ ev ∈ v.history, ev ∈ u.history) (taken : w.TakenBack u.history i) :
    w.Stock limits m sent kept u := by
  obtain ⟨unheard, limited, registry⟩ := same
  refine ⟨unheard.trans h.unheard, limited.trans h.limited, registry.trans h.registry, ?_,
    fun k => ?_, accepted.trans h.sends, queued.trans h.queued, fun j there away => ?_⟩
  · rw [destinations, List.length_set]
    exact h.made
  · rw [poolAt_of_set here destinations limited]
    split
    · next own =>
        rw [← own]
        have before := h.pools (w.place i)
        rw [poolAt_of_here here] at before
        exact before.takeBack items capacity
    · next other => exact (h.pools k).spare other
  · by_cases own : j = i
    · exact own ▸ taken
    · exact (h.takenBack j there (by simp [away, own])).mono more

/-! ## Requests one by one -/

/-- No connection is there yet, and it is not too late to ask for one. -/
structure Early (pace : Pace) (t : Transport) : Prop where
  links : t.links = []
  inTime : t.now ≤ pace.spread

/-- Nothing is under way on the transport but connections that are being made. -/
structure Calling (pace : Pace) (t : Transport) : Prop extends Early pace t where
  timed : Timed pace t
  jobs : ∀ j ∈ t.jobs, ∃ a number d, j = .connect a number d

/-- A simulation in which the requests `sent` were accepted and all but those `kept` taken back,
before any connection is there. -/
structure Stocked (w : Workload) (limits : Limits) (pace : Pace) (m : Nat) (sent kept : List Nat)
    (s : Simulation) : Prop where
  serves : s.Serves
  stock : w.Stock limits m sent kept s.client
  calling : Calling pace s.transport

variable {pace : Pace} {s : Simulation} {t : Transport}

theorem Calling.connect (h : Calling pace t) (v : Client) (d : DestinationId) (a : AttemptId) :
    Calling pace (Transport.called v (.connect d a) t) := by
  have timed : Timed pace (Transport.called v (.connect d a) t) :=
    h.timed.called (fun _ => h.inTime) v
  have scheduled {j : Job} (connects : ∃ a number d, j = .connect a number d) {u : Transport}
      (jobs : u.jobs = t.jobs) : ∀ x ∈ (u.schedule j false).jobs,
        ∃ a number d, x = .connect a number d := by
    intro x there
    rcases List.mem_cons.1 ((perm_jobs_schedule u j false).mem_iff.1 there) with rfl | old
    · exact connects
    · exact h.jobs x (jobs ▸ old)
  simp only [Transport.called] at timed ⊢
  split at timed
  · next fails =>
      rw [if_pos fails]
      exact ⟨⟨h.links, h.inTime⟩, timed, scheduled ⟨_, _, _, rfl⟩ rfl⟩
  · next connects =>
      rw [if_neg connects]
      exact ⟨⟨h.links, h.inTime⟩, timed, scheduled ⟨_, _, _, rfl⟩ rfl⟩

/-- The client and the transport after an operation was driven to its end. -/
theorem invoke_of_driven {op : Operation} {v : Client} {t : Transport}
    (driven : (s.client.invoke op).2.drive Transport.called s.transport = (v, t)) :
    s.invoke op = ((s.client.invoke op).1, ⟨v, t⟩) := by
  rw [Simulation.invoke]
  dsimp only
  rw [driven]

theorem Stocked.ease (h : w.Stocked limits pace m sent kept s) : s.client.AtEase where
  quiet := h.serves.run.quiet
  runs := h.serves.smooth.runs
  calm := (h.serves.smooth.mono Client.unforeseen_of_peaceful).foreseen_nil
  unheard := h.stock.unheard

/-- As many requests wait as were sent to the destination and not taken back. -/
theorem Holds.length_queue {k : Nat} (h : w.Holds limits sent kept k D) :
    D.queue.items.length = kept.countP (w.place · == k) := by
  have same := congrArg List.length h.queue
  rw [List.length_map, List.length_map, ← List.countP_eq_length_filter] at same
  exact same

/-- The destination of the next request, as a call to send it finds or makes it. -/
theorem Stocked.destined (h : w.Stocked limits pace m sent kept s) {i : Nat}
    (next : w.place i ≤ m) : ∃ v D, (w.request i).address? = some D.address ∧
      s.client.locate D.address = (w.place i, v) ∧ v.destinations[w.place i]? = some D ∧
      w.Holds limits sent kept (w.place i) D ∧
      w.Stock limits (max m (w.place i + 1)) sent kept v := by
  obtain ⟨v, found, stock, here⟩ := h.stock.locate next
  have pool := stock.pools (w.place i)
  refine ⟨v, _, ?_, ?_, here, pool, stock⟩
  · rw [pool.address]
    exact w.address?_request i
  · rw [pool.address]
    exact found

/-- A request whose destination is full is refused. -/
theorem Stocked.refuse (h : w.Stocked limits pace m sent kept s) {i : Nat}
    (next : w.place i ≤ m) (full : limits.queue ≤ kept.countP (w.place · == w.place i)) :
    (∃ x, (s.invoke (.submit (w.request i) i)).1 = .refused x) ∧
      w.Stocked limits pace (max m (w.place i + 1)) sent kept
        (s.invoke (.submit (w.request i) i)).2 := by
  obtain ⟨v, D, meets, found, here, pool, stock⟩ := h.destined next
  have filled : D.queue.items.length = D.queue.capacity := by
    have most := D.queue.length_le
    have capacity := pool.capacity
    rw [pool.length_queue] at most ⊢
    omega
  obtain ⟨reply, left⟩ := h.ease.submit_full Transport.called s.transport meets found
    here filled (l := i)
  have serves : (s.invoke (.submit (w.request i) i)).2.Serves := h.serves.step (.command trivial)
  rw [invoke_of_driven left] at serves ⊢
  exact ⟨⟨_, reply⟩, serves, stock.of_same ⟨rfl, rfl, rfl⟩ rfl rfl rfl fun ev old => by simp [old],
    h.calling⟩

/-- A request whose destination has room is accepted. -/
theorem Stocked.accept (h : w.Stocked limits pace m sent kept s) {i : Nat}
    (next : w.place i ≤ m) (room : kept.countP (w.place · == w.place i) < limits.queue) :
    (s.invoke (.submit (w.request i) i)).1 = .done ∧
      w.Stocked limits pace (max m (w.place i + 1)) (sent ++ [i]) (kept ++ [i])
        (s.invoke (.submit (w.request i) i)).2 := by
  obtain ⟨v, D, meets, found, here, pool, stock⟩ := h.destined next
  obtain ⟨queue, joins⟩ : ∃ queue, D.queue.offer ⟨v.nextTicket, w.request i, i⟩ = .ok queue := by
    cases offered : D.queue.offer ⟨v.nextTicket, w.request i, i⟩ with
    | ok queue => exact ⟨queue, rfl⟩
    | error e =>
        obtain ⟨full, -⟩ := BoundedQueue.offer_eq_error_iff.1 offered
        rw [pool.length_queue, pool.capacity] at full
        omega
  have serves : (s.invoke (.submit (w.request i) i)).2.Serves := h.serves.step (.command trivial)
  cases reserved : D.slots.reserve? with
  | none =>
      have full := SlotCounter.reserve?_eq_none_iff.1 reserved
      obtain ⟨reply, left⟩ := h.ease.submit_busy Transport.called s.transport meets found here
        pool.idle joins reserved
      rw [invoke_of_driven left] at serves ⊢
      refine ⟨reply, serves, ?_, h.calling⟩
      exact stock.accept here joins rfl (by omega) ⟨rfl, rfl, rfl⟩ rfl rfl rfl
        fun ev old => by simp [old]
  | some slots =>
      obtain ⟨free, limit, used⟩ := SlotCounter.reserve?_eq_some_iff.1 reserved
      obtain ⟨reply, u, left⟩ := h.ease.submit_free Transport.called s.transport meets found
        here pool.idle joins reserved
      rw [invoke_of_driven left] at serves ⊢
      refine ⟨reply, serves, ?_, h.calling.connect u _ _⟩
      exact stock.accept here joins limit (by omega) ⟨rfl, rfl, rfl⟩ rfl rfl rfl
        fun ev old => by simp [old]

/-- A destination that was made is found, and nothing else happens. -/
theorem Stocked.locate (h : w.Stocked limits pace m sent kept s) {k : Nat} (known : k < m) :
    (s.invoke (.locate "http" (address k).host none)).1 = .located k ∧
      w.Stocked limits pace m sent kept
        (s.invoke (.locate "http" (address k).host none)).2 := by
  have named : s.client.registry.lookup (address k) = some k := by
    rw [h.stock.registry, lookup_routes, if_pos known]
  have meets : Address.resolve? "http" (address k).host none = some (address k) := rfl
  obtain ⟨reply, left⟩ := h.ease.locate_known Transport.called s.transport meets named
  have serves : (s.invoke (.locate "http" (address k).host none)).2.Serves :=
    h.serves.step (.command trivial)
  rw [invoke_of_driven left] at serves ⊢
  exact ⟨reply, serves, h.stock.of_same ⟨rfl, rfl, rfl⟩ rfl rfl rfl fun ev old => by simp [old],
    h.calling⟩

/-- The request that was accepted last is taken back. -/
theorem Stocked.takeBack {i : Nat} (h : w.Stocked limits pace m sent (kept ++ [i]) s)
    (known : w.place i < m) (new : i ∉ kept) :
    w.Stocked limits pace m sent kept (s.invoke (.abort (w.place i) i abortReason)).2 := by
  have there : s.client.destinations[w.place i]? = some (poolAt s.client (w.place i)) := by
    have here : s.client.destinations[w.place i]? = some _ :=
      List.getElem?_eq_getElem (h.stock.made.symm ▸ known)
    rw [poolAt_of_here here, here]
  have pool := h.stock.pools (w.place i)
  generalize poolAt s.client (w.place i) = D at there pool
  obtain ⟨before, ticket, items, others⟩ := pool.last new
  obtain ⟨queue, taken, left, capacity⟩ := BoundedQueue.removeFirst_last items
    (p := (·.isFor i)) (beq_self_eq_true i) others
  obtain ⟨-, u, u', driven⟩ := h.ease.abort Transport.called s.transport there taken
    abortReason
  have serves : (s.invoke (.abort (w.place i) i abortReason)).2.Serves :=
    h.serves.step (.command trivial)
  rw [invoke_of_driven driven] at serves ⊢
  have calling := h.calling
  have timed := calling.timed
  refine ⟨serves, ?_, ⟨calling.links, calling.inTime⟩,
    ⟨timed.same, timed.links, timed.asleep, timed.ready⟩, calling.jobs⟩
  refine h.stock.takeBack there (left.symm ▸ items) capacity ⟨rfl, rfl, rfl⟩ rfl rfl rfl
    (fun ev old => by simp [old]) ⟨ticket, by simp⟩

end Workload

end ConnectionPool
