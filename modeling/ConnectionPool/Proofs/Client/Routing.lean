import ConnectionPool.Client.Build
import ConnectionPool.Proofs.Client.Driven
import ConnectionPool.Proofs.Client.Registry
import ConnectionPool.Proofs.Destination.Simulation

/-!
# Requests go where the registry says

The registry settles the port of an address, and a destination checks the port of a request that it
is sent; the two agree, so a request that is routed to a destination is meant for it. Nothing but a
stop makes the registry forget a name (`Course.lookup`). Main statement: for every client that was
built, and whatever came before, a request is refused because the client has stopped, because it has
no address, or because the queue of the one destination of its address is full; otherwise that
destination queues it, and the search for the address finds that destination before and after; and
whatever is refused makes no destination (`Course.routed`).
-/

set_option autoImplicit false

namespace ConnectionPool

theorem Request.address?_eq_none_iff (r : Request) :
    r.address? = none ↔ r.port = none ∧ defaultPort r.scheme = none := by
  simp only [address?, Address.resolve?, Option.map_eq_none_iff]
  cases r.port with
  | none => simp
  | some p => simp

/-- A request whose address is that of a destination is meant for it. -/
theorem Destination.mismatch?_of_address {D : Destination} {r : Request}
    (own : r.address? = some D.address) : D.mismatch? r = none := by
  obtain ⟨scheme, host⟩ := Address.resolve?_fields own
  rw [mismatch?, if_neg (not_not_intro scheme.symm), if_neg (not_not_intro host.symm)]
  cases named : r.port with
  | none => rfl
  | some p =>
      rw [Request.address?, named, Address.resolve?_some] at own
      have port : p = D.address.port := congrArg Address.port (Option.some.inj own)
      exact if_neg (not_not_intro port)

/-- A client that is built runs and has no destinations, and its limits are usable. -/
theorem Blueprint.build_eq_ok {b : Blueprint} {w : Client} (built : b.build = .ok w) :
    w = .fresh b.name b.limits b.listeners ∧ 1 ≤ b.limits.connections ∧ 1 ≤ b.limits.queue := by
  rw [build] at built
  split at built
  · cases built
  · next usable =>
      split at built
      · cases built
      · split at built
        · cases built
        · exact ⟨(Except.ok.inj built).symm, (Limits.error?_eq_none_iff _).1 usable⟩

namespace Client

variable {allowed : Client → Operation → Prop} {w w' : Client} {past : List Client}
  {d : DestinationId} {a : Address}

/-- The outside may invoke every operation but a stop. -/
def Unstopped (_ : Client) (op : Operation) : Prop := op ≠ .stop

/-! ## What the registry names stays named -/

theorem KeepsRoutes.rerouted (h : KeepsRoutes w w') : Rerouted w w' := by
  rcases h with same | ⟨a, unknown, more⟩
  · exact .stay same
  · exact .made unknown more

theorem KeepsRoutes.lookup (h : KeepsRoutes w w') (known : w.registry.lookup a = some d) :
    w'.registry.lookup a = some d := by
  rcases h with same | ⟨b, -, more⟩
  · rw [(Prod.mk.inj same).2]
    exact known
  · rw [(Prod.mk.inj more).2, List.lookup_append, known]
    rfl

theorem Step.lookup (next : Step Unstopped w w') (known : w.registry.lookup a = some d) :
    w'.registry.lookup a = some d := by
  rcases next.cases with ⟨f, v, rfl, turn⟩ | ⟨c, rfl⟩ | ⟨op, reply, v, waits, may, start, rfl⟩
  · exact KeepsRoutes.lookup (Or.inl turn.routes) known
  · exact known
  · exact (start.keepsRoutes may).lookup known

/-- What the registry names for an address stays so until the client is stopped. -/
theorem Course.lookup (course : Course Unstopped w past w')
    (known : w.registry.lookup a = some d) : w'.registry.lookup a = some d :=
  course.keeps (fun known next => next.lookup known) known

/-- After the search for an address the registry names what was found. -/
theorem lookup_locate (w : Client) (a : Address) :
    (w.locate a).2.registry.lookup a = some (w.locate a).1 := by
  simp only [locate]
  split
  · next d known => exact known
  · next unknown => simp [List.lookup_append, unknown]

theorem locate_of_lookup (known : w.registry.lookup a = some d) : w.locate a = (d, w) := by
  simp only [locate]
  rw [known]

/-- What is to be done makes no difference to a search. -/
theorem locate_push (w : Client) (fs : List Frame) (a : Address) :
    (w.push fs).locate a = ((w.locate a).1, (w.locate a).2.push fs) := by
  cases named : w.registry.lookup a with
  | none =>
      simp only [locate]
      rw [named, show (w.push fs).registry.lookup a = none from named]
      rfl
  | some d =>
      have known : (w.push fs).registry.lookup a = some d := named
      rw [locate_of_lookup named, locate_of_lookup known]

/-- The search for an address answers with what the registry names for it. -/
theorem located_of_lookup (known : w.registry.lookup a = some d) {scheme host : String}
    {port : Option UInt16} (meets : Address.resolve? scheme host port = some a) :
    (w.invoke (.locate scheme host port)).1 = .located d := by
  have found : (w.push [.finish (.locate scheme host port)]).locate a = (d, _) :=
    locate_of_lookup known
  rw [invoke, start_locate meets, found]

/-- What the registry names is a destination that was made for the address, and the only one. -/
theorem Faithful.here (h : w.Faithful) (known : w.registry.lookup a = some d) :
    (∃ D, w.destinations[d]? = some D ∧ D.address = a) ∧
      ∀ d', (a, d') ∈ w.registry ↔ d' = d := by
  obtain ⟨before, after, split, -⟩ := List.lookup_eq_some_iff.1 known
  have named : (a, d) ∈ w.registry := split ▸ List.mem_append_right _ List.mem_cons_self
  constructor
  · have leads := h.leads _ named
    rw [addresses, List.getElem?_map] at leads
    exact Option.map_eq_some_iff.1 leads
  · intro d'
    refine ⟨fun other => h.unique other named, ?_⟩
    rintro rfl
    exact named

/-! ## Requests -/

/-- While nothing is foreseen, a running client refuses a request that is meant for a destination
only where the queue is full. -/
theorem Sent.refused {dest : Destination} {r : Request} {l : ListenerId} {reply : Reply}
    (sent : Sent d dest r l w reply w') (calm : w.foreseen = []) (runs : w.running = true)
    (meant : dest.mismatch? r = none) :
    reply = .done ∨ reply = .refused (.queueFull dest.queue.capacity) ∧
      dest.queue.items.length = dest.queue.capacity := by
  have sees : w.seesRunning = true := (seesRunning_of_foreseen_nil calm).trans runs
  cases sent with
  | mismatched error => cases meant.symm.trans error
  | stopped meant stopped => cases sees.symm.trans stopped
  | full meant runs full => exact Or.inr ⟨rfl, full⟩
  | takenBack meant runs room stops taken =>
      rw [seesRunning_again calm, sees] at stops
      cases stops
  | accepted meant runs room stillRuns => exact Or.inl rfl

/-- A check of the flag changes nothing where nothing is foreseen. -/
theorem glance_of_calm (calm : w.foreseen = []) : w.glance = w := by
  rw [glance_eq, calm]
  cases w
  cases calm
  rfl

/-- A running client sends a request to the destination of its address. -/
theorem start_submit_calm {r : Request} {l : ListenerId} (calm : w.foreseen = [])
    (runs : w.running = true) (meets : r.address? = some a) :
    w.start (.submit r l) = (w.locate a).2.start (.send (w.locate a).1 r l) := by
  have sees : w.seesRunning = true := (seesRunning_of_foreseen_nil calm).trans runs
  rw [start_submit sees meets, glance_of_calm calm]

/-- The destination of an address is there once it was searched for, and it is meant by every
request for that address. -/
theorem Faithful.located (h : w.Faithful) (a : Address) :
    ∃ D, (w.locate a).2.destinations[(w.locate a).1]? = some D ∧ D.address = a := by
  have kept : KeepsRoutes w (w.locate a).2 := by
    rcases routes_locate w a with same | ⟨unknown, more⟩
    · exact Or.inl same
    · exact Or.inr ⟨a, unknown, more⟩
  exact ((kept.rerouted.faithful h).here (lookup_locate w a)).1

theorem running_locate (w : Client) (a : Address) : (w.locate a).2.running = w.running := by
  simp only [locate]
  split <;> rfl

/-- What a running client answers to a request that has an address. -/
theorem Faithful.submitted (h : w.Faithful) {r : Request} {l : ListenerId} (calm : w.foreseen = [])
    (runs : w.running = true) (meets : r.address? = some a) :
    ∃ D, (w.locate a).2.destinations[(w.locate a).1]? = some D ∧
      ((w.start (.submit r l)).1 = .done ∨
        (w.start (.submit r l)).1 = .refused (.queueFull D.queue.capacity) ∧
          D.queue.items.length = D.queue.capacity) := by
  obtain ⟨D, here, rfl⟩ := h.located a
  refine ⟨D, here, ?_⟩
  rw [start_submit_calm calm runs meets, start_send here]
  exact sent_send.refused ((foreseen_locate _ _).trans calm) ((running_locate _ _).trans runs)
    (Destination.mismatch?_of_address meets)

/-- A destination that a search made has room. -/
theorem room_of_made {D : Destination} (usable : 1 ≤ w.limits.queue)
    (unknown : w.registry.lookup a = none)
    (here : (w.locate a).2.destinations[(w.locate a).1]? = some D) :
    D.queue.items.length ≠ D.queue.capacity := by
  simp only [locate] at here
  rw [unknown] at here
  rw [List.getElem?_concat_length] at here
  cases here
  exact Nat.ne_of_lt usable

/-- What is refused makes no destination. -/
theorem Started.routes_of_refused {op : Operation} {error : PoolError}
    (start : Started op w (.refused error) w') (h : w.Faithful) (runs : w.foreseen = [])
    (usable : 1 ≤ w.limits.queue) : w'.routes = w.routes := by
  cases start with
  | send here sent => exact sent.routes here
  | submitStopped stopped | submitUnsupported runs nowhere => exact routes_glance w
  | locateUnsupported nowhere => rfl
  | @submit _ _ a D r l _ sees meets here sent =>
      rw [glance_of_calm runs] at here sent
      have routed := sent.routes here
      rcases routes_locate w a with same | ⟨unknown, -⟩
      · exact routed.trans same
      · -- a destination that was just made refuses nothing
        obtain ⟨D', here', rfl⟩ := h.located a
        cases here.symm.trans here'
        have running : w.running = true := (seesRunning_of_foreseen_nil runs).symm.trans sees
        rcases sent.refused ((foreseen_locate _ _).trans runs) ((running_locate _ _).trans running)
          (Destination.mismatch?_of_address meets) with done | ⟨-, full⟩
        · cases done
        · exact absurd full (room_of_made usable unknown here)

/-- The request `r` with its address `a` goes to the destination `d`. -/
structure Routed (w : Client) (r : Request) (l : ListenerId) (a : Address) (d : DestinationId) :
    Prop where
  /-- To submit the request is to find this destination and to send it there. -/
  sends : ∀ mark, (w.push [mark]).start (.submit r l) =
    ((w.push [mark]).locate a).2.start (.send d r l)
  /-- Asked for the address, the client answers with this destination. -/
  found : (w.invoke (.locate r.scheme r.host r.port)).1 = .located d
  /-- It was made for the address. -/
  own : (w.invoke (.submit r l)).2.addresses[d]? = some a
  only : ∀ d', (a, d') ∈ (w.invoke (.submit r l)).2.registry ↔ d' = d
  /-- It is what was found before, unless the client was stopped in between. -/
  before : ∀ (u : Client) past scheme host port d', Address.resolve? scheme host port = some a →
    (u.invoke (.locate scheme host port)).1 = .located d' →
    Course Unstopped (u.invoke (.locate scheme host port)).2 past w → d' = d
  /-- It is what is found until the client is stopped. -/
  after : ∀ past w' scheme host port, Address.resolve? scheme host port = some a →
    Course Unstopped (w.invoke (.submit r l)).2 past w' →
    (w'.invoke (.locate scheme host port)).1 = .located d

theorem Faithful.invoked (h : w.Faithful) (op : Operation) : (w.invoke op).2.Faithful := by
  have marked : (w.push [.finish op]).Faithful := ⟨h.apart, h.leads⟩
  have started := (started_start op (w.push [.finish op])).rerouted.faithful marked
  exact ⟨started.apart, started.leads⟩

/-- The answer to a search is what the registry names from then on. -/
theorem lookup_of_located {scheme host : String} {port : Option UInt16}
    (meets : Address.resolve? scheme host port = some a)
    (found : (w.invoke (.locate scheme host port)).1 = .located d) :
    (w.invoke (.locate scheme host port)).2.registry.lookup a = some d := by
  rw [invoke, start_locate meets] at found ⊢
  rw [← Reply.located.inj found]
  exact lookup_locate _ a

/-- After a running client was given a request, its registry names the destination of the
address. -/
theorem lookup_submitted (calm : w.foreseen = []) (runs : w.running = true) {r : Request}
    (l : ListenerId) (meets : r.address? = some a) :
    (w.invoke (.submit r l)).2.registry.lookup a = some (w.locate a).1 := by
  have start : (w.push [.finish (.submit r l)]).start (.submit r l) = _ :=
    start_submit_calm calm runs meets
  have sends := started_start (.send (w.locate a).1 r l)
    ((w.push [.finish (.submit r l)]).locate a).2
  rw [locate_push] at start sends
  rw [invoke, start]
  exact (sends.keepsRoutes (by simp)).lookup (lookup_locate w a)

theorem Faithful.routed_running (h : w.Faithful) (calm : w.foreseen = []) (runs : w.running = true)
    {r : Request} (l : ListenerId) (meets : r.address? = some a) :
    Routed w r l a (w.locate a).1 := by
  have named := lookup_submitted calm runs l meets
  obtain ⟨⟨D, here, address⟩, only⟩ := (h.invoked (.submit r l)).here named
  constructor
  case sends =>
    -- the check of the flag leaves no trace, so only the search comes before the send
    intro mark
    have start : (w.push [mark]).start (.submit r l) = _ := start_submit_calm calm runs meets
    rw [start, locate_push]
  case found =>
    rw [invoke, start_locate meets, locate_push]
  case own =>
    rw [addresses, List.getElem?_map, here]
    exact congrArg some address
  case only => exact only
  case before =>
    intro u past scheme host port d' meets' found course
    rw [locate_of_lookup (course.lookup (lookup_of_located meets' found))]
  case after =>
    intro past w' scheme host port meets' course
    exact located_of_lookup (course.lookup named) meets'

/-- What a client answers to a request. -/
theorem Faithful.answers (h : w.Faithful) (calm : w.foreseen = []) (r : Request) (l : ListenerId) :
    (w.running = false ∧ (w.invoke (.submit r l)).1 = .refused (.stopped w.name)) ∨
    (w.running = true ∧ r.address? = none ∧
      (w.invoke (.submit r l)).1 = .refused (.unsupportedScheme r.scheme)) ∨
    (w.running = true ∧ r.address? ≠ none ∧ ((w.invoke (.submit r l)).1 = .done ∨
      ∃ n, (w.invoke (.submit r l)).1 = .refused (.queueFull n))) := by
  have marked : (w.push [.finish (.submit r l)]).Faithful := ⟨h.apart, h.leads⟩
  have sees : (w.push [.finish (.submit r l)]).seesRunning = w.running :=
    seesRunning_of_foreseen_nil calm
  cases runs : w.running with
  | false =>
      rw [runs] at sees
      have unchanged : (w.push [.finish (.submit r l)]).glance = _ := glance_of_calm calm
      rw [invoke, start_submit_stopped sees, unchanged]
      exact Or.inl ⟨rfl, rfl⟩
  | true =>
      rw [runs] at sees
      refine Or.inr ?_
      cases meets : r.address? with
      | none =>
          rw [invoke, start_submit_unsupported sees meets]
          exact Or.inl ⟨rfl, rfl, rfl⟩
      | some a =>
          obtain ⟨D, -, answer⟩ := marked.submitted (l := l) calm runs meets
          refine Or.inr ⟨rfl, Option.some_ne_none a, ?_⟩
          rcases answer with done | ⟨full, -⟩
          · exact Or.inl done
          · exact Or.inr ⟨_, full⟩

/-- The routing of a client that was built, whatever came before, at a moment at which every check
sees the running flag. The registry names every address once and a destination made for it. A
request is refused as stopped exactly when the client does not run, and otherwise as unsupported
exactly when neither the request nor its scheme names a port; otherwise it goes to the one
destination of its address. It is never refused as meant for another one, and whatever is refused
makes no destination. -/
theorem Course.routed {b : Blueprint} {w₀ : Client} (built : b.build = .ok w₀)
    (course : Course Anything w₀ past w) (calm : w.foreseen = []) :
    w.Faithful ∧
    (∀ r l, (∃ name, (w.invoke (.submit r l)).1 = .refused (.stopped name)) ↔ w.running = false) ∧
    (∀ r l, w.running = true →
      ((∃ scheme, (w.invoke (.submit r l)).1 = .refused (.unsupportedScheme scheme)) ↔
        r.port = none ∧ defaultPort r.scheme = none)) ∧
    (∀ r l a, w.running = true → r.address? = some a → ∃ d, Routed w r l a d) ∧
    (∀ r l text owner port, (w.invoke (.submit r l)).1 ≠ .refused (.invalidScheme text owner) ∧
      (w.invoke (.submit r l)).1 ≠ .refused (.invalidHost text owner) ∧
      (w.invoke (.submit r l)).1 ≠ .refused (.invalidPort port owner)) ∧
    ∀ op error, (w.invoke op).1 = .refused error → (w.invoke op).2.routes = w.routes := by
  obtain ⟨rfl, -, room⟩ := Blueprint.build_eq_ok built
  have faithful : w.Faithful := (course.reached (.initial (.fresh _ _ _))).faithful
  have limits : w.limits = b.limits :=
    course.keeps (P := fun v => v.limits = b.limits) (fun same next => next.limits.trans same) rfl
  refine ⟨faithful, fun r l => ?_, fun r l runs => ?_, fun r l a runs meets => ?_,
    fun r l text owner port => ?_, fun op error refused => ?_⟩
  · rcases faithful.answers calm r l with ⟨stops, answer⟩ | ⟨runs, -, answer⟩ | ⟨runs, -, answer⟩
    · exact ⟨fun _ => stops, fun _ => ⟨_, answer⟩⟩
    · simp [runs, answer]
    · rcases answer with answer | ⟨n, answer⟩ <;> simp [runs, answer]
  · rw [← Request.address?_eq_none_iff]
    rcases faithful.answers calm r l with ⟨stops, -⟩ | ⟨-, nowhere, answer⟩ | ⟨-, meets, answer⟩
    · cases runs.symm.trans stops
    · exact ⟨fun _ => nowhere, fun _ => ⟨_, answer⟩⟩
    · rcases answer with answer | ⟨n, answer⟩ <;> simp [meets, answer]
  · exact ⟨_, faithful.routed_running calm runs l meets⟩
  · rcases faithful.answers calm r l with
      ⟨-, answer⟩ | ⟨-, -, answer⟩ | ⟨-, -, answer | ⟨n, answer⟩⟩ <;> simp [answer]
  · have marked : (w.push [.finish op]).Faithful := ⟨faithful.apart, faithful.leads⟩
    have start := started_start op (w.push [.finish op])
    rw [show ((w.push [.finish op]).start op).1 = .refused error from refused] at start
    exact start.routes_of_refused marked calm (limits ▸ room)

/-- A client with usual limits that was given one request. -/
def asked : Client :=
  ((Client.fresh "HttpClient" {} 0).invoke (.submit (narrowRequest 0) 0)).2.settle

theorem asked_routed : ∃ d, Routed asked (narrowRequest 1) 0 ⟨"http", "localhost", 80⟩ d := by
  have built : ({} : Blueprint).build = .ok (.fresh "HttpClient" {} 0) := rfl
  have new : Course Anything (.fresh "HttpClient" {} 0) [] (.fresh "HttpClient" {} 0) := .nil
  obtain ⟨past, course⟩ := (new.invoke (.submit (narrowRequest 0) 0) rfl trivial).settle
  have routed := Course.routed built course (by decide)
  exact routed.2.2.2.1 _ _ _ (by decide) (by decide)

end Client

end ConnectionPool
