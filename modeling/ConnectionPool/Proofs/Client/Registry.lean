import Mathlib.Data.List.Nodup
import ConnectionPool.Proofs.Client.Scope

/-!
# Where requests are routed

Requests for an address go to the destination that the registry names for it. What can happen to the
routing in one step is listed once: `Rerouted w w'` leaves it, makes a destination for an address
that has none, or clears the registry and closes every destination that it named. Main statements:
every step reroutes in one of these ways (`Step.rerouted`); a destination that a stop has forgotten
stays so, and the step that forgets it is about to close it (`Rerouted.still_forgot`,
`Rerouted.forgot_before`); and the registry names each address once, and a destination that was made
for it (`Reached.faithful`).
-/

set_option autoImplicit false

namespace ConnectionPool.Client

/-- The addresses of the destinations, in the order these were made. -/
def addresses (w : Client) : List Address := w.destinations.map (·.address)

/-- What routing depends on: the address of every destination, and the registry. -/
def routes (w : Client) : List Address × List (Address × DestinationId) :=
  (w.addresses, w.registry)

/-- The destination was made, and requests are not routed to it any more. -/
def Forgot (w : Client) (d : DestinationId) : Prop :=
  d < w.destinations.length ∧ ∀ r ∈ w.registry, r.2 ≠ d

theorem length_addresses (w : Client) : w.addresses.length = w.destinations.length :=
  List.length_map _

/-- What a step can do to the routing of requests. -/
inductive Rerouted (w w' : Client) : Prop
  | stay (same : w'.routes = w.routes)
  | made {a : Address} (unknown : w.registry.lookup a = none)
      (more : w'.routes = (w.addresses ++ [a], w.registry ++ [(a, w.destinations.length)]))
  | cleared (empty : w'.routes = (w.addresses, []))
      (closes : ∀ r ∈ w.registry, .closeIdle r.2 ∈ w'.agenda)

/-! ## What the parts of a step do to the routing -/

section Parts

variable (w : Client)

@[simp] theorem routes_push (fs : List Frame) : (w.push fs).routes = w.routes := rfl

@[simp] theorem routes_record (e : Event) : (w.record e).routes = w.routes := rfl

@[simp] theorem routes_addAttempt (d : DestinationId) (pooled : Bool) :
    (w.addAttempt d pooled).routes = w.routes := rfl

@[simp] theorem routes_addTask (work : Work) : (w.addTask work).routes = w.routes := rfl

@[simp] theorem routes_conclude (a : AttemptId) (attempt : Attempt) (o : Outcome) :
    (w.conclude a attempt o).routes = w.routes := rfl

@[simp] theorem routes_dropTask (t : TaskId) : (w.dropTask t).routes = w.routes := rfl

@[simp] theorem routes_drawTicket : w.drawTicket.routes = w.routes := rfl

@[simp] theorem routes_glance : w.glance.routes = w.routes := by
  rw [glance_eq]
  rfl

@[simp] theorem routes_countFate (cause : Cause) : (w.countFate cause).routes = w.routes := by
  cases cause <;> rfl

@[simp] theorem routes_countRemoved : w.countRemoved.routes = w.routes := rfl

@[simp] theorem routes_countRejected : w.countRejected.routes = w.routes := rfl

@[simp] theorem routes_countQueued : w.countQueued.routes = w.routes := rfl

@[simp] theorem routes_countCreated : w.countCreated.routes = w.routes := rfl

@[simp] theorem routes_countFailure : w.countFailure.routes = w.routes := rfl

end Parts

variable {allowed : Client → Operation → Prop} {w w' : Client} {d : DestinationId}

/-- Where a member is replaced by one of which `f` says the same, `f` says the same of the list. -/
theorem map_set_of_same {α β : Type} {f : α → β} {l : List α} {i : Nat} {a b : α}
    (here : l[i]? = some a) (same : f b = f a) : (l.set i b).map f = l.map f := by
  apply List.ext_getElem?
  intro j
  rw [List.getElem?_map, List.getElem?_map, List.getElem?_set]
  by_cases place : i = j
  · subst place
    rw [if_pos rfl, if_pos (List.getElem?_eq_some_iff.1 here).1, here, Option.map_some,
      Option.map_some, same]
  · rw [if_neg place]

/-- A destination keeps its address, whatever else becomes of it. -/
theorem routes_putDestination {D D' : Destination} (here : w.destinations[d]? = some D)
    (same : D'.address = D.address) : (w.putDestination d D').routes = w.routes := by
  exact congrArg (·, w.registry) (map_set_of_same here same)

theorem Turned.routes {f : Frame} (turn : Turned f w w') : w'.routes = w.routes := by
  cases turn with
  | call c | within c | finish op | adrift names missing | acquireFull here nothing full
  | takeNone here nothing | parkSurplus here empty full => rfl
  | fail d e cause => simp
  | parkIdle here empty room runs | parkStopped here empty room stopped =>
      rw [← destinations_glance] at here
      exact Eq.trans (routes_putDestination here rfl) (routes_glance w)
  | acquireIdle here head | acquireNew here nothing free | takeIdle here head
  | passOver here head marked | assign here head unmarked | assignDeferred here head unmarked
  | removeLast here empty | removeMore here waiting | closeIdle here | closeActive here
  | failQueued here => exact routes_putDestination here rfl

theorem Sent.routes {dest : Destination} {r : Request} {l : ListenerId} {reply : Reply}
    (sent : Sent d dest r l w reply w') (here : w.destinations[d]? = some dest) :
    w'.routes = w.routes := by
  have drawn : w.glance.drawTicket.glance.destinations[d]? = some dest := by
    rw [destinations_glance, drawTicket, destinations_glance]
    exact here
  have same : w.glance.drawTicket.glance.routes = w.routes := by simp
  cases sent with
  | mismatched error => rfl
  | stopped meant stopped | full meant runs full => exact routes_glance w
  | takenBack meant runs room stops taken | accepted meant runs room stillRuns =>
      exact Eq.trans (routes_putDestination drawn rfl) same

/-- The search for the destination of an address makes it where the registry names none. -/
theorem routes_locate (w : Client) (a : Address) : (w.locate a).2.routes = w.routes ∨
    w.registry.lookup a = none ∧ (w.locate a).2.routes =
      (w.addresses ++ [a], w.registry ++ [(a, w.destinations.length)]) := by
  simp only [locate]
  split
  · exact Or.inl rfl
  · next unknown =>
      refine Or.inr ⟨unknown, ?_⟩
      simp [routes, addresses, Destination.fresh]

/-- The routing is what it was, but for a destination made for an address that had none. -/
def KeepsRoutes (w w' : Client) : Prop :=
  w'.routes = w.routes ∨ ∃ a, w.registry.lookup a = none ∧
    w'.routes = (w.addresses ++ [a], w.registry ++ [(a, w.destinations.length)])

theorem keepsRoutes_of_locate {a : Address} (same : w'.routes = (w.glance.locate a).2.routes) :
    KeepsRoutes w w' := by
  rcases routes_locate w.glance a with found | ⟨unknown, more⟩
  · exact Or.inl (same.trans (found.trans (routes_glance w)))
  · have more := same.trans more
    rw [glance_eq] at unknown more
    exact Or.inr ⟨a, unknown, more⟩

/-- Nothing but a stop forgets what the registry names. -/
theorem Started.keepsRoutes {op : Operation} {reply : Reply} (start : Started op w reply w')
    (other : op ≠ .stop) : KeepsRoutes w w' := by
  cases start with
  | send here sent => exact Or.inl (sent.routes here)
  | submit runs meets here sent => exact keepsRoutes_of_locate (sent.routes here)
  | submitAdrift runs meets missing => exact keepsRoutes_of_locate rfl
  | @locate _ _ _ _ a meets =>
      rcases routes_locate w a with found | ⟨unknown, more⟩
      · exact Or.inl found
      · exact Or.inr ⟨a, unknown, more⟩
  | submitStopped stopped | submitUnsupported runs nowhere | releaseStray here runs nothing
  | releaseStopped here stopped => exact Or.inl (routes_glance w)
  | release here runs taken =>
      rw [← destinations_glance] at here
      exact Or.inl (Eq.trans (routes_putDestination here rfl) (routes_glance w))
  | abort here taken => exact Or.inl (routes_putDestination here rfl)
  | settleFailed underWay unsettled pooled here =>
      exact Or.inl (routes_putDestination (w := w.conclude _ _ _) here rfl)
  | failHead held work here head =>
      exact Or.inl (routes_putDestination (w := w.dropTask _) here rfl)
  | stop => exact absurd rfl other
  | _ => exact Or.inl rfl

theorem Started.rerouted {op : Operation} {reply : Reply} (start : Started op w reply w') :
    Rerouted w w' := by
  by_cases stops : op = .stop
  · subst stops
    cases start with
    | ignored op => exact .stay rfl
    | stop =>
        refine .cleared rfl fun r hr => ?_
        exact List.mem_append_left _ (List.mem_map.2 ⟨r, hr, rfl⟩)
  · rcases start.keepsRoutes stops with same | ⟨a, unknown, more⟩
    · exact .stay same
    · exact .made unknown more

/-- Every step leaves the routing, makes a destination, or forgets every destination. -/
theorem Step.rerouted (next : Step allowed w w') : Rerouted w w' := by
  rcases next.cases with ⟨f, v, rfl, turn⟩ | ⟨c, rfl⟩ | ⟨op, reply, v, waits, may, start, rfl⟩
  · exact .stay turn.routes
  · exact .stay rfl
  · -- neither the mark of the operation's end nor the event that notes its start routes anything
    cases start.rerouted with
    | stay same => exact .stay same
    | made unknown more => exact .made unknown more
    | cleared empty closes => exact .cleared empty closes

/-! ## Destinations that were forgotten -/

namespace Rerouted

/-- What a stop has forgotten stays forgotten. -/
theorem still_forgot (h : Rerouted w w') (forgot : w.Forgot d) : w'.Forgot d := by
  obtain ⟨made, away⟩ := forgot
  rw [← length_addresses] at made
  rw [Forgot, ← length_addresses]
  cases h with
  | stay same =>
      obtain ⟨addresses, registry⟩ := Prod.mk.inj same
      rw [addresses, registry]
      exact ⟨made, away⟩
  | made unknown more =>
      obtain ⟨addresses, registry⟩ := Prod.mk.inj more
      rw [addresses, registry]
      constructor
      · rw [List.length_append]
        exact Nat.lt_add_right 1 made
      · intro r hr
        rcases List.mem_append.1 hr with old | new
        · exact away r old
        · -- the destination that was just made is another one
          rw [List.mem_singleton.1 new, ← length_addresses]
          exact (Nat.ne_of_lt made).symm
  | cleared empty closes =>
      obtain ⟨addresses, registry⟩ := Prod.mk.inj empty
      rw [addresses, registry]
      exact ⟨made, List.forall_mem_nil _⟩

/-- What is forgotten was forgotten before, or is about to be closed. -/
theorem forgot_before (h : Rerouted w w') (forgot : w'.Forgot d) :
    w.Forgot d ∨ d < w.destinations.length ∧ .closeIdle d ∈ w'.agenda := by
  obtain ⟨made, away⟩ := forgot
  rw [← length_addresses] at made
  cases h with
  | stay same =>
      obtain ⟨addresses, registry⟩ := Prod.mk.inj same
      rw [addresses, length_addresses] at made
      rw [registry] at away
      exact Or.inl ⟨made, away⟩
  | made unknown more =>
      obtain ⟨addresses, registry⟩ := Prod.mk.inj more
      rw [registry] at away
      obtain ⟨away, other⟩ := List.forall_mem_append.1 away
      -- the destination that was just made is not forgotten
      have other := other _ List.mem_cons_self
      rw [addresses, List.length_append, length_addresses] at made
      exact Or.inl ⟨Nat.lt_of_le_of_ne (Nat.le_of_lt_succ made) other.symm, away⟩
  | cleared empty closes =>
      obtain ⟨addresses, -⟩ := Prod.mk.inj empty
      rw [addresses, length_addresses] at made
      by_cases named : ∃ r ∈ w.registry, r.2 = d
      · obtain ⟨r, hr, rfl⟩ := named
        exact Or.inr ⟨made, closes r hr⟩
      · exact Or.inl ⟨made, fun r hr same => named ⟨r, hr, same⟩⟩

end Rerouted

/-! ## What the registry names -/

/-- The registry names each address once, and a destination that was made for it. -/
structure Faithful (w : Client) : Prop where
  apart : (w.registry.map Prod.fst).Nodup
  leads : ∀ r ∈ w.registry, w.addresses[r.2]? = some r.1

theorem Rerouted.faithful (rerouted : Rerouted w w') (h : w.Faithful) : w'.Faithful := by
  cases rerouted with
  | stay same =>
      obtain ⟨addresses, registry⟩ := Prod.mk.inj same
      constructor
      · rw [registry]
        exact h.apart
      · rw [addresses, registry]
        exact h.leads
  | @made a unknown more =>
      obtain ⟨addresses, registry⟩ := Prod.mk.inj more
      constructor
      · have fresh : ∀ r ∈ w.registry, a ≠ r.1 := by simpa using List.lookup_eq_none_iff.1 unknown
        rw [registry, List.map_append, List.nodup_append]
        refine ⟨h.apart, List.nodup_singleton a, ?_⟩
        intro x hx y hy same
        obtain ⟨r, hr, rfl⟩ := List.mem_map.1 hx
        cases List.mem_singleton.1 hy
        exact fresh r hr same.symm
      · rw [addresses, registry]
        intro r hr
        rcases List.mem_append.1 hr with old | new
        · have here := h.leads r old
          obtain ⟨made, -⟩ := List.getElem?_eq_some_iff.1 here
          rw [List.getElem?_append_left made]
          exact here
        · rw [List.mem_singleton.1 new, ← length_addresses]
          exact List.getElem?_concat_length
  | cleared empty closes =>
      obtain ⟨-, registry⟩ := Prod.mk.inj empty
      constructor
      · rw [registry]
        exact List.nodup_nil
      · rw [registry]
        exact List.forall_mem_nil _

/-- In every client that is reached, the registry names each address once, and a destination that
was made for it. -/
theorem Reached.faithful (run : Reached allowed w) : w.Faithful := by
  induction run with
  | initial new =>
      cases new with
      | fresh name limits listeners => exact ⟨List.nodup_nil, List.forall_mem_nil _⟩
      | lone name limits listeners a => exact ⟨List.nodup_nil, List.forall_mem_nil _⟩
  | step _ next ih => exact next.rerouted.faithful ih

/-- Two destinations that the registry names for one address are the same. -/
theorem Faithful.unique (h : w.Faithful) {a : Address} {d d' : DestinationId}
    (here : (a, d) ∈ w.registry) (there : (a, d') ∈ w.registry) : d = d' :=
  congrArg Prod.snd (List.inj_on_of_nodup_map h.apart here there rfl)

end ConnectionPool.Client
