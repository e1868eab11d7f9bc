import ConnectionPool.Proofs.Client.Run

/-!
# Everything is about a destination that exists

Frames, attempts, the registry and the history of a client refer to destinations by their place.
Main statement: in every client that is reached they refer only to destinations that were made
(`Reached.scoped`), so a destination starts its life without a past.
-/

set_option autoImplicit false

namespace ConnectionPool

/-- The destination whose queue or pools an event concerns. -/
def Event.destination? : Event → Option DestinationId
  | .accepted d _ => some d
  | .assigned d _ _ _ => some d
  | .failed d _ _ => some d
  | .spared d _ => some d
  | .invoked _ _ => none
  | .returned _ => none
  | .called _ => none

namespace Client

theorem lt_of_here {w : Client} {d : DestinationId} {dest : Destination}
    (here : w.destinations[d]? = some dest) : d < w.destinations.length :=
  (List.getElem?_eq_some_iff.1 here).1

/-- Whatever names a destination names one of those that were made. -/
structure Scoped (w : Client) : Prop where
  frames : ∀ f ∈ w.agenda, ∀ d, f.destination? = some d → d < w.destinations.length
  attempts : ∀ a ∈ w.attempts, a.destination < w.destinations.length
  registry : ∀ r ∈ w.registry, r.2 < w.destinations.length
  events : ∀ e ∈ w.history, ∀ d, e.destination? = some d → d < w.destinations.length

namespace Scoped

variable {w : Client}

/-- Only the references and the number of destinations matter. -/
theorem of_eq {w' : Client} (h : w.Scoped) (ha : w'.agenda = w.agenda)
    (hd : w'.destinations = w.destinations) (hx : w'.attempts = w.attempts)
    (hr : w'.registry = w.registry) (he : w'.history = w.history) : w'.Scoped := by
  constructor
  · rw [ha, hd]; exact h.frames
  · rw [hx, hd]; exact h.attempts
  · rw [hr, hd]; exact h.registry
  · rw [he, hd]; exact h.events

theorem countRemoved (h : w.Scoped) : w.countRemoved.Scoped := h.of_eq rfl rfl rfl rfl rfl

theorem countRejected (h : w.Scoped) : w.countRejected.Scoped := h.of_eq rfl rfl rfl rfl rfl

theorem countQueued (h : w.Scoped) : w.countQueued.Scoped := h.of_eq rfl rfl rfl rfl rfl

theorem countCreated (h : w.Scoped) : w.countCreated.Scoped := h.of_eq rfl rfl rfl rfl rfl

theorem countFailure (h : w.Scoped) : w.countFailure.Scoped := h.of_eq rfl rfl rfl rfl rfl

theorem drawTicket (h : w.Scoped) : w.drawTicket.Scoped := h.of_eq rfl rfl rfl rfl rfl

theorem dropTask (h : w.Scoped) (t : TaskId) : (w.dropTask t).Scoped :=
  h.of_eq rfl rfl rfl rfl rfl

theorem push (h : w.Scoped) {fs : List Frame}
    (new : ∀ f ∈ fs, ∀ d, f.destination? = some d → d < w.destinations.length) :
    (w.push fs).Scoped where
  frames f hf := (List.mem_append.1 hf).elim (new f) (h.frames f)
  attempts := h.attempts
  registry := h.registry
  events := h.events

theorem pop {fs : List Frame} (h : (w.push fs).Scoped) : w.Scoped where
  frames f hf := h.frames f (List.mem_append_right fs hf)
  attempts := h.attempts
  registry := h.registry
  events := h.events

theorem record (h : w.Scoped) {e : Event}
    (new : ∀ d, e.destination? = some d → d < w.destinations.length) : (w.record e).Scoped where
  frames := h.frames
  attempts := h.attempts
  registry := h.registry
  events e' he := (List.mem_cons.1 he).elim (fun same => same ▸ new) (h.events e')

theorem putDestination (h : w.Scoped) (d : DestinationId) (dest : Destination) :
    (w.putDestination d dest).Scoped := by
  have length : (w.putDestination d dest).destinations.length = w.destinations.length :=
    List.length_set
  constructor
  · rw [length]; exact h.frames
  · rw [length]; exact h.attempts
  · rw [length]; exact h.registry
  · rw [length]; exact h.events

theorem addAttempt (h : w.Scoped) {d : DestinationId} (lt : d < w.destinations.length)
    (pooled : Bool) : (w.addAttempt d pooled).Scoped where
  frames := h.frames
  attempts a ha := (List.mem_append.1 ha).elim (h.attempts a) fun new => by
    rw [List.mem_singleton.1 new]
    exact lt
  registry := h.registry
  events := h.events

theorem addTask (h : w.Scoped) (work : Work) : (w.addTask work).Scoped where
  frames f hf := by
    rcases List.mem_cons.1 hf with rfl | old
    · intro d hd
      cases hd
    · exact h.frames f old
  attempts := h.attempts
  registry := h.registry
  events := h.events

theorem glance (h : w.Scoped) : w.glance.Scoped := by
  rw [glance_eq]
  exact ⟨h.frames, h.attempts, h.registry, h.events⟩

theorem countFate (h : w.Scoped) (cause : Cause) : (w.countFate cause).Scoped := by
  cases cause <;> exact ⟨h.frames, h.attempts, h.registry, h.events⟩

theorem conclude (h : w.Scoped) {a : AttemptId} {attempt : Attempt}
    (underWay : w.attempts[a]? = some attempt) (o : Outcome) : (w.conclude a attempt o).Scoped where
  frames := h.frames
  attempts x hx := by
    rcases List.mem_or_eq_of_mem_set hx with old | rfl
    · exact h.attempts x old
    · exact h.attempts attempt (List.mem_of_getElem? underWay)
  registry := h.registry
  events := h.events

theorem locate (h : w.Scoped) (a : Address) : (w.locate a).2.Scoped := by
  simp only [Client.locate]
  split
  · exact h
  · -- there is one destination more, and the registry now names it
    have longer : (w.destinations ++ [Destination.fresh a w.limits]).length =
        w.destinations.length + 1 := List.length_append
    constructor
    · intro f hf d hd
      rw [longer]
      exact Nat.lt_succ_of_lt (h.frames f hf d hd)
    · intro x hx
      rw [longer]
      exact Nat.lt_succ_of_lt (h.attempts x hx)
    · intro r hr
      rw [longer]
      rcases List.mem_append.1 hr with old | new
      · exact Nat.lt_succ_of_lt (h.registry r old)
      · rw [List.mem_singleton.1 new]
        exact Nat.lt_succ_self _
    · intro e he d hd
      rw [longer]
      exact Nat.lt_succ_of_lt (h.events e he d hd)

/-- The destination that the topmost frame is about exists. -/
theorem exists_of_frame {f : Frame} (h : (w.push [f]).Scoped) {d : DestinationId}
    (names : f.destination? = some d) : ∃ D, w.destinations[d]? = some D :=
  ⟨_, List.getElem?_eq_getElem (h.frames f List.mem_cons_self d names)⟩

/-- The destination that an attempt is made for exists. -/
theorem exists_of_attempt (h : w.Scoped) {a : AttemptId} {attempt : Attempt}
    (underWay : w.attempts[a]? = some attempt) :
    ∃ D, w.destinations[attempt.destination]? = some D :=
  ⟨_, List.getElem?_eq_getElem (h.attempts attempt (List.mem_of_getElem? underWay))⟩

/-- Carrying out a frame keeps the references in range. -/
theorem turned {f : Frame} {w' : Client} (h : (w.push [f]).Scoped) (turn : Turned f w w') :
    w'.Scoped := by
  have s := h.pop
  have names := h.frames f List.mem_cons_self
  cases turn with
  | call c => exact (s.record (by simp [Event.destination?])).push (by simp [Frame.destination?])
  | within c => exact h
  | finish op => exact s.record (by simp [Event.destination?])
  | fail d e cause =>
      -- the event names the destination that the frame named
      refine ((s.record ?_).countFate cause).push (by simp [Frame.destination?])
      intro d' same
      cases same
      exact names d rfl
  | adrift names' missing => exact s
  | acquireIdle here head =>
      have lt := lt_of_here here
      exact (s.putDestination _ _).push (by simpa [Frame.destination?, Client.putDestination])
  | acquireNew here nothing free =>
      have lt := lt_of_here here
      refine ((s.putDestination _ _).addAttempt ?_ true).push ?_
      · simpa [Client.putDestination]
      · simpa [Frame.destination?, Client.putDestination, Client.addAttempt]
  | acquireFull here nothing full =>
      have lt := lt_of_here here
      exact s.push (by simpa [Frame.destination?])
  | takeIdle here head =>
      have lt := lt_of_here here
      exact (s.putDestination _ _).push (by simpa [Frame.destination?, Client.putDestination])
  | takeNone here nothing => exact s
  | parkSurplus here empty full => exact s.push (by simp [Frame.destination?])
  | parkIdle here empty room runs => exact s.glance.putDestination _ _
  | parkStopped here empty room stopped =>
      exact (s.glance.putDestination _ _).countRemoved.push (by simp [Frame.destination?])
  | passOver here head marked =>
      have lt := lt_of_here here
      exact (s.putDestination _ _).push (by simpa [Frame.destination?, Client.putDestination])
  | assign here head unmarked =>
      have lt := lt_of_here here
      refine ((s.putDestination _ _).record ?_).push (by simp [Frame.destination?])
      simpa [Event.destination?, Client.putDestination]
  | assignDeferred here head unmarked =>
      have lt := lt_of_here here
      refine ((s.putDestination _ _).record ?_).addTask _
      simpa [Event.destination?, Client.putDestination]
  | removeLast here empty => exact (s.putDestination _ _).countRemoved
  | removeMore here waiting =>
      have lt := lt_of_here here
      exact (s.putDestination _ _).countRemoved.push
        (by simpa [Frame.destination?, Client.putDestination, Client.countRemoved])
  | closeIdle here =>
      have lt := lt_of_here here
      apply (s.putDestination _ _).push
      simp [Frame.destination?, Client.putDestination, or_imp, forall_and, lt]
  | closeActive here =>
      have lt := lt_of_here here
      apply (s.putDestination _ _).push
      simp [Frame.destination?, Client.putDestination, or_imp, forall_and, lt]
  | failQueued here =>
      have lt := lt_of_here here
      exact (s.putDestination _ _).push (by simp [Frame.destination?, Client.putDestination, lt])

/-- Queueing a request keeps the references in range. -/
theorem sent {d : DestinationId} {dest : Destination} {r : Request} {l : ListenerId} {reply : Reply}
    {w' : Client} (h : w.Scoped) (here : w.destinations[d]? = some dest)
    (sent : Sent d dest r l w reply w') : w'.Scoped := by
  have lt := lt_of_here here
  have drawn := h.glance.drawTicket.glance
  cases sent with
  | mismatched error => exact h
  | stopped meant stopped => exact h.glance.countRejected
  | full meant runs full => exact h.glance.countRejected
  | takenBack meant runs room stops taken =>
      exact (drawn.putDestination _ _).countRejected
  | accepted meant runs room stillRuns =>
      have same : w.glance.drawTicket.glance.destinations = w.destinations := by
        simp [glance_eq, Client.drawTicket]
      refine ((drawn.putDestination _ _).record ?_).countQueued.push ?_
      · simpa [Event.destination?, Client.putDestination, same]
      · simpa [Frame.destination?, Client.putDestination, Client.record, Client.countQueued, same,
          or_imp, forall_and]

/-- The start of an operation keeps the references in range. -/
theorem started {op : Operation} {reply : Reply} {w' : Client} (h : w.Scoped)
    (start : Started op w reply w') : w'.Scoped := by
  cases start with
  | ignored op => exact h
  | send here sent => exact h.sent here sent
  | submitStopped stopped => exact h.glance
  | submitUnsupported runs nowhere => exact h.glance
  | submit runs meets here sent => exact (h.glance.locate _).sent here sent
  | submitAdrift runs meets missing => exact h.glance.locate _
  | locateUnsupported nowhere => exact h
  | locate meets => exact h.locate _
  | abortMissed here nothing => exact h
  | abort here taken =>
      have lt := lt_of_here here
      exact (h.putDestination _ _).push (by simpa [Frame.destination?, Client.putDestination])
  | releaseStopped here stopped =>
      have lt := lt_of_here here
      exact h.glance.push (by simpa [Frame.destination?, glance_eq])
  | releaseStray here runs nothing => exact h.glance
  | release here runs taken =>
      have lt := lt_of_here here
      exact (h.glance.putDestination _ _).push
        (by simpa [Frame.destination?, Client.putDestination, glance_eq])
  | remove here =>
      have lt := lt_of_here here
      exact h.push (by simpa [Frame.destination?])
  | close here =>
      have lt := lt_of_here here
      exact h.push (by simpa [Frame.destination?])
  | connect here => exact (h.addAttempt (lt_of_here here) false).push (by simp [Frame.destination?])
  | settleConnected underWay unsettled pooled =>
      have lt := h.attempts _ (List.mem_of_getElem? underWay)
      apply (h.conclude underWay _).countCreated.push
      simpa [Frame.destination?, Client.conclude, Client.countCreated]
  | settleFailed underWay unsettled pooled here =>
      exact ((h.conclude underWay _).putDestination _ _).countFailure.addTask _
  | settleAdrift underWay unsettled pooled missing => exact h.conclude underWay _
  | settleAbandoned underWay unsettled pooled => exact h.conclude underWay _
  | settleUnpooled underWay unsettled unpooled => exact h.conclude underWay _
  | deliver held work => exact (h.dropTask _).push (by simp [Frame.destination?])
  | failHeadAdrift held work missing => exact h.dropTask _
  | spare held work here empty =>
      have lt := lt_of_here here
      exact (h.dropTask _).record (by simpa [Event.destination?, Client.dropTask])
  | failHead held work here head =>
      have lt := lt_of_here here
      exact ((h.dropTask _).putDestination _ _).push
        (by simpa [Frame.destination?, Client.putDestination, Client.dropTask])
  | mark r => exact h.of_eq rfl rfl rfl rfl rfl
  | setRunning flag => exact h.of_eq rfl rfl rfl rfl rfl
  | stop =>
      have emptied : ({ w with running := false, registry := [] } : Client).Scoped :=
        ⟨h.frames, h.attempts, List.forall_mem_nil _, h.events⟩
      -- the destinations to be closed are those that the registry named
      apply emptied.push
      intro f hf d hd
      obtain ⟨r, hr, rfl⟩ := List.mem_map.1 hf
      cases hd
      exact h.registry r hr
  | foresee answers => exact h.of_eq rfl rfl rfl rfl rfl

end Scoped

theorem Initial.scoped {w : Client} (new : Initial w) : w.Scoped := by
  cases new with
  | fresh name limits listeners => constructor <;> intro x hx <;> cases hx
  | lone name limits listeners a => constructor <;> intro x hx <;> cases hx

/-- In every client that is reached, frames, attempts, the registry and the history refer only to
destinations that were made. -/
theorem Reached.scoped {allowed : Client → Operation → Prop} {w : Client}
    (run : Reached allowed w) : w.Scoped := by
  refine run.invariant Initial.scoped ?_ Scoped.pop ?_
  · intro f w w' _ h turn
    exact h.turned turn
  · intro op reply w w' _ _ _ h start
    have framed : (w.push [.finish op]).Scoped := h.push (by simp [Frame.destination?])
    exact (framed.started start).record (by simp [Event.destination?])

/-! ## Destinations stay -/

theorem destinations_glance (w : Client) : w.glance.destinations = w.destinations := by
  rw [glance_eq]

theorem Sent.length_destinations {d : DestinationId} {dest : Destination} {r : Request}
    {l : ListenerId} {reply : Reply} {w w' : Client} (sent : Sent d dest r l w reply w') :
    w'.destinations.length = w.destinations.length := by
  have drawn : w.glance.drawTicket.glance.destinations = w.destinations := by
    rw [destinations_glance, drawTicket, destinations_glance]
  cases sent with
  | mismatched error => rfl
  | stopped meant stopped | full meant runs full => exact congrArg _ (destinations_glance w)
  | takenBack meant runs room stops taken | accepted meant runs room stillRuns =>
      exact List.length_set.trans (congrArg _ drawn)

theorem length_destinations_locate (w : Client) (a : Address) :
    w.destinations.length ≤ (w.locate a).2.destinations.length := by
  rw [locate]
  split
  · exact Nat.le_refl _
  · exact Nat.le_trans (Nat.le_add_right _ _) (Nat.le_of_eq List.length_append.symm)

/-- Destinations that were made stay. -/
theorem Started.length_destinations_le {op : Operation} {reply : Reply} {w w' : Client}
    (start : Started op w reply w') : w.destinations.length ≤ w'.destinations.length := by
  have glanced := congrArg List.length (destinations_glance w)
  cases start with
  | send here sent => exact Nat.le_of_eq sent.length_destinations.symm
  | submit runs meets here sent =>
      rw [sent.length_destinations, ← glanced]
      exact length_destinations_locate _ _
  | submitAdrift runs meets missing =>
      rw [← glanced]
      exact length_destinations_locate _ _
  | locate meets => exact length_destinations_locate w _
  | submitStopped stopped | submitUnsupported runs nowhere | releaseStray here runs nothing
  | releaseStopped here stopped => exact Nat.le_of_eq glanced.symm
  | release here runs taken => exact Nat.le_of_eq (List.length_set.trans glanced).symm
  | abort here taken | settleFailed underWay unsettled pooled here | failHead held work here head =>
      exact Nat.le_of_eq List.length_set.symm
  | _ => exact Nat.le_refl _

end Client

end ConnectionPool
