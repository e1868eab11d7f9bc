import ConnectionPool.Proofs.Client.Scope

/-!
# A destination on its own

A client runs all its destinations on one agenda. The site of a destination is what of the client
concerns it: its own state, the frames about it, the attempts it made and the events at it.
`Site.Turn` lists what carrying out a frame can do to a site and `Site.Start` what the start of an
operation can do; the other destinations, the calls that are made and the running flag do not appear
there, so where they decide what happens a site may move either way.

That every step of a client is a move of each of its sites is shown in
`ConnectionPool.Proofs.Destination.Simulation`.
-/

set_option autoImplicit false

namespace ConnectionPool

/-- The frame is about this destination. -/
def Frame.isAt (d : DestinationId) (f : Frame) : Bool := f.destination? == some d

/-- The event happened at this destination. -/
def Event.isAt (d : DestinationId) (e : Event) : Bool := e.destination? == some d

/-- The attempt was made to fill a slot of this destination. -/
def Attempt.isOf (d : DestinationId) (a : Attempt) : Bool := a.pooled && a.destination == d

theorem Attempt.isOf_iff {a : Attempt} {d : DestinationId} :
    a.isOf d = true ↔ a.pooled = true ∧ a.destination = d := by
  rw [Attempt.isOf, Bool.and_eq_true, beq_iff_eq]

/-- What concerns one destination, with the innermost frame and the latest event first. -/
structure Site where
  dest : Destination
  frames : List Frame := []
  attempts : List Attempt := []
  events : List Event := []

namespace Client

/-- The frames about a destination, innermost first. -/
def framesAt (w : Client) (d : DestinationId) : List Frame := w.agenda.filter (·.isAt d)

/-- The attempts that a destination made to fill its slots, in the order they were made. -/
def attemptsOf (w : Client) (d : DestinationId) : List Attempt := w.attempts.filter (·.isOf d)

/-- The events at a destination, latest first. -/
def eventsAt (w : Client) (d : DestinationId) : List Event := w.history.filter (·.isAt d)

/-- The site of a destination, whose state is `dest`. -/
def site (w : Client) (d : DestinationId) (dest : Destination) : Site :=
  ⟨dest, w.framesAt d, w.attemptsOf d, w.eventsAt d⟩

/-- The connection is idle or active at the destination. -/
def Pools (w : Client) (d : DestinationId) (c : ConnectionId) : Prop :=
  ∃ dest, w.destinations[d]? = some dest ∧ (c ∈ dest.idle.items ∨ c ∈ dest.active.items)

/-- What the outside may invoke if it is to leave the slots of the destination `d` in order: it does
not close the destination, and takes away no connection that is not pooled there. A connection that
is released to a stopped client is taken away. -/
def Tidy (d : DestinationId) (w : Client) : Operation → Prop
  | .close d' => d' ≠ d
  | .stop => ∀ r ∈ w.registry, r.2 ≠ d
  | .remove d' c => d' = d → w.Pools d c
  | .release d' c => d' = d → w.seesRunning = false → w.Pools d c
  | _ => True

end Client

namespace Site

/-- What carrying out the frame on top can do to the site of the destination `d`. -/
inductive Turn (d : DestinationId) (s : Site) : Site → Prop
  | fail {F e cause} (top : s.frames = .fail d e cause :: F) :
      Turn d s { s with frames := F, events := .failed d e cause :: s.events }
  | acquireIdle {F c idle} (top : s.frames = .acquire d :: F)
      (head : s.dest.idle.poll = some (c, idle)) :
      Turn d s { s with dest.idle := idle, frames := .serve d c false :: F }
  | acquireNew {F slots} (top : s.frames = .acquire d :: F) (nothing : s.dest.idle.poll = none)
      (free : s.dest.slots.reserve? = some slots) :
      Turn d s
        { s with
          dest.slots := slots
          frames := .takeIdle d :: F
          attempts := s.attempts ++ [{ destination := d, pooled := true }] }
  | acquireFull {F} (top : s.frames = .acquire d :: F) (nothing : s.dest.idle.poll = none)
      (full : s.dest.slots.reserve? = none) :
      Turn d s { s with frames := .takeIdle d :: F }
  | takeIdle {F c idle} (top : s.frames = .takeIdle d :: F)
      (head : s.dest.idle.poll = some (c, idle)) :
      Turn d s { s with dest.idle := idle, frames := .serve d c false :: F }
  | takeNone {F} (top : s.frames = .takeIdle d :: F) (nothing : s.dest.idle.poll = none) :
      Turn d s { s with frames := F }
  | parkSurplus {F c deferred} (top : s.frames = .serve d c deferred :: F)
      (empty : s.dest.queue.poll = none) (full : s.dest.idle.offer c = .error c) :
      Turn d s { s with frames := F }
  | parkIdle {F c deferred idle} (top : s.frames = .serve d c deferred :: F)
      (empty : s.dest.queue.poll = none) (room : s.dest.idle.offer c = .ok idle) :
      Turn d s { s with dest.idle := idle, frames := F }
  | parkStopped {F c deferred idle} (top : s.frames = .serve d c deferred :: F)
      (empty : s.dest.queue.poll = none) (room : s.dest.idle.offer c = .ok idle) :
      Turn d s { s with dest := { s.dest with idle := idle }.forget c, frames := F }
  | passOver {F c deferred e queue} (top : s.frames = .serve d c deferred :: F)
      (head : s.dest.queue.poll = some (e, queue)) :
      Turn d s
        { s with
          dest.queue := queue
          frames := .fail d e (.aborted Client.passedOverReason) :: .serve d c deferred :: F }
  | assign {F c deferred e queue} (top : s.frames = .serve d c deferred :: F)
      (head : s.dest.queue.poll = some (e, queue)) :
      Turn d s
        { s with
          dest := { s.dest with queue := queue, active := s.dest.active.offerOrDrop c }
          frames := F
          events := .assigned d c e deferred :: s.events }
  | removeLast {F c} (top : s.frames = .remove d c :: F) (empty : s.dest.queue.items = []) :
      Turn d s { s with dest := s.dest.forget c, frames := F }
  | removeMore {F c} (top : s.frames = .remove d c :: F) (waiting : s.dest.queue.items ≠ []) :
      Turn d s { s with dest := s.dest.forget c, frames := .acquire d :: F }
  | closeIdle {F} (top : s.frames = .closeIdle d :: F) :
      Turn d s
        { s with dest.idle := s.dest.idle.drain.2, frames := .closeActive d :: F }
  | closeActive {F} (top : s.frames = .closeActive d :: F) :
      Turn d s
        { s with dest.active := s.dest.active.drain.2, frames := .failQueued d :: F }
  | failQueued {F} (top : s.frames = .failQueued d :: F) :
      Turn d s
        { s with
          dest := { s.dest with slots := s.dest.slots.reset, queue := s.dest.queue.drain.2 }
          frames := s.dest.queue.items.map (fun e => .fail d e .closed) ++ F }

/-- What the start of an operation can do to the site of the destination `d`. In a steady client
only an exchange that was just queued is taken back. In a tidy one the destination is not closed,
and only pooled connections are removed. -/
inductive Start (d : DestinationId) (steady tidy : Prop) (s : Site) : Site → Prop
  | stay : Start d steady tidy s s
  | accept {e queue} (room : s.dest.queue.offer e = .ok queue) :
      Start d steady tidy s
        { s with
          dest.queue := queue
          frames := .acquire d :: s.frames
          events := .accepted d e :: s.events }
  | takeBack {r e e' queue queue'} (own : steady → e' = e)
      (room : s.dest.queue.offer e = .ok queue)
      (taken : queue.removeFirst (·.isFor r) = some (e', queue')) :
      Start d steady tidy s { s with dest.queue := queue' }
  | abort {r e queue reason} (taken : s.dest.queue.removeFirst (·.isFor r) = some (e, queue)) :
      Start d steady tidy s
        { s with dest.queue := queue, frames := .fail d e (.aborted reason) :: s.frames }
  | release {c c' active} (taken : s.dest.active.removeFirst (· == c) = some (c', active)) :
      Start d steady tidy s { s with dest.active := active, frames := .serve d c false :: s.frames }
  | remove {c} (pooled : tidy → c ∈ s.dest.idle.items ∨ c ∈ s.dest.active.items) :
      Start d steady tidy s { s with frames := .remove d c :: s.frames }
  | close (n : Nat) (spared : tidy → n = 0) :
      Start d steady tidy s { s with frames := List.replicate n (.closeIdle d) ++ s.frames }
  | connected {before a after c} (underWay : s.attempts = before ++ a :: after)
      (unsettled : a.outcome = none) :
      Start d steady tidy s
        { s with
          frames := .serve d c true :: s.frames
          attempts := before ++ { a with outcome := some (.connected c) } :: after }
  | failedAttempt {before a after error} (underWay : s.attempts = before ++ a :: after)
      (unsettled : a.outcome = none) :
      Start d steady tidy s
        { s with
          dest.slots := s.dest.slots.release
          attempts := before ++ { a with outcome := some (.failed error) } :: after }
  | abandoned {before a after} (underWay : s.attempts = before ++ a :: after)
      (unsettled : a.outcome = none) :
      Start d steady tidy s
        { s with attempts := before ++ { a with outcome := some .abandoned } :: after }
  | spare (error : TransportError) :
      Start d steady tidy s { s with events := .spared d error :: s.events }
  | failHead {e queue error} (head : s.dest.queue.poll = some (e, queue)) :
      Start d steady tidy s
        { s with dest.queue := queue, frames := .fail d e (.unconnected error) :: s.frames }

/-- What one step of the client can do to the site of the destination `d`. An operation starts only
when the client awaits the outside, and no removal is under way then. -/
inductive Move (d : DestinationId) (steady tidy : Prop) (s : Site) : Site → Prop
  | stay : Move d steady tidy s s
  | turn {s'} (turn : Turn d s s') : Move d steady tidy s s'
  | start {s'} (ready : ∀ c, .remove d c ∉ s.frames) (start : Start d steady tidy s s') :
      Move d steady tidy s s'

end Site

end ConnectionPool
