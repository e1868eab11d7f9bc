import ConnectionPool.Client.Basic

/-!
# Turns of a client

A turn carries out the frame on top of the agenda. Each frame does what one operation does between
two moments at which another could come in between: it takes from one pool, or moves a connection
and calls out. A turn always ends, and it never waits: calling the outside only puts the callback on
top of the agenda. `Client.turn` does nothing while the client awaits the outside.

Two frames decide where connections go. `serve` puts a connection in hand to work on the head of the
queue: exchanges whose request was given up are failed and passed over, and when none is left the
connection is parked. `acquire` finds a connection for the head of the queue: an idle one if there
is one, or a new one within the limit, whose attempt takes up serving when it ends.
-/

set_option autoImplicit false

namespace ConnectionPool.Client

/-- The reason given for exchanges that are passed over because their request was given up. -/
def passedOverReason : String := "Aborted"

/-- Park a connection that found nothing to do. If there is no room it is closed; if the client does
not run it is forgotten and closed. -/
def park (w : Client) (d : DestinationId) (dest : Destination) (c : ConnectionId) : Client :=
  match dest.idle.offer c with
  | .error _ => w.push [.call (.close c)]
  | .ok idle =>
      let dest := { dest with idle := idle }
      -- a client that has stopped keeps no idle connection
      match w.checkRunning with
      | (true, w) => w.putDestination d dest
      | (false, w) =>
          (w.putDestination d (dest.forget c)).countRemoved.push [.call (.close c)]

/-- Put a connection in hand to work. -/
def serve (w : Client) (d : DestinationId) (dest : Destination) (c : ConnectionId)
    (deferred : Bool) : Client :=
  match dest.queue.poll with
  | none => w.park d dest c
  | some (e, queue) =>
      if w.isMarked e.request.id then
        -- the connection stays in hand for the next exchange
        (w.putDestination d { dest with queue := queue }).push
          [.fail d e (.aborted passedOverReason), .serve d c deferred]
      else
        let dest := { dest with queue := queue, active := dest.active.offerOrDrop c }
        let w := (w.putDestination d dest).record (.assigned d c e deferred)
        if deferred then w.addTask (.deliver c e) else w.push [.call (.send c e)]

/-- Find a connection for the head of the queue. -/
def acquire (w : Client) (d : DestinationId) (dest : Destination) : Client :=
  match dest.idle.poll with
  | some (c, idle) => (w.putDestination d { dest with idle := idle }).push [.serve d c false]
  | none =>
      -- by the time the connector has been called a connection may have become idle
      match dest.slots.reserve? with
      | none => w.push [.takeIdle d]
      | some slots =>
          ((w.putDestination d { dest with slots := slots }).addAttempt d true).push
            [.call (.connect d w.attempts.length), .takeIdle d]

/-- Carry out one frame that was taken off the agenda. A frame of a destination that does not exist
does nothing. -/
def perform (w : Client) : Frame → Client
  | .call c => (w.record (.called c)).push [.within c]
  | .within c => w.push [.within c]
  | .finish op => w.record (.returned op)
  | .fail d e cause =>
      let w := w.record (.failed d e cause)
      let w := match cause with
        | .aborted _ => w.countAborted
        | .unconnected _ => w
        | .closed => w
      w.push ((w.failureCalls e cause).map .call)
  | .acquire d =>
      match w.destinations[d]? with
      | none => w
      | some dest => w.acquire d dest
  | .takeIdle d =>
      match w.destinations[d]? with
      | none => w
      | some dest =>
          match dest.idle.poll with
          | none => w
          | some (c, idle) =>
              (w.putDestination d { dest with idle := idle }).push [.serve d c false]
  | .serve d c deferred =>
      match w.destinations[d]? with
      | none => w
      | some dest => w.serve d dest c deferred
  | .remove d c =>
      match w.destinations[d]? with
      | none => w
      | some dest =>
          -- the slot is given back even for a connection that is not pooled
          let w := (w.putDestination d (dest.forget c)).countRemoved
          if dest.queue.isEmpty then w else w.push [.acquire d]
  | .closeIdle d =>
      match w.destinations[d]? with
      | none => w
      | some dest =>
          let (cs, idle) := dest.idle.drain
          (w.putDestination d { dest with idle := idle }).push
            (cs.map (fun c => .call (.close c)) ++ [.closeActive d])
  | .closeActive d =>
      match w.destinations[d]? with
      | none => w
      | some dest =>
          let (cs, active) := dest.active.drain
          (w.putDestination d { dest with active := active }).push
            (cs.map (fun c => .call (.close c)) ++ [.failQueued d])
  | .failQueued d =>
      match w.destinations[d]? with
      | none => w
      | some dest =>
          -- every slot is free now, also those of attempts that have not ended
          let (es, queue) := dest.queue.drain
          (w.putDestination d { dest with slots := dest.slots.reset, queue := queue }).push
            (es.map fun e => .fail d e .closed)

/-- Carry out the frame on top of the agenda, unless the client awaits the outside. -/
def turn (w : Client) : Client :=
  match w.agenda with
  | [] => w
  | f :: rest => { w with agenda := rest }.perform f

/-- A callback returns. -/
def resume (w : Client) : Client :=
  match w.agenda with
  | .within _ :: rest => { w with agenda := rest }
  | _ => w

/-- What a panic leaves of an agenda: it ends callbacks, and with them the operations they belong
to, up to the innermost guarded one. That callback is over as if it had returned. -/
def unwound : List Frame → List Frame
  | [] => []
  | .within c :: rest => if c.isGuarded then rest else unwound rest
  | _ :: rest => unwound rest

/-- A callback panics. Where its call is guarded, the panic ends this callback and goes no
further. -/
def panic (w : Client) : Client := { w with agenda := unwound w.agenda }

end ConnectionPool.Client
