import ConnectionPool.Client.Turn

/-!
# Operations on a client

`Client.invoke` starts an operation. It does what the operation does before it can call anything,
answers, and puts the rest on the agenda. The answer is final: what happens later in the operation
does not change it.

Sending is all or nothing. The checks come in a fixed order: the request is meant for this
destination, the client runs, the queue has room, and the client still runs once the request is
queued. A request that fails the last check is taken back, unless it was dealt with already.
-/

set_option autoImplicit false

namespace ConnectionPool.Client

/-- Queue a request at a destination. -/
def send (w : Client) (d : DestinationId) (dest : Destination) (r : Request) (l : ListenerId) :
    Reply × Client :=
  match dest.mismatch? r with
  | some e => (.refused e, w)
  | none =>
      match w.checkRunning with
      | (false, w) => (.refused (.stopped w.name), w.countRejected)
      | (true, w) =>
          let e : Exchange := ⟨w.nextTicket, r, l⟩
          match dest.queue.offer e with
          | .error _ => (.refused (.queueFull dest.queue.capacity), w.countRejected)
          | .ok queue =>
              let w := { w with nextTicket := w.nextTicket + 1 }
              let (runs, w) := w.checkRunning
              -- the first exchange for the request is taken back, be it this one or an earlier one
              match runs, queue.removeFirst (·.isFor r.id) with
              | false, some (_, queue) =>
                  (.refused (.stopping w.name),
                    (w.putDestination d { dest with queue := queue }).countRejected)
              | _, _ =>
                  -- listeners hear of the request before a connection is looked for
                  let w := (w.putDestination d { dest with queue := queue }).record (.accepted d e)
                  (.done, w.countQueued.push
                    ((List.range w.listeners).map (fun i => .call (.requestQueued i r)) ++
                      [.acquire d]))

/-- Find the destination of an address, or make it. -/
def locate (w : Client) (a : Address) : DestinationId × Client :=
  match w.registry.lookup a with
  | some d => (d, w)
  | none =>
      let d := w.destinations.length
      (d, { w with
        destinations := w.destinations ++ [.fresh a w.limits]
        registry := w.registry ++ [(a, d)] })

/-- A pooled attempt ends. A connection is put to work; a failure gives the slot back at once and
leaves it to the executor to fail the head of the queue. -/
def settlePooled (w : Client) (d : DestinationId) : Outcome → Client
  | .connected c => w.countCreated.push [.serve d c true]
  | .failed error =>
      match w.destinations[d]? with
      | none => w
      | some dest =>
          (w.putDestination d { dest with slots := dest.slots.release }).countFailure.addTask
            (.failHead d error)
  | .abandoned => w

/-- Start an operation: its answer, and the client with the rest of the operation on the agenda. -/
def start (w : Client) : Operation → Reply × Client
  | .send d r l =>
      match w.destinations[d]? with
      | none => (.ignored, w)
      | some dest => w.send d dest r l
  | .submit r l =>
      match w.checkRunning with
      | (false, w) => (.refused (.stopped w.name), w)
      | (true, w) =>
          match r.address? with
          | none => (.refused (.unsupportedScheme r.scheme), w)
          | some a =>
              let (d, w) := w.locate a
              match w.destinations[d]? with
              | none => (.ignored, w)
              | some dest => w.send d dest r l
  | .locate scheme host port =>
      match Address.resolve? scheme host port with
      | none => (.refused (.unsupportedScheme scheme), w)
      | some a => (.located (w.locate a).1, (w.locate a).2)
  | .abort d r reason =>
      match w.destinations[d]? with
      | none => (.ignored, w)
      | some dest =>
          match dest.queue.removeFirst (·.isFor r) with
          | none => (.found false, w)
          | some (e, queue) =>
              (.found true, (w.putDestination d { dest with queue := queue }).push
                [.fail d e (.aborted reason)])
  | .release d c =>
      match w.destinations[d]? with
      | none => (.ignored, w)
      | some dest =>
          match w.checkRunning with
          | (false, w) => (.done, w.push [.remove d c, .call (.close c)])
          | (true, w) =>
              match dest.active.removeFirst (· == c) with
              | none => (.done, w)
              | some (_, active) =>
                  (.done, (w.putDestination d { dest with active := active }).push
                    [.serve d c false])
  | .remove d c =>
      match w.destinations[d]? with
      | none => (.ignored, w)
      | some _ => (.done, w.push [.remove d c])
  | .close d =>
      match w.destinations[d]? with
      | none => (.ignored, w)
      | some _ => (.done, w.push [.closeIdle d])
  | .connect d =>
      match w.destinations[d]? with
      | none => (.ignored, w)
      | some _ =>
          (.opened w.attempts.length, (w.addAttempt d false).push
            [.call (.connect d w.attempts.length)])
  | .settle a o =>
      match w.attempts[a]? with
      | none => (.ignored, w)
      | some attempt =>
          match attempt.outcome with
          | some _ => (.ignored, w)
          | none =>
              let w := { w with attempts := w.attempts.set a { attempt with outcome := some o } }
              (.done, if attempt.pooled then w.settlePooled attempt.destination o else w)
  | .perform t =>
      match w.tasks.find? (·.id == t) with
      | none => (.ignored, w)
      | some task =>
          let w := { w with tasks := w.tasks.filter (·.id != t) }
          match task.work with
          | .deliver c e => (.done, w.push [.call (.send c e)])
          | .failHead d error =>
              match w.destinations[d]? with
              | none => (.done, w)
              | some dest =>
                  match dest.queue.poll with
                  | none => (.done, w.record (.spared d error))
                  | some (e, queue) =>
                      (.done, (w.putDestination d { dest with queue := queue }).push
                        [.fail d e (.unconnected error)])
  | .mark r => (.done, { w with marked := r :: w.marked })
  | .setRunning flag => (.done, { w with running := flag })
  | .stop =>
      (.done, ({ w with running := false, registry := [] } : Client).push
        (w.registry.map fun r => .closeIdle r.2))
  | .foresee answers => (.done, { w with foreseen := answers })

/-- Invoke an operation. Its end is marked on the agenda below what it still has to do. -/
def invoke (w : Client) (op : Operation) : Reply × Client :=
  let (reply, w) := (w.push [.finish op]).start op
  (reply, w.record (.invoked op reply))

end ConnectionPool.Client
