import ConnectionPool.Destination
import ConnectionPool.Metrics

/-!
# Clients

A client owns the destinations and what they share: limits, the running flag, request listeners,
connection attempts, executor tasks and metrics. Every time a destination turns to the outside (to
ask for a connection, to hand over a request, to tell a listener) the outside may call the client
again before it returns, so a client is a machine with a stack of frames. A frame is the rest of an
operation, or a callback that has not returned yet. `Client.awaits` says when the machine has to
wait for the outside: between operations and inside a callback.

This module holds the data of the machine. Its turns are in `ConnectionPool.Client.Turn`, and the
operations that the outside may invoke in `ConnectionPool.Client.Invoke`.
-/

set_option autoImplicit false

namespace ConnectionPool

abbrev DestinationId := Nat
abbrev AttemptId := Nat
abbrev TaskId := Nat

/-! ## Attempts and tasks -/

/-- How a connection attempt ends. An abandoned attempt is one whose completion was given up: it
neither delivers a connection nor reports a failure. -/
inductive Outcome where
  | connected (c : ConnectionId)
  | failed (error : TransportError)
  | abandoned
deriving DecidableEq, Repr

/-- A connection that was asked for. A pooled attempt holds a slot of its destination and delivers
to the pool; any other delivers to the caller who asked. -/
structure Attempt where
  destination : DestinationId
  pooled : Bool
  outcome : Option Outcome := none
deriving DecidableEq, Repr

namespace Attempt

/-- Neither a connection nor a failure was reported yet, nor ever will be if abandoned. -/
def isUnfinished (a : Attempt) : Bool :=
  match a.outcome with
  | none => true
  | some .abandoned => true
  | some (.connected _) => false
  | some (.failed _) => false

/-- What the caller of a connection that is not pooled finds when asking for it; nothing as long as
the attempt goes on. -/
def answer? (a : Attempt) : Option (Except PoolError ConnectionId) :=
  a.outcome.map fun
    | .connected c => .ok c
    | .failed error => .error (.transport error)
    | .abandoned => .error (.connectionFailed "connector dropped the completion callback")

end Attempt

/-- Work that is left to the executor. -/
inductive Work where
  /-- Hand an exchange to the connection that took it. -/
  | deliver (c : ConnectionId) (e : Exchange)
  /-- Fail the exchange at the head of the queue after an attempt failed. -/
  | failHead (d : DestinationId) (error : TransportError)
deriving DecidableEq, Repr

/-- A task that the executor holds. -/
structure Task where
  id : TaskId
  work : Work
deriving DecidableEq, Repr

/-! ## Calls to the outside -/

/-- What a client calls: the connector, the executor, a connection or a listener. -/
inductive Call where
  | connect (d : DestinationId) (a : AttemptId)
  | execute (t : TaskId)
  | send (c : ConnectionId) (e : Exchange)
  | close (c : ConnectionId)
  | requestQueued (listener : Nat) (r : Request)
  | requestFailed (listener : Nat) (r : Request) (f : ExchangeFailure)
  | responseFailed (e : Exchange) (f : ExchangeFailure)
  | completed (e : Exchange) (result : ExchangeResult)
deriving DecidableEq, Repr

/-- The call goes to a listener. Listeners are called so that a panic ends the callback and nothing
else. -/
def Call.isGuarded : Call → Bool
  | requestQueued _ _ => true
  | requestFailed _ _ _ => true
  | responseFailed _ _ => true
  | completed _ _ => true
  | connect _ _ => false
  | execute _ => false
  | send _ _ => false
  | close _ => false

/-! ## Operations and their replies -/

/-- What the outside may ask of a client, also from within a callback. -/
inductive Operation where
  /-- Queue a request at a destination. -/
  | send (d : DestinationId) (r : Request) (l : ListenerId)
  /-- Queue a request at the destination of its address, which is made if need be. -/
  | submit (r : Request) (l : ListenerId)
  /-- Find or make the destination of an address. -/
  | locate (scheme host : String) (port : Option UInt16)
  /-- Take a request back that is still queued. -/
  | abort (d : DestinationId) (r : RequestId) (reason : String)
  /-- A connection has finished its exchange. -/
  | release (d : DestinationId) (c : ConnectionId)
  /-- A connection is going away. -/
  | remove (d : DestinationId) (c : ConnectionId)
  /-- Close every pooled connection of a destination and fail every waiting exchange. -/
  | close (d : DestinationId)
  /-- Ask for a connection that is not pooled. -/
  | connect (d : DestinationId)
  /-- A connection attempt ends. -/
  | settle (a : AttemptId) (o : Outcome)
  /-- The executor runs a task. -/
  | perform (t : TaskId)
  /-- Mark a request as given up. -/
  | mark (r : RequestId)
  /-- Set the running flag. -/
  | setRunning (flag : Bool)
  /-- Clear the running flag, forget every destination and close each of them. -/
  | stop
  /-- Fix what the next checks of the running flag see. It stands for a flag that changes between
  two checks of one operation. -/
  | foresee (answers : List Bool)
deriving DecidableEq, Repr

/-- What an operation answers. The answer is known before the operation calls anything. -/
inductive Reply where
  | done
  | refused (e : PoolError)
  | found (yes : Bool)
  | located (d : DestinationId)
  | opened (a : AttemptId)
  /-- The operation names a destination, an attempt or a task that is not there. -/
  | ignored
deriving DecidableEq, Repr

/-! ## Frames and events -/

/-- A part of an operation that is still to be done. -/
inductive Frame where
  /-- Make a call. -/
  | call (c : Call)
  /-- A call that has not returned. -/
  | within (c : Call)
  /-- Find a connection for the head of the queue: an idle one, or a new one within the limit. -/
  | acquire (d : DestinationId)
  /-- Put a connection to work that became idle in the meantime. -/
  | takeIdle (d : DestinationId)
  /-- Put a connection in hand to work on the head of the queue, or park it. -/
  | serve (d : DestinationId) (c : ConnectionId) (deferred : Bool)
  /-- Forget a connection, and look for another one if exchanges wait. -/
  | remove (d : DestinationId) (c : ConnectionId)
  /-- Fail an exchange that was taken off the queue. -/
  | fail (d : DestinationId) (e : Exchange) (cause : Cause)
  /-- Close the idle connections, then go on with the active ones. -/
  | closeIdle (d : DestinationId)
  /-- Close the active connections, then go on with the queue. -/
  | closeActive (d : DestinationId)
  /-- Free every slot and fail every waiting exchange. -/
  | failQueued (d : DestinationId)
  /-- The operation is over. -/
  | finish (op : Operation)
deriving DecidableEq, Repr

/-- What happened, as far as it concerns more than the state of one moment. -/
inductive Event where
  | invoked (op : Operation) (reply : Reply)
  | returned (op : Operation)
  | called (c : Call)
  /-- An exchange joined a queue to stay. -/
  | accepted (d : DestinationId) (e : Exchange)
  /-- A connection took an exchange, to be sent at once or by a task. -/
  | assigned (d : DestinationId) (c : ConnectionId) (e : Exchange) (deferred : Bool)
  | failed (d : DestinationId) (e : Exchange) (cause : Cause)
  /-- A failed attempt found nothing to fail. -/
  | spared (d : DestinationId) (error : TransportError)
deriving DecidableEq, Repr

/-! ## The machine -/

/-- A client with everything it owns. -/
structure Client where
  name : String
  limits : Limits
  /-- The number of client-wide request listeners. -/
  listeners : Nat := 0
  running : Bool := true
  /-- What the next checks of the running flag see. -/
  foreseen : List Bool := []
  /-- Every destination ever made; its identity is its place. -/
  destinations : List Destination := []
  /-- The destinations that requests are routed to, in the order they were made. -/
  registry : List (Address × DestinationId) := []
  /-- Requests that were given up. -/
  marked : List RequestId := []
  /-- Every connection ever asked for; its identity is its place. -/
  attempts : List Attempt := []
  /-- Tasks that the executor holds. -/
  tasks : List Task := []
  nextTask : TaskId := 0
  nextTicket : Nat := 0
  metrics : Metrics := {}
  /-- What is still to be done, innermost first. -/
  agenda : List Frame := []
  /-- What happened so far, latest first. -/
  history : List Event := []
deriving DecidableEq

namespace Client

/-- The machine waits for the outside: nothing is to be done, or a callback has not returned. -/
def awaits (w : Client) : Bool :=
  match w.agenda with
  | [] => true
  | .within _ :: _ => true
  | _ :: _ => false

/-- A running client without destinations. -/
def fresh (name : String) (limits : Limits) (listeners : Nat) : Client :=
  { name, limits, listeners }

/-- A running client that owns a single destination, to which no request is routed. -/
def lone (name : String) (limits : Limits) (listeners : Nat) (a : Address) : Client :=
  { name, limits, listeners, destinations := [.fresh a limits] }

def isMarked (w : Client) (r : RequestId) : Bool := w.marked.contains r

def putDestination (w : Client) (d : DestinationId) (dest : Destination) : Client :=
  { w with destinations := w.destinations.set d dest }

def push (w : Client) (frames : List Frame) : Client :=
  { w with agenda := frames ++ w.agenda }

def record (w : Client) (e : Event) : Client :=
  { w with history := e :: w.history }

/-- Read the running flag: what was foreseen comes first, then the flag itself. -/
def checkRunning (w : Client) : Bool × Client :=
  match w.foreseen with
  | [] => (w.running, w)
  | b :: rest => (b, { w with foreseen := rest })

def countRejected (w : Client) : Client :=
  { w with metrics.requestsRejected := w.metrics.requestsRejected + 1 }

def countQueued (w : Client) : Client :=
  { w with metrics.requestsQueued := w.metrics.requestsQueued + 1 }

def countAborted (w : Client) : Client :=
  { w with metrics.requestsAborted := w.metrics.requestsAborted + 1 }

def countCreated (w : Client) : Client :=
  { w with metrics.connectionsCreated := w.metrics.connectionsCreated + 1 }

def countFailure (w : Client) : Client :=
  { w with metrics.connectionFailures := w.metrics.connectionFailures + 1 }

def countRemoved (w : Client) : Client :=
  { w with metrics.connectionsRemoved := w.metrics.connectionsRemoved + 1 }

/-- Ask for a connection: the attempt is there before the connector is called. -/
def addAttempt (w : Client) (d : DestinationId) (pooled : Bool) : Client :=
  { w with attempts := w.attempts ++ [{ destination := d, pooled := pooled }] }

/-- Give a piece of work to the executor: the task is there before the executor is called. -/
def addTask (w : Client) (work : Work) : Client :=
  { w with
    tasks := w.tasks ++ [⟨w.nextTask, work⟩]
    nextTask := w.nextTask + 1
    agenda := .call (.execute w.nextTask) :: w.agenda }

/-- Whom a failed exchange is reported to, in order: the request listeners if the cause concerns
them, then the exchange's own listener, first of the failure and then of the result. -/
def failureCalls (w : Client) (e : Exchange) (cause : Cause) : List Call :=
  (if cause.reachesRequestListeners then
    (List.range w.listeners).map fun i => .requestFailed i e.request cause.requestFailure
  else []) ++
  [.responseFailed e cause.responseFailure, .completed e (.ofCause e.request cause)]

end Client

end ConnectionPool
