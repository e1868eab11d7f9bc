import ConnectionPool.BoundedQueue
import ConnectionPool.Exchange
import ConnectionPool.Limits
import ConnectionPool.SlotCounter
import ConnectionPool.Text.Quoted

/-!
# Destinations

A destination is the pool of one address: a bounded queue of waiting exchanges, the connections that
are idle and those that carry an exchange, and the counter of slots, which are held by connections
that exist or are being made. This module holds the state, the check that a request is meant for
this destination, and what can be read from the outside: statistics, listing and texts. How the
state changes is in `ConnectionPool.Client.Turn`, since every change may call the client.
-/

set_option autoImplicit false

namespace ConnectionPool

/-- The identity of a connection. -/
abbrev ConnectionId := Nat

/-- The pool of one address. -/
structure Destination where
  address : Address
  slots : SlotCounter
  queue : BoundedQueue Exchange
  idle : BoundedQueue ConnectionId
  active : BoundedQueue ConnectionId
deriving DecidableEq

/-- Which of the two pools a connection is in. -/
inductive Placement where
  | idle
  | active
deriving DecidableEq, Repr

def Placement.display : Placement → String
  | idle => "IDLE"
  | active => "ACTIVE"

/-- What a destination reports about itself. -/
structure Stats where
  scheme : String
  host : String
  port : UInt16
  queuedRequests : Nat
  idleConnections : Nat
  activeConnections : Nat
  /-- Connections that exist or are being made. -/
  connectionCount : Nat
  maxConnections : Nat
  maxQueueSize : Nat
deriving DecidableEq, Repr

namespace Destination

/-- A destination without connections and without waiting exchanges. -/
def fresh (a : Address) (l : Limits) : Destination where
  address := a
  slots := .empty l.connections
  queue := .empty l.queue
  idle := .empty l.connections
  active := .empty l.connections

/-- Why the request is not meant for this destination, if so: the scheme is compared first, then the
host, then the port if the request names one. -/
def mismatch? (d : Destination) (r : Request) : Option PoolError :=
  if r.scheme ≠ d.address.scheme then some (.invalidScheme r.scheme d.address.display)
  else if r.host ≠ d.address.host then some (.invalidHost r.host d.address.display)
  else match r.port with
    | none => none
    | some p => if p ≠ d.address.port then some (.invalidPort p d.address.display) else none

/-- The pooled connections with the pool each is in, idle ones first. -/
def connections (d : Destination) : List (ConnectionId × Placement) :=
  d.idle.items.map (·, .idle) ++ d.active.items.map (·, .active)

/-- Take a connection out of both pools and give a slot back. The slot is given back whether or not
the connection was pooled. -/
def forget (d : Destination) (c : ConnectionId) : Destination :=
  { d with
    slots := d.slots.release
    active := d.active.discard (· == c)
    idle := d.idle.discard (· == c) }

/-! ## What can be read from the outside -/

def stats (d : Destination) : Stats where
  scheme := d.address.scheme
  host := d.address.host
  port := d.address.port
  queuedRequests := d.queue.size
  idleConnections := d.idle.size
  activeConnections := d.active.size
  connectionCount := d.slots.used
  maxConnections := d.slots.limit
  maxQueueSize := d.queue.capacity

/-- A listing of the queue's size and of every pooled connection, one to a line, given the text of
connections. -/
def dump (d : Destination) (name : ConnectionId → String) : String :=
  let line := fun (c, place) => s!" +- {name c} - {Placement.display place}\n"
  s!"{d.address.display} - requests queued: {d.queue.size}\n" ++
    String.join (d.connections.map line)

/-- The debugging text of a destination. -/
def debug (d : Destination) : String :=
  "Destination \x7b scheme: " ++ Text.quoted d.address.scheme ++
    ", host: " ++ Text.quoted d.address.host ++
    s!", port: {d.address.port}, connection_count: {d.slots.used}" ++
    s!", queued_requests: {d.queue.size}" ++
    " \x7d"

end Destination

end ConnectionPool
