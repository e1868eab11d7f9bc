import ConnectionPool.Client.Build
import ConnectionPool.Loopback.Transport

/-!
# Sessions on the loopback transport

A session gives a client on the loopback transport one command after another and reports what came
of each. Requests, futures and directly made connections go by name, pooled connections by their
text. The run queue is run after each command, unless the command holds it back. No listener of a
session panics: the listeners that do are named in `Transport.panicking`, and a session leaves none
there.
-/

set_option autoImplicit false

namespace ConnectionPool.Loopback

open Notifier (Notice)

/-- A request by name, with the fields it is made from when the name is new. -/
structure RequestUse where
  name : String
  scheme : String := "http"
  host : String := "example.com"
  port : Option UInt16 := none
  method : String := "GET"
  path : String := "/"
deriving DecidableEq, Repr

/-- A destination by the address it is looked up with. -/
structure Place where
  scheme : String := "http"
  host : String := "example.com"
  port : Option UInt16 := none
deriving DecidableEq, Repr

inductive Command where
  | send (r : RequestUse)
  | mark (r : RequestUse)
  | abort (r : RequestUse) (reason : String) (place : Place)
  | close (place : Place)
  | dump (place : Place)
  | connect (future : String) (place : Place)
  | poll (future : String)
  | release (connection : String) (place : Place)
  | remove (connection : String) (place : Place)
  | closeConnection (connection : String) (place : Place)
  | stop
  | start
  | advance (milliseconds : Nat)
  | make (name : String) (number latency : Nat) (bound : Option Place)
  | sendOn (name : String) (r : RequestUse)
  | closeMade (name : String)
  | dropMade (name : String)
  | unknown
deriving DecidableEq, Repr

inductive Result where
  | ok
  | flag (b : Bool)
  | text (s : String)
  | refused (e : PoolError)
  | pending
  | connection (text : String)
  | noFuture
  | unknownConnection
  | unfit
deriving DecidableEq, Repr

/-- The answer to a command that is one operation. -/
def Result.ofReply : Reply → Result
  | .done => .ok
  | .refused e => .refused e
  | .found yes => .flag yes
  | .located _ => .ok
  | .opened _ => .ok
  | .ignored => .unfit

/-- A client on the loopback transport with the names that commands use. -/
structure Session where
  simulation : Simulation
  requests : List (String × Request) := []
  futures : List (String × AttemptId) := []
  /-- Pooled connections that were seen, by text. -/
  seen : List (String × ConnectionId) := []
  /-- Connections that were made directly, by name. -/
  own : List (String × ConnectionId) := []
  sent : Nat := 0

/-- What is seen after a command. -/
structure Report where
  result : Result
  notes : List Note
  /-- Connections that were numbered so far. -/
  made : Nat
  running : Bool
  /-- The destinations that requests are routed to: text, length of the queue, slots in use, and the
  pooled connections. -/
  pools : List (String × Nat × Nat × List (String × Placement))
  /-- The connections that were made directly: closed, and exchanges completed. -/
  own : List (String × Bool × Nat)

namespace Session

def requestName (s : Session) (r : RequestId) : String :=
  match s.requests[r]? with
  | some (name, _) => name
  | none => ""

def linkName (s : Session) (c : ConnectionId) : String :=
  match s.simulation.transport.links[c]? with
  | some l => linkText l.number
  | none => ""

/-- The request of that name, made if the name is new. -/
def request (s : Session) (u : RequestUse) : Request × Session :=
  match s.requests.lookup u.name with
  | some r => (r, s)
  | none =>
      let r : Request := ⟨s.requests.length, u.scheme, u.host, u.port, u.method, u.path⟩
      (r, { s with requests := s.requests ++ [(u.name, r)] })

def invoke (s : Session) (op : Operation) : Reply × Session :=
  let (reply, simulation) := s.simulation.invoke op
  (reply, { s with simulation := simulation })

def actBy (s : Session) (op : Operation) : Result × Session :=
  let (reply, s) := s.invoke op
  (Result.ofReply reply, s)

/-- Do something at a destination, which is looked up first, and made if need be. -/
def actAt (s : Session) (p : Place) (k : DestinationId → Session → Result × Session) :
    Result × Session :=
  let (reply, s) := s.invoke (.locate p.scheme p.host p.port)
  match reply with
  | .located d => k d s
  | other => (Result.ofReply other, s)

/-- Do something with a connection that was seen in a pool. -/
def actOn (s : Session) (text : String) (k : ConnectionId → Result × Session) : Result × Session :=
  match s.seen.lookup text with
  | none => (.unknownConnection, s)
  | some c => k c

/-- Do something with a connection that was made directly. -/
def actOnOwn (s : Session) (name : String) (k : ConnectionId → Result × Session) :
    Result × Session :=
  match s.own.lookup name with
  | none => (.unknownConnection, s)
  | some c => k c

def withTransport (s : Session) (f : Transport → Transport) : Session :=
  { s with simulation := { s.simulation with transport := f s.simulation.transport } }

/-- Make a connection directly. It is not numbered with the others. -/
def make (s : Session) (name : String) (number latency : Nat) (d : Option DestinationId) :
    Result × Session :=
  let c := s.simulation.transport.links.length
  let s := s.withTransport fun t => { t with links := t.links ++ [⟨number, d, latency, false, 0⟩] }
  (.text (linkText number), { s with own := s.own.filter (·.1 != name) ++ [(name, c)] })

/-- What a command does before the run queue is run. -/
def act (s : Session) : Command → Result × Session
  | .send u =>
      let (r, s) := s.request u
      { s with sent := s.sent + 1 }.actBy (.submit r s.sent)
  | .mark u =>
      let (r, s) := s.request u
      s.actBy (.mark r.id)
  | .abort u reason p =>
      let (r, s) := s.request u
      s.actAt p fun d s => s.actBy (.abort d r.id reason)
  | .close p => s.actAt p fun d s => s.actBy (.close d)
  | .dump p => s.actAt p fun d s =>
      match s.simulation.client.destinations[d]? with
      | none => (.unfit, s)
      | some dest => (.text (dest.dump s.linkName), s)
  | .connect future p => s.actAt p fun d s =>
      let (reply, s) := s.invoke (.connect d)
      match reply with
      | .opened a =>
          (.ok, { s with futures := s.futures.filter (·.1 != future) ++ [(future, a)] })
      | other => (Result.ofReply other, s)
  | .poll future =>
      match s.futures.lookup future with
      | none => (.noFuture, s)
      | some a =>
          match s.simulation.client.attempts[a]?.bind (·.answer?) with
          | none => (.pending, s)
          | some answer =>
              -- an answer is given once
              let s := { s with futures := s.futures.filter (·.1 != future) }
              match answer with
              | .ok c =>
                  (.connection (s.linkName c), { s with seen := (s.linkName c, c) :: s.seen })
              | .error e => (.refused e, s)
  | .release text p => s.actAt p fun d s => s.actOn text fun c => s.actBy (.release d c)
  | .remove text p => s.actAt p fun d s => s.actOn text fun c => s.actBy (.remove d c)
  | .closeConnection text p => s.actAt p fun _ s =>
      s.actOn text fun c => (.ok, s.withTransport (·.closeLink c))
  | .stop => s.actBy .stop
  | .start => s.actBy (.setRunning true)
  | .advance n => (.ok, { s with simulation := s.simulation.advance n })
  | .make name number latency none => s.make name number latency none
  | .make name number latency (some p) =>
      s.actAt p fun d s => s.make name number latency (some d)
  | .sendOn name u =>
      let (r, s) := s.request u
      s.actOnOwn name fun c =>
        let e : Exchange := ⟨s.simulation.client.nextTicket, r, s.sent⟩
        (.ok, { s with sent := s.sent + 1 }.withTransport (·.schedule (.exchange c e) false))
  | .closeMade name => s.actOnOwn name fun c => (.ok, s.withTransport (·.closeLink c))
  | .dropMade name =>
      (.flag (s.own.lookup name).isSome, { s with own := s.own.filter (·.1 != name) })
  | .unknown => (.unfit, s)

/-- The text by which the notes of a stop are sorted. -/
def sortKey (r : Request) : String :=
  let port := match r.port with
    | none => "None"
    | some p => s!"Some({p})"
  s!"{r.scheme}://{r.host}:{port}"

def noticeRequest : Notice → Request
  | .queued r => r
  | .requestFailure r _ => r
  | .responseFailure r _ => r
  | .complete x => x.request

/-- Notes sorted by what their requests are addressed to; of one address they stay in order. -/
def sortNotes (notes : List Note) : List Note :=
  notes.mergeSort fun a b =>
    !(sortKey (noticeRequest b.notice) < sortKey (noticeRequest a.notice))

/-- The pools that requests are routed to. -/
def pools (s : Session) : List (Destination × List (ConnectionId × Placement)) :=
  s.simulation.client.registry.filterMap fun (_, d) =>
    s.simulation.client.destinations[d]?.map fun dest => (dest, dest.connections)

/-- Give one command. -/
def play (s : Session) (c : Command) (hold : Bool) : Report × Session :=
  let s := s.withTransport fun t => { t with notes := [] }
  let (result, s) := s.act c
  let s := match c with
    | .stop => s.withTransport fun t => { t with notes := (sortNotes t.notes.reverse).reverse }
    | _ => s
  -- a command that holds leaves the run queue to the next one that does not
  let s := if hold then s else { s with simulation := s.simulation.runReady }
  let pooled := s.pools.flatMap fun (_, cs) => cs.map fun (c, _) => (s.linkName c, c)
  let s := { s with seen := pooled ++ s.seen }
  let report : Report := {
    result := result
    notes := s.simulation.transport.notes.reverse
    made := s.simulation.transport.made
    running := s.simulation.client.running
    pools := s.pools.map fun (dest, cs) =>
      (dest.address.display, dest.queue.size, dest.slots.used,
        cs.map fun (c, place) => (s.linkName c, place))
    own := s.own.filterMap fun (name, c) =>
      s.simulation.transport.links[c]?.map fun l => (name, l.closed, l.exchanges) }
  (report, s)

/-- Give commands one after another, each with whether it holds the run queue back. -/
def playAll (s : Session) : List (Command × Bool) → List Report × Session
  | [] => ([], s)
  | (c, hold) :: rest =>
      let (report, s) := s.play c hold
      let (reports, s) := playAll s rest
      (report :: reports, s)

/-- Begin a session, unless the client cannot be built. -/
def start (name : String) (limits : Limits) (timings : LoopbackTimings) :
    Except PoolError Session :=
  match Blueprint.build { name, limits, listeners := 1 } with
  | .error e => .error e
  | .ok client => .ok { simulation := .start client timings }

end Session

end ConnectionPool.Loopback
