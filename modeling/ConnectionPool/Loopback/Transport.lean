import ConnectionPool.Client.Drive
import ConnectionPool.Notifier
import ConnectionPool.Settings.Basic

/-!
# The loopback transport

An in-memory transport that runs in virtual time. A connection is made, and an exchange is answered,
after a fixed latency; every exchange succeeds unless its connection was closed in the meantime.

Work is done by jobs. A job that is started, woken or handed to the executor goes to the end of one
run queue. A job with a latency sleeps when it is first run and goes back to the run queue when the
latency is over; jobs that wake at one moment do so in the order in which they went to sleep. The
listeners of this transport only take notes and never call the client, but some of them may panic
when they are told that an exchange is complete. The transport calls them without a guard, so such a
panic ends the job that called.
-/

set_option autoImplicit false

namespace ConnectionPool.Loopback

open Notifier (Notice)

/-- A connection of the transport. -/
structure Link where
  number : Nat
  /-- The destination to which the connection returns when an exchange is over. -/
  destination : Option DestinationId
  latency : Nat
  closed : Bool := false
  /-- Exchanges that were completed. -/
  exchanges : Nat := 0
deriving DecidableEq, Repr

inductive Job where
  /-- Make a connection of that number, or refuse to if there is none. -/
  | connect (a : AttemptId) (number : Option Nat) (d : DestinationId)
  | exchange (c : ConnectionId) (e : Exchange)
  | task (t : TaskId)
deriving DecidableEq, Repr

/-- A job on the run queue. -/
structure Turn where
  job : Job
  /-- The job has slept already. -/
  rested : Bool
deriving DecidableEq, Repr

/-- What a listener noted down. -/
structure Note where
  time : Nat
  /-- The exchange that the listener belongs to; a client-wide listener belongs to none. -/
  exchange : Option Exchange
  notice : Notice
deriving DecidableEq, Repr

/-- The transport with its jobs, connections and notes. -/
structure Transport where
  timings : LoopbackTimings
  now : Nat := 0
  /-- Connections that were numbered so far. -/
  made : Nat := 0
  links : List Link := []
  ready : List Turn := []
  /-- Sleeping jobs with the moments they wake at, in the order in which they went to sleep. -/
  sleeping : List (Nat × Job) := []
  /-- Listeners that panic when they are told that an exchange is complete. -/
  panicking : List ListenerId := []
  /-- What listeners noted down, latest first. -/
  notes : List Note := []
deriving DecidableEq

namespace Transport

def note (t : Transport) (e : Option Exchange) (n : Notice) : Transport :=
  { t with notes := ⟨t.now, e, n⟩ :: t.notes }

def schedule (t : Transport) (j : Job) (rested : Bool) : Transport :=
  { t with ready := t.ready ++ [⟨j, rested⟩] }

def closeLink (t : Transport) (c : ConnectionId) : Transport :=
  { t with links := t.links.modify c fun l => { l with closed := true } }

/-- What the outside does when the client calls. -/
def called (_ : Client) (c : Call) (t : Transport) : Transport :=
  match c with
  | .connect d a =>
      if t.timings.failConnect then t.schedule (.connect a none d) false
      else
        -- a connection has its number before it is there
        let t : Transport := { t with made := t.made + 1 }
        t.schedule (.connect a (some t.made) d) false
  | .execute k => t.schedule (.task k) false
  | .send c e => t.schedule (.exchange c e) false
  | .close c => t.closeLink c
  | .requestQueued _ r => t.note none (.queued r)
  | .requestFailed _ r f => t.note none (.requestFailure r f)
  | .responseFailed e f => t.note (some e) (.responseFailure e.request f)
  | .completed e result => t.note (some e) (.complete result)

/-- How long a job sleeps. -/
def latency (t : Transport) : Job → Nat
  | .connect _ _ _ => t.timings.connectLatency
  | .exchange c _ => (t.links[c]?.map (·.latency)).getD 0
  | .task _ => 0

end Transport

/-- The text of a connection in listings. -/
def linkText (number : Nat) : String := s!"LoopbackConnection#{number}"

/-- What a connection is refused with. -/
def refusal (destination : String) : TransportError :=
  ⟨"ConnectionRefused", s!"loopback connect to {destination} refused"⟩

/-- A client on the loopback transport. -/
structure Simulation where
  client : Client
  transport : Transport
deriving DecidableEq

namespace Simulation

def start (client : Client) (timings : LoopbackTimings) : Simulation := ⟨client, { timings }⟩

/-- Let an operation of the client run to its end. -/
def invoke (s : Simulation) (op : Operation) : Reply × Simulation :=
  let (reply, client) := s.client.invoke op
  let (client, transport) := client.drive Transport.called s.transport
  (reply, ⟨client, transport⟩)

/-- Do what a job does after its sleep. -/
def complete (s : Simulation) : Job → Simulation
  | .connect a none d =>
      let name := (s.client.destinations[d]?.map (·.address.display)).getD ""
      (s.invoke (.settle a (.failed (refusal name)))).2
  | .connect a (some number) d =>
      let t := s.transport
      let link : Link := ⟨number, some d, t.timings.exchangeLatency, false, 0⟩
      let s : Simulation := { s with transport := { t with links := t.links ++ [link] } }
      (s.invoke (.settle a (.connected t.links.length))).2
  | .exchange c e =>
      match s.transport.links[c]? with
      | none => s
      | some link =>
          let t := s.transport
          if link.closed then
            let t := t.note (some e) (.responseFailure e.request .asynchronousClose)
            { s with transport := t.note (some e) (.complete (.ofCause e.request .closed)) }
          else
            let links := t.links.set c { link with exchanges := link.exchanges + 1 }
            let t := ({ t with links := links } : Transport).note (some e)
              (.complete (.succeeded e.request))
            let s : Simulation := { s with transport := t }
            -- a listener that panics takes the release of its connection with it
            if s.transport.panicking.contains e.listener then s
            else match link.destination with
              | none => s
              | some d => (s.invoke (.release d c)).2
  | .task k => (s.invoke (.perform k)).2

/-- Run a job that is taken off the run queue: it sleeps if it has to, or is done. -/
def runJob (s : Simulation) (j : Turn) : Simulation :=
  let t := s.transport
  if j.rested || t.latency j.job = 0 then s.complete j.job
  else { s with transport :=
    { t with sleeping := t.sleeping ++ [(t.now + t.latency j.job, j.job)] } }

/-- Run at most `n` jobs. -/
def runFor : Nat → Simulation → Simulation
  | 0, s => s
  | n + 1, s =>
      match s.transport.ready with
      | [] => s
      | j :: rest => runFor n ({ s with transport := { s.transport with ready := rest } }.runJob j)

/-- A bound on the jobs that run before the run queue is empty. A waiting exchange can lead to a
connection that is made, a task that delivers it and the exchange itself. -/
def backlog (s : Simulation) : Nat :=
  10 * total (·.queue.size) s.client.destinations + 6 * s.transport.ready.length

/-- Run jobs until the run queue is empty. -/
def runReady (s : Simulation) : Simulation := s.runFor s.backlog

/-- Wake the jobs whose time has come. -/
def wake (s : Simulation) : Simulation :=
  let t := s.transport
  let due := t.sleeping.filter fun x => x.1 ≤ t.now
  { s with transport := { t with
    sleeping := t.sleeping.filter fun x => !(x.1 ≤ t.now)
    -- jobs wake in the order in which they went to sleep
    ready := t.ready ++ due.map fun x => ⟨x.2, true⟩ } }

/-- Let time pass up to a moment, and run what wakes then. -/
def passTo (s : Simulation) (moment : Nat) : Simulation :=
  ({ s with transport := { s.transport with now := moment } }.wake).runReady

/-- Let `n` milliseconds pass, one by one. -/
def advance : Nat → Simulation → Simulation
  | 0, s => s
  | n + 1, s => advance n (s.passTo (s.transport.now + 1))

/-- The next moment at which a job wakes. -/
def nextWake (s : Simulation) : Option Nat := (s.transport.sleeping.map (·.1)).min?

end Simulation

end ConnectionPool.Loopback
