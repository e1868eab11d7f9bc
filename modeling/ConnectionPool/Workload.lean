import ConnectionPool.Loopback.Transport

/-!
# The simulated workload

The workload sends requests over the loopback transport, spread over a number of destinations in
turn, and gives every so many of them up once they were queued. Then it waits for as many results as
requests were accepted, for each of them at most for a given time, and in the end lists every
destination.

The requests are sent by one thread while others run the jobs of the transport. So jobs may run and
time may pass between two sends, and before a request is given up that was sent; a schedule says
what happens. While results are awaited, the jobs that are ready run to their ends before the thread
that waits goes on.
-/

set_option autoImplicit false

namespace ConnectionPool

/-- What a workload consists of. -/
structure Workload where
  requests : Nat := 200
  destinations : Nat := 2
  abortEvery : Option Nat := none
  timeoutSeconds : Nat := 30
deriving DecidableEq, Repr

namespace Workload

open Loopback (Simulation)

/-- The reason that is given for the requests that are given up. -/
def abortReason : String := "Aborted by workload"

/-- The `i`-th request: destinations take turns. -/
def request (w : Workload) (i : Nat) : Request where
  id := i
  scheme := "http"
  host := s!"svc-{i % max w.destinations 1}.local"
  path := s!"/item/{i}"

/-- The `i`-th request is to be given up. -/
def givesUp (w : Workload) (i : Nat) : Bool :=
  match w.abortEvery with
  | none => false
  | some n => decide (0 < n) && i % n == 0

/-- A workload in progress. -/
structure Progress where
  simulation : Simulation
  accepted : Nat := 0

/-- What happens while the workload does nothing: the job at a place of the run queue is run, or
time passes. -/
inductive Lull where
  | job (place : Nat)
  | pass (milliseconds : Nat)
deriving DecidableEq, Repr

/-- Let one thing happen. At a place where no job stands there is nothing to run. -/
def lull (s : Simulation) : Lull → Simulation
  | .job place =>
      let t := s.transport
      match t.ready[place]? with
      | none => s
      | some j => ({ s with transport := { t with ready := t.ready.eraseIdx place } }).runJob j
  | .pass n => ({ s with transport := { s.transport with now := s.transport.now + n } }).wake

/-- Let things happen while a workload is in progress. -/
def Progress.lulls (p : Progress) (ls : List Lull) : Progress :=
  { p with simulation := ls.foldl lull p.simulation }

/-- What happens around each request, by its number. -/
structure Schedule where
  /-- After a request was accepted that is to be given up, before it is given up. -/
  between : Nat → List Lull := fun _ => []
  /-- After all was done for a request, before the next one is sent or the waiting begins. -/
  after : Nat → List Lull := fun _ => []

/-- Nothing happens while requests are sent. -/
def Schedule.atOnce : Schedule := {}

/-- Give the `i`-th request up. -/
def giveUp (w : Workload) (p : Progress) (i : Nat) : Progress :=
  let r := w.request i
  match p.simulation.invoke (.locate r.scheme r.host none) with
  | (.located d, simulation) => ⟨(simulation.invoke (.abort d r.id abortReason)).2, p.accepted⟩
  | (_, simulation) => ⟨simulation, p.accepted⟩

/-- Send the `i`-th request, and give it up if it is to be, once these things have happened. -/
def sendOne (w : Workload) (between : List Lull) (p : Progress) (i : Nat) : Progress :=
  match p.simulation.invoke (.submit (w.request i) i) with
  | (.done, simulation) =>
      let p : Progress := ⟨simulation, p.accepted + 1⟩
      if w.givesUp i then w.giveUp (p.lulls between) i else p
  | (_, simulation) => ⟨simulation, p.accepted⟩

/-- Send the first `n` requests. -/
def sendFirst (w : Workload) (schedule : Schedule) (s : Simulation) (n : Nat) : Progress :=
  (List.range n).foldl
    (fun p i => (w.sendOne (schedule.between i) p i).lulls (schedule.after i)) ⟨s, 0⟩

/-- The results that the listeners have received. -/
def results (s : Simulation) : Nat :=
  s.transport.notes.countP fun n =>
    match n.notice with
    | .complete _ => true
    | _ => false

/-- Let time pass until there are more than `received` results, or until the deadline, through at
most `fuel` moments at which a job wakes. -/
def awaitResult (deadline received : Nat) : Nat → Simulation → Option Simulation
  | 0, _ => none
  | fuel + 1, s =>
      if received < results s then some s
      else match s.nextWake with
        | none => none
        | some moment =>
            if deadline < moment then none
            else awaitResult deadline received fuel (s.passTo moment)

/-- Wait for `n` more results, each for at most the time that a result may take. Of the results seen
so far some are to spare: they are there before they are waited for. -/
def awaitAll (timeout : Nat) : (n spare seen : Nat) → Simulation → Simulation
  | 0, _, _, s => s
  | n + 1, spare + 1, seen, s => awaitAll timeout n spare seen s
  | n + 1, 0, seen, s =>
      match awaitResult (s.transport.now + timeout) seen (timeout + 2) s with
      | none => s
      | some s =>
          let now := results s
          awaitAll timeout n (now - seen - 1) now s

section Run

variable (w : Workload) (schedule : Schedule) (limits : Limits) (timings : LoopbackTimings)

/-- The simulation that the workload runs on, when it begins. -/
def start : Simulation := .start (.fresh "destpool" limits 0) timings

/-- The workload when its last request was sent, and given up if it is to be. -/
def sent : Progress :=
  match w.requests with
  | 0 => ⟨start limits timings, 0⟩
  | n + 1 => w.sendOne (schedule.between n) (w.sendFirst schedule (start limits timings) n) n

/-- The workload when the waiting begins. -/
def begun : Progress := w.sendFirst schedule (start limits timings) w.requests

/-- The workload from its first request to the end of the waiting. -/
def run : Simulation :=
  let p := w.begun schedule limits timings
  awaitAll (1000 * w.timeoutSeconds) p.accepted 0 0 p.simulation.runReady

end Run

/-! ## The listing -/

/-- Statistics as an object of a data file, one entry to a line. -/
def statsText (s : Stats) : String :=
  let entries := [
    ("scheme", Text.quotedData s.scheme), ("host", Text.quotedData s.host),
    ("port", toString s.port), ("queued_requests", toString s.queuedRequests),
    ("idle_connections", toString s.idleConnections),
    ("active_connections", toString s.activeConnections),
    ("connection_count", toString s.connectionCount),
    ("max_connections", toString s.maxConnections), ("max_queue_size", toString s.maxQueueSize)]
  let lines := entries.map fun (k, v) => "  " ++ Text.quotedData k ++ ": " ++ v
  "\x7b\n" ++ ",\n".intercalate lines ++ "\n\x7d\n"

def linkName (s : Simulation) (c : ConnectionId) : String :=
  match s.transport.links[c]? with
  | some l => Loopback.linkText l.number
  | none => ""

/-- The statistics and the listing of every destination that requests are routed to, in the order
in which the registry hands them out. -/
def listing (order : List (Address × DestinationId) → List (Address × DestinationId))
    (s : Simulation) : List String :=
  (order s.client.registry).filterMap fun (_, d) =>
    s.client.destinations[d]?.map fun dest => statsText dest.stats ++ dest.dump (linkName s)

end Workload

end ConnectionPool
