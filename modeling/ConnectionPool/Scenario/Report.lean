import ConnectionPool.Scenario.Play
import ConnectionPool.Total

/-!
# Reports of a scenario

Each command of a script is answered by its result, by what was noted while it was played, and by a
view of the client afterwards. A client that stops closes its destinations in no particular order,
so the notes of a stop are sorted by destination; within a destination they keep their order.
-/

set_option autoImplicit false

namespace ConnectionPool.Scenario

/-- What is seen of a destination. -/
structure DestinationView where
  queued : Nat
  count : Nat
  idle : List String
  active : List String
deriving DecidableEq, Repr

/-- What is seen of the destinations of a client. -/
inductive Panorama where
  | lone (d : DestinationView)
  /-- The destinations that requests are routed to, by text, and the kept ones that are no longer
  among them, by name. -/
  | routed (registry detached : List (String × DestinationView)) (running : Bool)
deriving DecidableEq, Repr

/-- What is seen after a command. -/
structure View where
  pending : Nat
  tasks : Nat
  panorama : Panorama
deriving DecidableEq, Repr

structure Report where
  result : Result
  notes : List Note
  view : View

/-- Notes with the destination each belongs to: a note that does not tell belongs where the one
before it does. -/
def settleHomes (before : String) : List (Option String × Note) → List (String × Note)
  | [] => []
  | (home, n) :: rest =>
      let here := home.getD before
      (here, n) :: settleHomes here rest

/-- Notes sorted by destination; those of one destination stay in order. -/
def sortByHome (notes : List (Option String × Note)) : List Note :=
  ((settleHomes "" notes).mergeSort fun a b => !(b.1 < a.1)).map (·.2)

namespace Stage

def destinationView (s : Stage) (d : Destination) : DestinationView where
  queued := d.queue.size
  count := d.slots.used
  idle := d.idle.items.map s.peerName
  active := d.active.items.map s.peerName

def viewOf (s : Stage) (d : DestinationId) : Option DestinationView :=
  s.client.destinations[d]?.map s.destinationView

def panorama (s : Stage) : Panorama :=
  if s.isLone then
    .lone ((s.viewOf 0).getD ⟨0, 0, [], []⟩)
  else
    let registered := s.client.registry.map (·.2)
    .routed
      (s.client.registry.filterMap fun (a, d) => (s.viewOf d).map fun v => (a.display, v))
      ((s.destinations.filter fun h => !registered.contains h.2).filterMap fun (name, d) =>
        (s.viewOf d).map fun v => (name, v))
      s.client.running

def view (s : Stage) : View where
  pending := s.pending.length
  tasks := s.waiting.length
  panorama := s.panorama

/-- Play one command, with at most that many moves, and report on it. -/
def play (moves : Nat) (s : Stage) (c : Command) : Report × Stage :=
  let s := run moves { s with control := [[.act c]], notes := [], result := .unfit }
  let notes := match c with
    | .stop => if s.isLone then s.notes.reverse.map (·.2) else sortByHome s.notes.reverse
    | _ => s.notes.reverse.map (·.2)
  (⟨s.result, notes, s.view⟩, s)

/-- Play commands one after another. -/
def playAll (moves : Nat) (s : Stage) : List Command → List Report × Stage
  | [] => ([], s)
  | c :: rest =>
      let (report, s) := s.play moves c
      let (reports, s) := playAll moves s rest
      (report :: reports, s)

/-- A generous allowance of moves for a script: it grows with the number of commands, those in hooks
included, and with the number of request listeners. -/
def allowance (o : Outside) (commands : List Command) : Nat :=
  let hooks := total (fun v => hookSize v.onQueued + hookSize v.onFailure) o.watchers
  let size := scriptSize commands + hookSize o.onConnect + connectionSize o.made + hooks
  10000 * (size + 10) * (o.watchers.length + 10)

/-- Play a whole script. -/
def playScript (s : Stage) (commands : List Command) : List Report × Stage :=
  s.playAll (allowance s.outside commands) commands

end Stage

end ConnectionPool.Scenario
