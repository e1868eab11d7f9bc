import ConnectionPool.Client.Build
import ConnectionPool.Client.Invoke
import ConnectionPool.Scenario.Command

/-!
# The stage of a scenario

The stage holds the client together with everything of the outside: what the script has left for
each callback, the names, the attempts and tasks that wait for a command, and the notes taken so
far.

The outside has a stack of its own, `control`: one list of duties for the command being played, and
one for each callback that has not returned, innermost first. So the stacks of client and outside
grow and shrink together: a call of the client puts a list of duties on top, and when that list is
used up the callback returns.
-/

set_option autoImplicit false

namespace ConnectionPool.Scenario

/-- The answer to a command that is one operation. -/
def Result.ofReply : Reply → Result
  | .done => .ok
  | .refused e => .refused e
  | .found yes => .flag yes
  | .located _ => .ok
  | .opened _ => .ok
  | .ignored => .unfit

/-- What the outside still has to do in a command or a callback. -/
inductive Duty where
  | act (c : Command)
  /-- Answer a command. -/
  | tell (c : Command) (r : Result)
  | invoke (op : Operation)
  /-- Do with an attempt what the connector does with attempts. -/
  | treat (d : DestinationId) (a : AttemptId)
  /-- Do with an exchange what its connection does after sending. -/
  | follow (c : ConnectionId) (e : Exchange)
  /-- Keep an attempt as the future of that name. -/
  | keep (future : String) (a : AttemptId)
  /-- Run the tasks at a place, `left` of them if it is given, `done` being run. -/
  | runTasks (c : Command) (left : Option Nat) (place done : Nat)

/-- A connection of the outside. -/
structure Peer where
  name : String
  afterSend : AfterSend
  onSend : Hook Command
  onClose : Hook Command
  /-- The destination of the first attempt it completed. -/
  home : Option DestinationId := none

/-- A response listener of the outside. -/
structure Observer where
  name : String
  onFailure : Hook Command
  onComplete : Hook Command

/-- A request listener of the outside. -/
structure Watcher where
  onQueued : Hook Command := []
  onFailure : Hook Command := []

/-- How the outside behaves. -/
structure Outside where
  /-- Tasks run at once instead of waiting for a command. -/
  inlineExecutor : Bool := false
  mode : ConnectMode := .manual
  /-- What the connector does with the first attempts, one by one. -/
  modes : List ConnectMode := []
  /-- The behaviour of connections that the connector makes itself. -/
  made : ConnectionUse Command := { name := "" }
  onConnect : Hook Command := []
  watchers : List Watcher := []

structure Stage where
  client : Client
  /-- The client owns a single destination, and nothing is routed. -/
  isLone : Bool
  outside : Outside
  requests : List (String × Request) := []
  peers : List Peer := []
  observers : List Observer := []
  destinations : List (String × DestinationId) := []
  futures : List (String × AttemptId) := []
  pending : List AttemptId := []
  waiting : List TaskId := []
  connects : Nat := 0
  made : Nat := 0
  control : List (List Duty) := []
  /-- Notes of the command being played, latest first, each with the text of the destination it
  belongs to if that is known. -/
  notes : List (Option String × Note) := []
  result : Result := .unfit

namespace Stage

/-- The stage of a client with a single destination, which goes by the name `d`. -/
def lone (name : String) (limits : Limits) (a : Address) (outside : Outside) : Stage where
  client := .lone name limits outside.watchers.length a
  isLone := true
  outside := outside
  destinations := [("d", 0)]

/-- The stage of a client that routes requests, or why there is no such client. -/
def routed (name : String) (limits : Limits) (outside : Outside) : Except PoolError Stage :=
  match Blueprint.build { name, limits, listeners := outside.watchers.length } with
  | .error e => .error e
  | .ok client => .ok { client, isLone := false, outside }

/-! ## Names -/

def requestName (s : Stage) (r : RequestId) : String :=
  match s.requests[r]? with
  | some (name, _) => name
  | none => ""

def peerName (s : Stage) (c : ConnectionId) : String :=
  match s.peers[c]? with
  | some peer => peer.name
  | none => ""

/-- The text of a connection in listings. -/
def peerText (s : Stage) (c : ConnectionId) : String := "MockConnection#" ++ s.peerName c

def destinationText (s : Stage) (d : DestinationId) : String :=
  match s.client.destinations[d]? with
  | some dest => dest.address.display
  | none => ""

/-- The text of the destination that a connection belongs to. -/
def peerHome (s : Stage) (c : ConnectionId) : String :=
  match s.peers[c]? with
  | some peer =>
      match peer.home with
      | some d => s.destinationText d
      | none => ""
  | none => ""

/-- The text of the destination that a request is meant for; a scheme without a default stands for
no number. -/
def requestHome (r : Request) : String :=
  Address.display ⟨r.scheme, r.host, (r.port <|> defaultPort r.scheme).getD 0⟩

/-- The request of that name, made if the name is new. -/
def request (s : Stage) (u : RequestUse) : Request × Stage :=
  match s.requests.lookup u.name with
  | some r => (r, s)
  | none =>
      let r : Request := ⟨s.requests.length, u.scheme, u.host, u.port, u.method, u.path⟩
      (r, { s with requests := s.requests ++ [(u.name, r)] })

/-- The connection of that name, made if the name is new. -/
def peer (s : Stage) (u : ConnectionUse Command) : ConnectionId × Stage :=
  match s.peers.findIdx? (·.name == u.name) with
  | some c => (c, s)
  | none =>
      (s.peers.length,
        { s with peers := s.peers ++ [⟨u.name, u.afterSend, u.onSend, u.onClose, none⟩] })

/-- A new listener for one sending. -/
def observer (s : Stage) (u : ListenerUse Command) (request : String) : ListenerId × Stage :=
  (s.observers.length,
    { s with observers := s.observers ++ [⟨u.name.getD request, u.onFailure, u.onComplete⟩] })

/-! ## Notes and duties -/

def note (s : Stage) (home : Option String) (n : Note) : Stage :=
  { s with notes := (home, n) :: s.notes }

/-- Put duties before what is left of the innermost command or callback. -/
def assign (s : Stage) (duties : List Duty) : Stage :=
  match s.control with
  | [] => { s with control := [duties] }
  | ds :: rest => { s with control := (duties ++ ds) :: rest }

/-- A callback begins with what its hook holds for this time, followed by other duties. -/
def enter (s : Stage) (hook : Hook Command) (duties : List Duty) : Stage :=
  { s with control := ((hook.headD []).map .act ++ duties) :: s.control }

def setPeer (s : Stage) (c : ConnectionId) (f : Peer → Peer) : Stage :=
  { s with peers := s.peers.modify c f }

def setObserver (s : Stage) (l : ListenerId) (f : Observer → Observer) : Stage :=
  { s with observers := s.observers.modify l f }

def setWatcher (s : Stage) (i : Nat) (f : Watcher → Watcher) : Stage :=
  { s with outside := { s.outside with watchers := s.outside.watchers.modify i f } }

def invoke (s : Stage) (op : Operation) : Reply × Stage :=
  let (reply, client) := s.client.invoke op
  (reply, { s with client := client })

end Stage

end ConnectionPool.Scenario
