import ConnectionPool.Client.Basic

/-!
# Scenarios

A scenario plays a client against an outside that follows a script: what connections, the connector,
the executor and the listeners do when they are called. A script is a list of commands; a hook holds
one such list for each time it is called, so that a callback may act on the client before it
returns. Requests, connections, listeners, destinations and futures go by name.
-/

set_option autoImplicit false

namespace ConnectionPool.Scenario

/-- What a callback does: the first list the first time, the second list the second time, and
nothing once the lists are used up. -/
abbrev Hook (α : Type) := List (List α)

/-- What the connector does with an attempt. -/
inductive ConnectMode where
  | manual
  | established
  | refused
  | dropped
deriving DecidableEq, Repr

/-- What a connection does with an exchange right after it was sent. -/
inductive AfterSend where
  | wait
  | release
  | remove
  | complete
deriving DecidableEq, Repr

/-- A request by name, with the fields it is made from when the name is new. -/
structure RequestUse where
  name : String
  scheme : String := "http"
  host : String := "example.com"
  port : Option UInt16 := none
  method : String := "GET"
  path : String := "/"
deriving DecidableEq, Repr

/-- A connection by name, with the behaviour it is made with when the name is new. -/
structure ConnectionUse (α : Type) where
  name : String
  afterSend : AfterSend := .wait
  onSend : List (List α) := []
  onClose : List (List α) := []
deriving Inhabited

/-- A listener that is made for one sending. Without a name it goes by that of the request. -/
structure ListenerUse (α : Type) where
  name : Option String := none
  onFailure : List (List α) := []
  onComplete : List (List α) := []
deriving Inhabited

/-- One command of a script. -/
inductive Command where
  | request (r : RequestUse)
  | mark (r : RequestUse)
  | send (destination : String) (r : RequestUse) (l : ListenerUse Command)
  | submit (r : RequestUse) (l : ListenerUse Command)
  | locate (handle scheme host : String) (port : Option UInt16)
  | abort (destination : String) (r : RequestUse) (reason : String)
  | release (destination : String) (c : ConnectionUse Command)
  | remove (destination : String) (c : ConnectionUse Command)
  | close (destination : String)
  | stats (destination : String)
  | dump (destination : String)
  | describe (destination : String)
  | connect (destination future : String)
  | poll (future : String)
  | forget (future : String)
  | complete (place : Nat) (c : ConnectionUse Command)
  | fail (place : Nat) (error : TransportError)
  | drop (place : Nat)
  | run (most : Option Nat) (place : Nat)
  | same (a b : ConnectionUse Command)
  | foresee (answers : List Bool)
  | stop
  | start
  | panic
  /-- A command that is not understood. -/
  | unknown (name : String)
deriving Inhabited

mutual

/-- The number of commands that a command can give rise to, itself included. -/
def Command.size : Command → Nat
  | .send _ _ l => 1 + listenerSize l
  | .submit _ l => 1 + listenerSize l
  | .release _ c => 1 + connectionSize c
  | .remove _ c => 1 + connectionSize c
  | .complete _ c => 1 + connectionSize c
  | .same a b => 1 + connectionSize a + connectionSize b
  | .request _ => 1
  | .mark _ => 1
  | .locate _ _ _ _ => 1
  | .abort _ _ _ => 1
  | .close _ => 1
  | .stats _ => 1
  | .dump _ => 1
  | .describe _ => 1
  | .connect _ _ => 1
  | .poll _ => 1
  | .forget _ => 1
  | .fail _ _ => 1
  | .drop _ => 1
  | .run _ _ => 1
  | .foresee _ => 1
  | .stop => 1
  | .start => 1
  | .panic => 1
  | .unknown _ => 1

def listenerSize : ListenerUse Command → Nat
  | ⟨_, f, c⟩ => hookSize f + hookSize c

def connectionSize : ConnectionUse Command → Nat
  | ⟨_, _, s, c⟩ => hookSize s + hookSize c

def hookSize : List (List Command) → Nat
  | [] => 0
  | cs :: rest => scriptSize cs + hookSize rest

/-- The number of commands that a list of commands can give rise to. -/
def scriptSize : List Command → Nat
  | [] => 0
  | c :: rest => c.size + scriptSize rest

end

/-- What a command answers. -/
inductive Result where
  | ok
  | flag (b : Bool)
  | count (n : Nat)
  | text (s : String)
  | texts (l : List String)
  | refused (e : PoolError)
  | stats (s : Stats)
  | request (aborted : Bool)
  | located (a : Address) (sameAs : List String)
  | pending
  | connection (name : String)
  | noFuture
  | nothingPending
  | unfit
deriving DecidableEq, Repr

/-- What a scenario notes down, in the order it happens. Requests and listeners are noted by name
where they are only named. -/
inductive Note where
  | connect (number : Nat) (destination : String)
  | execute
  | sent (connection request : String)
  | closed (connection : String)
  | queued (listener : Nat) (request : String)
  | requestFailure (listener : Nat) (request : String) (f : ExchangeFailure)
  | responseFailure (listener request : String) (f : ExchangeFailure)
  | complete (listener : String) (result : ExchangeResult)
  | did (c : Command) (r : Result)
  | panic

end ConnectionPool.Scenario
