/-!
# Failures of exchanges

A failed exchange is reported to its observers with the side it failed on and a reason. The pool
itself fails an exchange for one of three causes (`Cause`): the exchange was given up, a connection
attempt failed, or the pool was closed. Each cause gives the failure of the request side and that of
the response side.
-/

set_option autoImplicit false

namespace ConnectionPool

/-- What a transport reports when it cannot connect: a kind, which is only passed on, and a text. -/
structure TransportError where
  kind : String
  message : String
deriving DecidableEq, Repr

/-- A failure that the observers of one exchange are told of. -/
inductive ExchangeFailure where
  | requestAborted (reason : String)
  | responseAborted (reason : String)
  | connectionFailed (cause : TransportError)
  | asynchronousClose
deriving DecidableEq, Repr

namespace ExchangeFailure

def message : ExchangeFailure → String
  | requestAborted reason => reason
  | responseAborted reason => reason
  | connectionFailed cause => "Connection failed: " ++ cause.message
  | asynchronousClose => "Asynchronous close"

/-- The reason of a failure by abort; the other failures have none. -/
def abortReason? : ExchangeFailure → Option String
  | requestAborted reason => some reason
  | responseAborted reason => some reason
  | connectionFailed _ => none
  | asynchronousClose => none

def isAbort (f : ExchangeFailure) : Bool := f.abortReason?.isSome

end ExchangeFailure

/-- Why the pool fails an exchange that waits in its queue. -/
inductive Cause where
  | aborted (reason : String)
  | unconnected (error : TransportError)
  | closed
deriving DecidableEq, Repr

namespace Cause

/-- The failure reported for the request. -/
def requestFailure : Cause → ExchangeFailure
  | aborted reason => .requestAborted reason
  | unconnected error => .connectionFailed error
  | closed => .asynchronousClose

/-- The failure reported for the response. -/
def responseFailure : Cause → ExchangeFailure
  | aborted reason => .responseAborted reason
  | unconnected error => .connectionFailed error
  | closed => .asynchronousClose

/-- Whether the client-wide request listeners are told. They are not told of aborts. -/
def reachesRequestListeners : Cause → Bool
  | aborted _ => false
  | unconnected _ => true
  | closed => true

end Cause

end ConnectionPool
