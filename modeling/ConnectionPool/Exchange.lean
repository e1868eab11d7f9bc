import ConnectionPool.Failure
import ConnectionPool.Request

/-!
# Exchanges

An exchange is a request together with the listener that is to hear of its outcome. Every exchange
that joins a queue gets a ticket of its own, so that two exchanges of one request stay apart and the
order of joining can be read off the exchange. `ExchangeResult` is the outcome handed to the
listener at the end.
-/

set_option autoImplicit false

namespace ConnectionPool

/-- The identity of a response listener. -/
abbrev ListenerId := Nat

/-- A request bound to its listener. -/
structure Exchange where
  /-- The number of exchanges that joined a queue of the client before this one. -/
  ticket : Nat
  request : Request
  listener : ListenerId
deriving DecidableEq, Repr

namespace Exchange

/-- The exchange carries exactly this request, not merely one with equal fields. -/
def isFor (e : Exchange) (r : RequestId) : Bool := e.request.id == r

/-- Two exchanges are interchangeable when they carry the same request. -/
def sameRequest (e e' : Exchange) : Bool := e.isFor e'.request.id

/-- The debugging text of an exchange, given the text of identities. -/
def debug (e : Exchange) (identity : RequestId → String) : String :=
  "RequestPair \x7b request: " ++ identity e.request.id ++ " \x7d"

end Exchange

/-- The final outcome of an exchange. -/
structure ExchangeResult where
  request : Request
  requestFailure : Option ExchangeFailure := none
  /-- The request that the response belongs to, once there is a response side. -/
  response : Option Request := none
  responseFailure : Option ExchangeFailure := none
deriving DecidableEq, Repr

namespace ExchangeResult

def succeeded (r : Request) : ExchangeResult := ⟨r, none, some r, none⟩

def failed (r : Request) (requestFailure : ExchangeFailure) (response : Option Request)
    (responseFailure : ExchangeFailure) : ExchangeResult :=
  ⟨r, some requestFailure, response, some responseFailure⟩

/-- The result of an exchange that the pool fails. -/
def ofCause (r : Request) (cause : Cause) : ExchangeResult :=
  failed r cause.requestFailure (some r) cause.responseFailure

def isFailed (x : ExchangeResult) : Bool :=
  x.requestFailure.isSome || x.responseFailure.isSome

/-- The first failure of the exchange; the request side comes first. -/
def failure? (x : ExchangeResult) : Option ExchangeFailure :=
  x.requestFailure <|> x.responseFailure

end ExchangeResult

end ConnectionPool
