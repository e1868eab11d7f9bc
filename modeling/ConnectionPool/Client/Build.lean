import ConnectionPool.Client.Basic

/-!
# Building a client

A client needs usable limits, a connector and an executor, and they are checked in that order. An
executor that is not given is taken from the runtime in which the client is built, if there is one.
-/

set_option autoImplicit false

namespace ConnectionPool

/-- What a client is built from. -/
structure Blueprint where
  name : String := "HttpClient"
  limits : Limits := {}
  listeners : Nat := 0
  hasConnector : Bool := true
  hasExecutor : Bool := true
  /-- The client is built inside a runtime. -/
  insideRuntime : Bool := false

/-- A running client without destinations, or the first thing that is missing. -/
def Blueprint.build (b : Blueprint) : Except PoolError Client :=
  match b.limits.error? with
  | some e => .error (.configuration e)
  | none =>
      if !b.hasConnector then .error (.configuration .noConnector)
      else if !b.hasExecutor && !b.insideRuntime then .error (.configuration .noExecutor)
      else .ok (.fresh b.name b.limits b.listeners)

end ConnectionPool
