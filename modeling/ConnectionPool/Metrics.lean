/-!
# Metrics

Six counters that only grow. They are shared by all destinations of a client.
-/

set_option autoImplicit false

namespace ConnectionPool

structure Metrics where
  requestsQueued : Nat := 0
  requestsRejected : Nat := 0
  requestsAborted : Nat := 0
  connectionsCreated : Nat := 0
  connectionFailures : Nat := 0
  connectionsRemoved : Nat := 0
deriving DecidableEq, Repr

end ConnectionPool
