import ConnectionPool.Address

/-!
# Requests

A request is what a caller wants sent: where to (scheme, host, perhaps a port) and what (method and
path). Requests are told apart by identity and not by their fields: two requests with equal fields
are two requests. The mark of a request that its caller has given up is not a field here, since it
changes while the request waits; the client keeps the set of marked identities.
-/

set_option autoImplicit false

namespace ConnectionPool

/-- The identity of a request. -/
abbrev RequestId := Nat

/-- An outgoing request. -/
structure Request where
  id : RequestId
  scheme : String
  host : String
  /-- The port the request names; without one the scheme's default is meant. -/
  port : Option UInt16 := none
  method : String := "GET"
  path : String := "/"
deriving DecidableEq, Repr

namespace Request

/-- Identities are random 128-bit numbers of this version. -/
def identityVersion : Nat := 4

/-- The address the request goes to, if its scheme or its port gives one. -/
def address? (r : Request) : Option Address :=
  Address.resolve? r.scheme r.host r.port

/-- The text of a request, given the text of identities: method, target and identity. -/
def display (r : Request) (identity : RequestId → String) : String :=
  let port := match r.port with
    | some p => ":" ++ toString p
    | none => ""
  s!"Request[{r.method} {r.scheme}://{r.host}{port}{r.path}]@{identity r.id}"

end Request

end ConnectionPool
