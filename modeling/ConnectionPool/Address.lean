/-!
# Addresses

An address is the triple of scheme, host and port that requests are pooled by. This module holds
the triple, the port a scheme stands for when none is named, and the two texts an address has: the
bare one and the one that names its destination.
-/

set_option autoImplicit false

namespace ConnectionPool

/-- What requests are pooled by: two of them share a pool exactly when their addresses are equal. -/
structure Address where
  scheme : String
  host : String
  port : UInt16
deriving DecidableEq, Repr

/-- The port of a scheme that is reached without naming one. -/
def defaultPort (scheme : String) : Option UInt16 :=
  if scheme = "http" ∨ scheme = "ws" then some 80
  else if scheme = "https" ∨ scheme = "wss" then some 443
  else none

namespace Address

/-- The address that a scheme, a host and a perhaps missing port name. There is none when the port
is missing and the scheme has no default. -/
def resolve? (scheme host : String) (port : Option UInt16) : Option Address :=
  (port <|> defaultPort scheme).map fun p => ⟨scheme, host, p⟩

/-- The text of a pool's owner, as it stands in errors, listings and statistics. -/
def display (a : Address) : String :=
  s!"Destination({a.scheme}://{a.host}:{a.port})"

theorem resolve?_some (scheme host : String) (p : UInt16) :
    resolve? scheme host (some p) = some ⟨scheme, host, p⟩ := rfl

/-- A resolved address keeps the scheme and the host it was resolved from. -/
theorem resolve?_fields {scheme host : String} {port : Option UInt16} {a : Address}
    (h : resolve? scheme host port = some a) : a.scheme = scheme ∧ a.host = host := by
  obtain ⟨p, _, rfl⟩ := Option.map_eq_some_iff.1 h
  exact ⟨rfl, rfl⟩

end Address

end ConnectionPool
