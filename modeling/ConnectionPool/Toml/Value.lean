/-!
# Values of the configuration language

A document is a table: names with values, in the order in which they were written. Numbers with a
fraction and dates are kept as they were written, since nothing here computes with them.
-/

set_option autoImplicit false

namespace ConnectionPool.Toml

inductive Value where
  | text (s : String)
  | integer (i : Int)
  | float (literal : String)
  | boolean (b : Bool)
  | datetime (literal : String)
  | array (vs : List Value)
  | table (entries : List (String × Value))
deriving Inhabited

/-- Names with values. -/
abbrev Table := List (String × Value)

end ConnectionPool.Toml
