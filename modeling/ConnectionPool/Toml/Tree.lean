import ConnectionPool.Toml.Value

/-!
# Tables under construction

While a document is read, a table remembers how it came to be, since that decides what may still be
added to it. A table that a header names is defined once. A table that only stands on the way to one
that a header names may still be defined. A table that stands on the way in a dotted name may be
added to by dotted names only, and a table or an array written as a value is closed.
-/

set_option autoImplicit false

namespace ConnectionPool.Toml

/-- How a table came to be. -/
inductive Origin where
  /-- Named by a header, or the document itself. -/
  | defined
  /-- On the way to a table that a header names. -/
  | implied
  /-- On the way in a dotted name. -/
  | dotted
deriving DecidableEq, Repr

inductive Node where
  | value (v : Value)
  | table (origin : Origin) (entries : List (String × Node))
  /-- Tables that headers with two brackets add one by one, last first. -/
  | tables (list : List (Origin × List (String × Node)))
deriving Inhabited

/-- Names with nodes. -/
abbrev Branch := List (String × Node)

namespace Branch

def find? (b : Branch) (k : String) : Option Node := b.lookup k

/-- Set the node of a name, in place if the name is there. -/
def put (b : Branch) (k : String) (n : Node) : Branch :=
  match b with
  | [] => [(k, n)]
  | (k', n') :: rest => if k' = k then (k, n) :: rest else (k', n') :: put rest k n

def erase (b : Branch) (k : String) : Branch := b.filter (·.1 != k)

/-- Change the table that a path leads to, making the tables on the way, and answer something. By a
dotted name only tables can be entered that no header has defined; the last of several tables is
entered without question. The change is told how the table at the end came to be. -/
def atPath {α : Type} (dotted : Bool) (here : Origin) (b : Branch) :
    List String → (Origin → Branch → Option (α × Branch)) → Option (α × Branch)
  | [], f => f here b
  | k :: path, f =>
      match b.find? k with
      | none =>
          let origin := if dotted then .dotted else .implied
          (atPath dotted origin [] path f).map fun (a, c) => (a, b.put k (.table origin c))
      | some (.value _) => none
      | some (.table origin c) =>
          -- a dotted name does not reach into a table that a header has defined
          if dotted && origin == .defined then none
          else (atPath dotted origin c path f).map fun (a, c) => (a, b.put k (.table origin c))
      | some (.tables []) => none
      | some (.tables ((origin, c) :: before)) =>
          (atPath dotted origin c path f).map fun (a, c) =>
            (a, b.put k (.tables ((origin, c) :: before)))

/-- Add a value under a new name. -/
def insert (b : Branch) (k : String) (v : Value) : Option Branch :=
  match b.find? k with
  | none => some (b.put k (.value v))
  | some _ => none

/-- Add a value under a dotted name. All names but the last stand for tables that dotted names
made. -/
def insertAt (here : Origin) (b : Branch) (path : List String) (k : String) (v : Value) :
    Option Branch :=
  (b.atPath true here path fun origin c =>
    if !path.isEmpty && origin != .dotted then none
    else (insert c k v).map fun c => ((), c)).map (·.2)

end Branch

mutual

/-- The value that a node stands for. -/
def Node.toValue : Node → Value
  | .value v => v
  | .table _ entries => .table (entriesToTable entries)
  | .tables list => .array (tablesToValues list).reverse

def entriesToTable : List (String × Node) → List (String × Value)
  | [] => []
  | (k, n) :: rest => (k, n.toValue) :: entriesToTable rest

def tablesToValues : List (Origin × List (String × Node)) → List Value
  | [] => []
  | (_, entries) :: rest => .table (entriesToTable entries) :: tablesToValues rest

end

/-! ## Documents under construction -/

/-- The tables that are finished and the one that lines are being added to. -/
structure Draft where
  root : Branch := []
  /-- Where the current table belongs; the document itself belongs nowhere. -/
  place : Option (List String × String) := none
  /-- The current table is one of several. -/
  isRepeated : Bool := false
  current : Branch := []

namespace Draft

/-- Put the current table where it belongs. -/
def finish (d : Draft) : Option Branch :=
  match d.place with
  | none => some d.current
  | some (path, k) =>
      (d.root.atPath false .defined path fun _ b =>
        if d.isRepeated then
          match b.find? k with
          | none => some ((), b.put k (.tables [(.defined, d.current)]))
          | some (.tables list) => some ((), b.put k (.tables ((.defined, d.current) :: list)))
          | some _ => none
        else some ((), b.put k (.table .defined d.current))).map (·.2)

/-- A line adds a value to the current table. -/
def addValue (d : Draft) (path : List String) (k : String) (v : Value) : Option Draft :=
  (d.current.insertAt .defined path k v).map fun b => { d with current := b }

/-- A header begins a table: one that is not there yet, or that was only implied so far. -/
def beginTable (d : Draft) (path : List String) (k : String) : Option Draft :=
  match d.finish with
  | none => none
  | some root =>
      (root.atPath false .defined path fun _ b =>
        match b.find? k with
        | none => some ([], b)
        -- what the path to other tables made so far is kept
        | some (.table .implied entries) => some (entries, b.erase k)
        | some _ => none).map fun (entries, root) => ⟨root, some (path, k), false, entries⟩

/-- A header with two brackets begins one more of several tables. -/
def beginRepeated (d : Draft) (path : List String) (k : String) : Option Draft :=
  match d.finish with
  | none => none
  | some root =>
      (root.atPath false .defined path fun _ b =>
        match b.find? k with
        | none => some ((), b)
        | some (.tables _) => some ((), b)
        | some _ => none).map fun (_, root) => ⟨root, some (path, k), true, []⟩

end Draft

end ConnectionPool.Toml
