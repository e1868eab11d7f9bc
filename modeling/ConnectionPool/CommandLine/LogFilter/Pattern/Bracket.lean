import ConnectionPool.CommandLine.LogFilter.Pattern.Escape

/-!
# Classes of characters in brackets

A class in brackets lists characters, ranges of characters, named classes and further classes in
brackets, and may combine such lists by the operators for intersection, difference and symmetric
difference. What counts here is whether a class is well formed, how deeply it is nested, and where
it ends.
-/

set_option autoImplicit false

namespace ConnectionPool.LogFilter.Pattern

/-- An open bracket. -/
structure Bracket where
  /-- Nothing but dashes has been read so far. -/
  isFresh : Bool := true
  /-- How many items the present list has, and how deep the deepest of them is. -/
  size : Nat := 0
  depth : Nat := 0
  /-- How deep the lists before the last operator are, if there is one. -/
  before : Option Nat := none
deriving DecidableEq, Repr

namespace Bracket

def add (b : Bracket) (depth : Nat) (isFresh : Bool) : Bracket :=
  { b with isFresh, size := b.size + 1, depth := max b.depth depth }

/-- How deep the list is; two items or more make a level of their own. -/
def listDepth (b : Bracket) : Nat := if b.size ≤ 1 then b.depth else b.depth + 1

/-- How deep the lists are, each operator making a level of its own. -/
def totalDepth (b : Bracket) : Nat :=
  match b.before with
  | none => b.listDepth
  | some d => max d b.listDepth + 1

/-- An operator begins a new list. -/
def operated (b : Bracket) : Bracket := { isFresh := false, before := some b.totalDepth }

end Bracket

/-- The classes that have a name. -/
def classNames : List String :=
  ["alnum", "alpha", "ascii", "blank", "cntrl", "digit", "graph", "lower", "print", "punct",
    "space", "upper", "word", "xdigit"]

/-- A named class after its opening bracket: whether it is negated, and what follows it. -/
def readNamed : List Char → Option (Bool × List Char)
  | ':' :: cs =>
      let (isNegated, cs) := match cs with
        | '^' :: cs => (true, cs)
        | cs => (false, cs)
      match cs.span (· != ':') with
      | (name, ':' :: ']' :: rest) =>
          if classNames.contains (String.ofList name) then some (isNegated, rest) else none
      | _ => none
  | _ => none

/-- One item of a list, from its first character on: the character, if it is one, and what follows.
Without Unicode the list holds characters of ASCII only, and so no negated class; with Unicode no
table of digits, white space and word characters is at hand. -/
def readItem (m : Modes) (c : Char) (cs : List Char) : Option (Option Char × List Char) :=
  if c == '\\' then
    match readEscape m cs with
    | some (.character c _, cs) => one c cs
    | some (.kind isNegated, cs) => if m.isUnicode || isNegated then none else some (none, cs)
    | _ => none
  else one c cs
where
  one (c : Char) (cs : List Char) : Option (Option Char × List Char) :=
    if m.isUnicode || decide (c.toNat < 128) then some (some c, cs) else none

/-- The next character that counts after a dash. A comment hides nothing but its mark. -/
def afterDash (m : Modes) (cs : List Char) : Option Char :=
  if m.isSpaced then
    match cs.dropWhile Text.isBlank with
    | '#' :: cs => (cs.dropWhile Text.isBlank).head?
    | cs => cs.head?
  else cs.head?

/-- An item or a range of characters, from its first character on, and what follows. A dash makes a
range unless a closing bracket or another dash comes next. -/
def readRange (m : Modes) (c : Char) (cs : List Char) : Option (List Char) :=
  match readItem m c cs with
  | none => none
  | some (first, cs) =>
      match m.skip cs with
      | '-' :: rest =>
          if afterDash m rest == some ']' || afterDash m rest == some '-' then some ('-' :: rest)
          else
            match first, m.skip rest with
            | some lo, c :: rest =>
                match readItem m c rest with
                | some (some hi, rest) => if lo ≤ hi then some rest else none
                | _ => none
            | _, _ => none
      | cs => some cs

/-- The rest of a class, where brackets are open, the innermost first: how deep the class is, and
what follows. -/
def readBrackets (m : Modes) : Nat → List Bracket → List Char → Option (Nat × List Char)
  | 0, _, _ => none
  | _, [], _ => none
  | fuel + 1, b :: outer, cs =>
      match m.skip cs with
      | [] => none
      | c :: cs =>
          if b.isFresh && c == '-' then readBrackets m fuel (b.add 0 true :: outer) cs
          else if b.isFresh && b.size == 0 && c == ']' then
            readBrackets m fuel (b.add 0 false :: outer) cs
          else
            match c, cs with
            | '[', cs =>
                match readNamed cs with
                | some (isNegated, cs) =>
                    if isNegated && !m.isUnicode then none
                    else readBrackets m fuel (b.add 0 false :: outer) cs
                | none =>
                    (afterOpening cs).bind fun cs => readBrackets m fuel ({} :: b :: outer) cs
            | ']', cs =>
                match outer with
                | [] => some (b.totalDepth + 1, cs)
                | o :: outer => readBrackets m fuel (o.add (b.totalDepth + 1) false :: outer) cs
            | '&', '&' :: cs | '-', '-' :: cs | '~', '~' :: cs =>
                readBrackets m fuel (b.operated :: outer) cs
            | c, cs =>
                (readRange m c cs).bind fun cs => readBrackets m fuel (b.add 0 false :: outer) cs
where
  /-- The text after an opening bracket and the mark of negation. -/
  afterOpening (cs : List Char) : Option (List Char) :=
    match m.skip cs with
    | '^' :: cs => if m.isUnicode then some cs else none
    | cs => some cs

/-- A class after its opening bracket: how deep it is, and what follows. -/
def readClass (m : Modes) (cs : List Char) : Option (Nat × List Char) :=
  if m.hasCases then
    (readBrackets.afterOpening m cs).bind fun rest => readBrackets m (cs.length + 1) [{}] rest
  else none

end ConnectionPool.LogFilter.Pattern
