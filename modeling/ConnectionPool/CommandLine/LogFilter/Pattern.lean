import ConnectionPool.CommandLine.LogFilter.Pattern.Bracket
import ConnectionPool.Text.Alphanumeric

/-!
# Patterns of field values

A log filter may ask for fields whose value matches a regular expression. Here only the form of the
expression matters: which texts are well formed, and not what they match. Look-around, backward
references and the properties of Unicode are no part of the expressions. A text is read once from
left to right, with the unfinished sequences of the open groups on a stack.

The field that holds a pattern ends at the first closing brace. A repetition with a count needs one,
so a pattern has no such repetition.
-/

set_option autoImplicit false

namespace ConnectionPool.LogFilter.Pattern

/-- An unfinished sequence of items. -/
structure Sequence where
  size : Nat := 0
  /-- How deep the deepest item is. -/
  depth : Nat := 0
  /-- How deep the last item is, if it can be repeated. -/
  last : Option Nat := none
deriving DecidableEq, Repr

namespace Sequence

def add (s : Sequence) (depth : Nat) : Sequence :=
  ⟨s.size + 1, max s.depth depth, some depth⟩

/-- Flags are an item that cannot be repeated. -/
def addFlags (s : Sequence) : Sequence := { s with size := s.size + 1, last := none }

/-- The last item again and again. -/
def repeated (s : Sequence) : Option Sequence :=
  s.last.map fun d => { s with depth := max s.depth (d + 1), last := some (d + 1) }

/-- How deep the sequence is; two items or more make a level of their own. -/
def totalDepth (s : Sequence) : Nat := if s.size ≤ 1 then s.depth else s.depth + 1

end Sequence

/-- Alternatives, the last of them unfinished. -/
structure Alternatives where
  /-- How deep the finished ones are, if there are any. -/
  before : Option Nat := none
  sequence : Sequence := {}
deriving DecidableEq, Repr

namespace Alternatives

def next (a : Alternatives) : Alternatives :=
  { before := some (max (a.before.getD 0) a.sequence.totalDepth) }

/-- How deep the alternatives are; two or more make a level of their own. -/
def totalDepth (a : Alternatives) : Nat :=
  match a.before with
  | none => a.sequence.totalDepth
  | some d => max d a.sequence.totalDepth + 1

end Alternatives

/-- What has been read of a pattern. -/
structure Reading where
  modes : Modes := {}
  current : Alternatives := {}
  /-- The modes and alternatives around the open groups, the innermost first. -/
  outer : List (Modes × Alternatives) := []
  /-- The names of the groups. -/
  names : List (List Char) := []
deriving DecidableEq, Repr

namespace Reading

/-- The sequence that is being read, changed. -/
def withSequence (r : Reading) (s : Sequence) : Reading :=
  { r with current := { r.current with sequence := s } }

def add (r : Reading) (depth : Nat) : Reading := r.withSequence (r.current.sequence.add depth)

/-- Enter a group with the given modes. -/
def enter (r : Reading) (m : Modes) : Reading :=
  { r with modes := m, current := {}, outer := (r.modes, r.current) :: r.outer }

/-- Leave the innermost group, which becomes an item; the modes are those in front of it again. -/
def leave (r : Reading) : Option Reading :=
  match r.outer with
  | [] => none
  | (m, a) :: outer =>
      some (({ r with modes := m, current := a, outer } : Reading).add (r.current.totalDepth + 1))

end Reading

/-- A group can have this name. -/
def isName : List Char → Bool
  | [] => false
  | c :: cs =>
      (c == '_' || Text.isAlphabetic c) &&
        cs.all fun c => "_.[]".toList.contains c || Text.isAlphanumeric c

/-- One flag switched on or off. Flags about lines and about greed do not change what is well
formed. -/
def Modes.switched (m : Modes) (flag : Char) (isOn : Bool) : Modes :=
  match flag with
  | 'u' => { m with isUnicode := isOn }
  | 'i' => { m with ignoresCase := isOn }
  | 'x' => { m with isSpaced := isOn }
  | _ => m

/-- Flags up to the colon or the closing parenthesis after them: the modes that they lead to, that
character, and what follows. Each flag stands once; those after a dash are switched off, and the
dash is not the last. -/
def readFlags (m : Modes) (seen : List Char) : List Char → Option (Modes × Char × List Char)
  | [] => none
  | c :: cs =>
      if c == ':' || c == ')' then
        -- a dash needs a flag after it, and a bare group of flags needs at least one
        if seen.head? == some '-' || (c == ')' && seen.isEmpty) then none else some (m, c, cs)
      else if "imsUuRx-".toList.contains c && !seen.contains c then
        readFlags (m.switched c !(seen.contains '-')) (c :: seen) cs
      else none

/-- What follows an opening parenthesis: a name, flags or nothing of the kind. Look-around is
refused. -/
def Reading.openGroup (r : Reading) (cs : List Char) : Option (Reading × List Char) :=
  match cs with
  | '?' :: '=' :: _ | '?' :: '!' :: _ | '?' :: '<' :: '=' :: _ | '?' :: '<' :: '!' :: _ => none
  | '?' :: 'P' :: '<' :: cs | '?' :: '<' :: cs =>
      match cs.span (· != '>') with
      | (name, '>' :: cs) =>
          if isName name && !r.names.contains name then
            some ({ r.enter r.modes with names := name :: r.names }, cs)
          else none
      | _ => none
  | '?' :: cs =>
      match readFlags r.modes [] cs with
      | some (m, ':', cs) => some (r.enter m, cs)
      | some (m, _, cs) =>
          some (({ r with modes := m } : Reading).withSequence r.current.sequence.addFlags, cs)
      | none => none
  | cs => some (r.enter r.modes, cs)

/-- What a backslash introduced can stand in a pattern. Under Unicode there is no table of the
characters of words; without it everything is a character of ASCII, unless given as itself. -/
def Modes.allows (m : Modes) : Escape → Bool
  | .character c isByte => m.hasCases && (m.isUnicode || !isByte || decide (c.toNat < 128))
  | .kind isNegated => !m.isUnicode && !isNegated
  | .edge => true
  | .wordEdge => !m.isUnicode

/-- One step: an item, or the start or the end of a group or an alternative, from its first
character on, and what follows. -/
def Reading.step (r : Reading) (c : Char) (cs : List Char) : Option (Reading × List Char) :=
  match c with
  | '(' => r.openGroup (r.modes.skip cs)
  | ')' => r.leave.map (·, cs)
  | '|' => some ({ r with current := r.current.next }, cs)
  | '?' | '*' | '+' => r.current.sequence.repeated.map fun s => (r.withSequence s, cs)
  | '\x7b' => none
  | '[' => (readClass r.modes cs).map fun (depth, cs) => (r.add depth, cs)
  | '\\' =>
      match readEscape r.modes cs with
      | some (e, cs) => if r.modes.allows e then some (r.add 0, cs) else none
      | none => none
  | '.' => if r.modes.isUnicode then some (r.add 0, cs) else none
  | '^' | '$' => some (r.add 0, cs)
  | _ => if r.modes.hasCases then some (r.add 0, cs) else none

/-- Read a text; every step takes at least one character. -/
def Reading.read : Nat → Reading → List Char → Option Reading
  | 0, _, _ => none
  | fuel + 1, r, cs =>
      match r.modes.skip cs with
      | [] => some r
      | c :: cs => (r.step c cs).bind fun (r, cs) => r.read fuel cs

/-- How deep a pattern may be. -/
def deepest : Nat := 250

/-- The text is a pattern: it can be read, every group ends, and it is not nested too deeply. -/
def isValid (cs : List Char) : Bool :=
  match Reading.read (cs.length + 1) {} cs with
  | some r => r.outer.isEmpty && decide (r.current.totalDepth ≤ deepest)
  | none => false

end ConnectionPool.LogFilter.Pattern
