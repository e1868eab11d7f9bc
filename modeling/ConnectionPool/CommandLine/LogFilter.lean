import ConnectionPool.CommandLine.LogFilter.Pattern
import ConnectionPool.Text.Alphanumeric
import ConnectionPool.Text.Blank

/-!
# Log filters

A log filter is a list of directives between commas, and an empty one counts for nothing. A
directive is a level, or a target with an optional span in brackets, an optional field in braces
within them, and an optional level after an equals sign. Here only the form of a filter matters,
since it decides whether the program starts.

A directive is read without the blanks around it, and positions in it are counted from its first
character. Its parts, however, are taken at these positions from the directive with its blanks, so
that blanks in front move all parts to the left. A part can then begin or end inside a character,
and such a filter is told apart from one that is merely malformed.
-/

set_option autoImplicit false

namespace ConnectionPool.LogFilter

/-- Why a text is no log filter. -/
inductive Fault where
  | malformed
  /-- A part of a directive begins or ends inside a character. -/
  | cutCharacter
deriving DecidableEq, Repr

/-! ## Levels and fields -/

/-- The text names a level: by its name in any case, or by its number. The empty text stands for a
level too. -/
def isLevel (cs : List Char) : Bool :=
  [[], "off".toList, "error".toList, "warn".toList, "info".toList, "debug".toList,
    "trace".toList].contains (cs.map Char.toLower) || isNumber cs
where
  /-- A number from 0 to 5, with zeros or a plus sign before it. -/
  isNumber (cs : List Char) : Bool :=
    let ds := match cs with
      | '+' :: rest => rest
      | cs => cs
    !ds.isEmpty && ds.all Char.isDigit &&
      (match ds.dropWhile (· == '0') with
        | [] => true
        | [d] => decide (d ≤ '5')
        | _ => false)

/-- The text without a sign in front. -/
def unsigned : List Char → List Char
  | '+' :: cs | '-' :: cs => cs
  | cs => cs

/-- The text is a number: digits with at most one point among them and an optional exponent, or one
of the words for infinity and for no number. -/
def isDecimal (cs : List Char) : Bool :=
  let cs := unsigned cs
  let (whole, rest) := cs.span Char.isDigit
  let (fraction, rest) := match rest with
    | '.' :: rest => rest.span Char.isDigit
    | rest => ([], rest)
  ["inf".toList, "infinity".toList, "nan".toList].contains (cs.map Char.toLower) ||
    (!(whole ++ fraction).isEmpty &&
      match rest with
      | [] => true
      | e :: rest =>
          let digits := unsigned rest
          (e == 'e' || e == 'E') && !digits.isEmpty && digits.all Char.isDigit)

/-- The pieces of a text between the given characters. -/
def pieces (separator : Char) : List Char → List (List Char)
  | [] => [[]]
  | c :: rest =>
      match pieces separator rest with
      | [] => [[c]]
      | p :: ps => if c = separator then [] :: p :: ps else (c :: p) :: ps

/-- The text is a field: a name, or a name and a value after an equals sign. A value is a number or
a pattern, and what follows another equals sign counts for nothing. -/
def isField (cs : List Char) : Bool :=
  !cs.isEmpty &&
    match pieces '=' cs with
    | _ :: value :: _ => isDecimal value || Pattern.isValid value
    | _ => true

/-! ## Directives -/

/-- The first bytes of a text, unless they end inside a character, and what follows. -/
def splitBytes : Nat → List Char → Option (List Char × List Char)
  | 0, cs => some ([], cs)
  | _ + 1, [] => none
  | n + 1, c :: cs =>
      -- a character is taken whole or not at all
      if c.utf8Size ≤ n + 1 then
        (splitBytes (n + 1 - c.utf8Size) cs).map fun (taken, rest) => (c :: taken, rest)
      else none

/-- The part of a text from the byte `first` on. -/
def partFrom (text : List Char) (first : Nat) : Except Fault (List Char) :=
  match splitBytes first text with
  | some (_, rest) => .ok rest
  | none => .error .cutCharacter

/-- The part of a text from the byte `first` on and before the byte `last`. -/
def part (text : List Char) (first last : Nat) : Except Fault (List Char) := do
  match splitBytes (last - first) (← partFrom text first) with
  | some (taken, _) => .ok taken
  | none => .error .cutCharacter

/-- How far a directive has been read. A part that is being read goes with the position of its first
byte. -/
inductive Phase where
  | start
  /-- A level or a target, which begins the directive. -/
  | word
  | span (first : Nat)
  | field (first : Nat)
  /-- A field has ended. -/
  | fields
  /-- The span has ended. -/
  | target
  | level (first : Nat)
deriving DecidableEq, Repr

/-- A word can begin with this character. -/
def isInitial (c : Char) : Bool :=
  c == '-' || c == ':' || c == '_' || Text.isAlphanumeric c

/-- Read the character at the position `here` of the directive. -/
def Phase.next (text : List Char) (here : Nat) (c : Char) : Phase → Except Fault Phase
  | .start =>
      if c == '[' then .ok (.span (here + 1))
      else if isInitial c then .ok .word
      else .error .malformed
  | .word =>
      if c == '=' then do let _ ← part text 0 here; return .level (here + 1)
      else if c == '[' then do let _ ← part text 0 here; return .span (here + 1)
      else .ok .word
  | .span first =>
      if c == ']' then do let _ ← part text first here; return .target
      else if c == '\x7b' then do let _ ← part text first here; return .field (here + 1)
      else .ok (.span first)
  | .field first =>
      if c == '\x7d' then do
        if isField (← part text first here) then return .fields else .error .malformed
      else .ok (.field first)
  | .fields => if c == ']' then .ok .target else .error .malformed
  | .target => if c == '=' then .ok (.level (here + 1)) else .error .malformed
  | .level first => .ok (.level first)

/-- The directive ends. -/
def Phase.finish (text : List Char) : Phase → Except Fault Unit
  | .word | .target => .ok ()
  | .level first => do if isLevel (← partFrom text first) then return () else .error .malformed
  | .start | .span _ | .field _ | .fields => .error .malformed

/-- Read the rest of a directive. -/
def Phase.read (text : List Char) (here : Nat) (p : Phase) : List Char → Except Fault Unit
  | [] => p.finish text
  | c :: cs => do (← p.next text here c).read text (here + c.utf8Size) cs

def checkDirective (text : List Char) : Except Fault Unit :=
  Phase.start.read text 0 (Text.trimmed text)

/-- Read a log filter up to its first fault. -/
def check (s : String) : Except Fault Unit :=
  ((pieces ',' s.toList).filter (!·.isEmpty)).forM checkDirective

end ConnectionPool.LogFilter
