import ConnectionPool.Text.Blank

/-!
# Escapes in patterns

A backslash in a pattern introduces a character, a class of characters or a place in the text. The
modes of a pattern decide what may stand between the digits of a character's number.
-/

set_option autoImplicit false

namespace ConnectionPool.LogFilter.Pattern

/-- The modes that flags in a pattern switch, as far as they decide whether it is well formed. -/
structure Modes where
  /-- Characters are those of Unicode, not those of ASCII. -/
  isUnicode : Bool := true
  ignoresCase : Bool := false
  /-- Blanks and comments do not count. -/
  isSpaced : Bool := false
deriving DecidableEq, Repr

/-- The text after the blanks and comments in front of it. A comment lasts to the end of its
line. -/
def afterSpace (inComment : Bool) : List Char → List Char
  | [] => []
  | c :: cs =>
      if inComment then afterSpace (c != '\n') cs
      else if Text.isBlank c then afterSpace false cs
      else if c == '#' then afterSpace true cs
      else c :: cs

/-- The text from the next character on that counts. -/
def Modes.skip (m : Modes) (cs : List Char) : List Char :=
  if m.isSpaced then afterSpace false cs else cs

/-- No table of the cases of letters beyond ASCII is at hand, so that under Unicode a pattern that
ignores case can hold no letter, nor any other character. -/
def Modes.hasCases (m : Modes) : Bool := !(m.isUnicode && m.ignoresCase)

/-- What a backslash introduces. -/
inductive Escape where
  /-- One character; `isByte` if it was given by its two hexadecimal digits. -/
  | character (c : Char) (isByte : Bool)
  /-- Digits, white space or the characters of words; `isNegated` for all the others. -/
  | kind (isNegated : Bool)
  /-- The start or the end of the text. -/
  | edge
  /-- The start or the end of a word, or anywhere else. -/
  | wordEdge
deriving DecidableEq, Repr

/-- The value of a hexadecimal digit. -/
def hexValue? (c : Char) : Option Nat :=
  if c.isDigit then some (c.toNat - '0'.toNat)
  else if 'a' ≤ c ∧ c ≤ 'f' then some (c.toNat - 'a'.toNat + 10)
  else if 'A' ≤ c ∧ c ≤ 'F' then some (c.toNat - 'A'.toNat + 10)
  else none

/-- The number with the given count of hexadecimal digits, and what follows. -/
def readNumber (m : Modes) : Nat → Nat → List Char → Option (Nat × List Char)
  | 0, n, cs => some (n, cs)
  | count + 1, n, cs =>
      match m.skip cs with
      | [] => none
      | d :: cs => (hexValue? d).bind fun v => readNumber m count (16 * n + v) cs

/-- The character of the number with the given count of digits, and what follows. -/
def readCharacter (m : Modes) (count : Nat) (cs : List Char) : Option (Escape × List Char) :=
  match readNumber m count 0 cs with
  | some (n, cs) =>
      if n.isValidChar then some (.character (Char.ofNat n) (count == 2), cs) else none
  | none => none

/-- What stands after a backslash, and what follows it. Backward references and properties of
Unicode are refused. -/
def readEscape (m : Modes) : List Char → Option (Escape × List Char)
  | [] => none
  | c :: cs =>
      match c with
      | 'x' => readCharacter m 2 cs
      | 'u' => readCharacter m 4 cs
      | 'U' => readCharacter m 8 cs
      | 'a' => some (.character '\x07' false, cs)
      | 'f' => some (.character '\x0c' false, cs)
      | 't' => some (.character '\t' false, cs)
      | 'n' => some (.character '\n' false, cs)
      | 'r' => some (.character '\r' false, cs)
      | 'v' => some (.character '\x0b' false, cs)
      | 'd' | 's' | 'w' => some (.kind false, cs)
      | 'D' | 'S' | 'W' => some (.kind true, cs)
      | 'A' | 'z' => some (.edge, cs)
      | 'b' | 'B' | '<' | '>' => some (.wordEdge, cs)
      | c => if c.toNat < 128 && !c.isAlphanum then some (.character c false, cs) else none

end ConnectionPool.LogFilter.Pattern
