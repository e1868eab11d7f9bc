/-!
# Lexemes of the configuration language

Blanks, line ends, comments, names and strings. A reader takes a lexeme off the front of the text
and gives back the rest; it gives nothing if the text does not start with such a lexeme. Control
characters other than the tab are not allowed anywhere, and a carriage return counts only as the
first half of a line end.
-/

set_option autoImplicit false

namespace ConnectionPool.Toml

/-- A reader takes something off the front of a text. -/
abbrev Reader (α : Type) := List Char → Option (α × List Char)

def isBlank (c : Char) : Bool := c == ' ' || c == '\t'

/-- A character that may stand in a comment: a tab, or any character that is not a control. -/
def isPlain (c : Char) : Bool := c == '\t' || (0x20 ≤ c.toNat && c.toNat != 0x7f)

def skipBlanks (cs : List Char) : List Char := cs.dropWhile isBlank

/-- A line end: a line feed, perhaps after a carriage return. -/
def lineEnd : Reader Unit
  | '\n' :: rest => some ((), rest)
  | '\r' :: '\n' :: rest => some ((), rest)
  | _ => none

/-- Skip a comment, up to the end of its line. -/
def skipComment : List Char → List Char
  | '#' :: rest => rest.dropWhile isPlain
  | cs => cs

/-- The rest of a line: blanks, perhaps a comment, and a line end or the end of the text. -/
def restOfLine (cs : List Char) : Option (List Char) :=
  match skipComment (skipBlanks cs) with
  | [] => some []
  | rest => (lineEnd rest).map (·.2)

/-- Skip blanks, line ends and comments, at most `fuel` of them. -/
def skipLinesFor : Nat → List Char → List Char
  | 0, cs => cs
  | fuel + 1, cs =>
      match skipComment (skipBlanks cs) with
      | '\n' :: rest => skipLinesFor fuel rest
      | '\r' :: '\n' :: rest => skipLinesFor fuel rest
      | rest => rest

/-- Skip blanks, line ends and comments. -/
def skipLines (cs : List Char) : List Char := skipLinesFor (cs.length + 1) cs

/-! ## Strings -/

def hexValue (c : Char) : Option Nat :=
  if '0' ≤ c ∧ c ≤ '9' then some (c.toNat - '0'.toNat)
  else if 'a' ≤ c ∧ c ≤ 'f' then some (c.toNat - 'a'.toNat + 10)
  else if 'A' ≤ c ∧ c ≤ 'F' then some (c.toNat - 'A'.toNat + 10)
  else none

/-- Read exactly `n` hexadecimal digits. -/
def hexNumber : Nat → Nat → Reader Nat
  | 0, acc, cs => some (acc, cs)
  | _ + 1, _, [] => none
  | n + 1, acc, c :: rest =>
      match hexValue c with
      | none => none
      | some d => hexNumber n (16 * acc + d) rest

/-- Read the number of a character, of `n` digits. Numbers of surrogates name no character. -/
def characterByNumber (n : Nat) (cs : List Char) : Option (Char × List Char) :=
  match hexNumber n 0 cs with
  | none => none
  | some (v, rest) => if v.isValidChar then some (Char.ofNat v, rest) else none

/-- Read what follows a backslash, when it stands for one character. -/
def escapeSequence : Reader Char
  | 'b' :: rest => some ('\x08', rest)
  | 't' :: rest => some ('\t', rest)
  | 'n' :: rest => some ('\n', rest)
  | 'f' :: rest => some ('\x0c', rest)
  | 'r' :: rest => some ('\r', rest)
  | '"' :: rest => some ('"', rest)
  | '\\' :: rest => some ('\\', rest)
  | 'u' :: rest => characterByNumber 4 rest
  | 'U' :: rest => characterByNumber 8 rest
  | _ => none

/-- Read the rest of a string of one line between double quotes. -/
def basicString : Nat → List Char → Reader (List Char)
  | 0, _, _ => none
  | _ + 1, _, [] => none
  | fuel + 1, acc, c :: rest =>
      if c = '"' then some (acc.reverse, rest)
      else if c = '\\' then
        match escapeSequence rest with
        | none => none
        | some (d, rest) => basicString fuel (d :: acc) rest
      else if isPlain c then basicString fuel (c :: acc) rest
      else none

/-- Read the rest of a string of one line between apostrophes, in which nothing is escaped. -/
def literalString : List Char → Reader (List Char)
  | _, [] => none
  | acc, c :: rest =>
      if c = '\'' then some (acc.reverse, rest)
      else if isPlain c then literalString (c :: acc) rest
      else none

/-- Three quotes end a string of many lines. Up to two more quotes belong to the string: they are
moved before the end. -/
def closing (q : Char) (acc : List Char) : List Char → Option (List Char × List Char)
  | a :: b :: c :: rest =>
      if a = q ∧ b = q ∧ c = q then
        -- a fourth and a fifth quote belong to the string, a sixth does not
        match rest with
        | d :: e :: rest' =>
            if d = q ∧ e = q then some ((q :: q :: acc).reverse, rest')
            else if d = q then some ((q :: acc).reverse, e :: rest')
            else some (acc.reverse, rest)
        | [d] => if d = q then some ((q :: acc).reverse, []) else some (acc.reverse, rest)
        | [] => some (acc.reverse, [])
      else none
  | _ => none

/-- Skip blanks and line ends. -/
def skipBlankLines : List Char → List Char
  | ' ' :: rest => skipBlankLines rest
  | '\t' :: rest => skipBlankLines rest
  | '\n' :: rest => skipBlankLines rest
  | '\r' :: '\n' :: rest => skipBlankLines rest
  | cs => cs

/-- Read the rest of a string of many lines between three double quotes. A line end becomes a line
feed; a backslash before it takes it away, together with all blanks and line ends after it. -/
def longBasicString : Nat → List Char → Reader (List Char)
  | 0, _, _ => none
  | fuel + 1, acc, cs =>
      match closing '"' acc cs with
      | some r => some r
      | none =>
          match cs with
          | [] => none
          | '\r' :: '\n' :: rest => longBasicString fuel ('\n' :: acc) rest
          | '\n' :: rest => longBasicString fuel ('\n' :: acc) rest
          | '\\' :: rest =>
              -- nothing but blanks may stand between the backslash and the line end
              match lineEnd (skipBlanks rest) with
              | some (_, rest) => longBasicString fuel acc (skipBlankLines rest)
              | none =>
                  match escapeSequence rest with
                  | none => none
                  | some (d, rest) => longBasicString fuel (d :: acc) rest
          | c :: rest => if isPlain c then longBasicString fuel (c :: acc) rest else none

/-- Read the rest of a string of many lines between three apostrophes. -/
def longLiteralString : Nat → List Char → Reader (List Char)
  | 0, _, _ => none
  | fuel + 1, acc, cs =>
      match closing '\'' acc cs with
      | some r => some r
      | none =>
          match cs with
          | [] => none
          | '\r' :: '\n' :: rest => longLiteralString fuel ('\n' :: acc) rest
          | '\n' :: rest => longLiteralString fuel ('\n' :: acc) rest
          | c :: rest => if isPlain c then longLiteralString fuel (c :: acc) rest else none

/-- A line end right after the opening of a string of many lines does not belong to it. -/
def skipFirstLineEnd (cs : List Char) : List Char :=
  match lineEnd cs with
  | some (_, rest) => rest
  | none => cs

/-- Read a string of any of the four kinds. -/
def string (cs : List Char) : Option (String × List Char) :=
  let made := fun (r : List Char × List Char) => (String.ofList r.1, r.2)
  match cs with
  | '"' :: '"' :: '"' :: rest =>
      (longBasicString (rest.length + 1) [] (skipFirstLineEnd rest)).map made
  | '\'' :: '\'' :: '\'' :: rest =>
      (longLiteralString (rest.length + 1) [] (skipFirstLineEnd rest)).map made
  | '"' :: rest => (basicString (rest.length + 1) [] rest).map made
  | '\'' :: rest => (literalString [] rest).map made
  | _ => none

/-! ## Names -/

/-- A character of a name without quotes. -/
def isBare (c : Char) : Bool := c.isAlphanum || c == '_' || c == '-'

/-- Read a name: without quotes, or as a string of one line. -/
def simpleKey (cs : List Char) : Option (String × List Char) :=
  let made := fun (r : List Char × List Char) => (String.ofList r.1, r.2)
  match cs with
  | '"' :: rest => (basicString (rest.length + 1) [] rest).map made
  | '\'' :: rest => (literalString [] rest).map made
  | _ =>
      match cs.span isBare with
      | ([], _) => none
      | (name, rest) => some (String.ofList name, rest)

/-- The most names that a dotted name may be made of, plus one; also the depth to which values may
be nested, plus one. -/
def depthLimit : Nat := 80

/-- Read names separated by dots, at most `fuel` of them. Blanks around a dot do not count. -/
def dottedKey : Nat → Reader (List String)
  | 0, _ => none
  | fuel + 1, cs =>
      match simpleKey (skipBlanks cs) with
      | none => none
      | some (name, rest) =>
          match skipBlanks rest with
          | '.' :: rest => (dottedKey fuel rest).map fun (names, rest) => (name :: names, rest)
          | rest => some ([name], rest)

/-- Read a dotted name. -/
def key (cs : List Char) : Option (List String × List Char) := dottedKey (depthLimit - 1) cs

end ConnectionPool.Toml
