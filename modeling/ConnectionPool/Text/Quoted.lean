import ConnectionPool.Text.Printable

/-!
# Quoted text

Debugging output writes a text between double quotes. Quotes, backslashes and the usual blanks are
escaped by a backslash; a character that cannot be printed is written by its number in hexadecimal,
between braces; every other character stands for itself. File names are written the same way, with
the apostrophe escaped as well.
-/

set_option autoImplicit false

namespace ConnectionPool.Text

/-- The hexadecimal digits of a number, lower case and without leading zeros. -/
def hexDigits (n : Nat) : List Char := Nat.toDigits 16 n

/-- The written form of one character between double quotes. -/
def escape (c : Char) : List Char :=
  match c with
  | '"' => ['\\', '"']
  | '\\' => ['\\', '\\']
  | '\n' => ['\\', 'n']
  | '\r' => ['\\', 'r']
  | '\t' => ['\\', 't']
  | '\x00' => ['\\', '0']
  | c => if isPrintable c then [c] else ['\\', 'u', '\x7b'] ++ hexDigits c.toNat ++ ['\x7d']

/-- The written form of one character of a file name. -/
def escapeInPath (c : Char) : List Char :=
  if c = '\'' then ['\\', '\''] else escape c

/-- A text between double quotes. -/
def quoted (s : String) : String :=
  String.ofList ('"' :: s.toList.flatMap escape ++ ['"'])

/-- A file name between double quotes. -/
def quotedPath (s : String) : String :=
  String.ofList ('"' :: s.toList.flatMap escapeInPath ++ ['"'])

/-! ## Text in data files -/

/-- The written form of one character in a data file: control characters are written by four digits,
those with a letter of their own by that letter. -/
def escapeInData (c : Char) : List Char :=
  match c with
  | '"' => ['\\', '"']
  | '\\' => ['\\', '\\']
  | '\n' => ['\\', 'n']
  | '\r' => ['\\', 'r']
  | '\t' => ['\\', 't']
  | '\x08' => ['\\', 'b']
  | '\x0c' => ['\\', 'f']
  | c =>
      if c.toNat < 0x20 then
        let ds := hexDigits c.toNat
        ['\\', 'u'] ++ List.replicate (4 - ds.length) '0' ++ ds
      else [c]

/-- A text between double quotes, as data files write it. -/
def quotedData (s : String) : String :=
  String.ofList ('"' :: s.toList.flatMap escapeInData ++ ['"'])

end ConnectionPool.Text
