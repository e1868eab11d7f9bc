import ConnectionPool.Toml.Number
import ConnectionPool.Toml.Tree

/-!
# Documents of the configuration language

Values, lines and whole documents. A document is a sequence of lines: a header, a name with a value,
or nothing; each may end in a comment. `Document.parse?` reads a document, or finds that the text is
none. Values may be nested to a fixed depth.
-/

set_option autoImplicit false

namespace ConnectionPool.Toml

/-- The names of a dotted name before the last, and the last. -/
def splitLast : List String → Option (List String × String)
  | [] => none
  | [k] => some ([], k)
  | k :: rest => (splitLast rest).map fun (path, last) => (k :: path, last)

/-- A number or a date. What starts like a date is one. -/
def numberOrDate (cs : List Char) : Option (Value × List Char) :=
  match datetime cs with
  | some (s, rest) => some (.datetime s, rest)
  | none =>
      match float cs with
      | some (s, rest) => some (.float s, rest)
      | none => (integer cs).map fun (i, rest) => (.integer i, rest)

mutual

/-- Read a value that may nest `depth` deep. -/
def value : (fuel depth : Nat) → Reader Value
  | 0, _, _ => none
  | fuel + 1, depth, cs =>
      match cs with
      | [] => none
      | '"' :: _ => (string cs).map fun (s, rest) => (.text s, rest)
      | '\'' :: _ => (string cs).map fun (s, rest) => (.text s, rest)
      | '[' :: rest =>
          match depth with
          | 0 => none
          | depth + 1 => (elements fuel depth rest).map fun (vs, rest) => (.array vs, rest)
      | '\x7b' :: rest =>
          match depth with
          | 0 => none
          | depth + 1 =>
              match skipBlanks rest with
              | '\x7d' :: rest => some (.table [], rest)
              | _ =>
                  (entries fuel depth [] rest).map fun (b, rest) =>
                    (.table (entriesToTable b), rest)
      | 't' :: 'r' :: 'u' :: 'e' :: rest => some (.boolean true, rest)
      | 'f' :: 'a' :: 'l' :: 's' :: 'e' :: rest => some (.boolean false, rest)
      | _ => numberOrDate cs

/-- Read the rest of an array. Values stand on any lines, and a comma may follow the last one. -/
def elements : (fuel depth : Nat) → Reader (List Value)
  | 0, _, _ => none
  | fuel + 1, depth, cs =>
      match skipLines cs with
      | ']' :: rest => some ([], rest)
      | cs =>
          match value fuel depth cs with
          | none => none
          | some (v, rest) =>
              -- the array ends here, or a comma separates what follows
              match skipLines rest with
              | ']' :: rest => some ([v], rest)
              | ',' :: rest => (elements fuel depth rest).map fun (vs, rest) => (v :: vs, rest)
              | _ => none

/-- Read the rest of a table written as a value. It stands on one line, and no comma follows the
last entry. -/
def entries : (fuel depth : Nat) → Branch → Reader Branch
  | 0, _, _, _ => none
  | fuel + 1, depth, b, cs =>
      match key cs with
      | none => none
      | some (names, rest) =>
          match skipBlanks rest with
          | '=' :: rest =>
              match value fuel depth (skipBlanks rest) with
              | none => none
              | some (v, rest) =>
                  match (splitLast names).bind fun (path, k) => b.insertAt .defined path k v with
                  | none => none
                  | some b =>
                      match skipBlanks rest with
                      | '\x7d' :: rest => some (b, rest)
                      | ',' :: rest => entries fuel depth b rest
                      | _ => none
          | _ => none

end

/-- Read a header up to its closing brackets. -/
def header (cs : List Char) (closing : List Char → Option (List Char)) :
    Option ((List String × String) × List Char) :=
  match key cs with
  | none => none
  | some (names, rest) =>
      match splitLast names, closing (skipBlanks rest) with
      | some place, some rest => some (place, rest)
      | _, _ => none

/-- Read one line that is neither empty nor a comment. -/
def line (d : Draft) (cs : List Char) : Option (Draft × List Char) :=
  match cs with
  | '[' :: '[' :: rest =>
      match header rest fun
        | ']' :: ']' :: rest => some rest
        | _ => none with
      | none => none
      | some ((path, k), rest) => (d.beginRepeated path k).map fun d => (d, rest)
  | '[' :: rest =>
      match header rest fun
        | ']' :: rest => some rest
        | _ => none with
      | none => none
      | some ((path, k), rest) => (d.beginTable path k).map fun d => (d, rest)
  | _ =>
      match key cs with
      | none => none
      | some (names, rest) =>
          match skipBlanks rest with
          | '=' :: rest =>
              -- every two steps into a value take at least one character
              match value (2 * rest.length + 2) (depthLimit - 1) (skipBlanks rest) with
              | none => none
              | some (v, rest) =>
                  ((splitLast names).bind fun (path, k) => d.addValue path k v).map fun d =>
                    (d, rest)
          | _ => none

/-- Read the lines of a document, at most `fuel` of them. -/
def lines : Nat → Draft → List Char → Option Draft
  | 0, _, _ => none
  | fuel + 1, d, cs =>
      match skipLines cs with
      | [] => some d
      | cs =>
          match line d cs with
          | none => none
          | some (d, rest) =>
              match restOfLine rest with
              | none => none
              | some rest => lines fuel d rest

/-- Read a document. A byte order mark at its beginning does not count. -/
def parse? (s : String) : Option Table :=
  let cs := match s.toList with
    | '\uFEFF' :: rest => rest
    | cs => cs
  match lines (cs.length + 1) {} cs with
  | none => none
  | some d => d.finish.map entriesToTable

end ConnectionPool.Toml
