import ConnectionPool.Toml.Lexeme

/-!
# Numbers and dates of the configuration language

Integers are decimal with an optional sign and no leading zeros, or hexadecimal, octal or binary
without a sign; they have to fit into 64 bits with a sign. Digits may be grouped by single
underscores. Numbers with a fraction or an exponent, and dates and times, are recognised and kept as
they were written.
-/

set_option autoImplicit false

namespace ConnectionPool.Toml

/-- Read digits of one kind, of which underscores may stand between two. -/
def groupedDigits (isDigit : Char → Bool) : List Char → Option (List Char × List Char)
  | [] => none
  | c :: rest =>
      if isDigit c then
        match rest with
        | '_' :: rest' => (groupedDigits isDigit rest').map fun (ds, r) => (c :: ds, r)
        | rest' =>
            match rest' with
            | [] => some ([c], [])
            | d :: _ =>
                if isDigit d then (groupedDigits isDigit rest').map fun (ds, r) => (c :: ds, r)
                else some ([c], rest')
      else none

/-- The number that digits to a base stand for. -/
def digitsValue (base : Nat) (ds : List Char) : Nat :=
  ds.foldl (fun acc c => base * acc + (hexValue c).getD 0) 0

/-- Read an optional sign. -/
def sign : List Char → Bool × List Char
  | '+' :: rest => (false, rest)
  | '-' :: rest => (true, rest)
  | cs => (false, cs)

/-- Read decimal digits without leading zeros, after an optional sign. -/
def decimalDigits (cs : List Char) : Option ((Bool × List Char) × List Char) :=
  let (negative, cs) := sign cs
  match cs with
  | '0' :: rest => some ((negative, ['0']), rest)
  | _ => (groupedDigits Char.isDigit cs).map fun (ds, rest) => ((negative, ds), rest)

/-- The integer fits into 64 bits with a sign. -/
def inRange (i : Int) : Bool :=
  decide (-9223372036854775808 ≤ i ∧ i ≤ 9223372036854775807)

/-- Read an integer to a base that its first two characters announced. -/
def basedInteger (base : Nat) (isDigit : Char → Bool) (cs : List Char) :
    Option (Int × List Char) :=
  match groupedDigits isDigit cs with
  | none => none
  | some (ds, rest) =>
      let i : Int := digitsValue base ds
      if inRange i then some (i, rest) else none

def integer : List Char → Option (Int × List Char)
  | '0' :: 'x' :: rest => basedInteger 16 (fun c => (hexValue c).isSome) rest
  | '0' :: 'o' :: rest => basedInteger 8 (fun c => decide ('0' ≤ c ∧ c ≤ '7')) rest
  | '0' :: 'b' :: rest => basedInteger 2 (fun c => c == '0' || c == '1') rest
  | cs =>
      match decimalDigits cs with
      | none => none
      | some ((negative, ds), rest) =>
          let n : Int := digitsValue 10 ds
          let i := if negative then -n else n
          if inRange i then some (i, rest) else none

/-! ## Numbers with a fraction or an exponent -/

/-- The parts of a decimal number: sign, digits, digits of the fraction, and the exponent. -/
structure Decimal where
  negative : Bool
  whole : List Char
  fraction : List Char := []
  exponent : Int := 0

/-- The number is too large to have a nearest finite double: it is at least half a unit above the
largest one. -/
def Decimal.overflows (x : Decimal) : Bool :=
  let m := digitsValue 10 (x.whole ++ x.fraction)
  let e := x.exponent - x.fraction.length
  let limit := Nat.pow 2 1024 - Nat.pow 2 970
  -- far exponents decide without computing the power
  if m = 0 then false
  else if e < -(2 * (x.whole.length + x.fraction.length : Nat) : Int) - 400 then false
  else if 400 < e then true
  else if 0 ≤ e then decide (limit ≤ m * Nat.pow 10 e.toNat)
  else decide (limit * Nat.pow 10 (-e).toNat ≤ m)

/-- Read the exponent of a number. -/
def exponentPart : List Char → Option (Int × List Char)
  | c :: rest =>
      if c = 'e' ∨ c = 'E' then
        let (negative, rest) := sign rest
        (groupedDigits Char.isDigit rest).map fun (ds, rest) =>
          let n : Int := digitsValue 10 ds
          (if negative then -n else n, rest)
      else none
  | [] => none

/-- Read a number with a fraction, an exponent or both. A positive number has to be finite. -/
def decimal (cs : List Char) : Option (Decimal × List Char) :=
  match decimalDigits cs with
  | none => none
  | some ((negative, whole), rest) =>
      let read : Option (Decimal × List Char) :=
        match rest with
        | '.' :: rest =>
            match groupedDigits Char.isDigit rest with
            | none => none
            | some (fraction, rest) =>
                match rest with
                | c :: _ =>
                    if c = 'e' ∨ c = 'E' then
                      (exponentPart rest).map fun (e, rest) =>
                        (⟨negative, whole, fraction, e⟩, rest)
                    else some (⟨negative, whole, fraction, 0⟩, rest)
                | [] => some (⟨negative, whole, fraction, 0⟩, [])
        | rest => (exponentPart rest).map fun (e, rest) => (⟨negative, whole, [], e⟩, rest)
      match read with
      | none => none
      | some (x, rest) => if !x.negative && x.overflows then none else some (x, rest)

/-- Read an infinity or the number that is none. -/
def specialFloat (cs : List Char) : Option (Unit × List Char) :=
  match (sign cs).2 with
  | 'i' :: 'n' :: 'f' :: rest => some ((), rest)
  | 'n' :: 'a' :: 'n' :: rest => some ((), rest)
  | _ => none

/-- What was read, as it was written. -/
def written (before after : List Char) : String :=
  String.ofList (before.take (before.length - after.length))

/-- Read a number that is not an integer. -/
def float (cs : List Char) : Option (String × List Char) :=
  match decimal cs with
  | some (_, rest) => some (written cs rest, rest)
  | none => (specialFloat cs).map fun (_, rest) => (written cs rest, rest)

/-! ## Dates and times -/

/-- Read exactly `n` decimal digits. -/
def fixedDigits : Nat → Nat → Reader Nat
  | 0, acc, cs => some (acc, cs)
  | _ + 1, _, [] => none
  | n + 1, acc, c :: rest =>
      if c.isDigit then fixedDigits n (10 * acc + (c.toNat - '0'.toNat)) rest else none

/-- Read two digits whose number lies between two bounds. -/
def twoDigits (low high : Nat) (cs : List Char) : Option (Nat × List Char) :=
  match fixedDigits 2 0 cs with
  | none => none
  | some (n, rest) => if low ≤ n ∧ n ≤ high then some (n, rest) else none

/-- Read one given character. -/
def character (c : Char) : List Char → Option (List Char)
  | d :: rest => if d = c then some rest else none
  | [] => none

def isLeapYear (y : Nat) : Bool := y % 4 == 0 && (y % 100 != 0 || y % 400 == 0)

def daysInMonth (y m : Nat) : Nat :=
  if m = 2 then (if isLeapYear y then 29 else 28)
  else if m = 4 ∨ m = 6 ∨ m = 9 ∨ m = 11 then 30
  else 31

/-- Read a date: a year of four digits, a month and a day that the month has. -/
def date (cs : List Char) : Option (List Char) := do
  let (y, cs) ← fixedDigits 4 0 cs
  let cs ← character '-' cs
  let (m, cs) ← twoDigits 1 12 cs
  let cs ← character '-' cs
  let (_, cs) ← twoDigits 1 (daysInMonth y m) cs
  return cs

/-- Read a fraction of a second, if there is one. -/
def secondFraction (cs : List Char) : Option (List Char) :=
  match cs with
  | '.' :: rest =>
      match rest.span Char.isDigit with
      | ([], _) => some cs
      | (_, rest) => some rest
  | _ => some cs

/-- Read a time of day. The sixtieth second is the leap second. -/
def time (cs : List Char) : Option (List Char) := do
  let (_, cs) ← twoDigits 0 23 cs
  let cs ← character ':' cs
  let (_, cs) ← twoDigits 0 59 cs
  let cs ← character ':' cs
  let (_, cs) ← twoDigits 0 60 cs
  secondFraction cs

/-- Read the distance to universal time, if it is given. -/
def offset (cs : List Char) : Option (List Char) :=
  match cs with
  | 'Z' :: rest => some rest
  | 'z' :: rest => some rest
  | c :: rest =>
      if c = '+' ∨ c = '-' then do
        let (_, cs) ← twoDigits 0 23 rest
        let cs ← character ':' cs
        let (_, cs) ← twoDigits 0 59 cs
        return cs
      else some cs
  | [] => some []

/-- Read the time that follows a date, if there is one. -/
def timeAfterDate (cs : List Char) : Option (List Char) :=
  match cs with
  | c :: rest =>
      if c = 'T' ∨ c = 't' ∨ c = ' ' then
        -- without a time after it, the separator is not part of the date
        match time rest with
        | none => some cs
        | some rest => offset rest
      else some cs
  | [] => some []

/-- Read a date, a time, or both. -/
def datetime (cs : List Char) : Option (String × List Char) :=
  let rest := match date cs with
    | some rest => timeAfterDate rest
    | none => time cs
  rest.map fun rest => (written cs rest, rest)

end ConnectionPool.Toml
