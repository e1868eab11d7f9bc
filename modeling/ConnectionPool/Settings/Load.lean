import ConnectionPool.Settings.Basic
import ConnectionPool.Toml.Document

/-!
# Loading settings

Settings are read from a table of the configuration language. A section may be missing, and so may
each of its settings; what is missing has its default. A section is a table of named settings, or an
array that gives the first settings of the section in order. Names that are not known are passed
over. A value of the wrong kind or out of range makes the whole file unreadable. How a text is read
as a table is a parameter.
-/

set_option autoImplicit false

namespace ConnectionPool

open Toml (Value Table)

namespace Settings

/-- A number that is neither negative nor beyond 63 bits. -/
def number? : Value → Option Nat
  | .integer i => if 0 ≤ i ∧ i < 9223372036854775808 then some i.toNat else none
  | _ => none

def flag? : Value → Option Bool
  | .boolean b => some b
  | _ => none

def text? : Value → Option String
  | .text s => some s
  | _ => none

/-- What a section gives for each of its settings, in order. Any date counts as a section that gives
nothing. -/
def sectionValues (names : List String) : Option Value → Option (List (Option Value))
  | none => some (names.map fun _ => none)
  | some (.table entries) => some (names.map fun k => entries.lookup k)
  | some (.array vs) => some ((List.range names.length).map fun i => vs[i]?)
  | some (.datetime _) => some (names.map fun _ => none)
  | some _ => none

/-- The setting that a value gives, or its default if there is none. -/
def setting {α : Type} (read : Value → Option α) (default : α) : Option Value → Option α
  | none => some default
  | some v => read v

def limitsOf (v : Option Value) : Option Limits :=
  match sectionValues ["max_connections_per_address", "max_queue_size_per_address"] v with
  | some [connections, queue] => do
      let d : Limits := {}
      return ⟨← setting number? d.connections connections, ← setting number? d.queue queue⟩
  | _ => none

def loopbackOf (v : Option Value) : Option LoopbackTimings :=
  match sectionValues ["connect_latency_ms", "exchange_latency_ms", "fail_connect"] v with
  | some [connect, exchange, fail] => do
      let d : LoopbackTimings := {}
      return ⟨← setting number? d.connectLatency connect,
        ← setting number? d.exchangeLatency exchange, ← setting flag? d.failConnect fail⟩
  | _ => none

def loggingOf (v : Option Value) : Option LogSettings :=
  match sectionValues ["level", "format"] v with
  | some [level, format] => do
      let d : LogSettings := {}
      return ⟨← setting text? d.level level, ← setting text? d.format format⟩
  | _ => none

/-- The settings that a table gives, usable or not. -/
def ofTable (t : Table) : Option Settings := do
  return ⟨← limitsOf (t.lookup "client"), ← loopbackOf (t.lookup "loopback"),
    ← loggingOf (t.lookup "logging")⟩

/-- Usable settings from a document, or what is wrong with it. A document that cannot be read comes
before one whose settings cannot be used. -/
def ofDocument (document : Option Table) : Except ConfigError Settings :=
  match document.bind ofTable with
  | none => .error .malformed
  | some s =>
      match s.error? with
      | some e => .error e
      | none => .ok s

/-- What reading a file comes to. -/
abbrev FileContents := Except FileError ByteArray

/-- Load settings from the contents of a file, given what reads a text as a table. -/
def load (contents : FileContents) (parse : String → Option Table := Toml.parse?) :
    Except ConfigError Settings :=
  match contents with
  | .error e => .error (.unreadable e)
  | .ok bytes =>
      match String.fromUTF8? bytes with
      | none => .error (.unreadable .notText)
      | some s => ofDocument (parse s)

end Settings

end ConnectionPool
