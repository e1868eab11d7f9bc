import Mathlib.Data.List.Nodup
import ConnectionPool.Settings.Load

/-!
# What a document sets

A document is a table of values, and a setting is a value of a certain kind with a default. So what
a document sets can be said value by value: `given v f` is the value that a section gives for the
setting `f`, and `effective t f` is that value or the default. Main statement: a document can be
read exactly if each of its known sections can be one and each known setting in them has the right
kind and range, and every setting then is what the document gives for it
(`Settings.ofTable_eq_some_iff`). So documents that give the same set the same
(`Settings.ofTable_congr`).
-/

set_option autoImplicit false

namespace ConnectionPool

open Toml (Value Table)

namespace Settings

/-! ## Settings as values -/

inductive Field where
  | connections
  | queue
  | connectLatency
  | exchangeLatency
  | failConnect
  | level
  | format
deriving DecidableEq, Repr

/-- What the value of a setting has to be. -/
inductive Kind where
  | number
  | flag
  | text
deriving DecidableEq, Repr

/-- A number is neither negative nor beyond 63 bits. -/
def Kind.Fits : Kind → Value → Prop
  | .number, .integer i => 0 ≤ i ∧ i < 9223372036854775808
  | .flag, .boolean _ => True
  | .text, .text _ => True
  | _, _ => False

namespace Field

/-- The section that a setting belongs to. -/
def home : Field → String
  | .connections => "client"
  | .queue => "client"
  | .connectLatency => "loopback"
  | .exchangeLatency => "loopback"
  | .failConnect => "loopback"
  | .level => "logging"
  | .format => "logging"

/-- What a setting is called in its section. -/
def key : Field → String
  | .connections => "max_connections_per_address"
  | .queue => "max_queue_size_per_address"
  | .connectLatency => "connect_latency_ms"
  | .exchangeLatency => "exchange_latency_ms"
  | .failConnect => "fail_connect"
  | .level => "level"
  | .format => "format"

def kind : Field → Kind
  | .connections => .number
  | .queue => .number
  | .connectLatency => .number
  | .exchangeLatency => .number
  | .failConnect => .flag
  | .level => .text
  | .format => .text

theorem forall_iff {p : Field → Prop} : (∀ f, p f) ↔
    (p .connections ∧ p .queue) ∧ (p .connectLatency ∧ p .exchangeLatency ∧ p .failConnect) ∧
      p .level ∧ p .format := by
  constructor
  · intro all
    exact ⟨⟨all _, all _⟩, ⟨all _, all _, all _⟩, all _, all _⟩
  · rintro ⟨⟨h₁, h₂⟩, ⟨h₃, h₄, h₅⟩, h₆, h₇⟩ f
    cases f <;> assumption

def all : List Field :=
  [.connections, .queue, .connectLatency, .exchangeLatency, .failConnect, .level, .format]

theorem mem_all (f : Field) : f ∈ all := by cases f <;> decide

theorem key_injective : Function.Injective key := by
  intro f g same
  cases f <;> cases g <;> first | rfl | simp [key] at same

end Field

/-- The sections that settings are read from. -/
def sections : List String := ["client", "loopback", "logging"]

/-- The settings of a section, in order. -/
def fieldsOf (k : String) : List Field := Field.all.filter (·.home == k)

theorem mem_fieldsOf {k : String} {f : Field} : f ∈ fieldsOf k ↔ f.home = k := by
  simp [fieldsOf, Field.mem_all]

theorem nodup_fieldsOf (k : String) : (fieldsOf k).Nodup := by
  apply List.Nodup.filter
  decide

/-- A setting as the value that sets it. -/
def value (s : Settings) : Field → Value
  | .connections => .integer s.limits.connections
  | .queue => .integer s.limits.queue
  | .connectLatency => .integer s.loopback.connectLatency
  | .exchangeLatency => .integer s.loopback.exchangeLatency
  | .failConnect => .boolean s.loopback.failConnect
  | .level => .text s.logging.level
  | .format => .text s.logging.format

/-! ## What a document gives -/

/-- What can stand for a section: nothing, a table, an array or a date. -/
def IsSection : Option Value → Prop
  | none => True
  | some (.table _) => True
  | some (.array _) => True
  | some (.datetime _) => True
  | some _ => False

/-- The value that a section gives for a setting: the one with its name in a table, or the one at
its place in an array. -/
def given (v : Option Value) (f : Field) : Option Value :=
  match v with
  | some (.table entries) => entries.lookup f.key
  | some (.array vs) => vs[(fieldsOf f.home).idxOf f]?
  | _ => none

/-- The value of a setting: what the document gives for it, or its default. -/
def effective (t : Table) (f : Field) : Value :=
  (given (t.lookup f.home) f).getD (({} : Settings).value f)

/-- Each known section can be one, and what is given for a setting is of its kind. -/
structure Readable (t : Table) : Prop where
  sections : ∀ k ∈ sections, IsSection (t.lookup k)
  fits : ∀ f v, given (t.lookup f.home) f = some v → f.kind.Fits v

/-! ## Reading a setting -/

/-- `read` takes the values that fit the kind, and `write` says which value it has taken. -/
structure Reads {α : Type} (read : Value → Option α) (kind : Kind) (write : α → Value) : Prop where
  fits_iff : ∀ v, kind.Fits v ↔ ∃ a, read v = some a
  write_eq : ∀ v a, read v = some a → write a = v
  injective : Function.Injective write

theorem reads_number : Reads number? .number fun n => .integer n where
  fits_iff v := by
    cases v with
    | integer i =>
        simp only [number?, Kind.Fits]
        split
        · next fits => exact ⟨fun _ => ⟨_, rfl⟩, fun _ => fits⟩
        · next other => exact ⟨fun fits => absurd fits other, fun ⟨_, h⟩ => by cases h⟩
    | _ => simp [number?, Kind.Fits]
  write_eq v n read := by
    cases v with
    | integer i =>
        simp only [number?] at read
        split at read
        · next fits =>
            cases read
            exact congrArg Value.integer (Int.toNat_of_nonneg fits.1)
        · cases read
    | _ => cases read
  injective m n same := by
    cases same
    rfl

theorem reads_flag : Reads flag? .flag .boolean where
  fits_iff v := by cases v <;> simp [flag?, Kind.Fits]
  write_eq v b read := by
    cases v <;> cases read
    rfl
  injective a b same := by
    cases same
    rfl

theorem reads_text : Reads text? .text .text where
  fits_iff v := by cases v <;> simp [text?, Kind.Fits]
  write_eq v s read := by
    cases v <;> cases read
    rfl
  injective a b same := by
    cases same
    rfl

/-- A setting is read exactly if what is given for it is of its kind, and it is that, or its
default. -/
theorem Reads.setting_eq_some_iff {α : Type} {read : Value → Option α} {kind : Kind}
    {write : α → Value} (reads : Reads read kind write) (default a : α) (g : Option Value) :
    setting read default g = some a ↔
      (∀ v, g = some v → kind.Fits v) ∧ write a = g.getD (write default) := by
  cases g with
  | none =>
      rw [setting, Option.getD_none, Option.some.injEq]
      constructor
      · rintro rfl
        exact ⟨fun v own => (by cases own), rfl⟩
      · rintro ⟨-, same⟩
        exact (reads.injective same).symm
  | some v =>
      rw [setting, Option.getD_some]
      constructor
      · intro taken
        refine ⟨fun v' own => ?_, reads.write_eq v a taken⟩
        cases own
        exact (reads.fits_iff v).2 ⟨a, taken⟩
      · rintro ⟨fits, written⟩
        obtain ⟨b, taken⟩ := (reads.fits_iff v).1 (fits v rfl)
        rw [taken, reads.injective ((reads.write_eq v b taken).trans written.symm)]

theorem Reads.exists_setting {α : Type} {read : Value → Option α} {kind : Kind}
    {write : α → Value} (reads : Reads read kind write) (default : α) {g : Option Value}
    (fits : ∀ v, g = some v → kind.Fits v) : ∃ a, setting read default g = some a := by
  cases g with
  | none => exact ⟨default, rfl⟩
  | some v => exact (reads.fits_iff v).1 (fits v rfl)

/-! ## Reading a section -/

/-- What cannot stand for a section gives no settings. -/
theorem sectionValues_eq_none {v : Option Value} (other : ¬ IsSection v) (names : List String) :
    sectionValues names v = none := by
  cases v with
  | none => exact absurd trivial other
  | some v => cases v <;> first | rfl | exact absurd trivial other

/-- What stands for a section gives its settings one by one, in order. -/
theorem sectionValues_eq_some {v : Option Value} (sec : IsSection v) (k : String) :
    sectionValues ((fieldsOf k).map Field.key) v = some ((fieldsOf k).map (given v)) := by
  cases v with
  | none =>
      rw [sectionValues, List.map_map]
      rfl
  | some v =>
      cases v with
      | table entries =>
          rw [sectionValues, List.map_map]
          rfl
      | datetime literal =>
          rw [sectionValues, List.map_map]
          rfl
      | array vs =>
          -- a setting stands where its place in the section says
          rw [sectionValues]
          refine congrArg some (List.ext_getElem (by simp) fun i lt lt' => ?_)
          rw [List.length_map] at lt'
          have place : (fieldsOf k).idxOf (fieldsOf k)[i] = i :=
            (nodup_fieldsOf k).idxOf_getElem i lt'
          simp only [List.getElem_map, List.getElem_range, given,
            mem_fieldsOf.1 (List.getElem_mem lt'), place]
      | _ => cases sec

/-- A section is read setting by setting, where it can be one. -/
theorem limitsOf_eq_some_iff {v : Option Value} {l : Limits} : limitsOf v = some l ↔
    IsSection v ∧ setting number? 8 (given v .connections) = some l.connections ∧
      setting number? 1024 (given v .queue) = some l.queue := by
  by_cases sec : IsSection v
  · have values : sectionValues ["max_connections_per_address", "max_queue_size_per_address"] v =
        some [given v .connections, given v .queue] := sectionValues_eq_some sec "client"
    simp only [limitsOf, values, Option.bind_eq_bind, Option.bind_eq_some_iff, Option.pure_def,
      Option.some.injEq]
    constructor
    · rintro ⟨c, connections, q, queue, rfl⟩
      exact ⟨sec, connections, queue⟩
    · rintro ⟨-, connections, queue⟩
      exact ⟨_, connections, _, queue, rfl⟩
  · rw [limitsOf, sectionValues_eq_none sec]
    simp [sec]

theorem loopbackOf_eq_some_iff {v : Option Value} {l : LoopbackTimings} : loopbackOf v = some l ↔
    IsSection v ∧ setting number? 5 (given v .connectLatency) = some l.connectLatency ∧
      setting number? 10 (given v .exchangeLatency) = some l.exchangeLatency ∧
      setting flag? false (given v .failConnect) = some l.failConnect := by
  by_cases sec : IsSection v
  · have values :
        sectionValues ["connect_latency_ms", "exchange_latency_ms", "fail_connect"] v =
          some [given v .connectLatency, given v .exchangeLatency, given v .failConnect] :=
      sectionValues_eq_some sec "loopback"
    simp only [loopbackOf, values, Option.bind_eq_bind, Option.bind_eq_some_iff, Option.pure_def,
      Option.some.injEq]
    constructor
    · rintro ⟨c, connect, e, exchange, f, fail, rfl⟩
      exact ⟨sec, connect, exchange, fail⟩
    · rintro ⟨-, connect, exchange, fail⟩
      exact ⟨_, connect, _, exchange, _, fail, rfl⟩
  · rw [loopbackOf, sectionValues_eq_none sec]
    simp [sec]

theorem loggingOf_eq_some_iff {v : Option Value} {l : LogSettings} : loggingOf v = some l ↔
    IsSection v ∧ setting text? "info" (given v .level) = some l.level ∧
      setting text? "pretty" (given v .format) = some l.format := by
  by_cases sec : IsSection v
  · have values : sectionValues ["level", "format"] v =
        some [given v .level, given v .format] := sectionValues_eq_some sec "logging"
    simp only [loggingOf, values, Option.bind_eq_bind, Option.bind_eq_some_iff, Option.pure_def,
      Option.some.injEq]
    constructor
    · rintro ⟨l, level, f, format, rfl⟩
      exact ⟨sec, level, format⟩
    · rintro ⟨-, level, format⟩
      exact ⟨_, level, _, format, rfl⟩
  · rw [loggingOf, sectionValues_eq_none sec]
    simp [sec]

/-! ## Reading a document -/

theorem ofTable_eq_some_iff_parts {t : Table} {s : Settings} : ofTable t = some s ↔
    limitsOf (t.lookup "client") = some s.limits ∧
      loopbackOf (t.lookup "loopback") = some s.loopback ∧
      loggingOf (t.lookup "logging") = some s.logging := by
  simp only [ofTable, Option.bind_eq_bind, Option.bind_eq_some_iff, Option.pure_def,
    Option.some.injEq]
  constructor
  · rintro ⟨l, limits, p, loopback, g, logging, rfl⟩
    exact ⟨limits, loopback, logging⟩
  · rintro ⟨limits, loopback, logging⟩
    exact ⟨_, limits, _, loopback, _, logging, rfl⟩

/-- What a document sets are the effective values, if it is readable. -/
theorem ofTable_eq_some_iff {t : Table} {s : Settings} :
    ofTable t = some s ↔ Readable t ∧ ∀ f, s.value f = effective t f := by
  rw [ofTable_eq_some_iff_parts, limitsOf_eq_some_iff, loopbackOf_eq_some_iff,
    loggingOf_eq_some_iff]
  simp only [reads_number.setting_eq_some_iff, reads_flag.setting_eq_some_iff,
    reads_text.setting_eq_some_iff]
  constructor
  · rintro ⟨⟨client, ⟨fits₁, eq₁⟩, fits₂, eq₂⟩, ⟨loopback, ⟨fits₃, eq₃⟩, ⟨fits₄, eq₄⟩, fits₅, eq₅⟩,
      logging, ⟨fits₆, eq₆⟩, fits₇, eq₇⟩
    refine ⟨⟨by simp [sections, client, loopback, logging], ?_⟩, ?_⟩
    · exact Field.forall_iff.2 ⟨⟨fits₁, fits₂⟩, ⟨fits₃, fits₄, fits₅⟩, fits₆, fits₇⟩
    · exact Field.forall_iff.2 ⟨⟨eq₁, eq₂⟩, ⟨eq₃, eq₄, eq₅⟩, eq₆, eq₇⟩
  · rintro ⟨⟨secs, fits⟩, eqs⟩
    obtain ⟨⟨fits₁, fits₂⟩, ⟨fits₃, fits₄, fits₅⟩, fits₆, fits₇⟩ := Field.forall_iff.1 fits
    obtain ⟨⟨eq₁, eq₂⟩, ⟨eq₃, eq₄, eq₅⟩, eq₆, eq₇⟩ := Field.forall_iff.1 eqs
    exact ⟨⟨secs _ (by decide), ⟨fits₁, eq₁⟩, fits₂, eq₂⟩,
      ⟨secs _ (by decide), ⟨fits₃, eq₃⟩, ⟨fits₄, eq₄⟩, fits₅, eq₅⟩,
      secs _ (by decide), ⟨fits₆, eq₆⟩, fits₇, eq₇⟩

/-- A document sets something exactly if it is readable. -/
theorem exists_ofTable_iff {t : Table} : (∃ s, ofTable t = some s) ↔ Readable t := by
  constructor
  · rintro ⟨s, read⟩
    exact (ofTable_eq_some_iff.1 read).1
  · rintro ⟨secs, fits⟩
    obtain ⟨c, connections⟩ := reads_number.exists_setting 8 (fits .connections)
    obtain ⟨q, queue⟩ := reads_number.exists_setting 1024 (fits .queue)
    obtain ⟨cl, connect⟩ := reads_number.exists_setting 5 (fits .connectLatency)
    obtain ⟨el, exchange⟩ := reads_number.exists_setting 10 (fits .exchangeLatency)
    obtain ⟨fc, fail⟩ := reads_flag.exists_setting false (fits .failConnect)
    obtain ⟨l, level⟩ := reads_text.exists_setting "info" (fits .level)
    obtain ⟨f, format⟩ := reads_text.exists_setting "pretty" (fits .format)
    exact ⟨⟨⟨c, q⟩, ⟨cl, el, fc⟩, ⟨l, f⟩⟩, ofTable_eq_some_iff_parts.2
      ⟨limitsOf_eq_some_iff.2 ⟨secs _ (by decide), connections, queue⟩,
        loopbackOf_eq_some_iff.2 ⟨secs _ (by decide), connect, exchange, fail⟩,
        loggingOf_eq_some_iff.2 ⟨secs _ (by decide), level, format⟩⟩⟩

/-- Documents whose sections give the same set the same. -/
theorem ofTable_congr {t t' : Table}
    (alike : ∀ k ∈ sections, IsSection (t.lookup k) ↔ IsSection (t'.lookup k))
    (same : ∀ f, given (t.lookup f.home) f = given (t'.lookup f.home) f) :
    ofTable t = ofTable t' := by
  have readable : Readable t ↔ Readable t' := by
    constructor
    · rintro ⟨secs, fits⟩
      exact ⟨fun k known => (alike k known).1 (secs k known),
        fun f v own => fits f v (same f ▸ own)⟩
    · rintro ⟨secs, fits⟩
      exact ⟨fun k known => (alike k known).2 (secs k known),
        fun f v own => fits f v (same f ▸ own)⟩
  have effective (f : Field) : effective t f = effective t' f := by
    rw [Settings.effective, same f]
    rfl
  ext s
  rw [ofTable_eq_some_iff, ofTable_eq_some_iff, readable]
  simp only [effective]

end Settings

end ConnectionPool
