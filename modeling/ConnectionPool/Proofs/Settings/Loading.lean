import ConnectionPool.Client.Build
import ConnectionPool.Proofs.Settings.Reading

/-!
# Loading a document

Settings are loaded from a document if it can be read and what it sets can be used. Main statement:
for every document, when it is loaded, what every setting then is, and which error comes first
otherwise; that neither the order of names nor unknown names matter, nor whether a section is
written as an array or as a table; and that what was loaded can be used to build a client
(`Settings.load_loads`). A date counts as a section that gives nothing
(`Settings.dates_are_sections`).
-/

set_option autoImplicit false

namespace ConnectionPool

open Toml (Value Table)

/-! ## Looking names up -/

section Lookup

variable {β : Type} {k : String}

theorem lookup_cons_of_ne {k' : String} (other : k ≠ k') (b : β) (l : List (String × β)) :
    ((k', b) :: l).lookup k = l.lookup k := by
  rw [List.lookup_cons, beq_eq_false_iff_ne.2 other]

theorem lookup_eq_some_iff_mem {l : List (String × β)} (distinct : (l.map Prod.fst).Nodup) {b : β} :
    l.lookup k = some b ↔ (k, b) ∈ l := by
  induction l with
  | nil => simp
  | cons e l ih =>
      obtain ⟨k', b'⟩ := e
      obtain ⟨new, distinct⟩ := List.nodup_cons.1 distinct
      rw [List.mem_cons, Prod.mk.injEq]
      by_cases same : k = k'
      · subst same
        have absent : (k, b) ∉ l := fun there => new (List.mem_map.2 ⟨(k, b), there, rfl⟩)
        simp [absent, eq_comm]
      · simp [lookup_cons_of_ne same, ih distinct, same]

/-- The order of distinct names does not matter. -/
theorem lookup_eq_of_perm {l l' : List (String × β)} (perm : l.Perm l')
    (distinct : (l.map Prod.fst).Nodup) : l.lookup k = l'.lookup k := by
  have also : (l'.map Prod.fst).Nodup := (perm.map Prod.fst).nodup_iff.1 distinct
  ext b
  rw [lookup_eq_some_iff_mem distinct, lookup_eq_some_iff_mem also, perm.mem_iff]

/-- Names that are left out do not matter for one that is kept. -/
theorem lookup_filter {p : String → Bool} (kept : p k = true) (l : List (String × β)) :
    (l.filter fun e => p e.1).lookup k = l.lookup k := by
  induction l with
  | nil => rfl
  | cons e l ih =>
      obtain ⟨k', b⟩ := e
      rw [List.filter_cons]
      split
      · rw [List.lookup_cons, List.lookup_cons, ih]
      · next left =>
          have other : k ≠ k' := by
            rintro rfl
            exact left kept
          rw [lookup_cons_of_ne other, ih]

/-- Where names are given to the elements of an array, a name finds the element at its place. -/
theorem lookup_zip {α : Type} [DecidableEq α] {key : α → String}
    (injective : Function.Injective key) {a : α} {l : List α} (there : a ∈ l) (vs : List β) :
    ((l.map key).zip vs).lookup (key a) = vs[l.idxOf a]? := by
  induction l generalizing vs with
  | nil => cases there
  | cons a' l ih =>
      cases vs with
      | nil => rfl
      | cons v vs =>
          rw [List.map_cons, List.zip_cons_cons]
          by_cases same : a = a'
          · subst same
            rw [List.lookup_cons_self, List.idxOf_cons_self]
            rfl
          · rw [lookup_cons_of_ne (injective.ne same), List.idxOf_cons_ne _ (Ne.symm same),
              List.getElem?_cons_succ]
            exact ih (List.mem_of_ne_of_mem same there) vs

end Lookup

namespace Settings

/-! ## Documents that load alike -/

/-- A value of a section can be exchanged for one that gives the same settings. -/
theorem ofTable_exchange {before after : Table} {k : String} {v v' : Value}
    (section₁ : IsSection (some v)) (section₂ : IsSection (some v'))
    (same : ∀ f, f.home = k → given (some v) f = given (some v') f) :
    ofTable (before ++ (k, v) :: after) = ofTable (before ++ (k, v') :: after) := by
  -- a name finds the same before and after, or finds the two values
  have finds (n : String) :
      (before ++ (k, v) :: after).lookup n = (before ++ (k, v') :: after).lookup n ∨
      n = k ∧ (before ++ (k, v) :: after).lookup n = some v ∧
        (before ++ (k, v') :: after).lookup n = some v' := by
    rw [List.lookup_append, List.lookup_append]
    cases first : before.lookup n with
    | some u => exact Or.inl rfl
    | none =>
        by_cases own : n = k
        · subst own
          exact Or.inr ⟨rfl, List.lookup_cons_self, List.lookup_cons_self⟩
        · left
          rw [lookup_cons_of_ne own, lookup_cons_of_ne own]
  apply ofTable_congr
  · intro n _
    rcases finds n with alike | ⟨-, finds₁, finds₂⟩
    · rw [alike]
    · rw [finds₁, finds₂]
      exact ⟨fun _ => section₂, fun _ => section₁⟩
  · intro f
    rcases finds f.home with alike | ⟨own, finds₁, finds₂⟩
    · rw [alike]
    · rw [finds₁, finds₂]
      exact same f own

/-- Documents in which every known section is the same set the same. -/
theorem ofTable_eq_of_lookup {t t' : Table} (same : ∀ k ∈ sections, t.lookup k = t'.lookup k) :
    ofTable t = ofTable t' := by
  apply ofTable_congr
  · intro k known
    rw [same k known]
  · intro f
    have known : f.home ∈ sections := by cases f <;> decide
    rw [same _ known]

/-! ## What is wrong with a document -/

/-- The checks of settings in their order. -/
theorem error?_eq (s : Settings) : s.error? =
    if s.limits.connections = 0 then some .noConnections
    else if s.limits.queue = 0 then some .noQueue
    else if s.logging.format = "pretty" ∨ s.logging.format = "json" then none
    else some (.unknownFormat s.logging.format) := by
  rw [error?, Limits.error?]
  split_ifs <;> rfl

/-- What a document comes to, said of the effective values: the first of the checks that fails. -/
inductive Verdict (t : Table) : Except ConfigError Settings → Prop
  | malformed (unreadable : ¬ Readable t) : Verdict t (.error .malformed)
  | noConnections (readable : Readable t) (none : effective t .connections = .integer 0) :
      Verdict t (.error .noConnections)
  | noQueue (readable : Readable t) (some : effective t .connections ≠ .integer 0)
      (none : effective t .queue = .integer 0) : Verdict t (.error .noQueue)
  | unknownFormat {format : String} (readable : Readable t)
      (some : effective t .connections ≠ .integer 0) (also : effective t .queue ≠ .integer 0)
      (given : effective t .format = .text format)
      (unknown : format ≠ "pretty" ∧ format ≠ "json") :
      Verdict t (.error (.unknownFormat format))
  | ok {s : Settings} (readable : Readable t) (some : effective t .connections ≠ .integer 0)
      (also : effective t .queue ≠ .integer 0)
      (known : effective t .format = .text "pretty" ∨ effective t .format = .text "json")
      (values : ∀ f, s.value f = effective t f) (usable : s.error? = none) : Verdict t (.ok s)

theorem verdict_ofDocument (t : Table) : Verdict t (ofDocument (some t)) := by
  rw [ofDocument, Option.bind_some]
  cases read : ofTable t with
  | none =>
      refine .malformed fun readable => ?_
      obtain ⟨s, other⟩ := exists_ofTable_iff.2 readable
      cases read.symm.trans other
  | some s =>
      obtain ⟨readable, values⟩ := ofTable_eq_some_iff.1 read
      have connections : effective t .connections = .integer s.limits.connections :=
        (values .connections).symm
      have queue : effective t .queue = .integer s.limits.queue := (values .queue).symm
      have format : effective t .format = .text s.logging.format := (values .format).symm
      have nonzero {n : Nat} (some : n ≠ 0) : Value.integer n ≠ .integer 0 := by
        intro same
        cases n with
        | zero => exact some rfl
        | succ n => cases same
      have checks := error?_eq s
      -- the checks are gone through in their order
      by_cases none : s.limits.connections = 0
      · rw [if_pos none] at checks
        simp only [checks]
        exact .noConnections readable (by rw [connections, none]; rfl)
      rw [if_neg none] at checks
      have some : effective t .connections ≠ .integer 0 := connections ▸ nonzero none
      by_cases full : s.limits.queue = 0
      · rw [if_pos full] at checks
        simp only [checks]
        exact .noQueue readable some (by rw [queue, full]; rfl)
      rw [if_neg full] at checks
      have also : effective t .queue ≠ .integer 0 := queue ▸ nonzero full
      by_cases known : s.logging.format = "pretty" ∨ s.logging.format = "json"
      · rw [if_pos known] at checks
        simp only [checks]
        refine .ok readable some also ?_ values checks
        rw [format]
        exact known.imp (congrArg Value.text) (congrArg Value.text)
      · rw [if_neg known] at checks
        simp only [checks]
        exact .unknownFormat readable some also format (not_or.1 known)

/-! ## The main statement -/

/-- `Loads t r`: loading the document `t` comes to `r`. It does so by its effective values, whatever
the order of its names, whatever names there are besides those of the settings, and whether its
sections are arrays or tables. -/
structure Loads (t : Table) (r : Except ConfigError Settings) : Prop where
  ok_iff : (∃ s, r = .ok s) ↔ Readable t ∧ effective t .connections ≠ .integer 0 ∧
    effective t .queue ≠ .integer 0 ∧
    (effective t .format = .text "pretty" ∨ effective t .format = .text "json")
  verdict : Verdict t r
  builds : ∀ s, r = .ok s → ∀ b : Blueprint, b.limits = s.limits → b.build =
    if !b.hasConnector then .error (.configuration .noConnector)
    else if !b.hasExecutor && !b.insideRuntime then .error (.configuration .noExecutor)
    else .ok (.fresh b.name s.limits b.listeners)
  sectionOrder : ∀ t', t.Perm t' → (t.map Prod.fst).Nodup → ofDocument (some t') = r
  unknownSections : ofDocument (some (t.filter fun e => sections.contains e.1)) = r
  keyOrder : ∀ before k entries entries' after, t = before ++ (k, .table entries) :: after →
    entries.Perm entries' → (entries.map Prod.fst).Nodup →
      ofDocument (some (before ++ (k, .table entries') :: after)) = r
  unknownKeys : ∀ before k entries after, t = before ++ (k, .table entries) :: after →
    ofDocument (some (before ++ (k, .table (entries.filter fun e =>
      ((fieldsOf k).map Field.key).contains e.1)) :: after)) = r
  asArray : ∀ before k vs after, t = before ++ (k, .array vs) :: after →
    ofDocument (some (before ++
      (k, .table (((fieldsOf k).map Field.key).zip vs)) :: after)) = r

theorem Verdict.ok_iff {t : Table} {r : Except ConfigError Settings} (verdict : Verdict t r) :
    (∃ s, r = .ok s) ↔ Readable t ∧ effective t .connections ≠ .integer 0 ∧
      effective t .queue ≠ .integer 0 ∧
      (effective t .format = .text "pretty" ∨ effective t .format = .text "json") := by
  constructor
  · rintro ⟨s, rfl⟩
    cases verdict with
    | ok readable some also known values usable => exact ⟨readable, some, also, known⟩
  · rintro ⟨readable, some, also, known⟩
    cases verdict with
    | ok readable some also known values usable => exact ⟨_, rfl⟩
    | malformed unreadable => exact absurd readable unreadable
    | noConnections readable none => exact absurd none some
    | noQueue readable some none => exact absurd none also
    | unknownFormat readable some also given unknown =>
        rw [given, Value.text.injEq, Value.text.injEq] at known
        rcases known with own | own
        · exact absurd own unknown.1
        · exact absurd own unknown.2

/-- A client that is built with usable limits is refused for nothing but what it lacks. -/
theorem build_of_usable {s : Settings} (usable : s.error? = none) {b : Blueprint}
    (limits : b.limits = s.limits) : b.build =
      if !b.hasConnector then .error (.configuration .noConnector)
      else if !b.hasExecutor && !b.insideRuntime then .error (.configuration .noExecutor)
      else .ok (.fresh b.name s.limits b.listeners) := by
  obtain ⟨connections, queue, -⟩ := (error?_eq_none_iff s).1 usable
  have fine : b.limits.error? = none := by
    rw [limits]
    exact (Limits.error?_eq_none_iff _).2 ⟨connections, queue⟩
  rw [Blueprint.build, fine, limits]

theorem loads (t : Table) : Loads t (ofDocument (some t)) := by
  have alike {t' : Table} (same : ofTable t' = ofTable t) :
      ofDocument (some t') = ofDocument (some t) := by
    rw [ofDocument, ofDocument, Option.bind_some, Option.bind_some, same]
  have verdict := verdict_ofDocument t
  refine ⟨verdict.ok_iff, verdict, ?_, ?_, ?_, ?_, ?_, ?_⟩
  · intro s loaded b limits
    rw [loaded] at verdict
    cases verdict with
    | ok readable some also known values usable => exact build_of_usable usable limits
  · intro t' perm distinct
    exact alike (ofTable_eq_of_lookup fun k _ => (lookup_eq_of_perm perm distinct).symm)
  · refine alike (ofTable_eq_of_lookup fun k known => ?_)
    exact lookup_filter (p := sections.contains) (List.contains_iff_mem.2 known) t
  · rintro before k entries entries' after rfl perm distinct
    refine alike (ofTable_exchange trivial trivial fun f _ => ?_)
    exact (lookup_eq_of_perm perm distinct).symm
  · rintro before k entries after rfl
    refine alike (ofTable_exchange trivial trivial fun f own => ?_)
    refine lookup_filter (p := ((fieldsOf k).map Field.key).contains) ?_ entries
    exact List.contains_iff_mem.2 (List.mem_map_of_mem (mem_fieldsOf.2 own))
  · rintro before k vs after rfl
    refine alike (ofTable_exchange trivial trivial fun f own => ?_)
    subst own
    exact lookup_zip Field.key_injective (mem_fieldsOf.2 rfl) vs

/-- Whatever reads texts as documents, a file that holds a document loads as the document does:
exactly if the document can be read and what it sets can be used. Every setting is then what the
document gives for it, or its default, and to build a client with the limits does not fail because
of them. -/
theorem load_loads {parse : String → Option Table} {bytes : ByteArray} {text : String} {t : Table}
    (decoded : String.fromUTF8? bytes = some text) (parsed : parse text = some t) :
    Loads t (load (.ok bytes) parse) := by
  have same : load (.ok bytes) parse = ofDocument (some t) := by
    simp only [load, decoded, parsed]
  rw [same]
  exact loads t

/-- A file with an array for one section, a table with an unknown name for another, and nothing for
the third. -/
def mixedText : String :=
  "logging = [\"warn\", \"json\", 7]\n[client]\nretries = 1\nmax_queue_size_per_address = 3\n"

theorem mixedText_loads : ∃ t, Toml.parse? mixedText = some t ∧
    Loads t (load (.ok mixedText.toUTF8)) ∧
    (load (.ok mixedText.toUTF8)).toOption =
      some { limits.queue := 3, logging := ⟨"warn", "json"⟩ } := by
  obtain ⟨t, parsed⟩ : ∃ t, Toml.parse? mixedText = some t :=
    Option.isSome_iff_exists.1 (by decide +kernel)
  exact ⟨t, parsed, load_loads (by decide +kernel) parsed, by decide +kernel⟩

/-- A section of a document that loads is a table or an array. -/
def OnlyTablesAndArrays : Prop :=
  ∀ t s, ofDocument (some t) = .ok s → ∀ k ∈ sections, ∀ v, t.lookup k = some v →
    (∃ entries, v = .table entries) ∨ ∃ vs, v = .array vs

/-- A document with a date for a section loads as if the section were missing. -/
theorem dates_are_sections :
    (load (.ok "client = 1979-05-27\n".toUTF8)).toOption = some {} ∧ ¬ OnlyTablesAndArrays := by
  refine ⟨by decide +kernel, fun only => ?_⟩
  have loaded : ofDocument (some [("client", .datetime "1979-05-27")]) = .ok {} := rfl
  rcases only _ _ loaded "client" (by decide) _ rfl with ⟨entries, own⟩ | ⟨vs, own⟩
  · cases own
  · cases own

end Settings

end ConnectionPool
