import ConnectionPool.Proofs.Destination.Reopening
import ConnectionPool.Proofs.Total

/-!
# The limit of an address

The limit of connections is kept by each destination on its own. A client has one destination for an
address at a time, but a stop forgets it, with its slots free, while attempts may be under way, and
after a restart another one is made. Such an attempt is late (`Client.Late`): it goes on, or its
connection joined a pool after the destination was forgotten. Main statement: between two outermost
steps the destination that the registry names is within the limit, and all destinations that were
ever made for the address together are within the limit plus the late attempts
(`Client.Course.address_limited`). Without these the limit is exceeded (`Client.restart_exceeds`).
-/

set_option autoImplicit false

namespace ConnectionPool

/-! ## Counting -/

section Counting

variable {α : Type} {p q r : α → Bool} {l : List α}

/-- What two tests that exclude each other count is counted by a test that both imply. -/
theorem countP_add_le (apart : ∀ a ∈ l, p a = true → q a = false)
    (both : ∀ a ∈ l, p a = true ∨ q a = true → r a = true) :
    l.countP p + l.countP q ≤ l.countP r := by
  induction l with
  | nil => exact Nat.le_refl 0
  | cons a l ih =>
      obtain ⟨apart, aparts⟩ := List.forall_mem_cons.1 apart
      obtain ⟨both, boths⟩ := List.forall_mem_cons.1 both
      have rest := ih aparts boths
      rw [List.countP_cons, List.countP_cons, List.countP_cons]
      cases first : p a with
      | true =>
          rw [apart first, both (Or.inl first)]
          simp
          omega
      | false =>
          cases second : q a with
          | true =>
              rw [both (Or.inr second)]
              simp
              omega
          | false =>
              simp
              omega

/-- Of a list without repetitions whose members are all the same, there is one at most. -/
theorem length_le_one_of_same (once : l.Nodup) (same : ∀ a ∈ l, ∀ b ∈ l, a = b) : l.length ≤ 1 := by
  cases l with
  | nil => exact Nat.zero_le 1
  | cons a l =>
      cases l with
      | nil => exact Nat.le_refl 1
      | cons b l =>
          have eq := same a List.mem_cons_self b (List.mem_cons_of_mem a List.mem_cons_self)
          subst eq
          exact absurd List.mem_cons_self (List.nodup_cons.1 once).1

end Counting

/-- Destinations that are charged to attempts of their own are together charged to the attempts of
all of them. -/
theorem total_le_countP {measure : DestinationId → Nat} {p : Attempt → Bool} {l : List Attempt}
    {ds : List DestinationId} (once : ds.Nodup)
    (each : ∀ d ∈ ds, measure d ≤ l.countP fun x => p x && x.destination == d) :
    total measure ds ≤ l.countP fun x => p x && ds.contains x.destination := by
  induction ds with
  | nil => exact Nat.zero_le _
  | cons d ds ih =>
      obtain ⟨first, rest⟩ := List.forall_mem_cons.1 each
      obtain ⟨new, once⟩ := List.nodup_cons.1 once
      have further := ih once rest
      refine Nat.le_trans (Nat.add_le_add first further) (countP_add_le ?_ ?_)
      · intro x _ own
        have its : x.destination = d := by simpa using (Bool.and_eq_true_iff.1 own).2
        simp [its, new]
      · intro x _ some
        rcases some with own | other
        · simp_all
        · simp_all

namespace Client

variable {allowed : Client → Operation → Prop} {w w' : Client} {d : DestinationId} {a : Address}
  {past : List Client}

/-! ## Loads -/

/-- The destinations that were ever made for an address. -/
def destinationsFor (w : Client) (a : Address) : List DestinationId :=
  (List.range w.destinations.length).filter fun d => w.addresses[d]? == some a

/-- The connections that a destination pools, and its attempts that are unfinished. -/
def load (w : Client) (d : DestinationId) : Nat :=
  match w.destinations[d]? with
  | none => 0
  | some D => D.idle.items.length + D.active.items.length + unfinished (w.attemptsOf d)

/-- The connection that the attempt delivered joined a pool of its destination after the destination
was forgotten. -/
def Rejoined (past : List Client) (x : Attempt) : Prop :=
  ∃ c, x.delivery? = some c ∧ ∃ v ∈ past, v.Reopens x.destination c

/-- The attempt of a destination that a stop has forgotten is unfinished, or its connection joined a
pool there since. -/
def Late (w : Client) (past : List Client) (x : Attempt) : Prop :=
  x.pooled = true ∧ w.Forgot x.destination ∧ (x.isUnfinished = true ∨ Rejoined past x)

open scoped Classical in
/-- The late attempts of all destinations that were ever made for an address. -/
noncomputable def lateFor (w : Client) (past : List Client) (a : Address) : List Attempt :=
  w.attempts.filter fun x => decide (w.Late past x) && (w.destinationsFor a).contains x.destination

/-- The outside may invoke what it likes, but it closes no destination by itself, and it takes away
only connections that are pooled. A connection that is released to a stopped client is taken
away. -/
def Orderly (w : Client) : Operation → Prop
  | .close _ => False
  | .remove d c => w.Pools d c
  | .release d c => w.seesRunning = false → w.Pools d c
  | _ => True

instance : Decidable (w.Forgot d) := inferInstanceAs (Decidable (_ ∧ _))

/-- A destination that is not forgotten was never closed. -/
theorem Reached.tidy (run : Reached Orderly w) : ¬ w.Forgot d → Reached (Tidy d) w := by
  induction run with
  | initial new => exact fun _ => .initial new
  | @step v v' past next ih =>
      intro kept
      have before : ¬ v.Forgot d := fun forgot => kept (next.rerouted.still_forgot forgot)
      refine (ih before).step ?_
      cases next with
      | turn busy => exact .turn busy
      | resume inside => exact .resume inside
      | panic inside guarded => exact .panic inside guarded
      | invoke op waits may =>
          refine .invoke op waits ?_
          cases op with
          | close d' => exact False.elim may
          | remove d' c =>
              intro same
              rw [← same]
              exact may
          | release d' c =>
              intro same stopped
              rw [← same]
              exact may stopped
          | stop =>
              -- what the registry names is forgotten by a stop
              intro r hr same
              have made := past.scoped.registry r hr
              rw [same] at made
              exact kept ⟨made, List.forall_mem_nil _⟩
          | _ => trivial

/-- A destination that was never closed is within the limit. -/
theorem Reached.load_le (run : Reached (Tidy d) w) (quiet : w.agenda = [])
    (once : (delivered (w.attemptsOf d)).Nodup) : w.load d ≤ w.limits.connections := by
  rw [load]
  split
  · exact Nat.zero_le _
  · next D here =>
      have account := run.exact here
      have within := D.slots.used_le
      have limit : D.slots.limit = w.limits.connections := account.accounted.sized.slots
      have exact : D.slots.used = D.idle.items.length + D.active.items.length +
          (hands (w.framesAt d)).length + unfinished (w.attemptsOf d) := account.exact once
      have none : (hands (w.framesAt d)).length = 0 := by
        rw [framesAt_quiet quiet]
        rfl
      omega

open scoped Classical in
/-- What a forgotten destination pools is charged to the attempts that delivered it. -/
theorem Course.pooled_le {w₀ : Client} (first : Initial w₀) (course : Course allowed w₀ past w)
    (quiet : w.agenda = []) (forgot : w.Forgot d) {D : Destination}
    (here : w.destinations[d]? = some D) (once : (delivered (w.attemptsOf d)).Nodup) :
    D.idle.items.length + D.active.items.length ≤
      (w.attemptsOf d).countP fun x => decide (Rejoined past x) := by
  have placed := (course.reached (.initial first)).placed here
  have distinct : (D.idle.items ++ D.active.items).Nodup := placed.pooled_nodup once
  have charged : D.idle.items ++ D.active.items ⊆
      (delivered (w.attemptsOf d)).filter fun c => decide (∃ v ∈ past, v.Reopens d c) := by
    intro c there
    have pooled := List.mem_append.1 there
    refine List.mem_filter.2 ⟨placed.delivered_of_pooled pooled, ?_⟩
    exact decide_eq_true (course.reopened first quiet forgot here pooled)
  have fewer := distinct.length_le_of_subset charged
  rw [List.length_append, ← List.countP_eq_length_filter, delivered, List.countP_filterMap]
    at fewer
  refine Nat.le_trans fewer (List.countP_mono_left fun x its own => ?_)
  have same : x.destination = d := (Attempt.isOf_iff.1 (List.mem_filter.1 its).2).2
  cases delivers : x.delivery? with
  | none => simp [delivers] at own
  | some c => simpa [Rejoined, delivers, same] using own

open scoped Classical in
/-- The load of a forgotten destination is charged to late attempts. -/
theorem Course.load_le {w₀ : Client} (first : Initial w₀) (course : Course allowed w₀ past w)
    (quiet : w.agenda = []) (forgot : w.Forgot d) (once : (delivered (w.attemptsOf d)).Nodup) :
    w.load d ≤ w.attempts.countP fun x => decide (w.Late past x) && x.destination == d := by
  have here := List.getElem?_eq_getElem forgot.1
  have charged := course.pooled_le first quiet forgot here once
  rw [load, here]
  refine Nat.le_trans (Nat.add_le_add_right charged _) ?_
  rw [unfinished, attemptsOf, List.countP_filter, List.countP_filter]
  apply countP_add_le
  · intro x _ own
    simp only [Bool.and_eq_true, decide_eq_true_eq] at own
    obtain ⟨⟨c, delivers, -⟩, -⟩ := own
    -- what has delivered a connection is not unfinished
    cases outcome : x.outcome with
    | none => simp [Attempt.delivery?, outcome] at delivers
    | some o => cases o <;> simp_all [Attempt.delivery?, Attempt.isUnfinished]
  · intro x _ own
    simp only [Bool.and_eq_true, decide_eq_true_eq] at own ⊢
    obtain ⟨pooled, rfl⟩ := Attempt.isOf_iff.1 (own.elim And.right And.right)
    refine ⟨⟨pooled, forgot, ?_⟩, beq_self_eq_true _⟩
    rcases own with ⟨rejoined, -⟩ | ⟨goesOn, -⟩
    · exact Or.inr rejoined
    · exact Or.inl goesOn

/-! ## The destinations of one address -/

theorem mem_destinationsFor : d ∈ w.destinationsFor a ↔ w.addresses[d]? = some a := by
  simp only [destinationsFor, List.mem_filter, List.mem_range, beq_iff_eq]
  constructor
  · exact And.right
  · intro made
    obtain ⟨lt, -⟩ := List.getElem?_eq_some_iff.1 made
    rw [length_addresses] at lt
    exact ⟨lt, made⟩

theorem mem_lateFor {x : Attempt} : x ∈ w.lateFor past a ↔
    x ∈ w.attempts ∧ x.destination ∈ w.destinationsFor a ∧ w.Late past x := by
  simp only [lateFor, List.mem_filter, Bool.and_eq_true, decide_eq_true_eq, List.contains_iff_mem]
  constructor
  · exact fun h => ⟨h.1, h.2.2, h.2.1⟩
  · exact fun h => ⟨h.1, h.2.2, h.2.1⟩

/-- Of the destinations that were made for an address, at most one is not forgotten. -/
theorem Faithful.length_registered_le (faithful : w.Faithful) (a : Address) :
    ((w.destinationsFor a).filter fun d => !decide (w.Forgot d)).length ≤ 1 := by
  -- what is not forgotten is named by the registry, for its address
  have named : ∀ d ∈ (w.destinationsFor a).filter fun d => !decide (w.Forgot d),
      (a, d) ∈ w.registry := by
    intro d hd
    obtain ⟨made, kept⟩ := List.mem_filter.1 hd
    have made := mem_destinationsFor.1 made
    obtain ⟨lt, -⟩ := List.getElem?_eq_some_iff.1 made
    rw [length_addresses] at lt
    have kept : ¬ w.Forgot d := by simpa using kept
    obtain ⟨r, hr, rfl⟩ : ∃ r ∈ w.registry, r.2 = d := by
      by_contra away
      exact kept ⟨lt, fun r hr same => away ⟨r, hr, same⟩⟩
    have leads := faithful.leads r hr
    rw [made] at leads
    cases leads
    exact hr
  apply length_le_one_of_same
  · exact (List.nodup_range.filter _).filter _
  · intro d hd d' hd'
    exact faithful.unique (named d hd) (named d' hd')

/-- The destinations that were made for an address and are not forgotten, of which there is one at
most, are within the limit. -/
theorem Reached.registered_le (run : Reached Orderly w) (quiet : w.agenda = [])
    (once : ∀ d, (delivered (w.attemptsOf d)).Nodup) (a : Address) :
    total w.load ((w.destinationsFor a).filter fun d => !decide (w.Forgot d)) ≤
      w.limits.connections := by
  have each : ∀ d ∈ (w.destinationsFor a).filter fun d => !decide (w.Forgot d),
      w.load d ≤ w.limits.connections := by
    intro d hd
    have kept : ¬ w.Forgot d := by simpa using (List.mem_filter.1 hd).2
    exact (run.tidy kept).load_le quiet (once d)
  have few := run.faithful.length_registered_le a
  calc total w.load ((w.destinationsFor a).filter fun d => !decide (w.Forgot d))
      ≤ _ * w.limits.connections := total_le_mul each
    _ ≤ 1 * w.limits.connections := Nat.mul_le_mul_right _ few
    _ = w.limits.connections := Nat.one_mul _

/-- The destinations that were made for an address and are forgotten are charged to late
attempts. -/
theorem Course.forgotten_le {w₀ : Client} (first : Initial w₀) (course : Course allowed w₀ past w)
    (quiet : w.agenda = []) (once : ∀ d, (delivered (w.attemptsOf d)).Nodup) (a : Address) :
    total w.load ((w.destinationsFor a).filter fun d => decide (w.Forgot d)) ≤
      (w.lateFor past a).length := by
  classical
  have distinct : ((w.destinationsFor a).filter fun d => decide (w.Forgot d)).Nodup :=
    (List.nodup_range.filter _).filter _
  have charged := total_le_countP distinct fun d hd =>
    course.load_le first quiet (of_decide_eq_true (List.mem_filter.1 hd).2) (once d)
  rw [lateFor, ← List.countP_eq_length_filter]
  refine Nat.le_trans charged (List.countP_mono_left fun x _ own => ?_)
  simp only [Bool.and_eq_true, List.contains_iff_mem, List.mem_filter] at own ⊢
  exact ⟨own.1, own.2.1⟩

theorem Course.limits (course : Course allowed w past w') : w'.limits = w.limits :=
  course.keeps (P := fun v => v.limits = w.limits) (fun same next => next.limits.trans same) rfl

/-- If the outside closes no destination by itself, takes away only pooled connections and delivers
every connection once, then between two outermost steps the destination that requests for an address
are routed to is within the limit of connections. All destinations that were ever made for the
address are together within it but for late attempts, which are attempts of destinations that a stop
has forgotten. -/
theorem Course.address_limited {name : String} {limits : Limits} {listeners : Nat}
    (run : Course Orderly (.fresh name limits listeners) past w) (quiet : w.agenda = [])
    (once : ∀ d, (delivered (w.attemptsOf d)).Nodup) (a : Address) :
    (∀ d, (a, d) ∈ w.registry → w.load d ≤ limits.connections) ∧
    total w.load (w.destinationsFor a) ≤ limits.connections + (w.lateFor past a).length := by
  have first : Initial (.fresh name limits listeners) := .fresh _ _ _
  have reached : Reached Orderly w := run.reached (.initial first)
  have same : w.limits = limits := run.limits
  rw [← same]
  constructor
  · intro d named
    have kept : ¬ w.Forgot d := fun forgot => forgot.2 _ named rfl
    exact (reached.tidy kept).load_le quiet (once d)
  · have forgotten := run.forgotten_le first quiet once a
    have registered := reached.registered_le quiet once a
    have split := total_filter_add w.load (fun d => decide (w.Forgot d)) (w.destinationsFor a)
    omega

/-! ## A client that is started again -/

/-- The outside sends to the client, completes attempts or lets them fail, runs tasks, stops and
starts the client, releases connections that are active and takes away those that are pooled. -/
def Plain (w : Client) : Operation → Prop
  | .submit .. | .perform _ | .stop => True
  | .settle _ o => o ≠ .abandoned
  | .setRunning flag => flag = true
  | .release d c => ∃ D, w.destinations[d]? = some D ∧ c ∈ D.active.items
  | .remove d c => w.Pools d c
  | _ => False

theorem Plain.orderly {op : Operation} (may : w.Plain op) : w.Orderly op := by
  cases op with
  | release d c =>
      obtain ⟨D, here, active⟩ := may
      exact fun _ => ⟨D, here, Or.inr active⟩
  | remove d c => exact may
  | close d => exact may
  | _ => trivial

/-- Between two outermost steps, what all destinations that were ever made for an address pool and
have under way is within the limit. -/
def AddressesWithinLimit (name : String) (limits : Limits) (listeners : Nat) : Prop :=
  ∀ past w, Course Plain (.fresh name limits listeners) past w → w.agenda = [] →
    (delivered w.attempts).Nodup → ∀ a, total w.load (w.destinationsFor a) ≤ limits.connections

/-- A client has stopped while its only connection was being made, and makes another one since it
was started again. -/
def narrowRestarted : Client :=
  let w := ((Client.fresh "narrow" ⟨1, 4⟩ 0).invoke (.submit (narrowRequest 0) 0)).2.settle
  let w := (w.invoke .stop).2.settle
  let w := (w.invoke (.setRunning true)).2.settle
  (w.invoke (.submit (narrowRequest 1) 0)).2.settle

/-- The revived client keeps the connection that was late, and makes another one. -/
def narrowDoubled : Client := (narrowRevived.invoke (.submit (narrowRequest 1) 0)).2.settle

theorem course_narrowRestarted :
    ∃ past, Course Plain (.fresh "narrow" ⟨1, 4⟩ 0) past narrowRestarted := by
  have starts : Course Plain (.fresh "narrow" ⟨1, 4⟩ 0) [] _ := .nil
  obtain ⟨_, sent⟩ :=
    (starts.invoke (.submit (narrowRequest 0) 0) (by decide) trivial).settle
  obtain ⟨_, stopped⟩ := (sent.invoke .stop (by decide) trivial).settle
  obtain ⟨_, started⟩ := (stopped.invoke (.setRunning true) (by decide) rfl).settle
  exact (started.invoke (.submit (narrowRequest 1) 0) (by decide) trivial).settle

theorem course_narrowDoubled :
    ∃ past, Course Plain (.fresh "narrow" ⟨1, 4⟩ 0) past narrowDoubled := by
  have revived : ∃ past, Course Plain (.fresh "narrow" ⟨1, 4⟩ 0) past narrowRevived :=
    course_narrowRevived (fun _ _ _ => trivial) (fun _ => trivial) (fun _ => rfl)
      (fun _ _ _ => by simp [Plain])
  obtain ⟨_, course⟩ := revived
  exact (course.invoke (.submit (narrowRequest 1) 0) (by decide) trivial).settle

/-- The connection of the revived client is late, and that is why there are two. -/
theorem narrowDoubled_late : ∃ past, Course Orderly (.fresh "narrow" ⟨1, 4⟩ 0) past narrowDoubled ∧
    narrowDoubled.agenda = [] ∧ (∀ d, (delivered (narrowDoubled.attemptsOf d)).Nodup) ∧
    (⟨"http", "localhost", 80⟩, 1) ∈ narrowDoubled.registry ∧ narrowDoubled.load 1 ≤ 1 ∧
    ∃ x ∈ narrowDoubled.attempts, narrowDoubled.Late past x := by
  obtain ⟨past, plain⟩ := course_narrowDoubled
  have course := plain.mono fun _ _ may => may.orderly
  have quiet : narrowDoubled.agenda = [] := by decide
  have delivers : (delivered narrowDoubled.attempts).Nodup := by decide
  have once (d : DestinationId) : (delivered (narrowDoubled.attemptsOf d)).Nodup :=
    delivers.sublist (delivered_isOf_sublist _ d)
  have named : (⟨"http", "localhost", 80⟩, 1) ∈ narrowDoubled.registry := by decide
  obtain ⟨registered, bound⟩ := course.address_limited quiet once ⟨"http", "localhost", 80⟩
  have two : total narrowDoubled.load
      (narrowDoubled.destinationsFor ⟨"http", "localhost", 80⟩) = 2 := by decide
  rw [two] at bound
  have some : 0 < (narrowDoubled.lateFor past ⟨"http", "localhost", 80⟩).length :=
    Nat.le_of_add_le_add_left bound
  obtain ⟨x, hx⟩ := List.exists_mem_of_length_pos some
  obtain ⟨known, -, late⟩ := mem_lateFor.1 hx
  exact ⟨past, course, quiet, once, named, registered 1 named, x, known, late⟩

/-- After a restart there are more connections than the limit allows: of an attempt that is still
under way, or of one whose connection was kept. -/
theorem restart_exceeds : ¬ AddressesWithinLimit "narrow" ⟨1, 4⟩ 0 ∧
    total narrowRestarted.load (narrowRestarted.destinationsFor ⟨"http", "localhost", 80⟩) = 2 ∧
    total narrowDoubled.load (narrowDoubled.destinationsFor ⟨"http", "localhost", 80⟩) = 2 := by
  refine ⟨fun within => ?_, by decide, by decide⟩
  obtain ⟨past, course⟩ := course_narrowRestarted
  have bound := within past _ course (by decide) (by decide) ⟨"http", "localhost", 80⟩
  exact absurd bound (by decide)

end Client

end ConnectionPool
