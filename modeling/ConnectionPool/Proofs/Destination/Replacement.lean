import ConnectionPool.Proofs.Client.Agenda
import ConnectionPool.Proofs.Client.Driven
import ConnectionPool.Proofs.Destination.Simulation

/-!
# What a halted client still connects for

A halted client accepts nothing, but it does not keep a destination from connecting: what was
accepted before still looks for a connection, and a removal that leaves exchanges waiting replaces
the connection it takes away. Main statement: from the moment a client is halted a destination makes
at most one attempt for each search that was under way then, and one for each such removal
(`Client.Course.attempts_bounded`). Neither can be left out (`Client.halted_connects`).
-/

set_option autoImplicit false

namespace ConnectionPool

namespace Site

variable {d : DestinationId} {steady tidy : Prop} {s s' : Site}

/-- The attempts a destination made, with the searches for a connection that are under way. -/
def sought (d : DestinationId) (s : Site) : Nat := s.attempts.length + s.frames.count (.acquire d)

/-- Carrying out a frame starts no search, unless it removes a connection while exchanges wait. -/
theorem Turn.sought_le (turn : Turn d s s') :
    s'.sought d ≤ s.sought d ∨ s'.sought d = s.sought d + 1 ∧
      ∃ F c, s.frames = .remove d c :: F ∧ s.dest.queue.items ≠ [] := by
  simp only [sought]
  cases turn with
  | @removeMore F c top waiting =>
      refine Or.inr ⟨?_, F, c, top, waiting⟩
      rw [top]
      simp [Nat.add_assoc]
  | acquireNew top nothing free =>
      -- the search ends and the attempt begins
      left
      rw [top, List.count_cons_self, List.count_cons_of_ne (by simp)]
      simp only [List.length_append, List.length_singleton]
      omega
  | failQueued top =>
      left
      rw [top, List.count_append, List.count_eq_zero.2 (by simp)]
      simp
  | _ top =>
      left
      rw [top]
      simp

/-- The start of an operation makes no attempt. -/
theorem Start.attempts_length (start : Start d steady tidy s s') :
    s'.attempts.length = s.attempts.length := by
  cases start with
  | connected underWay unsettled | failedAttempt underWay unsettled
  | abandoned underWay unsettled =>
      rw [underWay]
      simp only [List.length_append, List.length_cons]
  | _ => rfl

end Site

namespace Client

variable {w w' : Client} {d : DestinationId}

/-- A removal is to be carried out at the destination while exchanges wait there. -/
def replacesAt (d : DestinationId) (w : Client) : Bool :=
  match w.agenda, w.destinations[d]? with
  | .remove d' _ :: _, some D => d' == d && !D.queue.isEmpty
  | _, _ => false

theorem replacesAt_of_top {c : ConnectionId} {rest : List Frame} {D : Destination}
    (top : w.agenda = .remove d c :: rest) (here : w.destinations[d]? = some D)
    (waiting : D.queue.items ≠ []) : w.replacesAt d = true := by
  simp [replacesAt, top, here, BoundedQueue.isEmpty, waiting]

/-- The attempts that a destination made, with the searches for a connection that are under way. -/
def soughtAt (w : Client) (d : DestinationId) : Nat :=
  (w.attemptsOf d).length + w.agenda.count (.acquire d)

theorem site_sought (w : Client) (d : DestinationId) (D : Destination) :
    (w.site d D).sought d = w.soughtAt d := by
  have same : (w.framesAt d).count (.acquire d) = w.agenda.count (.acquire d) :=
    List.count_filter (by simp [Frame.destination?])
  rw [soughtAt, ← same]
  rfl

/-- A halted client starts no operation with a search for a connection. -/
theorem Started.searches {op : Operation} {reply : Reply} (start : Started op w reply w')
    (halted : w.Halted) : w'.agenda.count (.acquire d) = w.agenda.count (.acquire d) := by
  obtain ⟨new, agenda, puts⟩ := start.agenda
  have none : Frame.acquire d ∉ new := by
    intro there
    generalize asked : Frame.acquire d = f at there
    cases puts f there with
    | acquire runs d' => cases runs.symm.trans halted.seesRunning
    | _ => cases asked
  rw [agenda, List.count_append, List.count_eq_zero_of_not_mem none, Nat.zero_add]

/-- While a client is halted, a step starts a search only by a removal that leaves exchanges
waiting. -/
theorem Step.sought_le {allowed : Client → Operation → Prop} (past : Reached allowed w)
    (halted : w.Halted) (next : Step allowed w w') :
    w'.soughtAt d ≤ w.soughtAt d + (w.replacesAt d).toNat := by
  cases here' : w'.destinations[d]? with
  | none =>
      -- a destination that does not exist seeks nothing
      have empty := site_missing (past.step next).scoped here' (.fresh ⟨"", "", 0⟩ w.limits)
      rw [← site_sought w' d (.fresh ⟨"", "", 0⟩ w.limits), empty]
      exact Nat.zero_le _
  | some D' =>
      obtain ⟨D, moves⟩ := next.moves_freely past here'
      rw [← site_sought w' d D', ← site_sought w d D]
      cases moves with
      | @turned f v top turn about here moved =>
          rcases moved.sought_le with le | ⟨more, F, c, removal, waiting⟩
          · exact Nat.le_add_right_of_le le
          · have agenda : w.agenda = f :: v.agenda := by
              rw [top]
              rfl
            have frames := framesAt_of_top agenda about
            -- the frame on top of the agenda is the removal on top of the site
            cases frames.symm.trans removal
            rw [more, replacesAt_of_top agenda here waiting]
            exact Nat.le_refl _
      | away top turn other here same | ended top here same =>
          rw [same]
          exact Nat.le_add_right _ _
      | @started op reply v waits may start noted before moved =>
          have searches : v.agenda.count (.acquire d) = _ := start.searches (halted.of_eq rfl rfl)
          have none : (Frame.finish op : Frame) ≠ .acquire d := by simp
          rw [agenda_push, List.singleton_append, List.count_cons_of_ne none] at searches
          subst noted
          have attempts : ((v.record _).attemptsOf d).length = (w.attemptsOf d).length :=
            moved.attempts_length
          rw [site_sought, site_sought, soughtAt, soughtAt, attempts, agenda_record, searches]
          exact Nat.le_add_right _ _

/-- From the moment a client is halted, a destination makes at most one attempt for each search that
was under way and one for each removal that left exchanges waiting. -/
theorem Course.attempts_bounded {past : List Client} (run : Reached Anything w) (halted : w.Halted)
    (course : Course StaysHalted w past w') (d : DestinationId) :
    (w'.attemptsOf d).length + w'.agenda.count (.acquire d) ≤
      (w.attemptsOf d).length + w.agenda.count (.acquire d) + past.countP (·.replacesAt d) := by
  induction course with
  | nil => exact Nat.le_refl _
  | @snoc past v v' course next ih =>
      have reached : Reached Anything v := (course.mono fun _ _ _ => trivial).reached run
      have halted' : v.Halted := course.halted (fun _ _ may => may) halted
      have further : v'.soughtAt d ≤ v.soughtAt d + (v.replacesAt d).toNat :=
        (next.mono fun _ _ _ => trivial).sought_le reached halted'
      rw [soughtAt, soughtAt] at further
      rw [List.countP_cons]
      cases replaces : v.replacesAt d with
      | true =>
          rw [replaces, Bool.toNat_true] at further
          rw [if_pos rfl]
          omega
      | false =>
          rw [replaces, Bool.toNat_false] at further
          rw [if_neg Bool.false_ne_true]
          omega

/-- The busy narrow client after it was stopped from the outside. -/
def narrowHalted : Client := (narrowBusy.invoke (.setRunning false)).2.settle

/-- Its connection goes away while an exchange waits. -/
def narrowReplacing : Client := (narrowHalted.invoke (.remove 0 7)).2.settle

theorem reached_narrowHalted : Reached Anything narrowHalted := by
  have busy : Reached Anything narrowBusy :=
    reached_narrowBusy (fun _ _ _ _ => trivial) (fun _ _ _ => trivial)
  exact (busy.invoke (.setRunning false) (by decide) trivial).settle

theorem halted_narrowHalted : narrowHalted.Halted where
  stopped := by decide
  foreseen := by decide

theorem course_narrowReplacing : ∃ past, Course StaysHalted narrowHalted past narrowReplacing := by
  have starts : Course StaysHalted narrowHalted [] narrowHalted := .nil
  exact (starts.invoke (.remove 0 7) (by decide) trivial).settle

theorem narrowReplacing_bounded : narrowHalted.Halted ∧
    ∃ past, Course StaysHalted narrowHalted past narrowReplacing ∧
      (narrowReplacing.attemptsOf 0).length = 2 ∧ 2 ≤ 1 + past.countP (·.replacesAt 0) := by
  obtain ⟨past, course⟩ := course_narrowReplacing
  have bound := course.attempts_bounded reached_narrowHalted halted_narrowHalted 0
  exact ⟨halted_narrowHalted, past, course, by decide, bound⟩

/-! ## Both bounds are needed -/

/-- The destination makes no further attempt, unless the client is started again. -/
def ConnectsNoMore (w : Client) (d : DestinationId) : Prop :=
  ∀ past w', Course StaysHalted w past w' → (w'.attemptsOf d).length = (w.attemptsOf d).length

/-- A client whose listener stops it on hearing of the first request. -/
def toldHalted : Client :=
  let told := ((Client.lone "told" ⟨1, 4⟩ 1 ⟨"http", "localhost", 80⟩).invoke
    (.send 0 (narrowRequest 0) 0)).2.turn
  (told.invoke (.setRunning false)).2.turn

theorem reached_toldHalted : Reached Anything toldHalted := by
  have new : Reached Anything (Client.lone "told" ⟨1, 4⟩ 1 ⟨"http", "localhost", 80⟩) :=
    .initial (.lone _ _ _ _)
  have told := (new.invoke (.send 0 (narrowRequest 0) 0) (by decide) trivial).step
    (.turn (by decide))
  exact (told.invoke (.setRunning false) (by decide) trivial).step (.turn (by decide))

/-- A halted client does connect: a removal that leaves an exchange waiting makes it, and so does a
send that was under way. -/
theorem halted_connects :
    (Reached Anything narrowHalted ∧ narrowHalted.Halted ∧ ¬ narrowHalted.ConnectsNoMore 0) ∧
    (Reached Anything toldHalted ∧ toldHalted.Halted ∧ ¬ toldHalted.ConnectsNoMore 0) := by
  refine ⟨⟨reached_narrowHalted, halted_narrowHalted, fun never => ?_⟩,
    ⟨reached_toldHalted, ⟨by decide, by decide⟩, fun never => ?_⟩⟩
  · obtain ⟨past, course⟩ := course_narrowReplacing
    exact absurd (never past _ course) (by decide)
  · -- the callback returns and the send goes on
    have told : toldHalted.agenda =
        .within (.requestQueued 0 (narrowRequest 0)) :: toldHalted.agenda.tail := by decide
    have starts : Course StaysHalted toldHalted [] toldHalted := .nil
    obtain ⟨past, course⟩ := (starts.snoc (.resume told)).settle
    exact absurd (never past _ course) (by decide)

end Client

end ConnectionPool
