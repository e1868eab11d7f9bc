import ConnectionPool.Client.Drive
import ConnectionPool.Proofs.Client.Agenda
import ConnectionPool.Proofs.Client.Course

/-!
# Driving a client is a run

`Client.drive` carries out an agenda whose calls return at once. Main statement: what it does is a
run (`Reached.drive`), so what holds of every client that is reached holds of every client that was
driven. Where it starts within a callback, it does not go below that callback
(`Course.callback`). At the end stands a small client that is reached so.
-/

set_option autoImplicit false

namespace ConnectionPool.Client

variable {σ : Type} {allowed : Client → Operation → Prop}

/-- A turn that makes a call leaves the client within it. -/
theorem agenda_turn_call {w : Client} {c : Call} {rest : List Frame}
    (top : w.agenda = .call c :: rest) : w.turn.agenda = .within c :: rest := by
  rw [turn, top]
  rfl

/-- What lies below the topmost frame lies below what a turn puts in its place. -/
theorem suffix_turn {w : Client} {f : Frame} {rest base : List Frame} (top : w.agenda = f :: rest)
    (below : base <:+ rest) : base <:+ w.turn.agenda := by
  obtain ⟨v, rfl, turned⟩ := turned_of_top top
  obtain ⟨new, agenda⟩ := turned.agenda
  cases top
  rw [agenda]
  exact below.trans (List.suffix_append _ _)

/-- A callback that is not on top is below what is on top. -/
theorem suffix_below {c : Call} {f : Frame} {r rest : List Frame} (other : f ≠ .within c)
    (inside : .within c :: r <:+ f :: rest) : .within c :: r <:+ rest :=
  (List.suffix_cons_iff.1 inside).resolve_left fun same => other (List.cons.inj same).1.symm

/-- Driving a client goes on with its course, and it stays above a callback that it is within. -/
theorem Course.driveFor {note : Client → Call → σ → σ} {n : Nat} {w v : Client} {past : List Client}
    {s : σ} (course : Course allowed w past v) :
    ∃ further, Course allowed w (further ++ past) (driveFor note n v s).1 ∧
      ∀ c rest, .within c :: rest <:+ v.agenda →
        (∀ u ∈ further, .within c :: rest <:+ u.agenda) ∧
          .within c :: rest <:+ (driveFor note n v s).1.agenda := by
  induction n generalizing past v s with
  | zero => exact ⟨[], course, fun _ _ inside => ⟨List.forall_mem_nil _, inside⟩⟩
  | succ n ih =>
      rw [Client.driveFor]
      split
      · exact ⟨[], course, fun _ _ inside => ⟨List.forall_mem_nil _, inside⟩⟩
      · exact ⟨[], course, fun _ _ inside => ⟨List.forall_mem_nil _, inside⟩⟩
      · next c rest top =>
          -- a call is made, and returns before anything else is done
          have busy : v.awaits = false := by
            rw [awaits, top]
          have made := agenda_turn_call top
          have back : v.turn.resume.agenda = rest := by
            rw [resume, made]
          obtain ⟨further, course, above⟩ :=
            ih (s := note v c s) ((course.snoc (.turn busy)).snoc (.resume made))
          refine ⟨further ++ [v.turn, v], by simpa using course, fun c' r inside => ?_⟩
          have below : .within c' :: r <:+ rest := suffix_below (by simp) (top ▸ inside)
          obtain ⟨on, last⟩ := above c' r (back ▸ below)
          refine ⟨List.forall_mem_append.2 ⟨on, ?_⟩, last⟩
          exact List.forall_mem_cons.2 ⟨suffix_turn top below,
            List.forall_mem_cons.2 ⟨inside, List.forall_mem_nil _⟩⟩
      · next f rest notWithin _ top =>
          have other : ∀ c, f ≠ .within c := by
            rintro c rfl
            exact notWithin c rfl
          obtain ⟨further, course, above⟩ :=
            ih (s := s) (course.snoc (.turn (not_awaits_iff.2 ⟨f, rest, top, other⟩)))
          refine ⟨further ++ [v], by simpa using course, fun c r inside => ?_⟩
          have below : .within c :: r <:+ rest := suffix_below (other c) (top ▸ inside)
          obtain ⟨on, last⟩ := above c r (suffix_turn top below)
          exact ⟨List.forall_mem_append.2 ⟨on,
            List.forall_mem_cons.2 ⟨inside, List.forall_mem_nil _⟩⟩, last⟩

/-- Carrying out the agenda with calls that return at once goes on with a course. -/
theorem Course.drive (note : Client → Call → σ → σ) (s : σ) {w v : Client} {past : List Client}
    (course : Course allowed w past v) :
    ∃ further, Course allowed w further (v.drive note s).1 := by
  obtain ⟨further, course, -⟩ := course.driveFor (n := v.workload) (s := s)
  exact ⟨_, course⟩

theorem Course.settle {w v : Client} {past : List Client} (course : Course allowed w past v) :
    ∃ further, Course allowed w further v.settle :=
  course.drive (fun _ _ s => s) ()

theorem Course.invoke {w v : Client} {past : List Client} (course : Course allowed w past v)
    (op : Operation) (waits : v.awaits = true) (may : allowed v op) :
    Course allowed w (v :: past) (v.invoke op).2 :=
  course.snoc (.invoke op waits may)

/-- An operation that is invoked from within a callback, and whose calls return at once, stays above
that callback. -/
theorem Course.callback {w v : Client} {past : List Client} {base : List Frame}
    (course : Course allowed w past v) (above : ∀ u ∈ past, base <:+ u.agenda) {c : Call}
    {rest : List Frame} (inside : v.agenda = .within c :: rest) (below : base <:+ v.agenda)
    (op : Operation) (may : allowed v op) :
    ∃ further, Course allowed w further (v.invoke op).2.settle ∧
      ∀ u ∈ further, base <:+ u.agenda := by
  have waits : v.awaits = true := by
    rw [awaits, inside]
  obtain ⟨new, agenda, -⟩ := (started_start op (v.push [.finish op])).agenda
  have started : .within c :: rest <:+ (v.invoke op).2.agenda := by
    have split : (v.invoke op).2.agenda = new ++ (.finish op :: v.agenda) := agenda
    rw [split, ← inside]
    exact (List.suffix_cons _ _).trans (List.suffix_append _ _)
  obtain ⟨further, course, stays⟩ :=
    (course.invoke op waits may).driveFor (n := (v.invoke op).2.workload) (s := ())
  refine ⟨_, course, List.forall_mem_append.2 ⟨?_, List.forall_mem_cons.2 ⟨below, above⟩⟩⟩
  intro u hu
  rw [inside] at below
  exact below.trans ((stays c rest started).1 u hu)

/-- Carrying out the agenda with calls that return at once is a run. -/
theorem Reached.drive {note : Client → Call → σ → σ} {w : Client} {s : σ}
    (run : Reached allowed w) : Reached allowed (w.drive note s).1 := by
  have stays : Course allowed w [] w := .nil
  obtain ⟨further, course⟩ := stays.drive note s
  exact course.reached run

/-- Turns keep `P`, and so does each call together with the note that the outside takes of it. -/
structure Drives (allowed : Client → Operation → Prop) (note : Client → Call → σ → σ)
    (P : Client → σ → Prop) : Prop where
  turned : ∀ {f : Frame} {v v' : Client} {s : σ}, Reached allowed (v.push [f]) → Turned f v v' →
    (∀ c, f ≠ .call c) → P (v.push [f]) s → P v' s
  called : ∀ {c : Call} {v : Client} {s : σ}, Reached allowed (v.push [.call c]) →
    P (v.push [.call c]) s → P (v.record (.called c)) (note (v.push [.call c]) c s)

/-- What is kept so holds of a client that was driven, together with all that was noted. -/
theorem Drives.driveFor {note : Client → Call → σ → σ} {P : Client → σ → Prop}
    (drives : Drives allowed note P) {n : Nat} {w : Client} {s : σ} (run : Reached allowed w)
    (first : P w s) : P (w.driveFor note n s).1 (w.driveFor note n s).2 := by
  induction n generalizing w s with
  | zero => exact first
  | succ n ih =>
      rw [Client.driveFor]
      split
      · exact first
      · exact first
      · next c rest top =>
          have pushed := push_of_agenda top
          have made := run.step (.turn (not_awaits_iff.2 ⟨_, rest, top, fun _ => by simp⟩))
          have inside : w.turn.agenda = .within c :: rest := agenda_turn_call top
          refine ih (made.step (.resume inside)) ?_
          rw [resume_turn top]
          have kept := drives.called (pushed.symm ▸ run) (pushed.symm ▸ first)
          rw [pushed] at kept
          exact kept
      · next f rest inside uncalled top =>
          have away : ∀ c, f ≠ .within c := by
            rintro c rfl
            exact inside c rfl
          have other : ∀ c, f ≠ .call c := by
            rintro c rfl
            exact uncalled c rfl
          have next := run.step (.turn (not_awaits_iff.2 ⟨f, rest, top, away⟩))
          obtain ⟨v, rfl, turn⟩ := turned_of_top top
          exact ih next (drives.turned run turn other first)

theorem Drives.drive {note : Client → Call → σ → σ} {P : Client → σ → Prop}
    (drives : Drives allowed note P) {w : Client} {s : σ} (run : Reached allowed w)
    (first : P w s) : P (w.drive note s).1 (w.drive note s).2 :=
  drives.driveFor run first

theorem Reached.settle {w : Client} (run : Reached allowed w) : Reached allowed w.settle :=
  run.drive

theorem Reached.invoke {w : Client} (run : Reached allowed w) (op : Operation)
    (waits : w.awaits = true) (may : allowed w op) : Reached allowed (w.invoke op).2 :=
  run.step (.invoke op waits may)

/-! ## A small client -/

/-- A client that may hold one connection to its only destination. -/
def narrow : Client := .lone "narrow" ⟨1, 4⟩ 0 ⟨"http", "localhost", 80⟩

def narrowRequest (r : RequestId) : Request := ⟨r, "http", "localhost", none, "GET", "/"⟩

/-- The client has made its connection for the first of two requests, and the other waits. -/
def narrowBusy : Client :=
  let w := (narrow.invoke (.send 0 (narrowRequest 0) 0)).2.settle
  let w := (w.invoke (.send 0 (narrowRequest 1) 0)).2.settle
  (w.invoke (.settle 0 (.connected 7))).2.settle

/-- The destination of the narrow client while it is busy. -/
def narrowPool : Destination := narrowBusy.destinations.get ⟨0, by decide⟩

/-- The narrow client needs no more than to send and to have its attempt ended. -/
theorem reached_narrowBusy (sends : ∀ w d r l, allowed w (.send d r l))
    (settles : ∀ w a o, allowed w (.settle a o)) : Reached allowed narrowBusy := by
  have new : Reached allowed narrow := .initial (.lone _ _ _ _)
  have first := (new.invoke (.send 0 (narrowRequest 0) 0) (by decide) (sends _ _ _ _)).settle
  have second := (first.invoke (.send 0 (narrowRequest 1) 0) (by decide) (sends _ _ _ _)).settle
  exact (second.invoke (.settle 0 (.connected 7)) (by decide) (settles _ _ _)).settle

theorem narrowBusy_quiet : narrowBusy.agenda = [] := by decide

theorem narrowBusy_here : narrowBusy.destinations[0]? = some narrowPool :=
  List.getElem?_eq_getElem _

end ConnectionPool.Client
