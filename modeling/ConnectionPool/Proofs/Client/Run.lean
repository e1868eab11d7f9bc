import ConnectionPool.Proofs.Client.Started

/-!
# Runs of a client

A run interleaves the turns of a client with what the outside does while the client awaits it: a
callback returns, a listener panics, or an operation is invoked, between two others or from within a
callback. What the outside may invoke, and when, is a parameter of a step: `Anything` leaves it
free, `Unforeseen` keeps the running flag from changing in the middle of an operation, and `Steady`
lets it change where no waiting exchange can be taken for one that was just queued.

`Reached allowed w` says that some run from a new client leads to `w`. Main statement: a property
that new clients have and that turns, returns and starts of operations keep holds of every client
that is reached (`Reached.invariant`). No operation is under way in a client whose agenda is empty;
such a client stands between two outermost steps of its run.
-/

set_option autoImplicit false

namespace ConnectionPool.Client

/-- New clients: without a destination, or with a single one to which no request is routed. -/
inductive Initial : Client → Prop
  | fresh (name : String) (limits : Limits) (listeners : Nat) :
      Initial (.fresh name limits listeners)
  | lone (name : String) (limits : Limits) (listeners : Nat) (a : Address) :
      Initial (.lone name limits listeners a)

/-- The outside may invoke every operation. -/
def Anything (_ : Client) (_ : Operation) : Prop := True

/-- The outside may invoke every operation, but every check of the running flag sees the flag. -/
def Unforeseen (_ : Client) (op : Operation) : Prop := ∀ answers, op ≠ .foresee answers

/-- An exchange with this request waits at some destination. -/
def Waits (w : Client) (r : RequestId) : Prop :=
  ∃ D ∈ w.destinations, ∃ e ∈ D.queue.items, e.isFor r = true

/-- The outside may invoke every operation, but while the next checks of the running flag may see
something else than the flag, it does not send a request again that waits already. -/
def Steady (w : Client) : Operation → Prop
  | .send _ r _ => w.foreseen = [] ∨ ¬ w.Waits r.id
  | .submit r _ => w.foreseen = [] ∨ ¬ w.Waits r.id
  | _ => True

/-- One step of a run in which the outside may invoke what is `allowed`. -/
inductive Step (allowed : Client → Operation → Prop) (w : Client) : Client → Prop
  | turn (busy : w.awaits = false) : Step allowed w w.turn
  | resume {c : Call} {rest : List Frame} (inside : w.agenda = .within c :: rest) :
      Step allowed w w.resume
  /-- A listener panics. -/
  | panic {c : Call} {rest : List Frame} (inside : w.agenda = .within c :: rest)
      (guarded : c.isGuarded = true) : Step allowed w w.panic
  | invoke (op : Operation) (waits : w.awaits = true) (may : allowed w op) :
      Step allowed w (w.invoke op).2

/-- A run from a new client leads to this one. -/
inductive Reached (allowed : Client → Operation → Prop) : Client → Prop
  | initial {w : Client} (new : Initial w) : Reached allowed w
  | step {w w' : Client} (past : Reached allowed w) (next : Step allowed w w') : Reached allowed w'

theorem Step.mono {p q : Client → Operation → Prop} (h : ∀ w op, p w op → q w op) {w w' : Client}
    (step : Step p w w') : Step q w w' := by
  cases step with
  | turn busy => exact .turn busy
  | resume inside => exact .resume inside
  | panic inside guarded => exact .panic inside guarded
  | invoke op waits may => exact .invoke op waits (h w op may)

/-- The fewer operations are allowed, the fewer clients are reached. -/
theorem Reached.mono {p q : Client → Operation → Prop} (h : ∀ w op, p w op → q w op) {w : Client}
    (run : Reached p w) : Reached q w := by
  induction run with
  | initial new => exact .initial new
  | step _ next ih => exact .step ih (next.mono h)

/-- A client is what it is without its topmost frame, and that frame. -/
theorem push_of_agenda {w : Client} {f : Frame} {rest : List Frame} (h : w.agenda = f :: rest) :
    ({ w with agenda := rest } : Client).push [f] = w := by
  cases w
  cases h
  rfl

/-- A turn carries out the topmost frame. -/
theorem turned_of_top {w : Client} {f : Frame} {rest : List Frame} (top : w.agenda = f :: rest) :
    ∃ v, w = v.push [f] ∧ Turned f v w.turn := by
  refine ⟨{ w with agenda := rest }, (push_of_agenda top).symm, ?_⟩
  rw [turn, top]
  exact turned_perform f _

/-- What the topmost frame can do at the destination it is about is what a turn does. -/
theorem turn_eq {w v : Client} {f : Frame} {rest : List Frame} {d : DestinationId}
    {D : Destination} (top : w.agenda = f :: rest) (names : f.destination? = some d)
    (here : w.destinations[d]? = some D) (turned : Turned f { w with agenda := rest } v) :
    w.turn = v := by
  rw [turn, top]
  exact (turned.eq_perform names here).symm

theorem not_awaits_iff {w : Client} :
    w.awaits = false ↔ ∃ f rest, w.agenda = f :: rest ∧ ∀ c, f ≠ .within c := by
  simp only [awaits]
  split
  · next h => simp [h]
  · next c rest h => simp [h]
  · next f rest other h =>
      refine ⟨fun _ => ⟨f, rest, h, ?_⟩, fun _ => rfl⟩
      rintro c rfl
      exact other c rfl

/-- A step carries out the topmost frame, ends the callback on top, or starts an operation. -/
theorem Step.cases {allowed : Client → Operation → Prop} {w w' : Client}
    (step : Step allowed w w') :
    (∃ f v, w = v.push [f] ∧ Turned f v w') ∨
    (∃ c, w = w'.push [.within c]) ∨
    ∃ op reply v, w.awaits = true ∧ allowed w op ∧ Started op (w.push [.finish op]) reply v ∧
      w' = v.record (.invoked op reply) := by
  cases step with
  | turn busy =>
      obtain ⟨f, rest, top, -⟩ := not_awaits_iff.1 busy
      obtain ⟨v, pushed, turned⟩ := turned_of_top top
      exact Or.inl ⟨f, v, pushed, turned⟩
  | @resume c rest inside =>
      refine Or.inr (Or.inl ⟨c, ?_⟩)
      rw [Client.resume, inside]
      exact (push_of_agenda inside).symm
  | @panic c rest inside guarded =>
      refine Or.inr (Or.inl ⟨c, ?_⟩)
      -- a panic ends the callback it happens in and nothing below it
      have left : unwound w.agenda = rest := by rw [inside, unwound, if_pos guarded]
      rw [Client.panic, left]
      exact (push_of_agenda inside).symm
  | invoke op waits may =>
      exact Or.inr (Or.inr ⟨op, _, _, waits, may, started_start op _, rfl⟩)

/-- A property holds of every client that is reached if new clients have it and carrying out a
frame, ending a callback and starting an operation keep it. -/
theorem Reached.invariant {allowed : Client → Operation → Prop} {P : Client → Prop}
    (initial : ∀ {w}, Initial w → P w)
    (turned : ∀ {f w w'}, Reached allowed (w.push [f]) → P (w.push [f]) → Turned f w w' → P w')
    (ended : ∀ {c w}, P (w.push [.within c]) → P w)
    (started : ∀ {op reply w w'}, Reached allowed w → w.awaits = true → allowed w op → P w →
      Started op (w.push [.finish op]) reply w' → P (w'.record (.invoked op reply)))
    {w : Client} (run : Reached allowed w) : P w := by
  induction run with
  | initial new => exact initial new
  | step past next ih =>
      rcases next.cases with ⟨f, v, rfl, turn⟩ | ⟨c, rfl⟩ | ⟨op, reply, v, waits, may, start, rfl⟩
      · exact turned past ih turn
      · exact ended ih
      · exact started past waits may ih start

/-! ## Runs in which nothing is foreseen -/

theorem foreseen_locate (w : Client) (a : Address) : (w.locate a).2.foreseen = w.foreseen := by
  simp only [locate]
  split <;> rfl

theorem foreseen_glance_nil {w : Client} (calm : w.foreseen = []) : w.glance.foreseen = [] := by
  rw [glance_eq, calm]
  rfl

theorem Turned.foreseen_nil {f : Frame} {w w' : Client} (turn : Turned f w w')
    (calm : w.foreseen = []) : w'.foreseen = [] := by
  cases turn with
  | fail d e cause => cases cause <;> exact calm
  | parkIdle here empty room runs | parkStopped here empty room stopped =>
      exact foreseen_glance_nil calm
  | _ => exact calm

theorem Sent.foreseen_nil {d : DestinationId} {dest : Destination} {r : Request} {l : ListenerId}
    {reply : Reply} {w w' : Client} (sent : Sent d dest r l w reply w') (calm : w.foreseen = []) :
    w'.foreseen = [] := by
  have drawn : w.glance.drawTicket.glance.foreseen = [] :=
    foreseen_glance_nil (foreseen_glance_nil calm)
  cases sent with
  | mismatched error => exact calm
  | stopped meant stopped | full meant runs full => exact foreseen_glance_nil calm
  | takenBack meant runs room stops taken | accepted meant runs room stillRuns => exact drawn

theorem Started.foreseen_nil {op : Operation} {reply : Reply} {w w' : Client}
    (start : Started op w reply w') (unforeseen : Unforeseen w op)
    (calm : w.foreseen = []) : w'.foreseen = [] := by
  have glanced := foreseen_glance_nil calm
  cases start with
  | send here sent => exact sent.foreseen_nil calm
  | submit runs meets here sent => exact sent.foreseen_nil ((foreseen_locate _ _).trans glanced)
  | submitAdrift runs meets missing => exact (foreseen_locate _ _).trans glanced
  | locate meets => exact (foreseen_locate _ _).trans calm
  | submitStopped stopped | submitUnsupported runs nowhere | releaseStopped here stopped
  | releaseStray here runs nothing | release here runs taken => exact glanced
  | foresee answers => exact absurd rfl (unforeseen answers)
  | _ => exact calm

/-- If the outside fixes no answers, none are fixed. -/
theorem Reached.foreseen_nil {w : Client} (run : Reached Unforeseen w) : w.foreseen = [] := by
  refine run.invariant (P := fun w => w.foreseen = []) ?_ ?_ (fun calm => calm) ?_
  · intro w new
    cases new <;> rfl
  · intro f w w' _ calm turn
    exact turn.foreseen_nil calm
  · intro op reply w w' _ _ may calm start
    exact start.foreseen_nil may calm

/-- If every check of the running flag sees the flag, the outside is steady. -/
theorem Reached.steady {w : Client} (run : Reached Unforeseen w) : Reached Steady w := by
  induction run with
  | initial new => exact .initial new
  | step past next ih =>
      cases next with
      | turn busy => exact ih.step (.turn busy)
      | resume inside => exact ih.step (.resume inside)
      | panic inside guarded => exact ih.step (.panic inside guarded)
      | invoke op waits may =>
          refine ih.step (.invoke op waits ?_)
          cases op with
          | send d r l => exact Or.inl past.foreseen_nil
          | submit r l => exact Or.inl past.foreseen_nil
          | _ => trivial

end ConnectionPool.Client
