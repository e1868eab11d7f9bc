import ConnectionPool.Proofs.Client.Run

/-!
# The further course of a run

What holds from some moment on is said of every client that a run leads to from there.
`Course allowed w past w'` says that a run leads from `w` to `w'`, and `past` lists the clients that
it left on the way, latest first. A client is halted if its running flag is down and no check of it
is going to see anything else; main statement: unless the outside starts it again, it stays so
(`Course.halted`).
-/

set_option autoImplicit false

namespace ConnectionPool.Client

/-- A run leads from `w` to this client and leaves the clients `past` on the way, latest first. -/
inductive Course (allowed : Client → Operation → Prop) (w : Client) : List Client → Client → Prop
  | nil : Course allowed w [] w
  | snoc {past : List Client} {v v' : Client} (course : Course allowed w past v)
      (next : Step allowed v v') : Course allowed w (v :: past) v'

namespace Course

variable {allowed : Client → Operation → Prop} {w w' : Client} {past : List Client}

theorem mono {more : Client → Operation → Prop} (h : ∀ w op, allowed w op → more w op)
    (course : Course allowed w past w') : Course more w past w' := by
  induction course with
  | nil => exact .nil
  | snoc _ next ih => exact ih.snoc (next.mono h)

/-- A course can go on with another one. -/
theorem append {more : List Client} {v : Client} (course : Course allowed w past v)
    (further : Course allowed v more w') : Course allowed w (more ++ past) w' := by
  induction further with
  | nil => exact course
  | snoc _ next ih => exact ih.snoc next

/-- What lies on the further course of a run is reached. -/
theorem reached (course : Course allowed w past w') (run : Reached allowed w) :
    Reached allowed w' := by
  induction course with
  | nil => exact run
  | snoc _ next ih => exact ih.step next

/-- What held of a client and is kept by every step holds on its further course. -/
theorem keeps {P : Client → Prop} (kept : ∀ {v v'}, P v → Step allowed v v' → P v')
    (course : Course allowed w past w') (first : P w) : P w' := by
  induction course with
  | nil => exact first
  | snoc _ next ih => exact kept ih next

/-- A course that leaves a client which is busy goes on with its turn. -/
theorem turned (course : Course allowed w past w') (busy : w.awaits = false) (other : w' ≠ w) :
    w ∈ past ∧ ∃ later, Course allowed w.turn later w' ∧ ∀ v ∈ later, v ∈ past := by
  induction course with
  | nil => exact absurd rfl other
  | @snoc past v v' course next ih =>
      by_cases same : v = w
      · subst same
        refine ⟨List.mem_cons_self, [], ?_, List.forall_mem_nil _⟩
        cases next with
        | turn _ => exact .nil
        | resume inside | panic inside guarded =>
            rw [awaits, inside] at busy
            cases busy
        | invoke op waits may => cases busy.symm.trans waits
      · obtain ⟨left, later, goesOn, passed⟩ := ih same
        refine ⟨List.mem_cons_of_mem _ left, _, goesOn.snoc next, ?_⟩
        exact List.forall_mem_cons.2
          ⟨List.mem_cons_self, fun u hu => List.mem_cons_of_mem _ (passed u hu)⟩

end Course

/-! ## Halted clients -/

/-- The running flag is down, and the next checks do not see anything else. -/
structure Halted (w : Client) : Prop where
  stopped : w.running = false
  foreseen : ∀ b ∈ w.foreseen, b = false

/-- The outside may invoke every operation that does not start the client again. -/
def StaysHalted (_ : Client) : Operation → Prop
  | .setRunning flag => flag = false
  | .foresee answers => ∀ b ∈ answers, b = false
  | _ => True

namespace Halted

variable {w w' : Client}

theorem seesRunning (h : w.Halted) : w.seesRunning = false := by
  have foreseen := h.foreseen
  simp only [Client.seesRunning, checkRunning]
  split
  · exact h.stopped
  · next b rest ahead =>
      rw [ahead] at foreseen
      exact foreseen b List.mem_cons_self

theorem of_eq (h : w.Halted) (running : w'.running = w.running)
    (foreseen : w'.foreseen = w.foreseen) : w'.Halted :=
  ⟨running.trans h.stopped, foreseen ▸ h.foreseen⟩

theorem glance (h : w.Halted) : w.glance.Halted := by
  rw [glance_eq]
  exact ⟨h.stopped, fun b hb => h.foreseen b (List.mem_of_mem_tail hb)⟩

theorem locate (h : w.Halted) (a : Address) : (w.locate a).2.Halted := by
  simp only [Client.locate]
  split <;> exact h.of_eq rfl rfl

theorem turned {f : Frame} (h : w.Halted) (turn : Turned f w w') : w'.Halted := by
  cases turn with
  | fail d e cause => cases cause <;> exact h.of_eq rfl rfl
  | parkIdle here empty room runs | parkStopped here empty room stopped =>
      exact h.glance.of_eq rfl rfl
  | _ => exact h.of_eq rfl rfl

/-- A halted client refuses every request. -/
theorem sent {d : DestinationId} {dest : Destination} {r : Request} {l : ListenerId} {reply : Reply}
    (h : w.Halted) (sent : Sent d dest r l w reply w') : w'.Halted := by
  cases sent with
  | mismatched error => exact h
  | stopped meant stopped => exact h.glance.of_eq rfl rfl
  | full meant runs _ | takenBack meant runs _ _ _ | accepted meant runs _ _ =>
      cases runs.symm.trans h.seesRunning

theorem started {op : Operation} {reply : Reply} (h : w.Halted) (start : Started op w reply w')
    (may : StaysHalted w op) : w'.Halted := by
  cases start with
  | send here sent => exact h.sent sent
  | submit runs meets here sent => exact (h.glance.locate _).sent sent
  | submitAdrift runs meets missing => exact h.glance.locate _
  | locate meets => exact h.locate _
  | submitStopped stopped | submitUnsupported runs nowhere | releaseStray here runs nothing =>
      exact h.glance
  | releaseStopped here stopped | release here runs taken => exact h.glance.of_eq rfl rfl
  | setRunning flag => exact ⟨may, h.foreseen⟩
  | stop => exact ⟨rfl, h.foreseen⟩
  | foresee answers => exact ⟨h.stopped, may⟩
  | _ => exact h.of_eq rfl rfl

end Halted

/-- A step keeps a client halted, unless it starts the client again. -/
theorem Step.halted {allowed : Client → Operation → Prop} {w w' : Client}
    (next : Step allowed w w') (may : ∀ op, allowed w op → StaysHalted w op) (h : w.Halted) :
    w'.Halted := by
  rcases next.cases with ⟨f, v, rfl, turn⟩ | ⟨c, rfl⟩ | ⟨op, reply, v, waits, allows, start, rfl⟩
  · exact (h.of_eq rfl rfl : v.Halted).turned turn
  · exact h.of_eq rfl rfl
  · have halted : (w.push [.finish op]).Halted := h.of_eq rfl rfl
    exact (halted.started start (may op allows)).of_eq rfl rfl

/-- A halted client stays halted, unless it is started again. -/
theorem Course.halted {allowed : Client → Operation → Prop} {w w' : Client} {past : List Client}
    (course : Course allowed w past w') (may : ∀ v op, allowed v op → StaysHalted v op)
    (h : w.Halted) : w'.Halted :=
  course.keeps (fun halted next => next.halted (may _) halted) h

end ConnectionPool.Client
