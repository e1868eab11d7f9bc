import ConnectionPool.Proofs.Client.Unrolled

/-!
# Operations that are not interrupted

Where calls return at once, what the client comes to is fixed by what it is. `w.LeadsTo v` says that
carrying out frames takes `w` to `v` in that way; unlike `Client.drive`, it may stop in the middle
of an agenda, so what a part of an operation does can be said whatever is below it. Main statements:
a client that leads to one that awaits the outside settles there (`LeadsTo.settle`), and what is
left of a row of calls (`leadsTo_calls`), of an exchange that fails (`leadsTo_fail`) and of a row of
exchanges that fail because their destination is closed (`leadsTo_closed`).
-/

set_option autoImplicit false

namespace ConnectionPool.Client

/-- `w.LeadsTo v`: carrying out frames takes `w` to `v`, and each call on the way returns at
once. -/
inductive LeadsTo : Client → Client → Prop
  | refl (w : Client) : LeadsTo w w
  | call {w v : Client} {c : Call} {rest : List Frame} (top : w.agenda = .call c :: rest)
      (further : LeadsTo w.turn.resume v) : LeadsTo w v
  | turn {w v : Client} {f : Frame} {rest : List Frame} (top : w.agenda = f :: rest)
      (uncalled : ∀ c, f ≠ .call c) (outside : ∀ c, f ≠ .within c) (further : LeadsTo w.turn v) :
      LeadsTo w v

section Leading

variable {σ : Type} {note : Client → Call → σ → σ} {u v w : Client}

theorem LeadsTo.trans (first : u.LeadsTo v) (second : v.LeadsTo w) : u.LeadsTo w := by
  induction first with
  | refl u => exact second
  | call top _ ih => exact .call top (ih second)
  | turn top uncalled outside _ ih => exact .turn top uncalled outside (ih second)

/-- Driving a client passes every client it leads to. -/
theorem LeadsTo.drive (leads : w.LeadsTo v) (s : σ) : ∃ s', w.drive note s = v.drive note s' := by
  induction leads generalizing s with
  | refl w => exact ⟨s, rfl⟩
  | call top _ ih =>
      rw [drive_call top, ← resume_turn top]
      exact ih _
  | turn top uncalled outside _ ih =>
      rw [drive_turn top uncalled outside]
      exact ih s

theorem drive_of_awaits (waits : w.awaits = true) (s : σ) : w.drive note s = (w, s) := by
  rw [Client.drive]
  cases w.workload with
  | zero => rfl
  | succ n =>
      rw [driveFor]
      split
      · rfl
      · rfl
      · next c rest top => simp [awaits, top] at waits
      · next f rest inside uncalled top =>
          have busy : w.awaits = false := not_awaits_iff.2 ⟨f, rest, top, by
            rintro c rfl
            exact inside c rfl⟩
          cases waits.symm.trans busy

/-- A client that leads to one that awaits the outside settles there. -/
theorem LeadsTo.settle (leads : w.LeadsTo v) (waits : v.awaits = true) : w.settle = v := by
  obtain ⟨s, passes⟩ := leads.drive ()
  rw [Client.settle, passes, drive_of_awaits waits]

end Leading

/-! ## Calls -/

variable {w : Client} {rest : List Frame} {d : DestinationId} {e : Exchange}

/-- A call leaves a note of itself. -/
theorem leadsTo_call {c : Call} (top : w.agenda = .call c :: rest) :
    w.LeadsTo { w with agenda := rest, history := .called c :: w.history } := by
  apply LeadsTo.call top
  rw [resume_turn top]
  exact .refl _

/-- Calls leave notes of themselves, in order. -/
theorem leadsTo_calls {cs : List Call} (top : w.agenda = cs.map .call ++ rest) :
    w.LeadsTo { w with agenda := rest, history := (cs.map .called).reverse ++ w.history } := by
  -- induction on the row, for whatever client the calls before have led to
  induction cs generalizing w with
  | nil =>
      cases top
      exact .refl _
  | cons c cs ih =>
      have first : w.LeadsTo { w with
          agenda := cs.map .call ++ rest
          history := .called c :: w.history } := leadsTo_call top
      rw [List.map_cons, List.reverse_cons, List.append_assoc]
      exact first.trans (ih rfl)

theorem leadsTo_finish {op : Operation} (top : w.agenda = .finish op :: rest) :
    w.LeadsTo { w with agenda := rest, history := .returned op :: w.history } := by
  apply LeadsTo.turn top (by simp) (by simp)
  rw [turn_finish top]
  exact .refl _

/-! ## Exchanges that fail -/

/-- Whom an exchange that is given up is reported to: its listener, of the aborted response and then
of the result. -/
def abortCalls (e : Exchange) (reason : String) : List Call :=
  [.responseFailed e (.responseAborted reason),
    .completed e (.failed e.request (.requestAborted reason) (some e.request)
      (.responseAborted reason))]

/-- Whom an exchange that fails for another cause is reported to: every request listener in order,
then its own listener, of the failure and then of the result. -/
def alarmCalls (listeners : Nat) (e : Exchange) (f : ExchangeFailure) : List Call :=
  (List.range listeners).map (fun i => .requestFailed i e.request f) ++
    [.responseFailed e f, .completed e (.failed e.request f (some e.request) f)]

/-- What happens to an exchange that is given up, in order. -/
def abortEvents (d : DestinationId) (reason : String) (e : Exchange) : List Event :=
  .failed d e (.aborted reason) :: (abortCalls e reason).map .called

/-- What happens to an exchange whose destination is closed, in order. -/
def closeEvents (listeners : Nat) (d : DestinationId) (e : Exchange) : List Event :=
  .failed d e .closed :: (alarmCalls listeners e .asynchronousClose).map .called

/-- To fail an exchange counts it if it was given up, and is to tell whom its cause concerns. -/
theorem turn_fail {cause : Cause} (top : w.agenda = .fail d e cause :: rest) :
    w.turn = { w.countFate cause with
      agenda := (w.failureCalls e cause).map .call ++ rest
      history := .failed d e cause :: w.history } := by
  rw [turn, top]
  cases cause <;> rfl

/-- An exchange that fails is counted if it was given up, and whom its cause concerns is told. -/
theorem leadsTo_fail {cause : Cause} (top : w.agenda = .fail d e cause :: rest) :
    w.LeadsTo { w.countFate cause with
      agenda := rest
      history := ((w.failureCalls e cause).map .called).reverse ++
        .failed d e cause :: w.history } := by
  apply LeadsTo.turn top (by simp) (by simp)
  rw [turn_fail top]
  exact leadsTo_calls rfl

theorem leadsTo_aborted {reason : String} (top : w.agenda = .fail d e (.aborted reason) :: rest) :
    w.LeadsTo { w with
      metrics.requestsAborted := w.metrics.requestsAborted + 1
      agenda := rest
      history := (abortEvents d reason e).reverse ++ w.history } := by
  rw [abortEvents, List.reverse_cons, List.append_assoc]
  exact leadsTo_fail top

/-- Exchanges whose destination is closed fail one after another. -/
theorem leadsTo_closed {es : List Exchange}
    (top : w.agenda = es.map (fun e => .fail d e .closed) ++ rest) :
    w.LeadsTo { w with
      agenda := rest
      history := (es.flatMap (closeEvents w.listeners d)).reverse ++ w.history } := by
  -- no failure changes who listens, so the rest of the row is told alike
  induction es generalizing w with
  | nil =>
      cases top
      exact .refl _
  | cons e es ih =>
      have next : w.agenda = .fail d e .closed :: (es.map (fun e => .fail d e .closed) ++ rest) :=
        top
      rw [List.flatMap_cons, List.reverse_append, closeEvents, List.reverse_cons,
        List.append_assoc, List.append_assoc]
      exact (leadsTo_fail next).trans (ih rfl)

end ConnectionPool.Client
