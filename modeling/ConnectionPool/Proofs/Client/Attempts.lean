import ConnectionPool.Proofs.Client.Course
import ConnectionPool.Proofs.Destination.Simulation

/-!
# How attempts go on

Attempts begin and end, and nothing else happens to them. `Furthered` lists what a step can do to
the attempts of a client (`Client.Step.furthered`). Main statement: on the further course of a run
the attempts that have ended are still there, in the same order (`Client.Course.ended_sublist`).
-/

set_option autoImplicit false

namespace ConnectionPool

/-- The attempt has ended, in whatever way. -/
def Attempt.isEnded (a : Attempt) : Bool := a.outcome.isSome

/-- What a step can do to the attempts of a client. -/
inductive Furthered : List Attempt → List Attempt → Prop
  | stay (attempts : List Attempt) : Furthered attempts attempts
  | begin (attempts : List Attempt) {a : Attempt} (unsettled : a.outcome = none) :
      Furthered attempts (attempts ++ [a])
  | conclude (before after : List Attempt) {a : Attempt} (unsettled : a.outcome = none)
      (o : Outcome) :
      Furthered (before ++ a :: after) (before ++ { a with outcome := some o } :: after)

theorem Furthered.of_eq {attempts attempts' : List Attempt} (same : attempts' = attempts) :
    Furthered attempts attempts' := by
  rw [same]
  exact .stay _

/-- Attempts that have ended stay as they are. -/
theorem Furthered.ended_sublist {attempts attempts' : List Attempt}
    (furthered : Furthered attempts attempts') :
    List.Sublist (attempts.filter (·.isEnded)) (attempts'.filter (·.isEnded)) := by
  cases furthered with
  | stay => exact List.Sublist.refl _
  | begin _ unsettled =>
      rw [List.filter_append]
      exact List.sublist_append_left _ _
  | @conclude before after a unsettled o =>
      have running : ¬ a.isEnded = true := by
        rw [Attempt.isEnded, unsettled]
        exact Bool.false_ne_true
      rw [List.filter_append, List.filter_append, List.filter_cons_of_neg running,
        List.filter_cons_of_pos rfl]
      exact (List.sublist_cons_self _ _).append_left _

namespace Client

theorem attempts_glance (w : Client) : w.glance.attempts = w.attempts := by rw [glance_eq]

theorem attempts_locate (w : Client) (a : Address) : (w.locate a).2.attempts = w.attempts := by
  simp only [locate]
  split <;> rfl

theorem Turned.furthered {f : Frame} {w w' : Client} (turn : Turned f w w') :
    Furthered w.attempts w'.attempts := by
  cases turn with
  | acquireNew here nothing free => exact .begin _ rfl
  | fail d e cause => cases cause <;> exact .stay _
  | parkIdle here empty room runs | parkStopped here empty room stopped =>
      exact .of_eq (attempts_glance w)
  | _ => exact .stay _

theorem Sent.attempts {d : DestinationId} {dest : Destination} {r : Request} {l : ListenerId}
    {reply : Reply} {w w' : Client} (sent : Sent d dest r l w reply w') :
    w'.attempts = w.attempts := by
  have drawn : w.glance.drawTicket.glance.attempts = w.attempts :=
    (attempts_glance _).trans (attempts_glance w)
  cases sent with
  | mismatched error => rfl
  | stopped meant stopped | full meant runs full => exact attempts_glance w
  | takenBack meant runs room stops taken | accepted meant runs room stillRuns => exact drawn

theorem furthered_conclude {w : Client} {a : AttemptId} {attempt : Attempt}
    (underWay : w.attempts[a]? = some attempt) (unsettled : attempt.outcome = none) (o : Outcome) :
    Furthered w.attempts (w.conclude a attempt o).attempts := by
  obtain ⟨before, after, old, new⟩ := split_of_set underWay { attempt with outcome := some o }
  rw [conclude, new, old]
  exact .conclude before after unsettled o

theorem Started.furthered {op : Operation} {reply : Reply} {w w' : Client}
    (start : Started op w reply w') : Furthered w.attempts w'.attempts := by
  cases start with
  | send here sent => exact .of_eq sent.attempts
  | submit runs meets here sent =>
      exact .of_eq (sent.attempts.trans ((attempts_locate _ _).trans (attempts_glance w)))
  | submitAdrift runs meets missing =>
      exact .of_eq ((attempts_locate _ _).trans (attempts_glance w))
  | locate meets => exact .of_eq (attempts_locate w _)
  | submitStopped stopped | submitUnsupported runs nowhere | releaseStopped here stopped
  | releaseStray here runs nothing | release here runs taken => exact .of_eq (attempts_glance w)
  | connect here => exact .begin _ rfl
  | settleConnected underWay unsettled pooled | settleFailed underWay unsettled pooled here
  | settleAdrift underWay unsettled pooled missing | settleAbandoned underWay unsettled pooled
  | settleUnpooled underWay unsettled unpooled => exact furthered_conclude underWay unsettled _
  | _ => exact .stay _

/-- A step begins an attempt or ends one, or leaves them as they are. -/
theorem Step.furthered {allowed : Client → Operation → Prop} {w w' : Client}
    (next : Step allowed w w') : Furthered w.attempts w'.attempts := by
  rcases next.cases with ⟨f, v, rfl, turn⟩ | ⟨c, rfl⟩ | ⟨op, reply, v, waits, may, start, rfl⟩
  · exact turn.furthered
  · exact .stay _
  · exact start.furthered

/-- On the further course of a run the attempts that have ended are still there. -/
theorem Course.ended_sublist {allowed : Client → Operation → Prop} {past : List Client}
    {w w' : Client} (course : Course allowed w past w') :
    List.Sublist (w.attempts.filter (·.isEnded)) (w'.attempts.filter (·.isEnded)) := by
  induction course with
  | nil => exact List.Sublist.refl _
  | snoc _ next ih => exact ih.trans next.furthered.ended_sublist

end Client

end ConnectionPool
