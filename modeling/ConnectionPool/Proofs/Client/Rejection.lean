import ConnectionPool.Proofs.Client.Bookkeeping
import ConnectionPool.Proofs.Client.Course

/-!
# Counting rejections

A request is turned down by the destination it is sent to, or, where it was handed to the client, by
the client before a destination is looked for. Only destinations count. Main statement: on the
further course of a run the counter of rejections grows by the number of calls that were answered by
a rejection, less those in which the client itself turned the request away
(`Client.Course.rejections_counted`). So the counter falls behind as soon as a request is handed to
a client that has stopped (`Client.narrowTurned_uncounted`).
-/

set_option autoImplicit false

namespace ConnectionPool

/-- The answer turns a request down, as opposed to a mistake of the caller. -/
def Reply.rejects : Reply → Bool
  | .refused e => e.isRejection
  | .done => false
  | .found _ => false
  | .located _ => false
  | .opened _ => false
  | .ignored => false

/-- The operation hands a request to the client, which is to find its destination. -/
def Operation.submits : Operation → Bool
  | .submit _ _ => true
  | _ => false

/-- The event notes a call to send a request that was answered by a rejection. -/
def Event.rejects : Event → Bool
  | .invoked op reply => op.asks && reply.rejects
  | _ => false

/-- The number of calls that were answered by a rejection. -/
def rejections (history : List Event) : Nat := history.countP Event.rejects

/-- A request that is meant for another destination is a mistake of the caller. -/
theorem Destination.not_isRejection_of_mismatch {D : Destination} {r : Request} {e : PoolError}
    (error : D.mismatch? r = some e) : e.isRejection = false := by
  rw [mismatch?] at error
  split at error
  · cases error
    rfl
  · split at error
    · cases error
      rfl
    · split at error
      · cases error
      · split at error
        · cases error
          rfl
        · cases error

namespace Client

variable {allowed : Client → Operation → Prop} {w w' : Client}

/-- The step from `w` to `w'` is a call that hands a request to the client, and the client turns it
away before a destination is looked for. -/
def turnsAway (w w' : Client) : Bool :=
  match w'.history with
  | .invoked op reply :: _ =>
      decide (w.history.length < w'.history.length) &&
        (op.submits && reply.rejects && !w.seesRunning)
  | _ => false

/-- The number of requests that the client itself turned away on its way through these clients,
given latest first. -/
def turnedAway : List Client → Nat
  | w' :: w :: past => (turnsAway w w').toNat + turnedAway (w :: past)
  | _ => 0

/-! ## Steps -/

theorem rejections_cons (ev : Event) (history : List Event) :
    rejections (ev :: history) = rejections history + ev.rejects.toNat := by
  rw [rejections, List.countP_cons]
  cases ev.rejects <;> rfl

/-- An entry into the ledger notes no call, so it notes no rejection. -/
theorem rejections_entry {s s' : Ledger} (entry : s.Entry s') :
    rejections s'.history = rejections s.history := by
  rcases entry.history with same | ⟨ev, added, other⟩
  · rw [same]
  · have none : ev.rejects = false := by
      cases ev with
      | invoked op reply => cases other
      | _ => rfl
    rw [added, rejections_cons, none]
    rfl

/-- A step that notes no call turns nothing away. -/
theorem turnsAway_entry (entry : w.ledger.Entry w'.ledger) : turnsAway w w' = false := by
  simp only [turnsAway]
  split
  · next op reply earlier noted =>
      rcases entry.history with same | ⟨ev, added, other⟩
      · have none : decide (w.history.length < w'.history.length) = false :=
          decide_eq_false (Nat.not_lt_of_le (Nat.le_of_eq (congrArg List.length same)))
        rw [none, Bool.false_and]
      · cases noted.symm.trans added
        cases other
  · rfl

/-- A destination counts what it turns down. -/
theorem Sent.rejected {d : DestinationId} {dest : Destination} {r : Request} {l : ListenerId}
    {reply : Reply} (sent : Sent d dest r l w reply w') :
    w'.metrics.requestsRejected = w.metrics.requestsRejected + reply.rejects.toNat := by
  have drawn := metrics_drawn w
  cases sent with
  | mismatched error =>
      rw [Reply.rejects, Destination.not_isRejection_of_mismatch error]
      rfl
  | stopped meant stopped | full meant runs full =>
      rw [← metrics_glance w]
      rfl
  | takenBack meant runs room stops taken | accepted meant runs room stillRuns =>
      rw [← drawn]
      rfl

/-- A call that sends a request counts its rejection, unless the client itself turns it away. -/
theorem Started.rejected {op : Operation} {reply : Reply} (start : Started op w reply w') :
    w'.metrics.requestsRejected + (op.submits && reply.rejects && !w.seesRunning).toNat =
      w.metrics.requestsRejected + (op.asks && reply.rejects).toNat := by
  have glanced := metrics_glance w
  cases start with
  | send here sent => exact sent.rejected
  | submit runs meets here sent =>
      -- the client has found a destination, so the answer is the destination's
      have counted := sent.rejected
      rw [metrics_locate, glanced] at counted
      rw [runs, Bool.not_true, Bool.and_false]
      exact counted
  | submitStopped stopped =>
      rw [glanced, stopped]
      rfl
  | submitAdrift runs meets missing =>
      rw [metrics_locate, glanced]
      rfl
  | locate meets =>
      rw [metrics_locate]
      rfl
  | submitUnsupported runs nowhere | releaseStray here runs nothing
  | releaseStopped here stopped | release here runs taken =>
      rw [← glanced]
      rfl
  | ignored op => cases op <;> rfl
  | _ => rfl

/-- A step counts what it notes as rejected, unless the client itself turns it away. -/
theorem Step.rejected (next : Step allowed w w') :
    w'.metrics.requestsRejected + rejections w.history + (turnsAway w w').toNat =
      w.metrics.requestsRejected + rejections w'.history := by
  rcases next.cases with ⟨f, v, rfl, turn⟩ | ⟨c, rfl⟩ | ⟨op, reply, v, waits, may, start, rfl⟩
  · have noted : rejections w'.history = rejections v.history := rejections_entry turn.ledger
    rw [turnsAway_entry turn.ledger, turn.metrics, noted]
    rfl
  · have none : turnsAway (w'.push [.within c]) w' = false := turnsAway_entry .stay
    rw [none]
    rfl
  · have counted := start.rejected
    rw [seesRunning_push] at counted
    have noted : rejections v.history = rejections w.history := rejections_entry start.ledger
    have more : rejections (v.record (.invoked op reply)).history =
        rejections v.history + (op.asks && reply.rejects).toNat := rejections_cons _ _
    -- the call is noted in any case, so the step is longer by it at least
    have longer : w.history.length < (v.record (.invoked op reply)).history.length := by
      apply Nat.lt_succ_of_le
      rcases start.ledger.history with same | ⟨ev, added, -⟩
      · exact Nat.le_of_eq (congrArg List.length same).symm
      · exact Nat.le_trans (Nat.le_succ _) (Nat.le_of_eq (congrArg List.length added).symm)
    have away : turnsAway w (v.record (.invoked op reply)) =
        (op.submits && reply.rejects && !w.seesRunning) := by
      show (decide _ && _) = _
      rw [decide_eq_true longer, Bool.true_and]
    rw [away, more, noted]
    change v.metrics.requestsRejected + _ = w.metrics.requestsRejected + _ at counted
    change v.metrics.requestsRejected + _ + _ = _
    omega

/-- On the further course of a run the counter of rejections grows by the number of calls that were
answered by a rejection, less those in which the client itself turned the request away. -/
theorem Course.rejections_counted {past : List Client} (course : Course allowed w past w') :
    w'.metrics.requestsRejected + rejections w.history + turnedAway (w' :: past) =
      w.metrics.requestsRejected + rejections w'.history := by
  induction course with
  | nil => rfl
  | @snoc past v v' course next ih =>
      have counted := next.rejected
      have more : turnedAway (v' :: v :: past) =
        (turnsAway v v').toNat + turnedAway (v :: past) := rfl
      omega

/-- The narrow client after it was stopped and its destination has turned a request down. -/
def narrowRefusing : Client :=
  ((narrow.invoke (.setRunning false)).2.turn.invoke (.send 0 (narrowRequest 0) 0)).2.turn

/-- That client after another request was handed to it. -/
def narrowTurned : Client := (narrowRefusing.invoke (.submit (narrowRequest 1) 0)).2.turn

theorem course_narrowTurned : ∃ past, Course Anything narrow past narrowTurned := by
  have starts : Course Anything narrow [] narrow := .nil
  have stopped := (starts.invoke (.setRunning false) (by decide) trivial).snoc (.turn (by decide))
  have refused := (stopped.invoke (.send 0 (narrowRequest 0) 0) (by decide) trivial).snoc
    (.turn (by decide))
  have turned := (refused.invoke (.submit (narrowRequest 1) 0) (by decide) trivial).snoc
    (.turn (by decide))
  exact ⟨_, turned⟩

/-- Of the two rejections of that client one is counted, and the other was its own. -/
theorem narrowTurned_counted : ∃ past, Course Anything narrow past narrowTurned ∧
    narrowTurned.metrics.requestsRejected = 1 ∧ rejections narrowTurned.history = 2 ∧
    narrowTurned.metrics.requestsRejected + rejections narrow.history +
        turnedAway (narrowTurned :: past) =
      narrow.metrics.requestsRejected + rejections narrowTurned.history := by
  obtain ⟨past, course⟩ := course_narrowTurned
  exact ⟨past, course, by decide, by decide, course.rejections_counted⟩

/-- Every call that was answered by a rejection is counted. -/
def CountsRejections (w : Client) : Prop := w.metrics.requestsRejected = rejections w.history

/-- A client that turns a request away does not count that. -/
theorem narrowTurned_uncounted : Reached Anything narrowTurned ∧ narrowTurned.agenda = [] ∧
    ¬ narrowTurned.CountsRejections := by
  obtain ⟨past, course⟩ := course_narrowTurned
  refine ⟨course.reached (.initial (.lone _ _ _ _)), by decide, ?_⟩
  intro counts
  have counted : narrowTurned.metrics.requestsRejected ≠ rejections narrowTurned.history := by
    decide
  exact counted counts

end Client

end ConnectionPool
