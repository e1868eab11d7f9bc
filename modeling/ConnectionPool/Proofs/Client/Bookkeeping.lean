import ConnectionPool.Proofs.Client.Errands
import ConnectionPool.Proofs.Exchange.Reporting
import ConnectionPool.Proofs.Exchange.Turnover

/-!
# What the metrics add up to

An exchange that was accepted is counted once, and it leaves its queue in one of four ways: it is
handed over, or it fails, and then it was given up, or no connection could be made, or its
destination was closed. A connection attempt that ended was counted as a connection or as a failure.
Main statement: between two outermost steps the requests that were queued are those that wait, those
that were handed over, and those that failed, each counted once, and the connections created and
failed are the attempts for the pool that have reported their end, whatever the outside does
(`Client.Reached.metrics_add_up`).
-/

set_option autoImplicit false

namespace ConnectionPool

namespace ExchangeFailure

/-- No connection could be made. -/
def isConnectionFailure : ExchangeFailure → Bool
  | connectionFailed _ => true
  | requestAborted _ => false
  | responseAborted _ => false
  | asynchronousClose => false

/-- The destination was closed. -/
def isAsynchronousClose : ExchangeFailure → Bool
  | asynchronousClose => true
  | requestAborted _ => false
  | responseAborted _ => false
  | connectionFailed _ => false

end ExchangeFailure

/-- A failure is of one kind. -/
theorem length_eq_kinds (bs : List Breakdown) : bs.length =
    bs.countP (·.2.isAbort) + bs.countP (·.2.isConnectionFailure) +
      bs.countP (·.2.isAsynchronousClose) := by
  induction bs with
  | nil => rfl
  | cons b bs ih =>
      -- exactly one of the three tests holds of a failure
      have one : (if b.2.isAbort = true then 1 else 0) +
          (if b.2.isConnectionFailure = true then 1 else 0) +
          (if b.2.isAsynchronousClose = true then 1 else 0) = 1 := by
        cases b.2 <;> rfl
      rw [List.length_cons, List.countP_cons, List.countP_cons, List.countP_cons]
      omega

theorem length_taken (history : List Event) :
    (taken history).length = (assignments history).length := by
  rw [taken_eq_map, List.length_map]

theorem length_failed (history : List Event) :
    (failed history).length = (breakdowns history).length := by
  rw [failed, breakdowns, List.length_filterMap_eq_countP, List.length_filterMap_eq_countP]
  apply List.countP_congr
  intro ev _
  cases ev <;> rfl

namespace Client

variable {allowed : Client → Operation → Prop} {w w' : Client}

theorem metrics_glance (w : Client) : w.glance.metrics = w.metrics := by rw [glance_eq]

/-- Drawing a ticket between two checks counts nothing. -/
theorem metrics_drawn (w : Client) : w.glance.drawTicket.glance.metrics = w.metrics :=
  (metrics_glance _).trans (metrics_glance w)

theorem metrics_locate (w : Client) (a : Address) : (w.locate a).2.metrics = w.metrics := by
  simp only [locate]
  split <;> rfl

/-- A turn counts aborts and removals, and nothing else. -/
theorem Turned.metrics {f : Frame} (turn : Turned f w w') : w'.metrics = { w.metrics with
    requestsAborted := w'.metrics.requestsAborted
    connectionsRemoved := w'.metrics.connectionsRemoved } := by
  cases turn with
  | fail d e cause => cases cause <;> rfl
  | parkIdle here empty room runs | parkStopped here empty room stopped =>
      rw [← metrics_glance w]
      rfl
  | _ => rfl

/-- Queueing a request is counted as what it is answered by, and nothing else is. -/
theorem Sent.metrics {d : DestinationId} {dest : Destination} {r : Request} {l : ListenerId}
    {reply : Reply} (sent : Sent d dest r l w reply w') : w'.metrics = { w.metrics with
      requestsQueued := w'.metrics.requestsQueued
      requestsRejected := w'.metrics.requestsRejected } := by
  have drawn := metrics_drawn w
  cases sent with
  | mismatched error => rfl
  | stopped meant stopped | full meant runs full =>
      rw [← metrics_glance w]
      rfl
  | takenBack meant runs room stops taken | accepted meant runs room stillRuns =>
      rw [← drawn]
      rfl

/-- The start of an operation counts neither aborts nor removals. -/
theorem Started.metrics {op : Operation} {reply : Reply} (start : Started op w reply w') :
    w'.metrics.requestsAborted = w.metrics.requestsAborted ∧
      w'.metrics.connectionsRemoved = w.metrics.connectionsRemoved := by
  have glanced := metrics_glance w
  cases start with
  | send here sent =>
      rw [sent.metrics]
      exact ⟨rfl, rfl⟩
  | submit runs meets here sent =>
      rw [sent.metrics, metrics_locate, glanced]
      exact ⟨rfl, rfl⟩
  | submitAdrift runs meets missing =>
      rw [metrics_locate, glanced]
      exact ⟨rfl, rfl⟩
  | locate meets =>
      rw [metrics_locate]
      exact ⟨rfl, rfl⟩
  | submitStopped stopped | submitUnsupported runs nowhere | releaseStopped here stopped
  | releaseStray here runs nothing | release here runs taken =>
      rw [← glanced]
      exact ⟨rfl, rfl⟩
  | _ => exact ⟨rfl, rfl⟩

/-! ## Aborts -/

/-- The number of exchanges that were given up. -/
def aborts (history : List Event) : Nat := (breakdowns history).countP (·.2.isAbort)

/-- Each abort is counted when its exchange fails. -/
theorem Turned.aborts {f : Frame} (turn : Turned f w w') :
    w'.metrics.requestsAborted + aborts w.history =
      w.metrics.requestsAborted + aborts w'.history := by
  cases turn with
  | fail d e cause =>
      cases cause with
      | aborted reason =>
          have more : Client.aborts (.failed d e (.aborted reason) :: w.history) =
              Client.aborts w.history + 1 := List.countP_cons_of_pos rfl
          show w.metrics.requestsAborted + 1 + _ = _ + Client.aborts (_ :: w.history)
          rw [more]
          omega
      | unconnected error | closed => rfl
  | parkIdle here empty room runs | parkStopped here empty room stopped =>
      rw [← metrics_glance w, ← history_glance w]
      rfl
  | _ => rfl

/-- In every client that is reached, the aborts counted are the exchanges that were given up. -/
theorem Reached.requestsAborted (run : Reached allowed w) :
    w.metrics.requestsAborted = aborts w.history := by
  apply run.invariant (P := fun w => w.metrics.requestsAborted = aborts w.history)
  · intro w new
    cases new <;> rfl
  · intro f w w' _ h turn
    have counted := turn.aborts
    dsimp only [push] at h
    omega
  · intro c w h
    exact h
  · -- no operation gives an exchange up at its start; that is left to a turn
    intro op reply w w' _ _ _ h start
    have broken : aborts w'.history = aborts w.history :=
      congrArg (List.countP _) start.said.breakdowns
    exact start.metrics.1.trans (h.trans broken.symm)

/-! ## Requests -/

/-- The number of exchanges that wait at some destination. -/
def queued (w : Client) : Nat := total (fun D => D.queue.items.length) w.destinations

/-- The number of exchanges that wait, that are about to fail, that a connection took, and that
failed. -/
def dealt (w : Client) : Nat :=
  w.queued + (failing w.agenda).length + (taken w.history).length + (failed w.history).length

/-- What was accepted is dealt with, whatever its request. -/
theorem Reached.length_accepted (run : Reached allowed w) :
    (accepted w.history).length = w.dealt := by
  have counted := run.turnover fun _ => true
  simp only [whereabouts, countFor, List.countP_true] at counted
  exact counted

/-- A request is counted where its exchange is accepted. -/
theorem Sent.requestsQueued {d : DestinationId} {dest : Destination} {r : Request} {l : ListenerId}
    {reply : Reply} (sent : Sent d dest r l w reply w') :
    w'.metrics.requestsQueued + (ConnectionPool.accepted w.history).length =
      w.metrics.requestsQueued + (ConnectionPool.accepted w'.history).length := by
  have past : w.glance.drawTicket.glance.history = w.history :=
    (history_glance _).trans (history_glance w)
  cases sent with
  | mismatched error => rfl
  | stopped meant stopped | full meant runs full =>
      rw [← metrics_glance w, ← history_glance w]
      rfl
  | takenBack meant runs room stops found =>
      rw [← metrics_drawn w, ← past]
      rfl
  | accepted meant runs room stillRuns =>
      rw [← metrics_drawn w, ← past]
      exact Nat.add_right_comm _ 1 _

/-- The start of an operation counts a request where its exchange is accepted. -/
theorem Started.requestsQueued {op : Operation} {reply : Reply} (start : Started op w reply w') :
    w'.metrics.requestsQueued + (accepted w.history).length =
      w.metrics.requestsQueued + (accepted w'.history).length := by
  have glanced := metrics_glance w
  have past := history_glance w
  cases start with
  | send here sent => exact sent.requestsQueued
  | submit runs meets here sent =>
      have counted := sent.requestsQueued
      rw [metrics_locate, glanced, history_locate, past] at counted
      exact counted
  | submitAdrift runs meets missing => rw [metrics_locate, glanced, history_locate, past]
  | locate meets => rw [metrics_locate, history_locate]
  | submitStopped stopped | submitUnsupported runs nowhere | releaseStray here runs nothing =>
      rw [glanced, past]
  | releaseStopped here stopped | release here runs found =>
      rw [← glanced, ← past]
      rfl
  | _ => rfl

/-- In every client that is reached, the requests that were queued are accounted for. -/
theorem Reached.requestsQueued (run : Reached allowed w) : w.metrics.requestsQueued = w.dealt := by
  rw [← run.length_accepted]
  apply run.invariant (P := fun w => w.metrics.requestsQueued = (accepted w.history).length)
  · intro w new
    cases new <;> rfl
  · intro f w w' _ h turn
    rw [turn.metrics, turn.accepted]
    exact h
  · intro c w h
    exact h
  · intro op reply w w' _ _ _ h start
    have counted := start.requestsQueued
    change _ + (accepted w.history).length = w.metrics.requestsQueued + _ at counted
    change w'.metrics.requestsQueued = (accepted w'.history).length
    omega

/-! ## Attempts -/

/-- The number of attempts for the pool that have reported their end. -/
def reported (w : Client) : Nat := w.attempts.countP fun a => a.pooled && !a.isUnfinished

/-- No turn ends an attempt. -/
theorem Turned.reported {f : Frame} (turn : Turned f w w') : w'.reported = w.reported := by
  rcases turn.connects with ⟨same, -⟩ | ⟨d, begun, -⟩
  · rw [Client.reported, same]
    rfl
  · rw [Client.reported, begun, List.countP_append]
    rfl

theorem reported_conclude {a : AttemptId} {attempt : Attempt}
    (underWay : w.attempts[a]? = some attempt) (unsettled : attempt.outcome = none) (o : Outcome) :
    (w.conclude a attempt o).reported = w.reported +
      (if attempt.pooled && !({ attempt with outcome := some o } : Attempt).isUnfinished then 1
        else 0) := by
  -- no other attempt changes, and this one had not reported its end
  obtain ⟨before, after, old, new⟩ := split_of_set underWay { attempt with outcome := some o }
  have goesOn : attempt.isUnfinished = true := by
    rw [Attempt.isUnfinished, unsettled]
  simp only [reported, conclude]
  rw [new, old, List.countP_append, List.countP_append, List.countP_cons, List.countP_cons, goesOn,
    Bool.not_true, Bool.and_false, if_neg Bool.false_ne_true, Nat.add_zero, Nat.add_assoc]

/-- An attempt that ends is counted as a connection or as a failure, if it was made for the pool and
was not given up. -/
theorem Started.reported {op : Operation} {reply : Reply} (start : Started op w reply w')
    (named : w.Scoped) :
    w'.metrics.connectionsCreated + w'.metrics.connectionFailures + w.reported =
      w.metrics.connectionsCreated + w.metrics.connectionFailures + w'.reported := by
  have glanced := metrics_glance w
  have begun := attempts_glance w
  cases start with
  | send here sent =>
      rw [sent.metrics, Client.reported, Client.reported, sent.attempts]
  | submit runs meets here sent =>
      rw [sent.metrics, Client.reported, Client.reported, sent.attempts, metrics_locate,
        attempts_locate, glanced, begun]
  | submitAdrift runs meets missing =>
      rw [Client.reported, Client.reported, metrics_locate, attempts_locate, glanced, begun]
  | locate meets => rw [Client.reported, Client.reported, metrics_locate, attempts_locate]
  | submitStopped stopped | submitUnsupported runs nowhere | releaseStray here runs nothing =>
      rw [Client.reported, Client.reported, glanced, begun]
  | releaseStopped here stopped | release here runs taken =>
      rw [Client.reported, Client.reported, ← glanced, ← begun]
      rfl
  | connect here =>
      rw [Client.reported, Client.reported, push, addAttempt, List.countP_append]
      rfl
  | @settleConnected _ a attempt c underWay unsettled pooled =>
      have ended := reported_conclude underWay unsettled (.connected c)
      rw [pooled] at ended
      change w.metrics.connectionsCreated + 1 + w.metrics.connectionFailures + w.reported =
        _ + (w.conclude a attempt _).reported
      change _ = w.reported + 1 at ended
      omega
  | @settleFailed _ a attempt error dest underWay unsettled pooled here =>
      have ended := reported_conclude underWay unsettled (.failed error)
      rw [pooled] at ended
      change w.metrics.connectionsCreated + (w.metrics.connectionFailures + 1) + w.reported =
        _ + (w.conclude a attempt _).reported
      change _ = w.reported + 1 at ended
      omega
  | settleAdrift underWay unsettled pooled missing =>
      obtain ⟨D, here⟩ := named.exists_of_attempt underWay
      cases missing.symm.trans here
  | @settleAbandoned _ a attempt underWay unsettled pooled =>
      have ended := reported_conclude underWay unsettled .abandoned
      rw [pooled] at ended
      exact congrArg (_ + ·) ended.symm
  | @settleUnpooled _ a attempt o underWay unsettled unpooled =>
      have ended := reported_conclude underWay unsettled o
      rw [unpooled] at ended
      exact congrArg (_ + ·) ended.symm
  | _ => rfl

/-- In every client that is reached, the attempts for the pool that have reported their end were
counted. -/
theorem Reached.attemptsReported (run : Reached allowed w) :
    w.metrics.connectionsCreated + w.metrics.connectionFailures = w.reported := by
  apply run.invariant
    (P := fun w => w.metrics.connectionsCreated + w.metrics.connectionFailures = w.reported)
  · intro w new
    cases new <;> rfl
  · intro f w w' _ h turn
    rw [turn.metrics, turn.reported]
    exact h
  · intro c w h
    exact h
  · intro op reply w w' past _ _ h start
    have counted := start.reported (past.scoped.push (by simp [Frame.destination?]))
    change _ + w.reported = w.metrics.connectionsCreated + w.metrics.connectionFailures + _
      at counted
    change w'.metrics.connectionsCreated + w'.metrics.connectionFailures = w'.reported
    omega

/-! ## Between two outermost steps -/

/-- Between two outermost steps, the hand-overs that were decided were made or are left to tasks. -/
theorem Reached.length_assignments (run : Reached allowed w) (quiet : w.agenda = []) :
    (assignments w.history).length = (handovers (made w.history) ++ deferred w.tasks).length := by
  have handed : List.Perm (assignments w.history)
      (handovers (made w.history) ++ (handovers (callsOf w.agenda) ++ deferred w.tasks)) :=
    run.handed
  rw [quiet] at handed
  exact handed.length_eq

/-- Between two outermost steps, the requests that were queued are those that wait, those that were
handed over, at once or to a task, and those that failed, of which the aborts are counted. The
connections that were created and those that failed are the attempts for the pool that have reported
their end. A new client has counted nothing, so its counters are what they have grown by. -/
theorem Reached.metrics_add_up (run : Reached allowed w) (quiet : w.agenda = []) :
    w.metrics.requestsQueued =
        w.queued + (handovers (made w.history) ++ deferred w.tasks).length +
          w.metrics.requestsAborted +
          (conclusions (made w.history)).countP (·.2.isConnectionFailure) +
          (conclusions (made w.history)).countP (·.2.isAsynchronousClose) ∧
      w.metrics.connectionsCreated + w.metrics.connectionFailures = w.reported := by
  refine ⟨?_, run.attemptsReported⟩
  -- what the pool failed is what the calls concluded, so both are counted alike
  have concluded := run.conclusions_perm_breakdowns quiet
  have unconnected := concluded.countP_eq (·.2.isConnectionFailure)
  have closed := concluded.countP_eq (·.2.isAsynchronousClose)
  have aborted : w.metrics.requestsAborted = (breakdowns w.history).countP (·.2.isAbort) :=
    run.requestsAborted
  -- nothing is about to fail, and what failed is sorted by its kind
  have dealt : w.dealt = w.queued + (failing w.agenda).length + (taken w.history).length +
    (failed w.history).length := rfl
  rw [quiet, length_taken, run.length_assignments quiet, length_failed, length_eq_kinds,
    ← aborted] at dealt
  have nothing : (failing []).length = 0 := rfl
  rw [run.requestsQueued, dealt]
  omega

/-- The narrow client after requests were given up, failed, handed over to a task and closed, with a
last one that waits for its connection. -/
def narrowVaried : Client :=
  let w := (narrow.invoke (.send 0 (narrowRequest 0) 0)).2.settle
  let w := (w.invoke (.send 0 (narrowRequest 1) 0)).2.settle
  let w := (w.invoke (.send 0 (narrowRequest 2) 0)).2.settle
  let w := (w.invoke (.abort 0 1 "gone")).2.settle
  let w := (w.invoke (.settle 0 (.failed ⟨"ConnectionRefused", "refused"⟩))).2.settle
  let w := (w.invoke (.perform 0)).2.settle
  let w := (w.invoke (.send 0 (narrowRequest 3) 0)).2.settle
  let w := (w.invoke (.settle 1 (.connected 7))).2.settle
  let w := (w.invoke (.close 0)).2.settle
  (w.invoke (.send 0 (narrowRequest 4) 0)).2.settle

/-- The books of that client balance: five requests, one of each kind. -/
theorem narrowVaried_adds_up : narrowVaried.agenda = [] ∧ narrowVaried.metrics.requestsQueued = 5 ∧
    narrowVaried.queued = 1 ∧
    (handovers (made narrowVaried.history) ++ deferred narrowVaried.tasks).length = 1 ∧
    narrowVaried.metrics.requestsAborted = 1 ∧ narrowVaried.reported = 2 ∧
    (narrowVaried.metrics.requestsQueued = narrowVaried.queued +
          (handovers (made narrowVaried.history) ++ deferred narrowVaried.tasks).length +
          narrowVaried.metrics.requestsAborted +
          (conclusions (made narrowVaried.history)).countP (·.2.isConnectionFailure) +
          (conclusions (made narrowVaried.history)).countP (·.2.isAsynchronousClose) ∧
      narrowVaried.metrics.connectionsCreated + narrowVaried.metrics.connectionFailures =
        narrowVaried.reported) := by
  have new : Reached Anything narrow := .initial (.lone _ _ _ _)
  have first := (new.invoke (.send 0 (narrowRequest 0) 0) (by decide) trivial).settle
  have second := (first.invoke (.send 0 (narrowRequest 1) 0) (by decide) trivial).settle
  have third := (second.invoke (.send 0 (narrowRequest 2) 0) (by decide) trivial).settle
  have gone := (third.invoke (.abort 0 1 "gone") (by decide) trivial).settle
  have refused := (gone.invoke (.settle 0 (.failed ⟨"ConnectionRefused", "refused"⟩)) (by decide)
    trivial).settle
  have failed := (refused.invoke (.perform 0) (by decide) trivial).settle
  have fourth := (failed.invoke (.send 0 (narrowRequest 3) 0) (by decide) trivial).settle
  have taken := (fourth.invoke (.settle 1 (.connected 7)) (by decide) trivial).settle
  have closed := (taken.invoke (.close 0) (by decide) trivial).settle
  have run : Reached Anything narrowVaried :=
    (closed.invoke (.send 0 (narrowRequest 4) 0) (by decide) trivial).settle
  exact ⟨by decide, by decide, by decide, by decide, by decide, by decide,
    run.metrics_add_up (by decide)⟩

end Client

end ConnectionPool
