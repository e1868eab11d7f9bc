import ConnectionPool.Proofs.Client.Routing
import ConnectionPool.Proofs.Destination.Reopening
import ConnectionPool.Proofs.Exchange.Delivery

/-!
# Queues of destinations that were forgotten

An exchange is queued only where an operation asks for it, and a request that goes by its address
only at a destination that the registry names (`Client.Started.history`). So if no request is sent
to a destination directly, a destination that a stop has forgotten accepts nothing more. Main
statements: the exchanges that were accepted are those of the sends that were answered by `done`, in
the same order (`Client.Reached.sends_eq`); and between two outermost steps no exchange waits at a
destination that was forgotten (`Client.Reached.queue_empty_of_forgot`).
-/

set_option autoImplicit false

namespace ConnectionPool

/-- The request and the listener of a send that was answered by `done`. -/
def Event.send? : Event → Option (Request × ListenerId)
  | .invoked (.send _ r l) .done => some (r, l)
  | .invoked (.submit r l) .done => some (r, l)
  | _ => none

/-- The accepted sends with their listeners, latest first. -/
def sends (history : List Event) : List (Request × ListenerId) := history.filterMap Event.send?

namespace Site

variable {d : DestinationId} {steady tidy : Prop} {s s' : Site}

/-- The queue is empty, or a closing under way is going to empty it. -/
def QueueSwept (s : Site) : Prop := s.dest.queue.items = [] ∨ ∃ f ∈ s.frames, 1 ≤ f.rank

/-- Carrying out a frame queues nothing. -/
theorem Turn.queue_empty (turn : Turn d s s') (empty : s.dest.queue.items = []) :
    s'.dest.queue.items = [] := by
  cases turn with
  | passOver top head | assign top head =>
      rw [(BoundedQueue.poll_eq_some_iff.1 head).1] at empty
      cases empty
  | failQueued top => exact rfl
  | _ => exact empty

theorem QueueSwept.turn (h : s.QueueSwept) (turn : Turn d s s') : s'.QueueSwept := by
  rcases h with empty | ranked
  · exact Or.inl (turn.queue_empty empty)
  · rcases turn.ranks ranked with still | ⟨f, F, top, le⟩
    · exact Or.inr still
    · -- the closing goes on with the next of its parts, and the last one empties the queue
      cases turn with
      | closeIdle top' => exact Or.inr ⟨_, List.mem_cons_self, Nat.le_succ 1⟩
      | closeActive top' => exact Or.inr ⟨_, List.mem_cons_self, Nat.le_refl 1⟩
      | failQueued top' => exact Or.inl rfl
      | _ top' =>
          cases top.symm.trans top'
          simp [Frame.rank] at le

theorem QueueSwept.start (h : s.QueueSwept) (start : Start d steady tidy s s')
    (other : s'.frames ≠ .acquire d :: s.frames) : s'.QueueSwept := by
  obtain ⟨new, above, -⟩ := start.frames
  refine h.imp (start.dwindles other).queue fun ranked => ?_
  rw [above]
  exact rank_append new ranked

/-- Where a search for a connection starts with an operation, an exchange was accepted. -/
theorem Start.accepts (start : Start d steady tidy s s')
    (searches : s'.frames = .acquire d :: s.frames) :
    ∃ e, s'.events = .accepted d e :: s.events := by
  cases start with
  | accept room => exact ⟨_, rfl⟩
  | close n spared =>
      cases n with
      | zero => exact absurd searches (by simp)
      | succ n => exact absurd (List.cons.inj searches).1 nofun
  | abort taken | release taken | remove pooled | connected underWay unsettled | failHead head =>
      exact absurd (List.cons.inj searches).1 nofun
  | _ => exact absurd searches (by simp)

end Site

namespace Client

variable {allowed : Client → Operation → Prop} {w w' : Client} {d : DestinationId} {e : Exchange}

/-! ## What was asked for -/

/-- Requests for the destination are sent to it directly, or the registry names it. -/
def Meant (w : Client) (op : Operation) (d : DestinationId) : Prop :=
  (∃ r l, op = .send d r l) ∨ ∃ r ∈ w.registry, r.2 = d

theorem Sent.history {dest : Destination} {r : Request} {l : ListenerId} {reply : Reply}
    (sent : Sent d dest r l w reply w') : w'.history = w.history ∨
      reply = .done ∧ ∃ ticket, w'.history = .accepted d ⟨ticket, r, l⟩ :: w.history := by
  cases sent with
  | mismatched error => exact Or.inl rfl
  | stopped meant stopped | full meant runs full => exact Or.inl (history_glance w)
  | takenBack meant runs room stops taken =>
      exact Or.inl ((history_glance _).trans (history_glance w))
  | accepted meant runs room stillRuns =>
      exact Or.inr ⟨rfl, _, congrArg (_ :: ·) ((history_glance _).trans (history_glance w))⟩

/-- At its start an operation finds nothing to fail, or has an exchange queued at a destination that
it is meant for, or nothing happens that concerns more than the moment. -/
theorem Started.history {op : Operation} {reply : Reply} (start : Started op w reply w') :
    w'.history = w.history ∨ (∃ d error, w'.history = .spared d error :: w.history) ∨
    ∃ d e, w'.history = .accepted d e :: w.history ∧ op.Asks d e ∧ reply = .done ∧
      w'.Meant op d := by
  cases start with
  | @send _ _ d dest r l reply here sent =>
      rcases sent.history with same | ⟨done, ticket, accepts⟩
      · exact Or.inl same
      · exact Or.inr (Or.inr ⟨d, _, accepts, .send d ticket r l, done, Or.inl ⟨r, l, rfl⟩⟩)
  | @submit _ _ a dest r l reply runs meets here sent =>
      have located := (history_locate w.glance a).trans (history_glance w)
      rcases sent.history with same | ⟨done, ticket, accepts⟩
      · exact Or.inl (same.trans located)
      · rw [located] at accepts
        refine Or.inr (Or.inr ⟨_, _, accepts, .submit _ ticket r l, done, Or.inr ⟨(a, _), ?_, rfl⟩⟩)
        rw [(Prod.mk.inj (sent.routes here)).2]
        obtain ⟨before, after, split, -⟩ := List.lookup_eq_some_iff.1 (lookup_locate w.glance a)
        exact split ▸ List.mem_append_right _ List.mem_cons_self
  | submitAdrift runs meets missing => exact Or.inl ((history_locate _ _).trans (history_glance w))
  | locate meets => exact Or.inl (history_locate w _)
  | submitStopped stopped | submitUnsupported runs nowhere | releaseStopped here stopped
  | releaseStray here runs nothing | release here runs taken => exact Or.inl (history_glance w)
  | spare held work here empty => exact Or.inr (Or.inl ⟨_, _, rfl⟩)
  | _ => exact Or.inl rfl

theorem sends_other {ev : Event} (other : ev.send? = none) (history : List Event) :
    sends (ev :: history) = sends history := List.filterMap_cons_none other

theorem acceptances_other {ev : Event} (other : ev.acceptance? = none) (history : List Event) :
    acceptances (ev :: history) = acceptances history := List.filterMap_cons_none other

/-- Carrying out a frame neither starts an operation nor accepts an exchange. -/
theorem Turned.sends {f : Frame} (turn : Turned f w w') :
    ConnectionPool.sends w'.history = ConnectionPool.sends w.history ∧
      acceptances w'.history = acceptances w.history := by
  have other {ev : Event} (noSend : ev.send? = none) (accepts : ev.acceptance? = none) :
      ConnectionPool.sends (ev :: w.history) = ConnectionPool.sends w.history ∧
        acceptances (ev :: w.history) = acceptances w.history :=
    ⟨sends_other noSend _, acceptances_other accepts _⟩
  cases turn with
  | call c | finish op => exact other rfl rfl
  | assign here head unmarked | assignDeferred here head unmarked => exact other rfl rfl
  | fail d e cause => cases cause <;> exact other rfl rfl
  | parkIdle here empty room runs | parkStopped here empty room stopped =>
      exact ⟨congrArg _ (history_glance w), congrArg _ (history_glance w)⟩
  | _ => exact ⟨rfl, rfl⟩

/-- An operation that starts is noted as a send just where it has an exchange accepted. -/
theorem Started.sends {op : Operation} {reply : Reply} (start : Started op w reply w') :
    (ConnectionPool.sends (.invoked op reply :: w'.history) = ConnectionPool.sends w.history ∧
      acceptances w'.history = acceptances w.history) ∨
    ∃ d e, ConnectionPool.sends (.invoked op reply :: w'.history) =
        (e.request, e.listener) :: ConnectionPool.sends w.history ∧
      acceptances w'.history = (d, e) :: acceptances w.history := by
  -- an operation that is answered by `done` and asks for an exchange has accepted it
  have unsent (unaccepted : ∀ d e, w'.history ≠ .accepted d e :: w.history) :
      Event.send? (.invoked op reply) = none := by
    by_cases asks : op.asks = true ∧ reply = .done
    · obtain ⟨asks, rfl⟩ := asks
      obtain ⟨d, e, -, accepts⟩ := start.answered asks
      exact absurd accepts (unaccepted d e)
    · cases op with
      | send d r l | submit r l =>
          cases reply with
          | done => exact absurd ⟨rfl, rfl⟩ asks
          | _ => rfl
      | _ => rfl
  rcases start.history with same | ⟨d, error, spared⟩ | ⟨d, e, queued, asks, rfl, -⟩
  · refine Or.inl ⟨?_, congrArg _ same⟩
    rw [sends_other (unsent fun d e accepts => ?_), same]
    rw [same] at accepts
    exact absurd accepts (by simp)
  · refine Or.inl ⟨?_, ?_⟩
    · rw [sends_other (unsent fun d e accepts => ?_), spared, sends_other rfl]
      rw [spared] at accepts
      exact absurd (List.cons.inj accepts).1 nofun
    · rw [spared, acceptances_other rfl]
  · refine Or.inr ⟨d, e, ?_, ?_⟩
    · rw [queued]
      cases asks <;> rfl
    · rw [queued]
      rfl

/-- In every client that is reached, the exchanges that were accepted are those of the sends that
were answered by `done`, in the same order. -/
theorem Reached.sends_eq (run : Reached allowed w) : ConnectionPool.sends w.history =
    (acceptances w.history).map fun x => (x.2.request, x.2.listener) := by
  refine run.invariant (P := fun w => ConnectionPool.sends w.history =
    (acceptances w.history).map fun x => (x.2.request, x.2.listener)) ?_ ?_ (fun h => h) ?_
  · intro w new
    cases new <;> rfl
  · intro f w w' _ h turn
    obtain ⟨sends, accepts⟩ := turn.sends
    rw [sends, accepts]
    exact h
  · intro op reply w w' _ _ _ h start
    show ConnectionPool.sends (.invoked op reply :: w'.history) =
      (acceptances (.invoked op reply :: w'.history)).map _
    rw [acceptances_other rfl]
    rcases start.sends with ⟨sends, accepts⟩ | ⟨d, e, sends, accepts⟩
    · rw [sends, accepts]
      exact h
    · rw [sends, accepts]
      exact congrArg (_ :: ·) h

/-! ## Queues -/

/-- The outside sends no request to a destination directly. -/
def Addressed (_ : Client) (op : Operation) : Prop := ∀ d r l, op ≠ .send d r l

/-- An operation that sends nothing directly queues nothing at a forgotten destination. -/
theorem Started.silent {op : Operation} {reply : Reply} (start : Started op w reply w')
    (addressed : Addressed w op) (forgot : w'.Forgot d) (e : Exchange) :
    w'.eventsAt d ≠ .accepted d e :: w.eventsAt d := by
  intro accepts
  rcases start.history with same | ⟨d', error, spared⟩ | ⟨d', e', queued, -, -, meant⟩
  · rw [eventsAt, same] at accepts
    exact absurd accepts (by simp [eventsAt])
  · rw [eventsAt, spared, List.filter_cons] at accepts
    split at accepts
    · cases (List.cons.inj accepts).1
    · exact absurd accepts (by simp [eventsAt])
  · rw [eventsAt, queued, List.filter_cons] at accepts
    split at accepts
    · cases (List.cons.inj accepts).1
      rcases meant with ⟨r, l, sends⟩ | ⟨r, named, away⟩
      · exact addressed _ r l sends
      · exact forgot.2 r named away
    · exact absurd accepts (by simp [eventsAt])

/-- The queue of a forgotten destination is empty, or a closing under way is going to empty it. -/
theorem Reached.queue_swept (run : Reached allowed w)
    (addressed : ∀ v op, allowed v op → Addressed v op) (forgot : w.Forgot d) :
    ∀ {D : Destination}, w.destinations[d]? = some D → (w.site d D).QueueSwept := by
  induction run with
  | initial new =>
      intro D here
      obtain ⟨a, fresh⟩ := new.site here
      rw [fresh]
      exact Or.inl rfl
  | @step w w' past next ih =>
      intro D' here'
      rcases next.rerouted.forgot_before forgot with before | ⟨-, closes⟩
      · obtain ⟨D, moves⟩ := next.moves_freely past here'
        cases moves with
        | turned top turn about here moved => exact (ih before here).turn moved
        | away top turn other here same | ended top here same =>
            rw [same]
            exact ih before here
        | @started op reply v waits may start noted made moved =>
            rcases made with here | ⟨missing, -⟩
            · -- a search would have accepted an exchange, and nothing names this destination
              refine (ih before here).start moved fun searches => ?_
              obtain ⟨e, accepts⟩ := moved.accepts searches
              subst noted
              rw [site_noted] at accepts
              have direct : Addressed w op := addressed w op may
              exact start.silent direct forgot e accepts
            · exact absurd before.1 (Nat.not_lt.2 (List.getElem?_eq_none_iff.1 missing))
      · -- the stop that forgets it is about to close it
        have there : .closeIdle d ∈ w'.framesAt d :=
          List.mem_filter.2 ⟨closes, by simp [Frame.destination?]⟩
        exact Or.inr ⟨_, there, Nat.le_add_left 1 2⟩

/-- Between two outermost steps, no exchange waits at a destination that was forgotten, if no
request is sent to a destination directly. -/
theorem Reached.queue_empty_of_forgot (run : Reached allowed w)
    (addressed : ∀ v op, allowed v op → Addressed v op) (quiet : w.agenda = [])
    (forgot : w.Forgot d) {D : Destination} (here : w.destinations[d]? = some D) :
    D.queue.items = [] := by
  rcases run.queue_swept addressed forgot here with empty | ⟨f, there, -⟩
  · exact empty
  · have there : f ∈ w.framesAt d := there
    rw [framesAt_quiet quiet] at there
    cases there

end Client

end ConnectionPool
