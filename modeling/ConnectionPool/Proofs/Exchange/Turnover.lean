import ConnectionPool.Proofs.Destination.Forgotten
import ConnectionPool.Proofs.Total

/-!
# The turnover of requests

A send that is taken back may take back an earlier exchange for the same request in place of its
own, so exchanges can be lost one by one while the running flag changes in the middle of a send.
Requests are not: counted by the request they carry, the exchanges that were accepted are those that
wait, that are about to fail, that connections took, and that failed, whatever the outside does.
Main statement: `Client.Reached.turnover`, for any set of requests.
-/

set_option autoImplicit false

namespace ConnectionPool

/-- The number of exchanges in a list whose request is among `q`. -/
def countFor (q : RequestId → Bool) (es : List Exchange) : Nat := es.countP fun e => q e.request.id

section CountFor

variable (q : RequestId → Bool)

theorem countFor_cons (e : Exchange) (es : List Exchange) :
    countFor q (e :: es) = countFor q [e] + countFor q es := by
  have split : e :: es = [e] ++ es := rfl
  rw [split, countFor, List.countP_append]
  rfl

theorem countFor_append (es es' : List Exchange) :
    countFor q (es ++ es') = countFor q es + countFor q es' :=
  List.countP_append

theorem countFor_of_poll {Q Q' : BoundedQueue Exchange} {e : Exchange}
    (head : Q.poll = some (e, Q')) : countFor q Q.items = countFor q [e] + countFor q Q'.items := by
  rw [(BoundedQueue.poll_eq_some_iff.1 head).1]
  exact countFor_cons q e _

theorem countFor_of_removeFirst {Q Q' : BoundedQueue Exchange} {e : Exchange} {p : Exchange → Bool}
    (taken : Q.removeFirst p = some (e, Q')) :
    countFor q Q.items = countFor q [e] + countFor q Q'.items := by
  obtain ⟨before, after, split, left, -⟩ := BoundedQueue.split_of_removeFirst taken
  rw [split, left, countFor_append, countFor_cons, countFor_append]
  omega

theorem countFor_of_offer {Q Q' : BoundedQueue Exchange} {e : Exchange}
    (room : Q.offer e = .ok Q') : countFor q Q'.items = countFor q Q.items + countFor q [e] := by
  rw [(BoundedQueue.offer_eq_ok_iff.1 room).2.2]
  exact countFor_append q _ _

/-- Exchanges for the same request count alike. -/
theorem countFor_of_isFor {e e' : Exchange} (same : e.isFor e'.request.id = true) :
    countFor q [e] = countFor q [e'] := by
  have own : e.request.id = e'.request.id := beq_iff_eq.1 same
  simp only [countFor, List.countP_cons, own]

end CountFor

theorem accepted_eq_map (history : List Event) :
    accepted history = (acceptances history).map Prod.snd := by
  rw [accepted, acceptances, List.map_filterMap]
  congr 1
  funext ev
  cases ev <;> rfl

theorem taken_eq_map (history : List Event) :
    taken history = (assignments history).map Prod.snd := by
  rw [taken, assignments, List.map_filterMap]
  congr 1
  funext ev
  cases ev <;> rfl

namespace Client

variable {allowed : Client → Operation → Prop} {w w' : Client} {d : DestinationId}
  {D D' : Destination} {e : Exchange} (q : RequestId → Bool)

/-- The number of exchanges for requests among `q` that wait, that are about to fail, that
connections took, and that failed. -/
def whereabouts (w : Client) : Nat :=
  total (fun D => countFor q D.queue.items) w.destinations + countFor q (failing w.agenda) +
    countFor q (taken w.history) + countFor q (failed w.history)

/-! ## What the parts of a step do -/

theorem whereabouts_push (w : Client) (fs : List Frame) :
    (w.push fs).whereabouts q = countFor q (failing fs) + w.whereabouts q := by
  have more : countFor q (failing (fs ++ w.agenda)) =
      countFor q (failing fs) + countFor q (failing w.agenda) := by
    rw [failing, List.filterMap_append]
    exact countFor_append q _ _
  simp only [whereabouts, push]
  omega

/-- Frames that are about to fail no exchange change nothing. -/
theorem whereabouts_push_silent {fs : List Frame} (silent : ∀ f ∈ fs, f.failing? = none) :
    (w.push fs).whereabouts q = w.whereabouts q := by
  rw [whereabouts_push, failing, List.filterMap_eq_nil_iff.2 silent]
  exact Nat.zero_add _

theorem whereabouts_glance (w : Client) : w.glance.whereabouts q = w.whereabouts q := by
  rw [glance_eq]
  rfl

/-- A destination that was just made holds nothing. -/
theorem whereabouts_locate (w : Client) (a : Address) :
    (w.locate a).2.whereabouts q = w.whereabouts q := by
  simp only [locate]
  split
  · rfl
  · simp only [whereabouts]
    rw [total_append]
    rfl

theorem whereabouts_assigned (w : Client) (d : DestinationId) (c : ConnectionId) (e : Exchange)
    (deferred : Bool) :
    (w.record (.assigned d c e deferred)).whereabouts q = w.whereabouts q + countFor q [e] := by
  have more : countFor q (taken (.assigned d c e deferred :: w.history)) =
      countFor q [e] + countFor q (taken w.history) := countFor_cons q e _
  have same : failed (.assigned d c e deferred :: w.history) = failed w.history := rfl
  simp only [whereabouts, record]
  rw [more, same]
  omega

theorem whereabouts_failed (w : Client) (d : DestinationId) (e : Exchange) (cause : Cause) :
    ((w.record (.failed d e cause)).countFate cause).whereabouts q =
      w.whereabouts q + countFor q [e] := by
  have same : ((w.record (.failed d e cause)).countFate cause).whereabouts q =
      (w.record (.failed d e cause)).whereabouts q := by
    cases cause <;> rfl
  have more : countFor q (failed (.failed d e cause :: w.history)) =
      countFor q [e] + countFor q (failed w.history) := countFor_cons q e _
  have other : taken (.failed d e cause :: w.history) = taken w.history := rfl
  rw [same]
  simp only [whereabouts, record]
  rw [more, other]
  omega

theorem whereabouts_putDestination (here : w.destinations[d]? = some D) (D' : Destination) :
    (w.putDestination d D').whereabouts q + countFor q D.queue.items =
      w.whereabouts q + countFor q D'.queue.items := by
  have changed := total_set (fun D => countFor q D.queue.items) here D'
  simp only [whereabouts, putDestination]
  omega

/-- As long as its queue stays, a destination changes nothing. -/
theorem whereabouts_putDestination_same (here : w.destinations[d]? = some D)
    (same : D'.queue = D.queue) : (w.putDestination d D').whereabouts q = w.whereabouts q := by
  have changed := whereabouts_putDestination q here D'
  rw [same] at changed
  omega

/-- An exchange that was taken off its queue is missing. -/
theorem whereabouts_putDestination_less (here : w.destinations[d]? = some D)
    (less : countFor q D.queue.items = countFor q [e] + countFor q D'.queue.items) :
    (w.putDestination d D').whereabouts q + countFor q [e] = w.whereabouts q := by
  have changed := whereabouts_putDestination q here D'
  omega

/-! ## Steps -/

/-- No turn loses an exchange, nor finds one. -/
theorem Turned.whereabouts {f : Frame} (turn : Turned f w w') (named : (w.push [f]).Scoped) :
    w'.whereabouts q = (w.push [f]).whereabouts q := by
  cases turn with
  | call c | within c | finish op | takeNone here nothing | acquireFull here nothing full
  | parkSurplus here empty full => rfl
  | fail d e cause =>
      rw [whereabouts_push_silent q (by simp [Frame.failing?]), whereabouts_failed,
        whereabouts_push]
      exact Nat.add_comm _ _
  | adrift names missing =>
      obtain ⟨D, here⟩ := named.exists_of_frame names
      cases missing.symm.trans here
  | acquireIdle here head | takeIdle here head | acquireNew here nothing free
  | removeMore here waiting | removeLast here empty =>
      exact whereabouts_putDestination_same q here rfl
  | parkIdle here empty room runs | parkStopped here empty room stopped =>
      rw [← destinations_glance] at here
      exact (whereabouts_putDestination_same q here (by rfl)).trans (whereabouts_glance q w)
  | passOver here head marked =>
      -- the exchange moves from the queue to those about to fail
      rw [whereabouts_push]
      exact (Nat.add_comm _ _).trans
        (whereabouts_putDestination_less q here (countFor_of_poll q head))
  | assign here head unmarked | assignDeferred here head unmarked =>
      exact (whereabouts_assigned q _ _ _ _ _).trans
        (whereabouts_putDestination_less q here (countFor_of_poll q head))
  | closeIdle here | closeActive here =>
      rw [whereabouts_push_silent q (by simp [or_imp, forall_and, Frame.failing?])]
      exact whereabouts_putDestination_same q here rfl
  | @failQueued _ d D here =>
      -- the whole queue moves to those about to fail
      have changed := whereabouts_putDestination q here
        { D with slots := D.slots.reset, queue := D.queue.drain.2 }
      have all := failing_map_closed d D.queue.items []
      rw [List.append_nil] at all
      rw [whereabouts_push, all]
      simp only [failing, List.filterMap_nil, List.append_nil]
      exact (Nat.add_comm _ _).trans changed

/-- A turn accepts nothing. -/
theorem Turned.accepted {f : Frame} (turn : Turned f w w') :
    ConnectionPool.accepted w'.history = ConnectionPool.accepted w.history := by
  rw [accepted_eq_map, accepted_eq_map, turn.sends.2]

/-- An exchange that is queued to stay is accepted. -/
theorem Sent.turnover {r : Request} {l : ListenerId} {reply : Reply}
    (sent : Sent d D r l w reply w') (here : w.destinations[d]? = some D) :
    countFor q (ConnectionPool.accepted w'.history) + w.whereabouts q =
      countFor q (ConnectionPool.accepted w.history) + w'.whereabouts q := by
  have drawn : w.glance.drawTicket.glance.whereabouts q = w.whereabouts q :=
    (whereabouts_glance q _).trans (whereabouts_glance q w)
  have past : w.glance.drawTicket.glance.history = w.history :=
    (history_glance _).trans (history_glance w)
  have there : w.glance.drawTicket.glance.destinations[d]? = some D := by
    rw [destinations_glance, drawTicket, destinations_glance]
    exact here
  cases sent with
  | mismatched error => rfl
  | stopped meant stopped | full meant runs full =>
      rw [← whereabouts_glance q w, ← history_glance w]
      rfl
  | @takenBack queue queue' e meant runs room stops found =>
      -- what is taken back is for the same request as what joined
      have joined := countFor_of_offer q room
      have left := countFor_of_removeFirst q found
      obtain ⟨-, -, -, -, own, -⟩ := BoundedQueue.split_of_removeFirst found
      have alike : countFor q [e] = countFor q [⟨w.glance.nextTicket, r, l⟩] :=
        countFor_of_isFor q own
      have changed := whereabouts_putDestination q there { D with queue := queue' }
      rw [← past, ← drawn]
      show countFor q (ConnectionPool.accepted w.glance.drawTicket.glance.history) + _ =
        _ + (w.glance.drawTicket.glance.putDestination d { D with queue := queue' }).whereabouts q
      dsimp only at changed
      omega
  | @accepted queue meant runs room stillRuns =>
      have changed := whereabouts_putDestination q there { D with queue := queue }
      have joined := countFor_of_offer q room
      have more : countFor q (ConnectionPool.accepted
          (.accepted d ⟨w.glance.nextTicket, r, l⟩ :: w.glance.drawTicket.glance.history)) =
            countFor q [⟨w.glance.nextTicket, r, l⟩] +
              countFor q (ConnectionPool.accepted w.glance.drawTicket.glance.history) :=
        countFor_cons q _ _
      rw [whereabouts_push_silent q (by simp [or_imp, forall_and, Frame.failing?]), ← past, ← drawn]
      show countFor q (ConnectionPool.accepted
          (.accepted d ⟨w.glance.nextTicket, r, l⟩ :: w.glance.drawTicket.glance.history)) + _ =
        _ + (w.glance.drawTicket.glance.putDestination d { D with queue := queue }).whereabouts q
      dsimp only at changed
      omega

/-- The start of an operation accepts what it adds. -/
theorem Started.turnover {op : Operation} {reply : Reply} (start : Started op w reply w') :
    countFor q (accepted w'.history) + w.whereabouts q =
      countFor q (accepted w.history) + w'.whereabouts q := by
  have moved {v : Client} {d : DestinationId} {D : Destination} {e : Exchange} {cause : Cause}
      {queue : BoundedQueue Exchange} (here : v.destinations[d]? = some D)
      (left : countFor q D.queue.items = countFor q [e] + countFor q queue.items) :
      ((v.putDestination d { D with queue := queue }).push [.fail d e cause]).whereabouts q =
        v.whereabouts q := by
    rw [whereabouts_push]
    exact (Nat.add_comm _ _).trans (whereabouts_putDestination_less q here left)
  have past := history_glance w
  cases start with
  | send here sent => exact sent.turnover q here
  | submit runs meets here sent =>
      have counted := sent.turnover q here
      rw [history_locate, past, whereabouts_locate, whereabouts_glance] at counted
      exact counted
  | submitAdrift runs meets missing =>
      rw [history_locate, past, whereabouts_locate, whereabouts_glance]
  | locate meets => rw [history_locate, whereabouts_locate]
  | submitStopped stopped | submitUnsupported runs nowhere | releaseStray here runs nothing =>
      rw [past, whereabouts_glance]
  | releaseStopped here stopped =>
      rw [← past, ← whereabouts_glance q w]
      rfl
  | release here runs found =>
      rw [← destinations_glance] at here
      rw [← past, ← whereabouts_glance q w]
      exact congrArg (_ + ·) (whereabouts_putDestination_same q here (by rfl)).symm
  | abort here found => exact congrArg (_ + ·) (moved here (countFor_of_removeFirst q found)).symm
  | failHead held work here head =>
      exact congrArg (_ + ·) (moved here (countFor_of_poll q head)).symm
  | settleFailed underWay unsettled pooled here =>
      exact congrArg (_ + ·) (whereabouts_putDestination_same q here (by rfl)).symm
  | stop =>
      -- the destinations are closed later, one frame for each
      have silent : ∀ f ∈ w.registry.map (fun r => Frame.closeIdle r.2), f.failing? = none := by
        intro f hf
        obtain ⟨r, -, rfl⟩ := List.mem_map.1 hf
        rfl
      exact congrArg (_ + ·) (whereabouts_push_silent q silent).symm
  | _ => rfl

/-- In every client that is reached, the exchanges that were accepted for some requests are as many
as those that wait, are about to fail, were taken or failed. -/
theorem Reached.turnover (run : Reached allowed w) :
    countFor q (accepted w.history) = w.whereabouts q := by
  apply run.invariant (P := fun w => countFor q (accepted w.history) = w.whereabouts q)
  · intro w new
    cases new <;> rfl
  · intro f w w' past h turn
    rw [turn.accepted, turn.whereabouts q past.scoped]
    exact h
  · intro c w h
    exact h
  · intro op reply w w' _ _ _ h start
    have counted := start.turnover q
    change _ + w.whereabouts q = countFor q (accepted w.history) + _ at counted
    change countFor q (accepted w'.history) = w'.whereabouts q
    omega

end Client

end ConnectionPool
