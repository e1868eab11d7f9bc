import ConnectionPool.Client.Invoke
import ConnectionPool.Proofs.Client.Turned

/-!
# What an operation can do at its start

`Sent d dest r l w reply w'` lists what queueing a request can do to the client `w`, and
`Started op w reply w'` what the start of the operation `op` can do, each case with the answer
given, the client it leaves and the conditions it is taken under. Main statement: the start of an
operation does one of them (`started_start`). No later module unfolds `Client.start`.
-/

set_option autoImplicit false

namespace ConnectionPool.Client

/-- The client after another exchange has drawn its ticket. -/
def drawTicket (w : Client) : Client := { w with nextTicket := w.nextTicket + 1 }

/-- The client after an attempt has ended. -/
def conclude (w : Client) (a : AttemptId) (attempt : Attempt) (o : Outcome) : Client :=
  { w with attempts := w.attempts.set a { attempt with outcome := some o } }

/-- The client after the executor has let go of a task. -/
def dropTask (w : Client) (t : TaskId) : Client :=
  { w with tasks := w.tasks.filter (·.id != t) }

/-- `Sent d dest r l w reply w'`: queueing the request `r` for the listener `l` at `dest` is
answered by `reply` and leaves `w'`. -/
inductive Sent (d : DestinationId) (dest : Destination) (r : Request) (l : ListenerId)
    (w : Client) : Reply → Client → Prop
  | mismatched {e : PoolError} (error : dest.mismatch? r = some e) :
      Sent d dest r l w (.refused e) w
  | stopped (meant : dest.mismatch? r = none) (stopped : w.seesRunning = false) :
      Sent d dest r l w (.refused (.stopped w.glance.name)) w.glance.countRejected
  | full (meant : dest.mismatch? r = none) (runs : w.seesRunning = true)
      (full : dest.queue.items.length = dest.queue.capacity) :
      Sent d dest r l w (.refused (.queueFull dest.queue.capacity)) w.glance.countRejected
  | takenBack {queue queue' : BoundedQueue Exchange} {e : Exchange}
      (meant : dest.mismatch? r = none) (runs : w.seesRunning = true)
      (room : dest.queue.offer ⟨w.glance.nextTicket, r, l⟩ = .ok queue)
      (stops : w.glance.drawTicket.seesRunning = false)
      (taken : queue.removeFirst (·.isFor r.id) = some (e, queue')) :
      Sent d dest r l w (.refused (.stopping w.glance.drawTicket.glance.name))
        (w.glance.drawTicket.glance.putDestination d { dest with queue := queue' }).countRejected
  | accepted {queue : BoundedQueue Exchange} (meant : dest.mismatch? r = none)
      (runs : w.seesRunning = true)
      (room : dest.queue.offer ⟨w.glance.nextTicket, r, l⟩ = .ok queue)
      (stillRuns : w.glance.drawTicket.seesRunning = true) :
      Sent d dest r l w .done
        (((w.glance.drawTicket.glance.putDestination d { dest with queue := queue }).record
            (.accepted d ⟨w.glance.nextTicket, r, l⟩)).countQueued.push
          ((List.range w.glance.drawTicket.glance.listeners).map
            (fun i => .call (.requestQueued i r)) ++ [.acquire d]))

/-- `Started op w reply w'`: the start of `op` is answered by `reply` and leaves `w'`. -/
inductive Started : Operation → Client → Reply → Client → Prop
  /-- The operation names something that does not exist. -/
  | ignored {w : Client} (op : Operation) : Started op w .ignored w
  | send {w w' : Client} {d : DestinationId} {dest : Destination} {r : Request} {l : ListenerId}
      {reply : Reply} (here : w.destinations[d]? = some dest) (sent : Sent d dest r l w reply w') :
      Started (.send d r l) w reply w'
  | submitStopped {w : Client} {r : Request} {l : ListenerId} (stopped : w.seesRunning = false) :
      Started (.submit r l) w (.refused (.stopped w.glance.name)) w.glance
  | submitUnsupported {w : Client} {r : Request} {l : ListenerId} (runs : w.seesRunning = true)
      (nowhere : r.address? = none) :
      Started (.submit r l) w (.refused (.unsupportedScheme r.scheme)) w.glance
  | submit {w w' : Client} {a : Address} {dest : Destination} {r : Request} {l : ListenerId}
      {reply : Reply} (runs : w.seesRunning = true) (meets : r.address? = some a)
      (here : (w.glance.locate a).2.destinations[(w.glance.locate a).1]? = some dest)
      (sent : Sent (w.glance.locate a).1 dest r l (w.glance.locate a).2 reply w') :
      Started (.submit r l) w reply w'
  /-- The registry leads to a destination that does not exist. -/
  | submitAdrift {w : Client} {a : Address} {r : Request} {l : ListenerId}
      (runs : w.seesRunning = true) (meets : r.address? = some a)
      (missing : (w.glance.locate a).2.destinations[(w.glance.locate a).1]? = none) :
      Started (.submit r l) w .ignored (w.glance.locate a).2
  | locateUnsupported {w : Client} {scheme host : String} {port : Option UInt16}
      (nowhere : Address.resolve? scheme host port = none) :
      Started (.locate scheme host port) w (.refused (.unsupportedScheme scheme)) w
  | locate {w : Client} {scheme host : String} {port : Option UInt16} {a : Address}
      (meets : Address.resolve? scheme host port = some a) :
      Started (.locate scheme host port) w (.located (w.locate a).1) (w.locate a).2
  | abortMissed {w : Client} {d : DestinationId} {dest : Destination} {r : RequestId}
      {reason : String} (here : w.destinations[d]? = some dest)
      (nothing : dest.queue.removeFirst (·.isFor r) = none) :
      Started (.abort d r reason) w (.found false) w
  | abort {w : Client} {d : DestinationId} {dest : Destination} {r : RequestId} {reason : String}
      {e : Exchange} {queue : BoundedQueue Exchange} (here : w.destinations[d]? = some dest)
      (taken : dest.queue.removeFirst (·.isFor r) = some (e, queue)) :
      Started (.abort d r reason) w (.found true)
        ((w.putDestination d { dest with queue := queue }).push [.fail d e (.aborted reason)])
  | releaseStopped {w : Client} {d : DestinationId} {dest : Destination} {c : ConnectionId}
      (here : w.destinations[d]? = some dest) (stopped : w.seesRunning = false) :
      Started (.release d c) w .done (w.glance.push [.remove d c, .call (.close c)])
  | releaseStray {w : Client} {d : DestinationId} {dest : Destination} {c : ConnectionId}
      (here : w.destinations[d]? = some dest) (runs : w.seesRunning = true)
      (nothing : dest.active.removeFirst (· == c) = none) :
      Started (.release d c) w .done w.glance
  | release {w : Client} {d : DestinationId} {dest : Destination} {c c' : ConnectionId}
      {active : BoundedQueue ConnectionId} (here : w.destinations[d]? = some dest)
      (runs : w.seesRunning = true)
      (taken : dest.active.removeFirst (· == c) = some (c', active)) :
      Started (.release d c) w .done
        ((w.glance.putDestination d { dest with active := active }).push [.serve d c false])
  | remove {w : Client} {d : DestinationId} {dest : Destination} {c : ConnectionId}
      (here : w.destinations[d]? = some dest) :
      Started (.remove d c) w .done (w.push [.remove d c])
  | close {w : Client} {d : DestinationId} {dest : Destination}
      (here : w.destinations[d]? = some dest) :
      Started (.close d) w .done (w.push [.closeIdle d])
  | connect {w : Client} {d : DestinationId} {dest : Destination}
      (here : w.destinations[d]? = some dest) :
      Started (.connect d) w (.opened w.attempts.length)
        ((w.addAttempt d false).push [.call (.connect d w.attempts.length)])
  | settleConnected {w : Client} {a : AttemptId} {attempt : Attempt} {c : ConnectionId}
      (underWay : w.attempts[a]? = some attempt) (unsettled : attempt.outcome = none)
      (pooled : attempt.pooled = true) :
      Started (.settle a (.connected c)) w .done
        ((w.conclude a attempt (.connected c)).countCreated.push
          [.serve attempt.destination c true])
  | settleFailed {w : Client} {a : AttemptId} {attempt : Attempt} {error : TransportError}
      {dest : Destination} (underWay : w.attempts[a]? = some attempt)
      (unsettled : attempt.outcome = none) (pooled : attempt.pooled = true)
      (here : w.destinations[attempt.destination]? = some dest) :
      Started (.settle a (.failed error)) w .done
        (((w.conclude a attempt (.failed error)).putDestination attempt.destination
          { dest with slots := dest.slots.release }).countFailure.addTask
            (.failHead attempt.destination error))
  /-- The attempt was made for a destination that does not exist. -/
  | settleAdrift {w : Client} {a : AttemptId} {attempt : Attempt} {error : TransportError}
      (underWay : w.attempts[a]? = some attempt) (unsettled : attempt.outcome = none)
      (pooled : attempt.pooled = true) (missing : w.destinations[attempt.destination]? = none) :
      Started (.settle a (.failed error)) w .done (w.conclude a attempt (.failed error))
  | settleAbandoned {w : Client} {a : AttemptId} {attempt : Attempt}
      (underWay : w.attempts[a]? = some attempt) (unsettled : attempt.outcome = none)
      (pooled : attempt.pooled = true) :
      Started (.settle a .abandoned) w .done (w.conclude a attempt .abandoned)
  | settleUnpooled {w : Client} {a : AttemptId} {attempt : Attempt} {o : Outcome}
      (underWay : w.attempts[a]? = some attempt) (unsettled : attempt.outcome = none)
      (unpooled : attempt.pooled = false) :
      Started (.settle a o) w .done (w.conclude a attempt o)
  | deliver {w : Client} {t : TaskId} {task : Task} {c : ConnectionId} {e : Exchange}
      (held : w.tasks.find? (·.id == t) = some task) (work : task.work = .deliver c e) :
      Started (.perform t) w .done ((w.dropTask t).push [.call (.send c e)])
  /-- The task is to fail the head of a queue that does not exist. -/
  | failHeadAdrift {w : Client} {t : TaskId} {task : Task} {d : DestinationId}
      {error : TransportError} (held : w.tasks.find? (·.id == t) = some task)
      (work : task.work = .failHead d error) (missing : w.destinations[d]? = none) :
      Started (.perform t) w .done (w.dropTask t)
  | spare {w : Client} {t : TaskId} {task : Task} {d : DestinationId} {error : TransportError}
      {dest : Destination} (held : w.tasks.find? (·.id == t) = some task)
      (work : task.work = .failHead d error) (here : w.destinations[d]? = some dest)
      (empty : dest.queue.poll = none) :
      Started (.perform t) w .done ((w.dropTask t).record (.spared d error))
  | failHead {w : Client} {t : TaskId} {task : Task} {d : DestinationId} {error : TransportError}
      {dest : Destination} {e : Exchange} {queue : BoundedQueue Exchange}
      (held : w.tasks.find? (·.id == t) = some task) (work : task.work = .failHead d error)
      (here : w.destinations[d]? = some dest) (head : dest.queue.poll = some (e, queue)) :
      Started (.perform t) w .done
        (((w.dropTask t).putDestination d { dest with queue := queue }).push
          [.fail d e (.unconnected error)])
  | mark {w : Client} (r : RequestId) :
      Started (.mark r) w .done { w with marked := r :: w.marked }
  | setRunning {w : Client} (flag : Bool) :
      Started (.setRunning flag) w .done { w with running := flag }
  | stop {w : Client} :
      Started .stop w .done
        (({ w with running := false, registry := [] } : Client).push
          (w.registry.map fun r => .closeIdle r.2))
  | foresee {w : Client} (answers : List Bool) :
      Started (.foresee answers) w .done { w with foreseen := answers }

/-- Queueing a request does one of the listed things. -/
theorem sent_send {w : Client} {d : DestinationId} {dest : Destination} {r : Request}
    {l : ListenerId} : Sent d dest r l w (w.send d dest r l).1 (w.send d dest r l).2 := by
  unfold send
  split
  · next e error => exact .mismatched error
  · next meant =>
      split
      · next w' running =>
          obtain ⟨stopped, rfl⟩ := seesRunning_of_checkRunning running
          exact .stopped meant stopped
      · next w' running =>
          obtain ⟨runs, rfl⟩ := seesRunning_of_checkRunning running
          dsimp only
          split
          · next full => exact .full meant runs (BoundedQueue.offer_eq_error_iff.1 full).1
          · next queue room =>
              -- the exchange just queued is for `r`, so a search for `r` finds something
              have found : queue.removeFirst (·.isFor r.id) ≠ none := by
                intro missing
                have items := (BoundedQueue.offer_eq_ok_iff.1 room).2.2
                have none := BoundedQueue.extract_eq_none_iff.1
                  (BoundedQueue.removeFirst_eq_none_iff.1 missing)
                have own := none ⟨w.glance.nextTicket, r, l⟩ (by simp [items])
                simp [Exchange.isFor] at own
              split
              · next e queue' stops taken =>
                  exact .takenBack meant runs room stops taken
              · next other =>
                  -- had the second check failed, the search would have taken something back
                  refine .accepted meant runs room ?_
                  cases again : w.glance.drawTicket.seesRunning with
                  | true => rfl
                  | false =>
                      cases removed : queue.removeFirst (·.isFor r.id) with
                      | none => exact absurd removed found
                      | some taken => exact absurd removed (other _ _ again)

theorem started_settlePooled {w : Client} {a : AttemptId} {attempt : Attempt} {o : Outcome}
    (underWay : w.attempts[a]? = some attempt) (unsettled : attempt.outcome = none)
    (pooled : attempt.pooled = true) :
    Started (.settle a o) w .done
      ((w.conclude a attempt o).settlePooled attempt.destination o) := by
  cases o with
  | connected c => exact .settleConnected underWay unsettled pooled
  | failed error =>
      rw [settlePooled]
      split
      · next missing => exact .settleAdrift underWay unsettled pooled missing
      · next dest here => exact .settleFailed underWay unsettled pooled here
  | abandoned => exact .settleAbandoned underWay unsettled pooled

theorem started_perform {w : Client} {t : TaskId} {task : Task}
    (held : w.tasks.find? (·.id == t) = some task) :
    Started (.perform t) w (w.start (.perform t)).1 (w.start (.perform t)).2 := by
  rw [start, held]
  dsimp only
  split
  · next c e work => exact .deliver held work
  · next d error work =>
      split
      · next missing => exact .failHeadAdrift held work missing
      · next dest here =>
          split
          · next empty => exact .spare held work here empty
          · next e queue head => exact .failHead held work here head

/-- A client that is stopped refuses a request before it looks at its address. -/
theorem start_submit_stopped {w : Client} {r : Request} {l : ListenerId}
    (stopped : w.seesRunning = false) :
    w.start (.submit r l) = (.refused (.stopped w.glance.name), w.glance) := by
  have checked : w.checkRunning = (false, w.glance) := Prod.ext stopped rfl
  simp only [start, checked]

theorem start_submit_unsupported {w : Client} {r : Request} {l : ListenerId}
    (runs : w.seesRunning = true) (nowhere : r.address? = none) :
    w.start (.submit r l) = (.refused (.unsupportedScheme r.scheme), w.glance) := by
  have checked : w.checkRunning = (true, w.glance) := Prod.ext runs rfl
  simp only [start, checked, nowhere]

/-- To submit a request is to find the destination of its address and to send it there. -/
theorem start_submit {w : Client} {r : Request} {l : ListenerId} {a : Address}
    (runs : w.seesRunning = true) (meets : r.address? = some a) :
    w.start (.submit r l) =
      (w.glance.locate a).2.start (.send (w.glance.locate a).1 r l) := by
  have checked : w.checkRunning = (true, w.glance) := Prod.ext runs rfl
  simp only [start, checked, meets]

theorem start_send {w : Client} {d : DestinationId} {dest : Destination} {r : Request}
    {l : ListenerId} (here : w.destinations[d]? = some dest) :
    w.start (.send d r l) = w.send d dest r l := by
  rw [start, here]

theorem start_remove {w : Client} {d : DestinationId} {dest : Destination}
    (here : w.destinations[d]? = some dest) (c : ConnectionId) :
    w.start (.remove d c) = (.done, w.push [.remove d c]) := by
  rw [start, here]

theorem start_connect {w : Client} {d : DestinationId} {dest : Destination}
    (here : w.destinations[d]? = some dest) :
    w.start (.connect d) = (.opened w.attempts.length,
      (w.addAttempt d false).push [.call (.connect d w.attempts.length)]) := by
  rw [start, here]

/-- An abort takes the first exchange for the request off the queue. -/
theorem start_abort {w : Client} {d : DestinationId} {dest : Destination} {r : RequestId}
    {e : Exchange} {queue : BoundedQueue Exchange} (here : w.destinations[d]? = some dest)
    (found : dest.queue.removeFirst (·.isFor r) = some (e, queue)) (reason : String) :
    w.start (.abort d r reason) = (.found true,
      (w.putDestination d { dest with queue := queue }).push [.fail d e (.aborted reason)]) := by
  rw [start, here]
  simp only [found]

/-- A client that is stopped removes a connection that is released, and closes it. -/
theorem start_release_stopped {w : Client} {d : DestinationId} {dest : Destination}
    (here : w.destinations[d]? = some dest) (stopped : w.seesRunning = false) (c : ConnectionId) :
    w.start (.release d c) = (.done, w.glance.push [.remove d c, .call (.close c)]) := by
  have checked : w.checkRunning = (false, w.glance) := Prod.ext stopped rfl
  rw [start, here]
  simp only [checked]

/-- A client that runs takes no notice of the release of a connection that is not at work. -/
theorem start_release_stray {w : Client} {d : DestinationId} {dest : Destination} {c : ConnectionId}
    (here : w.destinations[d]? = some dest) (runs : w.seesRunning = true)
    (nothing : dest.active.removeFirst (· == c) = none) :
    w.start (.release d c) = (.done, w.glance) := by
  have checked : w.checkRunning = (true, w.glance) := Prod.ext runs rfl
  rw [start, here]
  simp only [checked, nothing]

/-- The operation is noted once it has started. -/
theorem invoke_of_start {w w' : Client} {op : Operation} {reply : Reply}
    (started : (w.push [.finish op]).start op = (reply, w')) :
    w.invoke op = (reply, w'.record (.invoked op reply)) := by
  simp only [invoke, started]

theorem start_locate {w : Client} {scheme host : String} {port : Option UInt16} {a : Address}
    (meets : Address.resolve? scheme host port = some a) :
    w.start (.locate scheme host port) = (.located (w.locate a).1, (w.locate a).2) := by
  rw [start, meets]

/-- A task that is held is performed, whatever comes of it. -/
theorem done_perform {w : Client} {t : TaskId} {task : Task}
    (held : w.tasks.find? (·.id == t) = some task) : (w.start (.perform t)).1 = .done := by
  rw [start, held]
  dsimp only
  split
  · rfl
  · split
    · rfl
    · split <;> rfl

/-- An attempt that goes on is ended, whatever comes of it. -/
theorem done_settle {w : Client} {a : AttemptId} {attempt : Attempt} {o : Outcome}
    (underWay : w.attempts[a]? = some attempt) (unsettled : attempt.outcome = none) :
    (w.start (.settle a o)).1 = .done := by
  rw [start, underWay]
  dsimp only
  rw [unsettled]

/-- A connection is released at every destination that exists, whatever comes of it. -/
theorem done_release {w : Client} {d : DestinationId} {dest : Destination}
    (here : w.destinations[d]? = some dest) (c : ConnectionId) :
    (w.start (.release d c)).1 = .done := by
  rw [start, here]
  dsimp only
  split
  · rfl
  · split <;> rfl

/-- The start of an operation does one of the listed things. -/
theorem started_start (op : Operation) (w : Client) :
    Started op w (w.start op).1 (w.start op).2 := by
  cases op with
  | send d r l =>
      rw [start]
      split
      · exact .ignored _
      · next dest here => exact .send here sent_send
  | submit r l =>
      rw [start]
      split
      · next w' running =>
          obtain ⟨stopped, rfl⟩ := seesRunning_of_checkRunning running
          exact .submitStopped stopped
      · next w' running =>
          obtain ⟨runs, rfl⟩ := seesRunning_of_checkRunning running
          split
          · next nowhere => exact .submitUnsupported runs nowhere
          · next a meets =>
              dsimp only
              split
              · next missing => exact .submitAdrift runs meets missing
              · next dest here => exact .submit runs meets here sent_send
  | locate scheme host port =>
      rw [start]
      split
      · next nowhere => exact .locateUnsupported nowhere
      · next a meets => exact .locate meets
  | abort d r reason =>
      rw [start]
      split
      · exact .ignored _
      · next dest here =>
          split
          · next nothing => exact .abortMissed here nothing
          · next e queue taken => exact .abort here taken
  | release d c =>
      rw [start]
      split
      · exact .ignored _
      · next dest here =>
          split
          · next w' running =>
              obtain ⟨stopped, rfl⟩ := seesRunning_of_checkRunning running
              exact .releaseStopped here stopped
          · next w' running =>
              obtain ⟨runs, rfl⟩ := seesRunning_of_checkRunning running
              split
              · next nothing => exact .releaseStray here runs nothing
              · next c' active taken => exact .release here runs taken
  | remove d c =>
      rw [start]
      split
      · exact .ignored _
      · next dest here => exact .remove here
  | close d =>
      rw [start]
      split
      · exact .ignored _
      · next dest here => exact .close here
  | connect d =>
      rw [start]
      split
      · exact .ignored _
      · next dest here => exact .connect here
  | settle a o =>
      rw [start]
      split
      · exact .ignored _
      · next attempt underWay =>
          split
          -- an attempt ends once, and a second ending is ignored
          · exact .ignored _
          · next unsettled =>
              dsimp only
              by_cases pooled : attempt.pooled = true
              · rw [if_pos pooled]
                exact started_settlePooled underWay unsettled pooled
              · rw [if_neg pooled]
                exact .settleUnpooled underWay unsettled (Bool.eq_false_iff.2 pooled)
  | perform t =>
      cases held : w.tasks.find? (·.id == t) with
      | none =>
          rw [start, held]
          exact .ignored _
      | some task => exact started_perform held
  | mark r => exact .mark r
  | setRunning flag => exact .setRunning flag
  | stop => exact .stop
  | foresee answers => exact .foresee answers

end ConnectionPool.Client
