import ConnectionPool.Proofs.Client.Rejection

/-!
# What a request is answered that is sent to a destination

A request that is sent to a destination is admitted or refused, and the answer depends on the
request, on the queue and on what two checks of the running flag see. Main statement: the conditions
are ranked, an admitted request stands at the end of the queue before anybody is told of it, and a
refusal calls nobody and changes nothing that the pool holds, with one exception
(`Client.admission`). The exception is a client that stops while a request is being queued again
that waits already: what is taken back is the first exchange for the request, and not the one that
was just queued (`Client.narrowTwin_swaps`).
-/

set_option autoImplicit false

namespace ConnectionPool

namespace Destination

variable {D : Destination} {r : Request} {x : PoolError}

/-- The request names the address of the destination, as far as it names one. -/
structure Meets (D : Destination) (r : Request) : Prop where
  scheme : r.scheme = D.address.scheme
  host : r.host = D.address.host
  port : ∀ p, r.port = some p → p = D.address.port

/-- The error names the first of scheme, host and port in which the request differs from the
address of the destination. -/
inductive Differs (D : Destination) (r : Request) : PoolError → Prop
  | scheme (other : r.scheme ≠ D.address.scheme) :
      Differs D r (.invalidScheme r.scheme D.address.display)
  | host (scheme : r.scheme = D.address.scheme) (other : r.host ≠ D.address.host) :
      Differs D r (.invalidHost r.host D.address.display)
  | port {p : UInt16} (scheme : r.scheme = D.address.scheme) (host : r.host = D.address.host)
      (named : r.port = some p) (other : p ≠ D.address.port) :
      Differs D r (.invalidPort p D.address.display)

theorem meets_of_mismatch_none (meant : D.mismatch? r = none) : D.Meets r := by
  simp only [mismatch?] at meant
  split at meant
  · cases meant
  · next scheme =>
      split at meant
      · cases meant
      · next host =>
          refine ⟨Decidable.not_not.1 scheme, Decidable.not_not.1 host, fun p named => ?_⟩
          simpa [named] using meant

theorem differs_of_mismatch (error : D.mismatch? r = some x) : D.Differs r x := by
  simp only [mismatch?] at error
  split at error
  · next other =>
      cases error
      exact .scheme other
  · next scheme =>
      have scheme := Decidable.not_not.1 scheme
      split at error
      · next other =>
          cases error
          exact .host scheme other
      · next host =>
          split at error
          · cases error
          · next p named =>
              split at error
              · next other =>
                  cases error
                  exact .port scheme (Decidable.not_not.1 host) named other
              · cases error

theorem Meets.not_differs (meets : D.Meets r) : ¬ D.Differs r x
  | .scheme other => other meets.scheme
  | .host _ other => other meets.host
  | .port _ _ named other => other (meets.port _ named)

/-- The answer of a destination to a request, where the client has this name and the two checks of
its running flag see `first` and `second`. -/
inductive Answers (D : Destination) (r : Request) (name : String) (first second : Bool) :
    Reply → Prop
  | differs {x : PoolError} (differs : D.Differs r x) : Answers D r name first second (.refused x)
  | stopped (meets : D.Meets r) (stopped : first = false) :
      Answers D r name first second (.refused (.stopped name))
  | full (meets : D.Meets r) (runs : first = true)
      (full : D.queue.items.length = D.queue.capacity) :
      Answers D r name first second (.refused (.queueFull D.queue.capacity))
  | stopping (meets : D.Meets r) (runs : first = true)
      (room : D.queue.items.length < D.queue.capacity) (stops : second = false) :
      Answers D r name first second (.refused (.stopping name))
  | done (meets : D.Meets r) (runs : first = true)
      (room : D.queue.items.length < D.queue.capacity) (stillRuns : second = true) :
      Answers D r name first second .done

theorem Differs.unique {y : PoolError} (h : D.Differs r x) (h' : D.Differs r y) : x = y := by
  cases h with
  | scheme other =>
      cases h' with
      | scheme _ => rfl
      | host scheme _ | port scheme _ _ _ => exact absurd scheme other
  | host scheme other =>
      cases h' with
      | scheme different => exact absurd scheme different
      | host _ _ => rfl
      | port _ host _ _ => exact absurd host other
  | port scheme host named other =>
      cases h' with
      | scheme different => exact absurd scheme different
      | host _ different => exact absurd host different
      | port _ _ named' _ =>
          cases named.symm.trans named'
          rfl

/-- The conditions exclude each other, so there is one answer. -/
theorem Answers.unique {name : String} {first second : Bool} {a b : Reply}
    (h : D.Answers r name first second a) (h' : D.Answers r name first second b) : a = b := by
  cases h with
  | differs differs =>
      cases h' with
      | differs differs' => exact congrArg Reply.refused (differs.unique differs')
      | stopped meets _ | full meets _ _ | stopping meets _ _ _ | done meets _ _ _ =>
          exact absurd differs meets.not_differs
  | stopped meets stopped =>
      cases h' with
      | differs differs => exact absurd differs meets.not_differs
      | stopped _ _ => rfl
      | full _ runs _ | stopping _ runs _ _ | done _ runs _ _ => cases stopped.symm.trans runs
  | full meets runs full =>
      cases h' with
      | differs differs => exact absurd differs meets.not_differs
      | stopped _ stopped => cases stopped.symm.trans runs
      | full _ _ _ => rfl
      | stopping _ _ room _ | done _ _ room _ => exact absurd full (Nat.ne_of_lt room)
  | stopping meets runs room stops =>
      cases h' with
      | differs differs => exact absurd differs meets.not_differs
      | stopped _ stopped => cases stopped.symm.trans runs
      | full _ _ full => exact absurd full (Nat.ne_of_lt room)
      | stopping _ _ _ _ => rfl
      | done _ _ _ stillRuns => cases stops.symm.trans stillRuns
  | done meets runs room stillRuns =>
      cases h' with
      | differs differs => exact absurd differs meets.not_differs
      | stopped _ stopped => cases stopped.symm.trans runs
      | full _ _ full => exact absurd full (Nat.ne_of_lt room)
      | stopping _ _ _ stops => cases stops.symm.trans stillRuns
      | done _ _ _ _ => rfl

/-- What is left of the queue after a call to queue `e` was refused: the same queue, unless the
client stopped while `e` was being queued and an exchange for its request waited already. Then the
first such exchange is gone, and `e` stands at the end. -/
inductive Leaves (D : Destination) (e : Exchange) : PoolError → BoundedQueue Exchange → Prop
  | same {x : PoolError}
      (alone : ∀ name, x = .stopping name → ∀ e' ∈ D.queue.items, e'.isFor e.request.id = false) :
      Leaves D e x D.queue
  | swapped {name : String} {before after : List Exchange} {old : Exchange}
      {queue : BoundedQueue Exchange} (split : D.queue.items = before ++ old :: after)
      (twin : old.isFor e.request.id = true)
      (first : ∀ e' ∈ before, e'.isFor e.request.id = false)
      (capacity : queue.capacity = D.queue.capacity) (left : queue.items = before ++ after ++ [e]) :
      Leaves D e (.stopping name) queue

/-- What is taken back of a queue that an exchange has just joined. -/
theorem leaves_of_takenBack {e e' : Exchange} {queue queue' : BoundedQueue Exchange} (name : String)
    (room : D.queue.offer e = .ok queue)
    (taken : queue.removeFirst (·.isFor e.request.id) = some (e', queue')) :
    D.Leaves e (.stopping name) queue' := by
  obtain ⟨-, capacity, joined⟩ := BoundedQueue.offer_eq_ok_iff.1 room
  obtain ⟨before, after, split, left, twin, first⟩ := BoundedQueue.split_of_removeFirst taken
  have kept : queue'.capacity = D.queue.capacity :=
    (BoundedQueue.removeFirst_eq_some_iff.1 taken).2.trans capacity
  rw [joined] at split
  rcases List.eq_nil_or_concat after with rfl | ⟨after, last, rfl⟩
  · -- nothing stands behind what is taken, so it is the new exchange
    obtain ⟨same, -⟩ := List.append_inj' split rfl
    have queue' : queue' = D.queue := by
      refine BoundedQueue.ext kept ?_
      rw [left, List.append_nil, same]
    rw [queue']
    exact .same fun _ _ => same ▸ first
  · rw [List.concat_eq_append, ← List.cons_append, ← List.append_assoc] at split
    obtain ⟨waiting, last⟩ := List.append_inj' split rfl
    cases last
    refine .swapped waiting twin first kept ?_
    rw [left, List.concat_eq_append, List.append_assoc]

end Destination

namespace Client

variable {w w' : Client} {d : DestinationId} {D : Destination} {r : Request} {l : ListenerId}
  {reply : Reply}

theorem seesRunning_drawTicket (w : Client) : w.drawTicket.seesRunning = w.seesRunning := by
  simp only [seesRunning, checkRunning, drawTicket]
  split <;> rfl

theorem Sent.answers (sent : Sent d D r l w reply w') :
    D.Answers r w.name w.seesRunning w.glance.seesRunning reply := by
  have name : w.glance.name = w.name := by rw [glance_eq]
  have drawn : w.glance.drawTicket.glance.name = w.name := by rw [glance_eq, glance_eq]; rfl
  cases sent with
  | mismatched error => exact .differs (Destination.differs_of_mismatch error)
  | stopped meant stopped =>
      rw [name]
      exact .stopped (Destination.meets_of_mismatch_none meant) stopped
  | full meant runs full => exact .full (Destination.meets_of_mismatch_none meant) runs full
  | takenBack meant runs room stops taken =>
      rw [drawn]
      exact .stopping (Destination.meets_of_mismatch_none meant) runs
        (BoundedQueue.offer_eq_ok_iff.1 room).1 (seesRunning_drawTicket _ ▸ stops)
  | accepted meant runs room stillRuns =>
      exact .done (Destination.meets_of_mismatch_none meant) runs
        (BoundedQueue.offer_eq_ok_iff.1 room).1 (seesRunning_drawTicket _ ▸ stillRuns)

/-- A refusal uses up checks of the running flag, and perhaps a ticket, and it is counted if it is a
rejection. Apart from the queue nothing else changes. -/
theorem Sent.declined {x : PoolError} (sent : Sent d D r l w (.refused x) w')
    (here : w.destinations[d]? = some D) :
    ∃ queue, D.Leaves ⟨w.nextTicket, r, l⟩ x queue ∧ w' = { w with
      destinations := w.destinations.set d { D with queue := queue }
      foreseen := w'.foreseen
      nextTicket := w'.nextTicket
      metrics.requestsRejected := w.metrics.requestsRejected + x.isRejection.toNat } := by
  have same : w.destinations.set d D = w.destinations := by
    obtain ⟨lt, own⟩ := List.getElem?_eq_some_iff.1 here
    rw [← own]
    exact List.set_getElem_self lt
  cases sent with
  | mismatched error =>
      refine ⟨D.queue, .same fun name own => ?_, ?_⟩
      · cases own
        have none := Destination.not_isRejection_of_mismatch error
        cases none
      · rw [same, Destination.not_isRejection_of_mismatch error]
        rfl
  | stopped meant stopped | full meant runs full =>
      refine ⟨D.queue, .same nofun, ?_⟩
      rw [same, glance_eq]
      rfl
  | @takenBack queue queue' e meant runs room stops taken =>
      have ticket : w.glance.nextTicket = w.nextTicket := by rw [glance_eq]
      rw [ticket] at room
      refine ⟨queue', Destination.leaves_of_takenBack _ room taken, ?_⟩
      rw [glance_eq, glance_eq]
      rfl

/-- A request that is admitted stands at the end of the queue, and what is left to do is to
announce it and to look for a connection. -/
theorem Sent.admitted (sent : Sent d D r l w .done w') :
    ∃ queue : BoundedQueue Exchange, queue.capacity = D.queue.capacity ∧
      queue.items = D.queue.items ++ [⟨w.nextTicket, r, l⟩] ∧ w' = { w with
        destinations := w.destinations.set d { D with queue := queue }
        foreseen := w'.foreseen
        nextTicket := w.nextTicket + 1
        metrics.requestsQueued := w.metrics.requestsQueued + 1
        agenda := (List.range w.listeners).map (fun i => .call (.requestQueued i r)) ++
          .acquire d :: w.agenda
        history := .accepted d ⟨w.nextTicket, r, l⟩ :: w.history } := by
  cases sent with
  | @accepted queue meant runs room stillRuns =>
      obtain ⟨-, capacity, joined⟩ := BoundedQueue.offer_eq_ok_iff.1 room
      have ticket : w.glance.nextTicket = w.nextTicket := by rw [glance_eq]
      refine ⟨queue, capacity, ticket ▸ joined, ?_⟩
      rw [glance_eq, glance_eq]
      simp [push, record, putDestination, countQueued, drawTicket]

/-- What an admitted request leaves: it stands at the end of the queue, it is going to be announced
to every request listener, and then a connection is looked for. -/
def Admits (w : Client) (d : DestinationId) (D : Destination) (r : Request) (l : ListenerId)
    (w' : Client) : Prop :=
  ∃ queue : BoundedQueue Exchange, queue.capacity = D.queue.capacity ∧
    queue.items = D.queue.items ++ [⟨w.nextTicket, r, l⟩] ∧ w' = { w with
      destinations := w.destinations.set d { D with queue := queue }
      foreseen := w'.foreseen
      nextTicket := w.nextTicket + 1
      metrics.requestsQueued := w.metrics.requestsQueued + 1
      agenda := (List.range w.listeners).map (fun i => .call (.requestQueued i r)) ++
        .acquire d :: .finish (.send d r l) :: w.agenda
      history := .invoked (.send d r l) .done :: .accepted d ⟨w.nextTicket, r, l⟩ :: w.history }

/-- What a refusal leaves: nobody is called, and apart from the queue, the checks of the running
flag that were used up, a ticket and the count of rejections nothing has changed. -/
def Declines (w : Client) (d : DestinationId) (D : Destination) (r : Request) (l : ListenerId)
    (x : PoolError) (w' : Client) : Prop :=
  ∃ queue, D.Leaves ⟨w.nextTicket, r, l⟩ x queue ∧ w' = { w with
    destinations := w.destinations.set d { D with queue := queue }
    foreseen := w'.foreseen
    nextTicket := w'.nextTicket
    metrics.requestsRejected := w.metrics.requestsRejected + x.isRejection.toNat
    agenda := .finish (.send d r l) :: w.agenda
    history := .invoked (.send d r l) (.refused x) :: w.history }

/-- A call to send a request has the one answer whose conditions hold. If the answer is `done`, the
request was admitted; if it is an error, nobody is called, and nothing that the pool holds changes,
except for a queue in which the request waited already when the client was found to be stopping. -/
theorem admission (here : w.destinations[d]? = some D) (r : Request) (l : ListenerId) :
    (∀ reply, (w.invoke (.send d r l)).1 = reply ↔
      D.Answers r w.name w.seesRunning w.glance.seesRunning reply) ∧
    ((w.invoke (.send d r l)).1 = .done → w.Admits d D r l (w.invoke (.send d r l)).2) ∧
    ∀ x, (w.invoke (.send d r l)).1 = .refused x →
      w.Declines d D r l x (w.invoke (.send d r l)).2 := by
  have begun : (w.push [.finish (.send d r l)]).destinations[d]? = some D := here
  have sent : Sent d D r l (w.push [.finish (.send d r l)]) _ _ := sent_send
  rw [← start_send begun] at sent
  generalize started : (w.push [.finish (.send d r l)]).start (.send d r l) = result at sent
  obtain ⟨reply, v⟩ := result
  rw [invoke_of_start started]
  refine ⟨fun other => ?_, ?_, ?_⟩
  · have answers := sent.answers
    have again : (w.push [.finish (.send d r l)]).glance.seesRunning = w.glance.seesRunning := by
      rw [glance_eq, glance_eq]
      exact seesRunning_push { w with foreseen := w.foreseen.tail } [.finish (.send d r l)]
    rw [seesRunning_push, again] at answers
    exact ⟨fun own => own ▸ answers, fun holds => answers.unique holds⟩
  · rintro rfl
    obtain ⟨queue, capacity, joined, left⟩ := sent.admitted
    exact ⟨queue, capacity, joined,
      congrArg (fun v : Client => v.record (.invoked (.send d r l) .done)) left⟩
  · rintro x rfl
    obtain ⟨queue, leaves, left⟩ := sent.declined begun
    exact ⟨queue, leaves,
      congrArg (fun v : Client => v.record (.invoked (.send d r l) (.refused x))) left⟩

/-- The narrow client while a request waits for its first connection, and the second check of the
running flag in the next call is going to fail. -/
def narrowTwin : Client :=
  let w := (narrow.invoke (.send 0 (narrowRequest 0) 0)).2.settle
  (w.invoke (.foresee [true, false])).2.settle

/-- That client refuses the request that waits already, and takes back what waited. -/
theorem narrowTwin_declines : ∃ D, narrowTwin.destinations[0]? = some D ∧
    (narrowTwin.invoke (.send 0 (narrowRequest 0) 1)).1 = .refused (.stopping "narrow") ∧
    narrowTwin.Declines 0 D (narrowRequest 0) 1 (.stopping "narrow")
      (narrowTwin.invoke (.send 0 (narrowRequest 0) 1)).2 := by
  have here : narrowTwin.destinations[0]? = some (narrowTwin.destinations.get ⟨0, by decide⟩) :=
    List.getElem?_eq_getElem _
  have refused : (narrowTwin.invoke (.send 0 (narrowRequest 0) 1)).1 =
      .refused (.stopping "narrow") := by decide
  obtain ⟨-, -, declines⟩ := admission here (narrowRequest 0) 1
  exact ⟨_, here, refused, declines _ refused⟩

/-- A call to send a request that is refused leaves the requests and listeners that wait as they
are. -/
def RefusalKeepsQueue (w : Client) : Prop :=
  ∀ d r l x D D', (w.invoke (.send d r l)).1 = .refused x → w.destinations[d]? = some D →
    (w.invoke (.send d r l)).2.destinations[d]? = some D' →
      D'.queue.items.map (fun e => (e.request, e.listener)) =
        D.queue.items.map fun e => (e.request, e.listener)

/-- After the refusal another listener waits for the request than before. -/
theorem narrowTwin_swaps : Reached Anything narrowTwin ∧ narrowTwin.agenda = [] ∧
    ¬ narrowTwin.RefusalKeepsQueue := by
  have new : Reached Anything narrow := .initial (.lone _ _ _ _)
  have waiting := (new.invoke (.send 0 (narrowRequest 0) 0) (by decide) trivial).settle
  have run : Reached Anything narrowTwin :=
    (waiting.invoke (.foresee [true, false]) (by decide) trivial).settle
  refine ⟨run, by decide, fun keeps => ?_⟩
  have same := keeps 0 (narrowRequest 0) 1 (.stopping "narrow") _ _ (by decide)
    (List.getElem?_eq_getElem (by decide)) (List.getElem?_eq_getElem (by decide))
  exact absurd same (by decide)

end Client

end ConnectionPool
