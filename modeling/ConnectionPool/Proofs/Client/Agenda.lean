import ConnectionPool.Proofs.Client.Removal

/-!
# What a step puts on the agenda

A step never looks below the frame on top of the agenda: it takes that frame off, or leaves it, and
puts others on top. `Puts w op f` lists the frames `f` that the start of the operation `op` may put
on the agenda of `w`. Main statements: carrying out a frame leaves what is below it
(`Turned.agenda`), and so does the start of an operation, which puts listed frames on top
(`Started.agenda`).
-/

set_option autoImplicit false

namespace ConnectionPool.Client

/-- `w.Puts op f`: the start of `op` may put `f` on the agenda of `w`. -/
inductive Puts (w : Client) : Operation → Frame → Prop
  | tell {op : Operation} (runs : w.seesRunning = true) (i : Nat) (r : Request) :
      Puts w op (.call (.requestQueued i r))
  | acquire {op : Operation} (runs : w.seesRunning = true) (d : DestinationId) :
      Puts w op (.acquire d)
  | abort (d : DestinationId) (r : RequestId) (reason : String) (e : Exchange) :
      Puts w (.abort d r reason) (.fail d e (.aborted reason))
  | forget (stopped : w.seesRunning = false) (d : DestinationId) (c : ConnectionId) :
      Puts w (.release d c) (.remove d c)
  | hangUp (stopped : w.seesRunning = false) (d : DestinationId) (c : ConnectionId) :
      Puts w (.release d c) (.call (.close c))
  | reuse (runs : w.seesRunning = true) (d : DestinationId) (c : ConnectionId) :
      Puts w (.release d c) (.serve d c false)
  | remove (d : DestinationId) (c : ConnectionId) : Puts w (.remove d c) (.remove d c)
  | close (d : DestinationId) : Puts w (.close d) (.closeIdle d)
  | connect (d : DestinationId) (a : AttemptId) : Puts w (.connect d) (.call (.connect d a))
  | serve {a : AttemptId} {attempt : Attempt} (underWay : w.attempts[a]? = some attempt)
      (pooled : attempt.pooled = true) (c : ConnectionId) :
      Puts w (.settle a (.connected c)) (.serve attempt.destination c true)
  | execute (a : AttemptId) (error : TransportError) (t : TaskId) :
      Puts w (.settle a (.failed error)) (.call (.execute t))
  | deliver (t : TaskId) (c : ConnectionId) (e : Exchange) :
      Puts w (.perform t) (.call (.send c e))
  | failHead (t : TaskId) (d : DestinationId) (e : Exchange) (error : TransportError) :
      Puts w (.perform t) (.fail d e (.unconnected error))
  | stop (d : DestinationId) : Puts w .stop (.closeIdle d)

/-- Carrying out a frame leaves what was below it. -/
theorem Turned.agenda {f : Frame} {w w' : Client} (turn : Turned f w w') :
    ∃ new, w'.agenda = new ++ w.agenda := by
  cases turn with
  | call c | within c | acquireFull here nothing full | parkSurplus here empty full =>
      exact ⟨_, rfl⟩
  | finish op | adrift names missing | takeNone here nothing | removeLast here empty =>
      exact ⟨[], rfl⟩
  | fail d e cause => exact ⟨_, by rw [agenda_push, agenda_countFate, agenda_record]⟩
  | parkIdle here empty room runs => exact ⟨[], agenda_glance w⟩
  | parkStopped here empty room stopped =>
      exact ⟨_, by rw [agenda_push, agenda_countRemoved, agenda_putDestination, agenda_glance]⟩
  | assignDeferred here head unmarked => exact ⟨[_], rfl⟩
  | _ => exact ⟨_, agenda_push _ _⟩

/-- Queueing a request puts nothing on the agenda, unless the client runs. -/
theorem Sent.agenda {d : DestinationId} {dest : Destination} {r : Request} {l : ListenerId}
    {reply : Reply} {w w' : Client} (sent : Sent d dest r l w reply w') :
    w'.agenda = w.agenda ∨ w.seesRunning = true ∧ ∃ n, w'.agenda =
      ((List.range n).map (fun i => .call (.requestQueued i r)) ++ [.acquire d]) ++ w.agenda := by
  cases sent with
  | mismatched error => exact Or.inl rfl
  | stopped meant stopped | full meant runs full => exact Or.inl (agenda_glance w)
  | takenBack meant runs room stops taken => exact Or.inl (by simp)
  | accepted meant runs room stillRuns => exact Or.inr ⟨runs, _, by simp; rfl⟩

/-- The start of an operation puts the listed frames on top of the agenda. -/
theorem Started.agenda {op : Operation} {reply : Reply} {w w' : Client}
    (start : Started op w reply w') :
    ∃ new, w'.agenda = new ++ w.agenda ∧ ∀ f ∈ new, w.Puts op f := by
  have nothing {v : Client} (same : v.agenda = w.agenda) :
      ∃ new, v.agenda = new ++ w.agenda ∧ ∀ f ∈ new, w.Puts op f :=
    ⟨[], same, List.forall_mem_nil _⟩
  have one {v : Client} {f : Frame} (puts : w.Puts op f) (top : v.agenda = f :: w.agenda) :
      ∃ new, v.agenda = new ++ w.agenda ∧ ∀ f ∈ new, w.Puts op f :=
    ⟨[f], top, fun g hg => List.mem_singleton.1 hg ▸ puts⟩
  have queued {v : Client} {n : Nat} {r : Request} {d : DestinationId}
      (runs : w.seesRunning = true) (top : v.agenda =
        ((List.range n).map (fun i => .call (.requestQueued i r)) ++ [.acquire d]) ++ w.agenda) :
      ∃ new, v.agenda = new ++ w.agenda ∧ ∀ f ∈ new, w.Puts op f := by
    refine ⟨_, top, fun f hf => ?_⟩
    rcases List.mem_append.1 hf with told | last
    · obtain ⟨i, -, rfl⟩ := List.mem_map.1 told
      exact .tell runs i r
    · rw [List.mem_singleton.1 last]
      exact .acquire runs d
  cases start with
  | send here sent =>
      rcases sent.agenda with same | ⟨runs, n, top⟩
      · exact nothing same
      · exact queued runs top
  | submit runs meets here sent =>
      have agenda := sent.agenda
      rw [agenda_locate, agenda_glance] at agenda
      rcases agenda with same | ⟨-, n, top⟩
      · exact nothing same
      · exact queued runs top
  | submitStopped stopped | submitUnsupported runs nowhere | releaseStray here runs none =>
      exact nothing (agenda_glance w)
  | submitAdrift runs meets missing => exact nothing (by simp)
  | locate meets => exact nothing (agenda_locate w _)
  | abort here taken => exact one (.abort _ _ _ _) rfl
  | releaseStopped here stopped =>
      refine ⟨[_, _], by rw [agenda_push, agenda_glance], ?_⟩
      intro f hf
      rcases List.mem_cons.1 hf with rfl | last
      · exact .forget stopped _ _
      · rw [List.mem_singleton.1 last]
        exact .hangUp stopped _ _
  | release here runs taken =>
      exact one (.reuse runs _ _) (by rw [agenda_push, agenda_putDestination, agenda_glance]; rfl)
  | remove here => exact one (.remove _ _) rfl
  | close here => exact one (.close _) rfl
  | connect here => exact one (.connect _ _) rfl
  | settleConnected underWay unsettled pooled => exact one (.serve underWay pooled _) rfl
  | settleFailed underWay unsettled pooled here => exact one (.execute _ _ _) rfl
  | deliver held work => exact one (.deliver _ _ _) rfl
  | failHead held work here head => exact one (.failHead _ _ _ _) rfl
  | stop =>
      refine ⟨_, rfl, fun f hf => ?_⟩
      obtain ⟨r, -, rfl⟩ := List.mem_map.1 hf
      exact .stop r.2
  | _ => exact nothing rfl

/-- A call that returns at once leaves a note of itself. -/
theorem resume_turn {w : Client} {c : Call} {rest : List Frame} (top : w.agenda = .call c :: rest) :
    w.turn.resume = ({ w with agenda := rest } : Client).record (.called c) := by
  rw [turn, top]
  rfl

end ConnectionPool.Client
