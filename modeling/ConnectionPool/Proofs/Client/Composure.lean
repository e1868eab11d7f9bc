import ConnectionPool.Proofs.Client.Agenda
import ConnectionPool.Proofs.Exchange.Reporting

/-!
# Panics of listeners

The outside of a client consists of programs: the callbacks, one for each call, and a script that
runs between outermost operations. A program may invoke operations and go on with their replies, it
may look at the client and use a memory that it shares with the others, and it ends by returning or
by a panic. An episode is a client with its outside, and it takes one step after the other: a turn
of the client, or one act of the innermost program.

The calmed outside is the one whose listeners return where they panicked. Main statement: an episode
takes the same steps with the calmed outside (`Episode.play_calmed`), so a panic of a listener ends
that callback and changes nothing else (`Episode.panics_change_nothing`). An outside in which
nothing but listeners panics plays runs in the sense of `Client.Reached` (`Episode.reached_play`).
-/

set_option autoImplicit false

namespace ConnectionPool

variable {σ : Type}

/-! ## The outside -/

/-- What a program of the outside does, given the memory `σ` that these programs share. -/
inductive Conduct (σ : Type) where
  | returns
  | panics
  /-- It invokes an operation, and goes on once the operation is over. -/
  | invokes (op : Operation) (next : Reply → Conduct σ)
  /-- It looks at the client and at the memory, and changes the memory. -/
  | reflects (change : Client → σ → σ) (next : Client → σ → Conduct σ)

namespace Conduct

/-- The program that returns where this one panics. -/
def calmed : Conduct σ → Conduct σ
  | returns => returns
  | panics => returns
  | invokes op next => invokes op fun reply => (next reply).calmed
  | reflects change next => reflects change fun w m => (next w m).calmed

/-- The program never panics. -/
def Calm : Conduct σ → Prop
  | returns => True
  | panics => False
  | invokes _ next => ∀ reply, (next reply).Calm
  | reflects _ next => ∀ w m, (next w m).Calm

end Conduct

/-- What the outside does on each call. -/
structure Environment (σ : Type) where
  connect : DestinationId → AttemptId → Conduct σ
  execute : TaskId → Conduct σ
  send : ConnectionId → Exchange → Conduct σ
  close : ConnectionId → Conduct σ
  requestQueued : Nat → Request → Conduct σ
  requestFailed : Nat → Request → ExchangeFailure → Conduct σ
  responseFailed : Exchange → ExchangeFailure → Conduct σ
  completed : Exchange → ExchangeResult → Conduct σ
  /-- What the script does once a panic has come through to it. -/
  rescue : Conduct σ

namespace Environment

def answer (env : Environment σ) : Call → Conduct σ
  | .connect d a => env.connect d a
  | .execute t => env.execute t
  | .send c e => env.send c e
  | .close c => env.close c
  | .requestQueued i r => env.requestQueued i r
  | .requestFailed i r f => env.requestFailed i r f
  | .responseFailed e f => env.responseFailed e f
  | .completed e result => env.completed e result

/-- The outside whose listeners return where they panicked. -/
def calmed (env : Environment σ) : Environment σ :=
  { env with
    requestQueued := fun i r => (env.requestQueued i r).calmed
    requestFailed := fun i r f => (env.requestFailed i r f).calmed
    responseFailed := fun e f => (env.responseFailed e f).calmed
    completed := fun e result => (env.completed e result).calmed }

end Environment

/-- A callback that has not returned, with what it still does. -/
structure Callback (σ : Type) where
  call : Call
  rest : Conduct σ

namespace Callback

/-- The callback of a listener returns where it panicked; any other is as it was. -/
def calmed (k : Callback σ) : Callback σ :=
  if k.call.isGuarded then { k with rest := k.rest.calmed } else k

/-- What a panic leaves of the callbacks, innermost first: it ends them up to the innermost that is
guarded. -/
def unwound : List (Callback σ) → List (Callback σ)
  | [] => []
  | k :: rest => if k.call.isGuarded then rest else unwound rest

/-- One of the callbacks is guarded, so a panic does not come through. -/
def catches (ks : List (Callback σ)) : Bool := ks.any (·.call.isGuarded)

end Callback

/-! ## Episodes -/

/-- A client and its outside. -/
structure Episode (σ : Type) where
  client : Client
  memory : σ
  /-- The callbacks that have not returned, innermost first. -/
  callbacks : List (Callback σ)
  /-- What the outside still does between outermost operations. -/
  script : Conduct σ

namespace Episode

/-- A panic ends callbacks up to the innermost that is guarded. If there is none it comes through to
the script. -/
def unwind (env : Environment σ) (s : Episode σ) : Episode σ :=
  { s with
    client := s.client.panic
    callbacks := Callback.unwound s.callbacks
    script := if Callback.catches s.callbacks then s.script else env.rescue }

/-- The innermost program does its next act: the callback on top, or else the script. -/
def attend (env : Environment σ) (s : Episode σ) : Episode σ :=
  match s.callbacks with
  | [] =>
      match s.script with
      | .returns => s
      | .panics => s.unwind env
      | .invokes op next =>
          { s with client := (s.client.invoke op).2, script := next (s.client.invoke op).1 }
      | .reflects change next =>
          { s with memory := change s.client s.memory, script := next s.client s.memory }
  | k :: rest =>
      match k.rest with
      | .returns => { s with client := s.client.resume, callbacks := rest }
      | .panics => s.unwind env
      | .invokes op next =>
          { s with
            client := (s.client.invoke op).2
            callbacks := { k with rest := next (s.client.invoke op).1 } :: rest }
      | .reflects change next =>
          { s with
            memory := change s.client s.memory
            callbacks := { k with rest := next s.client s.memory } :: rest }

/-- One step: a turn of the client, or where the client awaits the outside, an act of the outside. A
call begins a callback. -/
def step (env : Environment σ) (s : Episode σ) : Episode σ :=
  match s.client.agenda with
  | [] => s.attend env
  | .within _ :: _ => s.attend env
  | .call c :: _ =>
      { s with client := s.client.turn, callbacks := ⟨c, env.answer c⟩ :: s.callbacks }
  | _ :: _ => { s with client := s.client.turn }

/-- The episode after `n` steps. -/
def play (env : Environment σ) : Nat → Episode σ → Episode σ
  | 0, s => s
  | n + 1, s => play env n (s.step env)

/-- An episode begins between two outermost steps of the client. -/
def opening (w : Client) (memory : σ) (script : Conduct σ) : Episode σ := ⟨w, memory, [], script⟩

/-- The episode whose listeners return where they are going to panic. -/
def calmed (s : Episode σ) : Episode σ := { s with callbacks := s.callbacks.map (·.calmed) }

end Episode

/-! ## Callbacks and frames -/

/-- The call whose callback a frame stands for. -/
def Frame.callback? : Frame → Option Call
  | .within c => some c
  | _ => none

namespace Client

variable {w w' : Client}

/-- The calls that have not returned, innermost first. -/
def entered (w : Client) : List Call := w.agenda.filterMap Frame.callback?

theorem entered_of_agenda {new : List Frame} (agenda : w'.agenda = new ++ w.agenda)
    (none : ∀ f ∈ new, f.callback? = none) : w'.entered = w.entered := by
  rw [entered, agenda, List.filterMap_append, List.filterMap_eq_nil_iff.2 none]
  rfl

/-- Only making a call leads into a callback, and no turn leads out of one. -/
theorem Turned.entered {f : Frame} (turn : Turned f w w') (uncalled : ∀ c, f ≠ .call c)
    (outside : ∀ c, f ≠ .within c) : w'.entered = w.entered := by
  cases turn with
  | call c => exact absurd rfl (uncalled c)
  | within c => exact absurd rfl (outside c)
  | fail d e cause => exact entered_of_agenda (by simp; rfl) (by simp [Frame.callback?])
  | parkIdle here empty room runs | parkStopped here empty room stopped =>
      simp [Client.entered, List.filterMap_cons, Frame.callback?]
  | closeIdle here | closeActive here | failQueued here =>
      exact entered_of_agenda rfl (by simp [or_imp, forall_and, Frame.callback?])
  | _ => rfl

theorem entered_invoke (w : Client) (op : Operation) : (w.invoke op).2.entered = w.entered := by
  obtain ⟨new, agenda, puts⟩ := (started_start op (w.push [.finish op])).agenda
  have opened : (w.push [.finish op]).entered = w.entered := rfl
  refine (entered_of_agenda agenda fun f hf => ?_).trans opened
  cases puts f hf <;> rfl

end Client

namespace Callback

@[simp] theorem call_calmed (k : Callback σ) : k.calmed.call = k.call := by
  rw [calmed]
  split <;> rfl

theorem unwound_calmed (ks : List (Callback σ)) :
    unwound (ks.map (·.calmed)) = (unwound ks).map (·.calmed) := by
  induction ks with
  | nil => rfl
  | cons k ks ih =>
      rw [List.map_cons, unwound, unwound, call_calmed]
      split
      · rfl
      · exact ih

theorem catches_calmed (ks : List (Callback σ)) :
    catches (ks.map (·.calmed)) = catches ks := by
  simp only [catches, List.any_map, Function.comp_def, call_calmed]

/-- A panic ends the callbacks whose frames it takes off the agenda. -/
theorem unwound_frames {ks : List (Callback σ)} {fs : List Frame}
    (aligned : ks.map (·.call) = fs.filterMap Frame.callback?) :
    (unwound ks).map (·.call) = (Client.unwound fs).filterMap Frame.callback? := by
  -- on the frames: those that stand for no callback are passed over
  induction fs generalizing ks with
  | nil =>
      cases List.map_eq_nil_iff.1 aligned
      rfl
  | cons f fs ih =>
      cases f with
      | within c =>
          obtain ⟨k, ks', rfl, rfl, further⟩ := List.map_eq_cons_iff.1 aligned
          rw [unwound, Client.unwound]
          split
          · exact further
          · exact ih further
      | _ => exact ih aligned

end Callback

theorem Environment.answer_calmed (env : Environment σ) (c : Call) :
    (⟨c, env.calmed.answer c⟩ : Callback σ) = (⟨c, env.answer c⟩ : Callback σ).calmed := by
  cases c <;> rfl

/-! ## Steps -/

namespace Episode

open Client (watched narrowRequest)

variable {env : Environment σ} {s : Episode σ}

/-- The callbacks that have not returned are those that the agenda says. -/
def Aligned (s : Episode σ) : Prop := s.callbacks.map (·.call) = s.client.entered

theorem aligned_opening {w : Client} (quiet : w.agenda = []) (memory : σ) (script : Conduct σ) :
    (opening w memory script).Aligned := by
  show [] = w.agenda.filterMap Frame.callback?
  rw [quiet]
  rfl

theorem Aligned.unwind (h : s.Aligned) : (s.unwind env).Aligned := Callback.unwound_frames h

/-- The frame of the callback on top is on top of the agenda of a client that awaits the outside. -/
theorem Aligned.top (h : s.Aligned) (waits : s.client.awaits = true) {k : Callback σ}
    {rest : List (Callback σ)} (top : s.callbacks = k :: rest) :
    ∃ fs, s.client.agenda = .within k.call :: fs ∧
      rest.map (·.call) = fs.filterMap Frame.callback? := by
  rw [Aligned, Client.entered, top, List.map_cons] at h
  simp only [Client.awaits] at waits
  split at waits
  · next empty =>
      rw [empty] at h
      cases h
  · next c fs inside =>
      rw [inside] at h
      obtain ⟨same, further⟩ := List.cons.inj h
      exact ⟨fs, inside.trans (congrArg (.within · :: fs) same.symm), further⟩
  · cases waits

theorem Aligned.attend (h : s.Aligned) (waits : s.client.awaits = true) :
    (s.attend env).Aligned := by
  rw [Episode.attend]
  split
  · split
    · exact h
    · exact h.unwind
    · exact h.trans (Client.entered_invoke _ _).symm
    · exact h
  · next k rest top =>
      split
      · obtain ⟨fs, inside, further⟩ := h.top waits top
        rw [Aligned, Client.entered, Client.resume, inside]
        exact further
      · exact h.unwind
      · rw [Aligned, top] at h
        exact h.trans (Client.entered_invoke _ _).symm
      · rw [Aligned, top] at h
        exact h

/-- Where the client awaits the outside, the outside acts. -/
theorem step_of_awaits (waits : s.client.awaits = true) : s.step env = s.attend env := by
  simp only [Client.awaits] at waits
  rw [step]
  split at waits
  · next empty => rw [empty]
  · next c fs inside => rw [inside]
  · cases waits

theorem step_of_call {c : Call} {rest : List Frame} (top : s.client.agenda = .call c :: rest) :
    s.step env =
      { s with client := s.client.turn, callbacks := ⟨c, env.answer c⟩ :: s.callbacks } := by
  rw [step, top]

theorem step_of_other {f : Frame} {rest : List Frame} (top : s.client.agenda = f :: rest)
    (uncalled : ∀ c, f ≠ .call c) (outside : ∀ c, f ≠ .within c) :
    s.step env = { s with client := s.client.turn } := by
  rw [step, top]
  cases f with
  | call c => exact absurd rfl (uncalled c)
  | within c => exact absurd rfl (outside c)
  | _ => rfl

/-- The outside acts, or a call is made, or another turn is taken. -/
theorem step_cases (s : Episode σ) : s.client.awaits = true ∨
    (∃ c rest, s.client.agenda = .call c :: rest) ∨
    ∃ f rest, s.client.agenda = f :: rest ∧ (∀ c, f ≠ .call c) ∧ ∀ c, f ≠ .within c := by
  cases waits : s.client.awaits with
  | true => exact Or.inl rfl
  | false =>
      obtain ⟨f, rest, top, outside⟩ := Client.not_awaits_iff.1 waits
      refine Or.inr ?_
      cases f with
      | call c => exact Or.inl ⟨c, rest, top⟩
      | _ => exact Or.inr ⟨_, rest, top, by simp, outside⟩

theorem Aligned.step (h : s.Aligned) : (s.step env).Aligned := by
  rcases step_cases s with waits | ⟨c, rest, top⟩ | ⟨f, rest, top, uncalled, outside⟩
  · rw [step_of_awaits waits]
    exact h.attend waits
  · rw [Aligned, Client.entered, top] at h
    rw [step_of_call top, Aligned, Client.entered, Client.agenda_turn_call top]
    exact congrArg (c :: ·) h
  · obtain ⟨v, pushed, turned⟩ := Client.turned_of_top top
    have below : s.client.entered = v.entered := by
      rw [pushed]
      cases f with
      | within c => exact absurd rfl (outside c)
      | _ => rfl
    rw [step_of_other top uncalled outside]
    exact (h.trans below).trans (turned.entered uncalled outside).symm

/-! ## Calmed episodes -/

theorem unwind_calmed (env : Environment σ) (s : Episode σ) :
    s.calmed.unwind env.calmed = (s.unwind env).calmed := by
  have left := Callback.unwound_calmed s.callbacks
  have caught := Callback.catches_calmed s.callbacks
  simp only [unwind, calmed] at left caught ⊢
  rw [left]
  simp only [caught]
  rfl

/-- A panic of a listener ends its callback, as if it had returned. -/
theorem Aligned.unwind_guarded (h : s.Aligned) (waits : s.client.awaits = true) {k : Callback σ}
    {rest : List (Callback σ)} (top : s.callbacks = k :: rest) (guarded : k.call.isGuarded = true) :
    s.unwind env = { s with client := s.client.resume, callbacks := rest } := by
  obtain ⟨fs, inside, -⟩ := h.top waits top
  have same : s.client.panic = s.client.resume := by
    rw [Client.panic, Client.resume, inside, Client.unwound, if_pos guarded]
  have left : Callback.unwound s.callbacks = rest := by
    rw [top, Callback.unwound, if_pos guarded]
  have caught : Callback.catches s.callbacks = true := by
    rw [top, Callback.catches, List.any_cons, guarded, Bool.true_or]
  rw [Episode.unwind, same, left, if_pos caught]

theorem calmed_guarded {c : Call} (guarded : c.isGuarded = true) (w : Client) (memory : σ)
    (does : Conduct σ) (rest : List (Callback σ)) (script : Conduct σ) :
    calmed ⟨w, memory, ⟨c, does⟩ :: rest, script⟩ =
      ⟨w, memory, ⟨c, does.calmed⟩ :: rest.map (·.calmed), script⟩ := by
  have own : (⟨c, does⟩ : Callback σ).calmed = ⟨c, does.calmed⟩ := if_pos guarded
  rw [calmed, List.map_cons, own]

theorem calmed_unguarded {c : Call} (unguarded : ¬ c.isGuarded = true) (w : Client) (memory : σ)
    (does : Conduct σ) (rest : List (Callback σ)) (script : Conduct σ) :
    calmed ⟨w, memory, ⟨c, does⟩ :: rest, script⟩ =
      ⟨w, memory, ⟨c, does⟩ :: rest.map (·.calmed), script⟩ := by
  have own : (⟨c, does⟩ : Callback σ).calmed = ⟨c, does⟩ := if_neg unguarded
  rw [calmed, List.map_cons, own]

/-- The innermost program does the same whether or not the listeners are calmed, except that a
listener returns where it panicked, and both end its callback. -/
theorem attend_calmed (h : s.Aligned) (waits : s.client.awaits = true) :
    s.calmed.attend env.calmed = (s.attend env).calmed := by
  obtain ⟨w, memory, ks, script⟩ := s
  cases ks with
  | nil =>
      cases script with
      | panics => exact unwind_calmed env _
      | _ => rfl
  | cons k rest =>
      obtain ⟨c, does⟩ := k
      by_cases guarded : c.isGuarded = true
      · -- a listener: where it panics its calmed form returns, and `resume` follows either way
        rw [calmed_guarded guarded]
        cases does with
        | returns => rfl
        | panics => exact (congrArg calmed (h.unwind_guarded waits rfl guarded)).symm
        | invokes op next => exact (calmed_guarded guarded _ _ _ _ _).symm
        | reflects change next => exact (calmed_guarded guarded _ _ _ _ _).symm
      · -- any other callback is not calmed, so only what lies below it differs
        cases does with
        | returns =>
            rw [calmed_unguarded guarded]
            rfl
        | panics =>
            have calm := unwind_calmed env ⟨w, memory, ⟨c, .panics⟩ :: rest, script⟩
            rw [calmed_unguarded guarded] at calm ⊢
            exact calm
        | invokes op next =>
            rw [calmed_unguarded guarded]
            exact (calmed_unguarded guarded _ _ _ _ _).symm
        | reflects change next =>
            rw [calmed_unguarded guarded]
            exact (calmed_unguarded guarded _ _ _ _ _).symm

theorem step_calmed (h : s.Aligned) : s.calmed.step env.calmed = (s.step env).calmed := by
  rcases step_cases s with waits | ⟨c, rest, top⟩ | ⟨f, rest, top, uncalled, outside⟩
  · rw [step_of_awaits waits, ← attend_calmed h waits]
    exact step_of_awaits waits
  · rw [step_of_call top, step_of_call (s := s.calmed) top, env.answer_calmed]
    rfl
  · rw [step_of_other top uncalled outside]
    exact step_of_other top uncalled outside

/-- An episode takes the same steps with an outside whose listeners return where they panicked. -/
theorem play_calmed (h : s.Aligned) (n : Nat) :
    s.calmed.play env.calmed n = (s.play env n).calmed := by
  induction n generalizing s with
  | zero => rfl
  | succ n ih =>
      rw [play, play, step_calmed h]
      exact ih h.step

/-- Whatever listeners do and wherever they panic, after every step the client, its history with all
calls and replies, the memory of the outside and what is left of the script are what they are if
these listeners return where they panicked. -/
theorem panics_change_nothing (env : Environment σ) {w : Client} (quiet : w.agenda = [])
    (memory : σ) (script : Conduct σ) (n : Nat) :
    ((opening w memory script).play env.calmed n).client =
        ((opening w memory script).play env n).client ∧
      ((opening w memory script).play env.calmed n).memory =
        ((opening w memory script).play env n).memory ∧
      ((opening w memory script).play env.calmed n).script =
        ((opening w memory script).play env n).script ∧
      ((opening w memory script).play env.calmed n).callbacks.map (·.call) =
        ((opening w memory script).play env n).callbacks.map (·.call) := by
  have same : (opening w memory script).play env.calmed n =
      ((opening w memory script).play env n).calmed :=
    play_calmed (aligned_opening quiet memory script) n
  rw [same]
  refine ⟨rfl, rfl, rfl, ?_⟩
  simp only [calmed, List.map_map, Function.comp_def, Callback.call_calmed]

/-- An outside whose request listener sends a second request when it is told of the first. Every
listener panics at the end of what it does. The memory counts what was queued. -/
def meddling : Environment Nat where
  connect _ _ := .returns
  execute _ := .returns
  send _ _ := .returns
  close _ := .returns
  requestQueued _ _ := .reflects (fun _ heard => heard + 1) fun _ heard =>
    if heard = 0 then .invokes (.send 0 (narrowRequest 1) 0) fun _ => .panics else .panics
  requestFailed _ _ _ := .panics
  responseFailed _ _ := .panics
  completed _ _ := .panics
  rescue := .returns

/-- A request is sent, and the destination is closed while it waits. -/
def sendAndClose : Conduct Nat :=
  .invokes (.send 0 (narrowRequest 0) 0) fun _ => .invokes (.close 0) fun _ => .returns

/-- The watched client deals with both requests, one of them sent from within a callback that
panicked, as if no listener had panicked. -/
theorem watched_meddled : watched.agenda = [] ∧
    (∃ rest, ((opening watched 0 sendAndClose).play meddling 6).callbacks =
      ⟨.requestQueued 0 (narrowRequest 1), .panics⟩ :: rest) ∧
    ((opening watched 0 sendAndClose).play meddling 60).client.agenda = [] ∧
    ((opening watched 0 sendAndClose).play meddling 60).client.metrics.requestsQueued = 2 ∧
    ((opening watched 0 sendAndClose).play meddling.calmed 60).client =
      ((opening watched 0 sendAndClose).play meddling 60).client := by
  refine ⟨rfl, ⟨_, rfl⟩, by decide, by decide, ?_⟩
  exact (panics_change_nothing meddling rfl 0 sendAndClose 60).1

/-! ## Episodes are runs -/

/-- A run has led here, and what the outside still does panics in listeners only. -/
structure Sound (s : Episode σ) : Prop where
  aligned : s.Aligned
  callbacks : ∀ k ∈ s.callbacks, k.call.isGuarded = false → k.rest.Calm
  script : s.script.Calm
  reached : Client.Reached Client.Anything s.client

namespace Sound

theorem attend (h : s.Sound) (waits : s.client.awaits = true) : (s.attend env).Sound := by
  have aligned : (s.attend env).Aligned := h.aligned.attend waits
  obtain ⟨w, memory, ks, script⟩ := s
  cases ks with
  | nil =>
      cases script with
      | returns => exact h
      | panics => exact absurd h.script id
      | invokes op next =>
          exact ⟨aligned, h.callbacks, h.script _, h.reached.invoke op waits trivial⟩
      | reflects change next => exact ⟨aligned, h.callbacks, h.script _ _, h.reached⟩
  | cons k rest =>
      obtain ⟨own, others⟩ := List.forall_mem_cons.1 h.callbacks
      obtain ⟨fs, inside, -⟩ := h.aligned.top waits rfl
      obtain ⟨c, does⟩ := k
      cases does with
      | returns => exact ⟨aligned, others, h.script, h.reached.step (.resume inside)⟩
      | panics =>
          by_cases guarded : c.isGuarded = true
          · -- the panic of a listener is a return as far as the client can tell
            have ended : Episode.unwind env ⟨w, memory, ⟨c, .panics⟩ :: rest, script⟩ = _ :=
              h.aligned.unwind_guarded waits rfl guarded
            change (Episode.unwind env _).Sound
            rw [ended]
            exact ⟨ended ▸ aligned, others, h.script, h.reached.step (.resume inside)⟩
          · exact absurd (own (Bool.eq_false_iff.2 guarded)) id
      | invokes op next =>
          exact ⟨aligned, List.forall_mem_cons.2 ⟨fun unguarded => own unguarded _, others⟩,
            h.script, h.reached.invoke op waits trivial⟩
      | reflects change next =>
          exact ⟨aligned, List.forall_mem_cons.2 ⟨fun unguarded => own unguarded _ _, others⟩,
            h.script, h.reached⟩

theorem step (h : s.Sound) (calm : ∀ c, c.isGuarded = false → (env.answer c).Calm) :
    (s.step env).Sound := by
  have aligned : (s.step env).Aligned := h.aligned.step
  rcases step_cases s with waits | ⟨c, rest, top⟩ | ⟨f, rest, top, uncalled, outside⟩
  · rw [step_of_awaits waits]
    exact h.attend waits
  · have busy := Client.not_awaits_iff.2 ⟨_, rest, top, fun _ => by simp⟩
    rw [step_of_call top] at aligned ⊢
    exact ⟨aligned, List.forall_mem_cons.2 ⟨calm c, h.callbacks⟩, h.script,
      h.reached.step (.turn busy)⟩
  · have busy := Client.not_awaits_iff.2 ⟨f, rest, top, outside⟩
    rw [step_of_other top uncalled outside] at aligned ⊢
    exact ⟨aligned, h.callbacks, h.script, h.reached.step (.turn busy)⟩

end Sound

/-- If nothing but listeners panics, an episode is a run. -/
theorem reached_play (calm : ∀ c, c.isGuarded = false → (env.answer c).Calm) {w : Client}
    (run : Client.Reached Client.Anything w) (quiet : w.agenda = []) (memory : σ)
    {script : Conduct σ} (composed : script.Calm) (n : Nat) :
    Client.Reached Client.Anything ((opening w memory script).play env n).client := by
  have sound : (opening w memory script).Sound :=
    ⟨aligned_opening quiet memory script, List.forall_mem_nil _, composed, run⟩
  generalize opening w memory script = s at sound
  induction n generalizing s with
  | zero => exact sound.reached
  | succ n ih => exact ih _ (sound.step calm)

end Episode

end ConnectionPool
