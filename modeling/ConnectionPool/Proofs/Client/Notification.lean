import ConnectionPool.Notifier
import ConnectionPool.Proofs.Client.Composure

/-!
# Notifications of a client

A client notifies its listeners by calls, one frame each, and a panic takes frames off its agenda.
`Notifier` says what listeners hear without any client. Main statement: an episode that comes to
calls of listeners gets past them, and what they do to the memory of the outside is what `fanOut`
makes of them (`Episode.play_calls`). So listeners that take notes note down of an accepted request
and of a failed exchange what `Notifier` says (`Episode.play_queued`, `Episode.play_fail`).
-/

set_option autoImplicit false

namespace ConnectionPool

open Notifier (Notice Moment Notes Target fanOut guarded notify notifyAll)

variable {σ : Type}

/-- The program that ends so. -/
def Notifier.Ending.conduct : Notifier.Ending → Conduct σ
  | .returned => .returns
  | .panicked => .panics

/-- The program of a callback: it acts on the memory and then returns or panics. -/
def Conduct.ofCallback (f : Notifier.Callback σ) : Conduct σ :=
  .reflects (fun _ memory => (f memory).1) fun _ memory => (f memory).2.conduct

/-- What a call does to the notes of listeners that panic at some of the moments. -/
def Call.noting (listeners : List (List Moment)) : Call → Notifier.Callback Notes
  | .requestQueued i r => Notifier.callback listeners i (.queued r)
  | .requestFailed i r f => Notifier.callback listeners i (.requestFailure r f)
  | .responseFailed e f => Notifier.callback listeners e.listener (.responseFailure e.request f)
  | .completed e result => Notifier.callback listeners e.listener (.complete result)
  | _ => fun notes => (notes, .returned)

/-- The outside whose listeners take notes and panic at some of the moments. -/
def Environment.noting (listeners : List (List Moment)) : Environment Notes where
  connect d a := .ofCallback (Call.noting listeners (.connect d a))
  execute t := .ofCallback (Call.noting listeners (.execute t))
  send c e := .ofCallback (Call.noting listeners (.send c e))
  close c := .ofCallback (Call.noting listeners (.close c))
  requestQueued i r := .ofCallback (Call.noting listeners (.requestQueued i r))
  requestFailed i r f := .ofCallback (Call.noting listeners (.requestFailed i r f))
  responseFailed e f := .ofCallback (Call.noting listeners (.responseFailed e f))
  completed e result := .ofCallback (Call.noting listeners (.completed e result))
  rescue := .returns

theorem Environment.answer_noting (listeners : List (List Moment)) (c : Call) :
    (noting listeners).answer c = .ofCallback (c.noting listeners) := by
  cases c <;> rfl

/-- Who is told what of an exchange that fails for a cause. -/
def Exchange.failureNotices (e : Exchange) (cause : Cause) : List (Target × Notice) :=
  (if cause.reachesRequestListeners then
    [(.everyone, .requestFailure e.request cause.requestFailure)]
  else []) ++
  [(.only e.listener, .responseFailure e.request cause.responseFailure),
    (.only e.listener, .complete (.ofCause e.request cause))]

namespace Episode

variable {env : Environment σ} {s : Episode σ} {fs : List Frame}

theorem play_add (env : Environment σ) (m n : Nat) (s : Episode σ) :
    s.play env (m + n) = (s.play env m).play env n := by
  induction m generalizing s with
  | zero => rw [Nat.zero_add, play]
  | succ m ih => rw [Nat.succ_add, play, play, ih]

theorem Aligned.play (h : s.Aligned) (n : Nat) : (s.play env n).Aligned := by
  induction n generalizing s with
  | zero => exact h
  | succ n ih => exact ih h.step

/-- The episode once calls are over: they are history, and the memory is as they left it. -/
def past (s : Episode σ) (cs : List Call) (memory : σ) (fs : List Frame) : Episode σ :=
  { s with
    client := { s.client with
      agenda := fs
      history := (cs.map .called).reverse ++ s.client.history }
    memory := memory }

/-- A guarded callback is over after three steps, whether it returns or panics. -/
theorem play_call (h : s.Aligned) {c : Call} (top : s.client.agenda = .call c :: fs)
    (guard : c.isGuarded = true) {f : Notifier.Callback σ}
    (answers : env.answer c = .ofCallback f) :
    s.play env 3 = s.past [c] (guarded f s.memory) fs := by
  have begun : s.step env = ⟨(s.past [c] s.memory (.within c :: fs)).client, s.memory,
      ⟨c, .ofCallback f⟩ :: s.callbacks, s.script⟩ := by
    rw [step_of_call top, answers, Client.turn, top]
    rfl
  have acted : (s.step env).step env = ⟨(s.past [c] s.memory (.within c :: fs)).client,
      guarded f s.memory, ⟨c, (f s.memory).2.conduct⟩ :: s.callbacks, s.script⟩ := by
    rw [begun]
    rfl
  have aligned : ((s.step env).step env).Aligned := h.step.step
  rw [play, play, play, play]
  rw [acted] at aligned ⊢
  cases ending : (f s.memory).2 with
  | returned => rfl
  | panicked =>
      -- the panic ends the callback it came from and nothing below it
      rw [ending] at aligned
      exact aligned.unwind_guarded rfl rfl guard

/-- The callbacks of listeners, one after another, do what `fanOut` makes of them. -/
theorem play_calls {cs : List Call} (h : s.Aligned)
    (top : s.client.agenda = cs.map .call ++ fs) (guard : ∀ c ∈ cs, c.isGuarded = true)
    {f : Call → Notifier.Callback σ} (answers : ∀ c ∈ cs, env.answer c = .ofCallback (f c)) :
    s.play env (3 * cs.length) = s.past cs (fanOut (cs.map f) s.memory) fs := by
  induction cs generalizing s with
  | nil =>
      obtain ⟨w, memory, ks, script⟩ := s
      cases top
      rfl
  | cons c cs ih =>
      obtain ⟨own, others⟩ := List.forall_mem_cons.1 guard
      obtain ⟨first, rest⟩ := List.forall_mem_cons.1 answers
      have ended := play_call h top own first
      have aligned : (s.play env 3).Aligned := h.play 3
      rw [ended] at aligned
      rw [List.length_cons, Nat.mul_succ, Nat.add_comm, play_add, ended,
        ih aligned rfl others rest]
      simp only [past, List.map_cons, List.reverse_cons, List.append_assoc]
      rfl

variable {listeners : List (List Moment)} {s : Episode Notes}

/-- The calls of a failed exchange do to the notes what its notices say. -/
theorem fanOut_failureCalls {w : Client} (all : w.listeners = listeners.length) (e : Exchange)
    (cause : Cause) (notes : Notes) :
    fanOut ((w.failureCalls e cause).map (Call.noting listeners)) notes =
      notifyAll listeners (e.failureNotices cause) notes := by
  rw [Client.failureCalls, Exchange.failureNotices, all]
  split
  · rw [List.map_append, List.map_map, fanOut, List.foldl_append]
    rfl
  · rfl

/-- The listeners of a client note down of an accepted request what they are told. -/
theorem play_queued (h : s.Aligned) {r : Request}
    (top : s.client.agenda =
      ((List.range listeners.length).map fun i => .requestQueued i r).map .call ++ fs) :
    s.play (.noting listeners) (3 * listeners.length) =
      s.past ((List.range listeners.length).map fun i => .requestQueued i r)
        (notify listeners .everyone (.queued r) s.memory) fs := by
  have told := play_calls h top (by simp [Call.isGuarded])
    fun c _ => Environment.answer_noting listeners c
  rwa [List.length_map, List.length_range, List.map_map] at told

/-- The listeners of a client note down of a failed exchange what they are told: request listeners
only where the cause concerns them, and the listener of the exchange of the failure and then of the
result. -/
theorem play_fail (h : s.Aligned) {d : DestinationId} {e : Exchange} {cause : Cause}
    (top : s.client.agenda = .fail d e cause :: fs)
    (all : s.client.listeners = listeners.length) :
    ∃ n, (s.play (.noting listeners) n).memory =
        notifyAll listeners (e.failureNotices cause) s.memory ∧
      (s.play (.noting listeners) n).client.agenda = fs ∧
      (s.play (.noting listeners) n).callbacks = s.callbacks ∧
      (s.play (.noting listeners) n).script = s.script := by
  have step : s.step (.noting listeners) = _ := step_of_other top (by simp) (by simp)
  have aligned : (s.step (.noting listeners)).Aligned := h.step
  have turned : s.client.turn.agenda = (s.client.failureCalls e cause).map .call ++ fs := by
    rw [Client.turn, top]
    cases cause <;> rfl
  rw [step] at aligned
  have told := play_calls (s := { s with client := s.client.turn }) aligned turned
    (fun _ => Client.isGuarded_of_mem_failureCalls) fun c _ => Environment.answer_noting listeners c
  refine ⟨1 + 3 * (s.client.failureCalls e cause).length, ?_⟩
  rw [play_add, play, play, step, told]
  exact ⟨fanOut_failureCalls all e cause s.memory, rfl, rfl, rfl⟩

end Episode

end ConnectionPool
