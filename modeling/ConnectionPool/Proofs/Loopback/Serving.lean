import ConnectionPool.Proofs.Exchange.Recall
import ConnectionPool.Proofs.Loopback.Hearing

/-!
# Simulations that only serve

A script that never stops the client sends requests, looks destinations up, takes requests back and
gives them up (`Serving`). If connections can be made, such a simulation `Hosts` the listeners that
panic, and it `Serves` if there are none. Main statements: its client has a peaceful outside
(`Simulation.Hosts.smooth`), and none of its connections is ever closed
(`Simulation.Hosts.unsevered`).
-/

set_option autoImplicit false

namespace ConnectionPool

namespace Loopback

/-- What a script may ask for that never stops the client: it sends requests, looks destinations up,
takes requests back and gives them up. -/
def Serving : Operation → Prop
  | .submit _ _ => True
  | .locate _ _ _ => True
  | .abort _ _ _ => True
  | .mark _ => True
  | _ => False

theorem scripted_of_serving (op : Operation) (may : Serving op) : Scripted op := by
  cases op <;> trivial

theorem peaceful_of_serving {w : Client} {op : Operation} (may : Serving op) :
    Client.Peaceful w op := by
  cases op <;> trivial

/-! ## Nothing goes wrong on the transport -/

/-- Connections can be made, the listeners that panic are these, and every connection that is being
made will be there. -/
structure Untroubled (panicking : List ListenerId) (t : Transport) : Prop where
  connects : t.timings.failConnect = false
  panics : t.panicking = panicking
  numbered : ∀ a d, .connect a none d ∉ t.jobs

variable {panicking : List ListenerId}

theorem Done.untroubled {s : Simulation} {j : Job} {t : Transport} {op : Option Operation}
    (done : Done s j t op) (h : Untroubled panicking s.transport) : Untroubled panicking t := by
  obtain ⟨connects, panics, numbered⟩ := h
  cases done <;> exact ⟨connects, panics, numbered⟩

theorem Untroubled.schedule {t : Transport} (h : Untroubled panicking t) {j : Job}
    (numbered : ∀ a d, j ≠ .connect a none d) (rested : Bool) :
    Untroubled panicking (t.schedule j rested) where
  connects := h.connects
  panics := h.panics
  numbered a d there :=
    (List.mem_cons.1 ((perm_jobs_schedule t j rested).mem_iff.1 there)).elim
      (fun own => numbered a d own.symm) (h.numbered a d)

theorem Untroubled.called {t : Transport} (h : Untroubled panicking t) (w : Client) (c : Call) :
    Untroubled panicking (Transport.called w c t) := by
  cases c with
  | connect d a =>
      -- connections can be made, so the new one gets a number
      have made : Untroubled panicking { t with made := t.made + 1 } :=
        ⟨h.connects, h.panics, h.numbered⟩
      simp only [Transport.called]
      rw [h.connects]
      exact made.schedule (fun _ _ own => by cases own) false
  | execute k | send c e => exact h.schedule (fun _ _ own => by cases own) false
  | _ => exact ⟨h.connects, h.panics, h.numbered⟩

namespace Simulation

variable {s s' : Simulation}

/-- The simulation has run a script that never stops the client, connections can be made, and these
listeners panic. -/
inductive Hosts (panicking : List ListenerId) : Simulation → Prop
  | start {w : Client} {timings : LoopbackTimings} (new : Client.Initial w)
      (connects : timings.failConnect = false) : Hosts panicking ⟨w, { timings, panicking }⟩
  | step {s s' : Simulation} (past : Hosts panicking s) (next : Step Serving s s') :
      Hosts panicking s'

/-- The simulation has run a script that never stops the client, connections can be made, and no
listener panics. -/
abbrev Serves : Simulation → Prop := Hosts []

theorem Runs.hosts (run : Runs Serving s s') (hosts : Hosts panicking s) : Hosts panicking s' := by
  induction run with
  | refl => exact hosts
  | tail _ next ih => exact ih.step next

theorem Runs.serves (run : Runs Serving s s') (serves : Serves s) : Serves s' := run.hosts serves

namespace Hosts

theorem run (hosts : Hosts panicking s) : Reached Serving s := by
  induction hosts with
  | start new connects => exact .start new _
  | step _ next ih => exact ih.step next

theorem scripted (hosts : Hosts panicking s) : Reached Scripted s :=
  hosts.run.mono scripted_of_serving

/-- What new simulations have in which connections can be made, and every part of a step keeps,
holds of every simulation that hosts these listeners. -/
theorem keeps {P : Client → Transport → Prop}
    (first : ∀ {w}, Client.Initial w → ∀ timings, timings.failConnect = false →
      P w { timings, panicking })
    (keeps : Keeps (Hosts panicking) Serving P) (hosts : Hosts panicking s) :
    P s.client s.transport := by
  induction hosts with
  | start new connects => exact first new _ connects
  | step past next ih => exact next.keeps keeps past past.run ih

end Hosts

/-! ## The outside of the client -/

theorem keeps_untroubled :
    Keeps (Hosts panicking) Serving fun _ t => Untroubled panicking t where
  moved _ moved h :=
    ⟨moved.timings ▸ h.connects, moved.panicking.trans h.panics, fun a d there =>
      h.numbered a d (moved.jobs.mem_iff.1 there)⟩
  command _ _ h := h
  done _ next done h := by
    refine done.untroubled ⟨h.connects, h.panics, fun a d there => h.numbered a d ?_⟩
    exact (perm_jobs next).mem_iff.2 (List.mem_cons_of_mem _ there)
  drives := ⟨fun _ _ _ h => h, fun _ h => h.called _ _⟩

namespace Hosts

theorem untroubled (hosts : Hosts panicking s) : Untroubled panicking s.transport :=
  hosts.keeps (P := fun _ t => Untroubled panicking t)
    (fun _ _ connects => ⟨connects, rfl, fun _ _ => List.not_mem_nil⟩) keeps_untroubled

/-- A job that is taken off the run queue has the client start what a peaceful outside may. -/
theorem peaceful_of_done (hosts : Hosts panicking s) {before after : List Turn} {j : Turn}
    (next : s.transport.ready = before ++ j :: after) {t : Transport} {op : Operation} {w : Client}
    (done : Done { s with transport := { s.transport with ready := before ++ after } } j.job t
      (some op)) : Client.Peaceful w op := by
  have there : j.job ∈ s.transport.jobs := (perm_jobs next).mem_iff.2 List.mem_cons_self
  generalize j.job = job at done there
  cases done with
  | refused name => exact absurd there (hosts.untroubled.numbered _ _)
  | connected => exact ⟨_, rfl⟩
  | returned here opened home => trivial
  | performed => trivial

/-- The outside of the client is peaceful. -/
theorem smooth (hosts : Hosts panicking s) : Client.Reached Client.Peaceful s.client := by
  induction hosts with
  | start new connects => exact .initial new
  | @step s s' past next ih =>
      have goesOn (t : Transport) {op : Operation} (may : Client.Peaceful s.client op) :
          Client.Reached Client.Peaceful (({ s with transport := t }).invoke op).2.client :=
        (ih.invoke op past.run.waits may).drive
      rcases next.cases with ⟨op, may, rfl⟩ | ⟨t, -, rfl⟩ |
        ⟨before, j, after, t, op, top, done, rfl⟩
      · exact goesOn s.transport (peaceful_of_serving may)
      · exact ih
      · cases op with
        | none => exact ih
        | some op => exact goesOn t (past.peaceful_of_done top done)

theorem once (hosts : Hosts panicking s) (d : DestinationId) :
    (delivered (s.client.attemptsOf d)).Nodup :=
  hosts.scripted.delivered_once d

theorem serene (hosts : Hosts panicking s) : s.client.Serene := hosts.smooth.serene hosts.once

end Hosts

/-! ## No connection is closed -/

/-- A connection that is closed was closed by the client. -/
def ClosedByClient (w : Client) (t : Transport) : Prop :=
  t.Severed → ∃ c, .called (.close c) ∈ w.history

theorem ClosedByClient.mono {w v : Client} {t t' : Transport} (h : ClosedByClient w t)
    (severed : t'.Severed → t.Severed) (history : ∀ ev ∈ w.history, ev ∈ v.history) :
    ClosedByClient v t' := fun now =>
  (h (severed now)).imp fun _ there => history _ there

/-- Only a call that closes a connection closes one. -/
theorem severed_of_called {t : Transport} {w : Client} {c : Call}
    (severed : (Transport.called w c t).Severed) : t.Severed ∨ ∃ c', c = .close c' := by
  cases c with
  | close c => exact Or.inr ⟨c, rfl⟩
  | connect d a =>
      simp only [Transport.called] at severed
      split at severed <;> exact Or.inl severed
  | _ => exact Or.inl severed

theorem severed_of_done {s : Simulation} {j : Job} {t : Transport} {op : Option Operation}
    (done : Done s j t op) (severed : t.Severed) : s.transport.Severed := by
  have answered {c : ConnectionId} {link : Link} (e : Exchange)
      (here : s.transport.links[c]? = some link) (opened : link.closed = false)
      (severed : (s.transport.answer c link e).Severed) : s.transport.Severed := by
    obtain ⟨other, there, closed⟩ := severed
    rcases List.mem_or_eq_of_mem_set there with old | rfl
    · exact ⟨other, old, closed⟩
    · cases closed.symm.trans opened
  cases done with
  | connected =>
      obtain ⟨link, there, closed⟩ := severed
      rcases List.mem_append.1 there with old | new
      · exact ⟨link, old, closed⟩
      · rw [List.mem_singleton.1 new] at closed
        cases closed
  | stranded here opened stays => exact answered _ here opened severed
  | returned here opened home => exact answered _ here opened severed
  | _ => exact severed

/-- What has happened stays in the history when an operation starts. -/
theorem Reached.remembers {allowed : Operation → Prop} (run : Reached allowed s) (op : Operation) :
    ∀ ev ∈ s.client.history, ev ∈ (s.client.invoke op).2.history := by
  intro ev there
  have next : Client.Step Client.Anything s.client (s.client.invoke op).2 :=
    .invoke op run.waits trivial
  exact next.remembers there

theorem keeps_closedByClient (allowed : Operation → Prop) :
    Keeps (Reached allowed) allowed ClosedByClient := by
  refine ⟨?_, ?_, ?_, ?_, ?_⟩
  · intro w t t' _ moved h
    refine h.mono (fun severed => ?_) fun _ there => there
    rw [Transport.Severed, ← moved.links]
    exact severed
  · exact fun run _ h => h.mono id (run.remembers _)
  · intro w t before j after t' op run _ done h
    refine h.mono (severed_of_done done) ?_
    cases op with
    | none => exact fun _ there => there
    | some op => exact run.remembers op
  · exact fun _ turn _ h => h.mono id turn.ledger.remembers
  · intro c v t _ h severed
    rcases severed_of_called severed with before | ⟨c', rfl⟩
    · exact (h before).imp fun _ there => List.mem_cons_of_mem _ there
    · exact ⟨c', List.mem_cons_self⟩

/-- A script that never stops the client closes no connection. -/
theorem Hosts.unsevered (hosts : Hosts panicking s) : ¬ s.transport.Severed := by
  have closed : ClosedByClient s.client s.transport :=
    hosts.run.keeps (fun _ _ _ severed => by obtain ⟨_, there, -⟩ := severed; cases there)
      (keeps_closedByClient Serving)
  intro severed
  obtain ⟨c, there⟩ := closed severed
  exact hosts.serene.unclosed c there

end Simulation

end Loopback

end ConnectionPool
