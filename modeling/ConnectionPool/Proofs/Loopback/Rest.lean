import ConnectionPool.Proofs.Destination.AddressLimit
import ConnectionPool.Proofs.Destination.Saturation
import ConnectionPool.Proofs.Loopback.Occupation
import ConnectionPool.Proofs.Loopback.Shutdown

/-!
# A simulation comes to rest

A script that never stops the client can be continued until no timer and no task is left. Main
statement: if connections can be made, then at that point every destination is at rest
(`Simulation.Resting`), the exchange of every accepted send has ended, and it has succeeded unless
an abort took it back or its request was given up before (`Simulation.Runs.comes_to_rest`).
-/

set_option autoImplicit false

namespace ConnectionPool

namespace Loopback

/-- The listener of the exchange has heard of its success, and of nothing else. -/
def Transport.hasSucceeded (t : Transport) (e : Exchange) : Bool :=
  t.heard e == [.complete (.succeeded e.request)]

theorem Transport.hasSucceeded_iff {t : Transport} {e : Exchange} :
    t.hasSucceeded e = true ↔ t.heard e = [.complete (.succeeded e.request)] :=
  beq_iff_eq

namespace Simulation

variable {s : Simulation} {d : DestinationId} {D : Destination} {e : Exchange}

/-! ## Destinations -/

/-- No exchange waits and no connection is active. The idle connections are all that were made for
the destination; they take up its slots, and there are no more of them than are allowed. -/
structure Resting (D : Destination) (links : List ConnectionId) (limit : Nat) : Prop where
  queue : D.queue.items = []
  active : D.active.items = []
  idle : D.idle.items.Perm links
  slots : D.slots.used = D.idle.items.length
  limited : D.slots.used ≤ limit

namespace Hosts

variable {panicking : List ListenerId}

/-- When every job is done, every attempt has ended. -/
theorem ended_at_rest (hosts : Hosts panicking s) (settled : s.Settled) {a : Attempt}
    (there : a ∈ s.client.attempts) : a.outcome ≠ none := by
  intro underWay
  have sought := hosts.scripted.sought
  obtain ⟨i, here⟩ := List.mem_iff_getElem?.1 there
  have asked := sought.once i a.destination
  -- nobody is going to end an attempt any more
  have none : s.client.connects ++ seeking s.transport = [] := by
    rw [Client.connects, hosts.run.quiet, seeking, settled.jobs]
    rfl
  have pending : a = ⟨a.destination, true, .none⟩ := by
    rw [← sought.pooled a there, ← underWay]
  rw [none, if_pos (here.trans (congrArg some pending))] at asked
  cases asked

theorem unfinished_at_rest (hosts : Hosts panicking s) (settled : s.Settled) (d : DestinationId) :
    unfinished (s.client.attemptsOf d) = 0 := by
  refine List.countP_eq_zero.2 fun a own unfinished => ?_
  have there := (List.mem_filter.1 own).1
  exact hosts.ended_at_rest settled there
    (Attempt.outcome_of_isUnfinished (hosts.smooth.sound a there) unfinished)

/-- The pooled connections are those that were made for the destination, each once. -/
theorem pooled_perm (hosts : Hosts panicking s) (here : s.client.destinations[d]? = some D) :
    (D.idle.items ++ D.active.items).Perm (linksOf s.transport d) := by
  have placed := hosts.smooth.placed here
  have attached := hosts.scripted.attached d
  refine (List.perm_ext_iff_of_nodup (placed.pooled_nodup (hosts.once d))
    (attached.nodup_iff.1 (hosts.once d))).2 fun c => ⟨fun pooled => ?_, fun made => ?_⟩
  · exact attached.mem_iff.1 (placed.delivered_of_pooled (List.mem_append.1 pooled))
  · exact List.mem_append.2
      (hosts.smooth.pooled hosts.once hosts.run.quiet here (attached.mem_iff.2 made))

/-- When every job is done, an accepted exchange that does not wait was taken by one connection and
has succeeded, or it was taken back or given up and has failed. -/
theorem outcome_at_rest (hosts : Hosts panicking s) (settled : s.Settled)
    (accepts : .accepted d e ∈ s.client.history) (here : s.client.destinations[d]? = some D)
    (left : e ∉ D.queue.items) :
    (takers e (assignments s.client.history)).length = 1 ∧ s.transport.hasSucceeded e = true ∧
        ¬ Recalled s.client.history d e ∧ ¬ GivenUp s.client.history e ∨
      takers e (assignments s.client.history) = [] ∧ s.transport.hasSucceeded e = false ∧
        (Recalled s.client.history d e ∨ GivenUp s.client.history e) := by
  have reasoned := hosts.smooth.reasoned hosts.once
  rcases hosts.scripted.heard_at_rest settled accepts here left with
    ⟨c, taken, unfailed, verdict⟩ | ⟨cause, failed, untaken, heard⟩
  · -- a connection took it, so it never failed
    refine Or.inl ⟨by rw [taken]; rfl, Transport.hasSucceeded_iff.2 ?_,
      reasoned.not_recalled_or_givenUp fun d' cause there => ?_⟩
    · generalize s.transport.heard e = heard at verdict
      cases verdict with
      | answered => rfl
      | broken severed => exact absurd severed hosts.unsevered
    · have listed := Client.mem_causes.2 ⟨d', there⟩
      rw [unfailed] at listed
      cases listed
  · -- it failed, and there was a reason for that
    refine Or.inr ⟨untaken, ?_, ?_⟩
    · rw [Transport.hasSucceeded, heard]
      rfl
    · obtain ⟨d', there⟩ := Client.mem_causes.1 (failed ▸ List.mem_singleton_self cause)
      have elsewhere := hosts.scripted.client_steady.accepted_of_event there rfl (Or.inr rfl)
      cases hosts.run.client.ticketed.unique accepts elsewhere
      exact reasoned.recalled_or_givenUp there

end Hosts

namespace Serves

/-- When every job is done, no exchange waits. -/
theorem queue_nil (serves : Serves s) (allows : 1 ≤ s.client.limits.connections)
    (settled : s.Settled) (here : s.client.destinations[d]? = some D) : D.queue.items = [] := by
  by_contra waiting
  -- as many connections would be active as are allowed
  obtain ⟨-, full⟩ := serves.smooth.saturated serves.once serves.run.quiet here
    (serves.unfinished_at_rest settled d) waiting
  rw [serves.active_nil settled here] at full
  rw [← full] at allows
  cases allows

theorem resting (serves : Serves s) (allows : 1 ≤ s.client.limits.connections)
    (settled : s.Settled) (here : s.client.destinations[d]? = some D) :
    Resting D (linksOf s.transport d) s.client.limits.connections := by
  have active := serves.active_nil settled here
  have idle := serves.pooled_perm here
  obtain ⟨slots, limited⟩ := serves.smooth.slots_peaceful (serves.once d) serves.run.quiet here
  rw [active, serves.unfinished_at_rest settled d] at slots
  rw [active, List.append_nil] at idle
  exact ⟨serves.queue_nil allows settled here, active, idle, slots, limited⟩

/-! ## Exchanges -/

/-- When every job is done, an accepted exchange was taken by one connection and has succeeded, or
it was taken back or given up and has failed. -/
theorem outcome (serves : Serves s) (allows : 1 ≤ s.client.limits.connections)
    (settled : s.Settled) (accepts : .accepted d e ∈ s.client.history) :
    (takers e (assignments s.client.history)).length = 1 ∧ s.transport.hasSucceeded e = true ∧
        ¬ Recalled s.client.history d e ∧ ¬ GivenUp s.client.history e ∨
      takers e (assignments s.client.history) = [] ∧ s.transport.hasSucceeded e = false ∧
        (Recalled s.client.history d e ∨ GivenUp s.client.history e) := by
  have here := List.getElem?_eq_getElem (serves.run.client.scoped.events _ accepts d rfl)
  refine serves.outcome_at_rest settled accepts here ?_
  rw [serves.queue_nil allows settled here]
  exact List.not_mem_nil

/-- When every job is done, the exchanges that connections took are those that have succeeded. -/
theorem taken_perm_succeeded (serves : Serves s) (allows : 1 ≤ s.client.limits.connections)
    (settled : s.Settled) :
    List.Perm ((assignments s.client.history).map (·.2))
      (((acceptances s.client.history).filter (s.transport.hasSucceeded ·.2)).map (·.2)) := by
  have accepted {e : Exchange} (took : e ∈ (assignments s.client.history).map (·.2)) :
      ∃ d, .accepted d e ∈ s.client.history := by
    obtain ⟨⟨c, e⟩, pairing, rfl⟩ := List.mem_map.1 took
    obtain ⟨d, deferred, there⟩ := Client.mem_assignments.1 pairing
    exact ⟨d, serves.scripted.client_steady.accepted_of_event there rfl (Or.inl rfl)⟩
  -- no exchange is taken twice, and tickets tell the accepted ones apart
  have taken := serves.scripted.client_steady.taken_apart
  have sent : ((acceptances s.client.history).map (·.2)).Nodup :=
    List.Nodup.of_map Exchange.ticket <| by
      rw [List.map_map]
      exact serves.run.client.ticketed.apart
  refine (List.perm_ext_iff_of_nodup taken (sent.sublist (List.filter_sublist.map _))).2
    fun e => ⟨fun took => ?_, fun succeeded => ?_⟩
  · obtain ⟨d, accepts⟩ := accepted took
    rcases serves.outcome allows settled accepts with ⟨-, succeeded, -⟩ | ⟨untaken, -⟩
    · exact List.mem_map.2
        ⟨(d, e), List.mem_filter.2 ⟨mem_acceptances.2 accepts, succeeded⟩, rfl⟩
    · have some := List.count_pos_iff.2 took
      rw [Client.count_map_snd, untaken] at some
      cases some
  · obtain ⟨⟨d, e⟩, listed, rfl⟩ := List.mem_map.1 succeeded
    obtain ⟨accepts, succeeded⟩ := List.mem_filter.1 listed
    rcases serves.outcome allows settled (mem_acceptances.1 accepts) with
      ⟨one, -⟩ | ⟨-, failed, -⟩
    · refine List.count_pos_iff.1 ?_
      rw [Client.count_map_snd]
      exact Nat.lt_of_lt_of_eq Nat.one_pos one.symm
    · cases succeeded.symm.trans failed

/-- When every job is done, the connections have completed as many exchanges as have succeeded. -/
theorem exchanges_eq_successes (serves : Serves s) (allows : 1 ≤ s.client.limits.connections)
    (settled : s.Settled) : total (·.exchanges) s.transport.links =
      (acceptances s.client.history).countP (s.transport.hasSucceeded ·.2) := by
  have same := (serves.taken_perm_succeeded allows settled).length_eq
  rw [List.length_map, List.length_map] at same
  rw [serves.exchanges_at_rest settled, same, List.countP_eq_length_filter]

end Serves

/-! ## The end of a script -/

/-- Every accepted send has come to its end, every destination is at rest, and the exchanges that
the connections have completed are those that have succeeded. -/
structure Served (s : Simulation) (limit : Nat) : Prop where
  concluded : s.Concluded
  resting : ∀ (d : DestinationId) (D : Destination), s.client.destinations[d]? = some D →
    Resting D (linksOf s.transport d) limit
  /-- The exchange of an accepted send has succeeded unless an abort has taken it back or its
  request was given up before it left the queue. -/
  succeeded : ∀ d e, .accepted d e ∈ s.client.history → (s.transport.hasSucceeded e = true ↔
    ¬ Recalled s.client.history d e ∧ ¬ GivenUp s.client.history e)
  exchanges : total (·.exchanges) s.transport.links =
    (acceptances s.client.history).countP (s.transport.hasSucceeded ·.2)

theorem Serves.served (serves : Serves s) (allows : 1 ≤ s.client.limits.connections)
    (settled : s.Settled) : s.Served s.client.limits.connections where
  concluded := serves.scripted.concluded_at_rest settled fun _ _ here =>
    serves.queue_nil allows settled here
  resting _ _ here := serves.resting allows settled here
  succeeded d e accepts := by
    rcases serves.outcome allows settled accepts with
      ⟨-, succeeded, spared⟩ | ⟨-, failed, reason⟩
    · exact ⟨fun _ => spared, fun _ => succeeded⟩
    · refine ⟨fun succeeded => ?_, fun spared => ?_⟩
      · cases succeeded.symm.trans failed
      · exact absurd reason (not_or.2 spared)
  exchanges := serves.exchanges_eq_successes allows settled

/-- Whatever a script that never stops the client asked of a client that was built, if connections
can be made, then every run can be continued until no timer and no task is left. When none is left,
every accepted send has come to its end, every destination is at rest, and the exchanges that the
connections have completed are those that have succeeded. -/
theorem Runs.comes_to_rest {b : Blueprint} {w₀ : Client} (built : b.build = .ok w₀)
    {timings : LoopbackTimings} (connects : timings.failConnect = false)
    (script : Runs Serving (.start w₀ timings) s) :
    (∃ n, (s.runReady.advance n).Settled) ∧ (s.Settled → s.Served b.limits.connections) := by
  obtain ⟨rfl, allows, -⟩ := Blueprint.build_eq_ok built
  have serves := script.serves (.start (.fresh _ _ _) connects)
  obtain ⟨⟨_, course⟩, -⟩ := script.course rfl
  have limits : s.client.limits = b.limits := course.limits
  rw [← limits] at allows ⊢
  exact ⟨serves.run.settles, serves.served allows⟩

/-! ## A small script -/

/-- A simulation whose destinations may have one connection and let four exchanges wait. -/
def narrowRoomy : Simulation :=
  .start (.fresh "HttpClient" ⟨1, 4⟩ 0) { connectLatency := 1, exchangeLatency := 1 }

/-- The first of four requests is on its way, and the others wait. -/
def narrowQueued : Simulation :=
  let s := (narrowRoomy.invoke (.submit (Client.narrowRequest 0) 0)).2.runReady.advance 1
  let s := (s.invoke (.submit (Client.narrowRequest 1) 1)).2
  let s := (s.invoke (.submit (Client.narrowRequest 2) 2)).2
  (s.invoke (.submit (Client.narrowRequest 3) 3)).2

/-- The second request was taken back and the third one given up, and every job is done. -/
def narrowServed : Simulation :=
  let s := (narrowQueued.invoke (.abort 0 1 "gone")).2
  (s.invoke (.mark 2)).2.runReady.advance 2

theorem narrowServed_rests : narrowServed.Settled ∧ narrowServed.Served 1 ∧
    (acceptances narrowServed.client.history).length = 4 ∧
    total (·.exchanges) narrowServed.transport.links = 2 := by
  have built : ({ limits := ⟨1, 4⟩ } : Blueprint).build = .ok (.fresh "HttpClient" ⟨1, 4⟩ 0) := rfl
  have sent : Runs Serving narrowRoomy _ :=
    Runs.ask .refl (.submit (Client.narrowRequest 0) 0) trivial
  have arrived := (sent.trans (runs_runReady _ _)).trans (runs_advance _ 1 _)
  have queued : Runs Serving narrowRoomy narrowQueued :=
    Runs.ask (Runs.ask (Runs.ask arrived (.submit _ _) trivial) (.submit _ _) trivial)
      (.submit _ _) trivial
  have givenUp := Runs.ask (Runs.ask queued (.abort 0 1 "gone") trivial) (.mark 2) trivial
  have script : Runs Serving narrowRoomy narrowServed :=
    (givenUp.trans (runs_runReady _ _)).trans (runs_advance _ 2 _)
  have settled : narrowServed.Settled := ⟨by decide, by decide⟩
  exact ⟨settled, (Runs.comes_to_rest built rfl script).2 settled, by decide, by decide⟩

end Simulation

end Loopback

end ConnectionPool
