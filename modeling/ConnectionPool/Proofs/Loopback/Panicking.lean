import ConnectionPool.Proofs.Loopback.Dedication
import ConnectionPool.Proofs.Loopback.Rest

/-!
# Listeners that panic

The transport calls the listener of an exchange before it returns the connection, so a listener that
panics keeps its connection from coming back: the connection stays active with nothing to do, and
its slot is never free again. Main statement: when every job is done, these connections are lost,
all the others are idle, and exchanges wait at a destination only if it has lost every connection
that it is allowed (`Simulation.Runs.depletes`). One such listener is enough where one connection is
allowed (`Simulation.narrowPanicking_starves`).
-/

set_option autoImplicit false

namespace ConnectionPool

namespace Client

variable {w : Client} {d : DestinationId} {panicking : List ListenerId}

/-- The connections that have taken exchanges of panicking listeners at the destination, latest
first. -/
def lost (panicking : List ListenerId) (w : Client) (d : DestinationId) : List ConnectionId :=
  ((assignments (w.eventsAt d)).filter (panicking.contains ·.2.listener)).map (·.1)

theorem mem_assignments_eventsAt {c : ConnectionId} {e : Exchange} :
    (c, e) ∈ assignments (w.eventsAt d) ↔ ∃ deferred, .assigned d c e deferred ∈ w.history := by
  refine mem_assignments.trans ⟨?_, ?_⟩
  · rintro ⟨d', deferred, there⟩
    obtain ⟨took, own⟩ := List.mem_filter.1 there
    cases Event.isAt_iff.1 own
    exact ⟨deferred, took⟩
  · rintro ⟨deferred, took⟩
    exact ⟨d, deferred, List.mem_filter.2 ⟨took, Event.isAt_iff.2 rfl⟩⟩

theorem mem_lost {c : ConnectionId} : c ∈ w.lost panicking d ↔ w.Doomed panicking d c := by
  constructor
  · intro there
    obtain ⟨⟨c, e⟩, listed, rfl⟩ := List.mem_map.1 there
    obtain ⟨taken, panics⟩ := List.mem_filter.1 listed
    obtain ⟨deferred, took⟩ := mem_assignments_eventsAt.1 taken
    exact ⟨e, deferred, took, List.contains_iff_mem.1 panics⟩
  · rintro ⟨e, deferred, took, panics⟩
    refine List.mem_map.2 ⟨(c, e), List.mem_filter.2 ⟨?_, ?_⟩, rfl⟩
    · exact mem_assignments_eventsAt.2 ⟨deferred, took⟩
    · exact List.contains_iff_mem.2 panics

/-- If every connection takes at most one exchange of a panicking listener, and no exchange is taken
twice, then no connection is lost twice. -/
theorem nodup_lost (run : Reached Steady w)
    (kept : ∀ c e deferred, .assigned d c e deferred ∈ w.history → e.listener ∈ panicking →
      exchangeOf d c w.history = some e) : (w.lost panicking d).Nodup := by
  have part : List.Sublist (assignments (w.eventsAt d)) (assignments w.history) :=
    List.filter_sublist.filterMap _
  have apart : (assignments (w.eventsAt d)).Nodup :=
    List.Nodup.of_map (·.2) (run.taken_apart.sublist (part.map _))
  have works : ∀ p ∈ (assignments (w.eventsAt d)).filter (panicking.contains ·.2.listener),
      exchangeOf d p.1 w.history = some p.2 := by
    intro p listed
    obtain ⟨taken, panics⟩ := List.mem_filter.1 listed
    obtain ⟨deferred, took⟩ := mem_assignments_eventsAt.1 taken
    exact kept p.1 p.2 deferred took (List.contains_iff_mem.1 panics)
  refine List.Nodup.map_on (fun p hp q hq same => ?_) (apart.filter _)
  have one := works p hp
  rw [same, works q hq] at one
  exact Prod.ext same (Option.some.inj one).symm

end Client

namespace Loopback

namespace Simulation

variable {panicking : List ListenerId} {s : Simulation} {d : DestinationId} {D : Destination}

/-- The lost connections stay active, and all the others that were made for the destination are
idle. Together they take up its slots, no more than are allowed. An exchange waits only if every
connection that is allowed is lost. -/
structure Depleted (D : Destination) (links lost : List ConnectionId) (limit : Nat) : Prop where
  active : D.active.items.Perm lost
  pooled : (D.idle.items ++ D.active.items).Perm links
  slots : D.slots.used = D.idle.items.length + D.active.items.length
  limited : D.slots.used ≤ limit
  waits : D.queue.items ≠ [] → D.idle.items = [] ∧ lost.length = limit

theorem Hosts.depleted (hosts : Hosts panicking s) (settled : s.Settled)
    (here : s.client.destinations[d]? = some D) :
    Depleted D (linksOf s.transport d) (s.client.lost panicking d)
      s.client.limits.connections := by
  have active : D.active.items.Perm (s.client.lost panicking d) := by
    have placed := hosts.smooth.placed here
    have apart := (List.nodup_append.1 (placed.pooled_nodup (hosts.once d))).2.1
    have lost := Client.nodup_lost hosts.scripted.client_steady (hosts.dedicated.kept d)
    refine (List.perm_ext_iff_of_nodup apart lost).2 fun c => ?_
    refine Iff.trans ⟨fun active => ⟨D, here, active⟩, ?_⟩
      ((hosts.active_iff settled).trans Client.mem_lost.symm)
    rintro ⟨D', here', active⟩
    cases here.symm.trans here'
    exact active
  have finished := hosts.unfinished_at_rest settled d
  obtain ⟨slots, limited⟩ := hosts.smooth.slots_peaceful (hosts.once d) hosts.run.quiet here
  rw [finished] at slots
  refine ⟨active, hosts.pooled_perm here, slots, limited, fun waiting => ?_⟩
  rw [← active.length_eq]
  exact hosts.smooth.saturated hosts.once hosts.run.quiet here finished waiting

/-! ## The end of a script -/

/-- Every destination has lost the connections that took exchanges of panicking listeners, and no
others. An exchange that waits has heard nothing. The exchange of every other accepted send has
ended, and it has succeeded unless an abort has taken it back or its request was given up. -/
structure Strained (s : Simulation) (panicking : List ListenerId) (limit : Nat) : Prop where
  depleted : ∀ (d : DestinationId) (D : Destination), s.client.destinations[d]? = some D →
    Depleted D (linksOf s.transport d) (s.client.lost panicking d) limit
  waits : ∀ (d : DestinationId) (D : Destination) (e : Exchange),
    s.client.destinations[d]? = some D → e ∈ D.queue.items → s.transport.heard e = []
  ended : ∀ (d : DestinationId) (D : Destination) (e : Exchange),
    s.client.destinations[d]? = some D → .accepted d e ∈ s.client.history → e ∉ D.queue.items →
      Ending e (s.transport.heard e) ∧ (s.transport.hasSucceeded e = true ↔
        ¬ Recalled s.client.history d e ∧ ¬ GivenUp s.client.history e)

theorem Hosts.strained (hosts : Hosts panicking s) (settled : s.Settled) :
    s.Strained panicking s.client.limits.connections where
  depleted _ _ here := hosts.depleted settled here
  waits d D e here queued := by
    obtain ⟨-, untaken, unfailed⟩ :=
      hosts.scripted.client_steady.untouched_of_queued here queued
    exact hosts.scripted.heard_nil untaken unfailed
  ended d D e here accepts left := by
    refine ⟨hosts.scripted.ending_at_rest settled accepts here left, ?_⟩
    rcases hosts.outcome_at_rest settled accepts here left with
      ⟨-, succeeded, spared⟩ | ⟨-, failed, reason⟩
    · exact ⟨fun _ => spared, fun _ => succeeded⟩
    · refine ⟨fun succeeded => ?_, fun spared => absurd reason (not_or.2 spared)⟩
      cases succeeded.symm.trans failed

/-- Whatever a script that never stops the client asked of a client that was built, and whichever
listeners panic, if connections can be made, then every run can be continued until no timer and no
task is left. When none is left, the connections that took exchanges of panicking listeners are
lost, and no others; exchanges wait only where every connection that is allowed is lost, and all the
others have ended. -/
theorem Runs.depletes {b : Blueprint} {w₀ : Client} (built : b.build = .ok w₀)
    {timings : LoopbackTimings} (connects : timings.failConnect = false)
    (script : Runs Serving ⟨w₀, { timings, panicking }⟩ s) :
    (∃ n, (s.runReady.advance n).Settled) ∧
      (s.Settled → s.Strained panicking b.limits.connections) := by
  obtain ⟨rfl, -, -⟩ := Blueprint.build_eq_ok built
  have hosts : Hosts panicking s := script.hosts (.start (.fresh _ _ _) connects)
  obtain ⟨⟨_, course⟩, -⟩ := script.course rfl
  have limits : s.client.limits = b.limits := course.limits
  rw [← limits]
  exact ⟨hosts.run.settles, hosts.strained⟩

/-! ## One panic -/

/-- A simulation whose destinations may have one connection and let two exchanges wait. The first
listener panics. -/
def narrowJumpy : Simulation :=
  ⟨.fresh "HttpClient" ⟨1, 2⟩ 0,
    { timings := { connectLatency := 1, exchangeLatency := 1 }, panicking := [0] }⟩

/-- Two requests were sent, and every job is done. -/
def narrowPanicking : Simulation :=
  let s := (narrowJumpy.invoke (.submit (Client.narrowRequest 0) 0)).2
  (s.invoke (.submit (Client.narrowRequest 1) 1)).2.runReady.advance 2

theorem narrowPanicking_depleted : narrowPanicking.Settled ∧ narrowPanicking.Strained [0] 1 ∧
    narrowPanicking.client.lost [0] 0 = [0] := by
  have built : ({ limits := ⟨1, 2⟩ } : Blueprint).build = .ok (.fresh "HttpClient" ⟨1, 2⟩ 0) := rfl
  have sent : Runs Serving narrowJumpy _ :=
    Runs.ask (Runs.ask .refl (.submit (Client.narrowRequest 0) 0) trivial)
      (.submit (Client.narrowRequest 1) 1) trivial
  have script : Runs Serving narrowJumpy narrowPanicking :=
    (sent.trans (runs_runReady _ _)).trans (runs_advance _ 2 _)
  have settled : narrowPanicking.Settled := ⟨by decide, by decide⟩
  exact ⟨settled, (Runs.depletes built rfl script).2 settled, by decide⟩

/-- The listener that panics has heard of its success, the other request waits for good, and the
only connection stays active. -/
theorem narrowPanicking_starves : narrowPanicking.Settled ∧
    narrowPanicking.transport.heardBy 0 = [.complete (.succeeded (Client.narrowRequest 0))] ∧
    narrowPanicking.transport.heardBy 1 = [] ∧
    ∃ D, narrowPanicking.client.destinations[0]? = some D ∧
      D.queue.items.length = 1 ∧ D.active.items = [0] ∧ D.idle.items = [] := by
  refine ⟨⟨by decide, by decide⟩, by decide, by decide, ?_⟩
  exact ⟨_, rfl, by decide, by decide, by decide⟩

end Simulation

end Loopback

end ConnectionPool
