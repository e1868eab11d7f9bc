import ConnectionPool.Proofs.Destination.Reopening
import ConnectionPool.Proofs.Loopback.Serving

/-!
# Connections at work

A hand-over that was decided is outstanding until the client makes it. Main statements, for a
script that never stops the client: every active connection has an exchange on its way or
outstanding, or it has taken one whose listener panics (`Simulation.Hosts.atWork`), so if there are
no such listeners, none is active when every job is done (`Simulation.Serves.active_nil`); and the
exchanges that the connections have completed are all that were handed over and have arrived
(`Simulation.Hosts.tallied`).
-/

set_option autoImplicit false

namespace ConnectionPool

/-- A connection becomes active by taking an exchange, and in no other way. -/
theorem Site.Turn.active {d : DestinationId} {s s' : Site} (turn : Site.Turn d s s')
    {c : ConnectionId} (active : c ∈ s'.dest.active.items) : c ∈ s.dest.active.items ∨
      ∃ e deferred, s'.events = .assigned d c e deferred :: s.events := by
  cases turn with
  | assign top head =>
      rcases BoundedQueue.mem_offerOrDrop active with old | rfl
      · exact Or.inl old
      · exact Or.inr ⟨_, _, rfl⟩
  | parkStopped top empty room | removeLast top empty | removeMore top waiting =>
      exact Or.inl (BoundedQueue.mem_of_mem_discard active)
  | closeActive top => cases active
  | _ => exact Or.inl active

namespace Client

variable {allowed : Client → Operation → Prop} {w w' : Client} {d : DestinationId}
  {D D' : Destination} {c : ConnectionId}

/-- The connection is active at the destination. -/
def ActiveAt (w : Client) (d : DestinationId) (c : ConnectionId) : Prop :=
  ∃ D, w.destinations[d]? = some D ∧ c ∈ D.active.items

/-- The connection has taken an exchange at the destination whose listener panics. -/
def Doomed (panicking : List ListenerId) (w : Client) (d : DestinationId) (c : ConnectionId) :
    Prop :=
  ∃ e deferred, .assigned d c e deferred ∈ w.history ∧ e.listener ∈ panicking

theorem Doomed.mono {panicking : List ListenerId} (doomed : w.Doomed panicking d c)
    (history : ∀ ev ∈ w.history, ev ∈ w'.history) : w'.Doomed panicking d c := by
  obtain ⟨e, deferred, took, panics⟩ := doomed
  exact ⟨e, deferred, history _ took, panics⟩

/-- Carrying out a frame makes a connection active only by having it take an exchange. -/
theorem Turned.active {f : Frame} (turn : Turned f w w')
    (made : ∀ d, f.destination? = some d → d < w.destinations.length) (active : w'.ActiveAt d c) :
    w.ActiveAt d c ∨ ∃ e deferred, w'.history = .assigned d c e deferred :: w.history := by
  obtain ⟨D', here', active⟩ := active
  by_cases about : f.destination? = some d
  · obtain ⟨D, D'', here, here'', moved⟩ := turn.here about (made d about)
    cases here'.symm.trans here''
    rcases moved.active active with old | ⟨e, deferred, added⟩
    · exact Or.inl ⟨D, here, old⟩
    · -- the one event that was added is the one at this destination
      have added : w'.history.filter (·.isAt d) =
          .assigned d c e deferred :: w.history.filter (·.isAt d) := added
      rcases turn.ledger.history with same | ⟨ev, noted, -⟩
      · have same : w'.history = w.history := same
        rw [same] at added
        exact absurd added.symm (List.cons_ne_self _ _)
      · have noted : w'.history = ev :: w.history := noted
        rw [noted, List.filter_cons] at added
        split at added
        · rw [(List.cons.inj added).1] at noted
          exact Or.inr ⟨e, deferred, noted⟩
        · exact absurd added.symm (List.cons_ne_self _ _)
  · obtain ⟨same, -⟩ := turn.elsewhere about D'
    exact Or.inl ⟨D', same.symm.trans here', active⟩

/-- The start of an operation makes no connection active. -/
theorem activeAt_invoke {op : Operation} (active : (w.invoke op).2.ActiveAt d c) :
    w.ActiveAt d c := by
  obtain ⟨D', here', active⟩ := active
  have site : ∃ D, (w.push [.finish op]).Before d D ∧ Site.Start d False False
      ((w.push [.finish op]).site d D) (((w.push [.finish op]).start op).2.site d D') :=
    (started_start op _).site False.elim False.elim here'
  obtain ⟨D, here | ⟨-, a, rfl⟩, moved⟩ := site
  · exact ⟨D, here, moved.pooled.2 active⟩
  · cases moved.pooled.2 active

/-- A connection that is released to a running client is not active where it was in one place
only. -/
theorem Started.inactive (start : Started (.release d c) w .done w') (sees : w.seesRunning = true)
    (here : w.destinations[d]? = some D) (once : D.active.items.count c ≤ 1) :
    ¬ w'.ActiveAt d c := by
  rintro ⟨D', here', active⟩
  cases start with
  | releaseStopped there stopped => cases sees.symm.trans stopped
  | releaseStray there runs nothing =>
      cases here.symm.trans there
      rw [destinations_glance] at here'
      cases here.symm.trans here'
      have missing := BoundedQueue.removeFirst_eq_none_iff.1 nothing
      simpa using BoundedQueue.extract_eq_none_iff.1 missing c active
  | release there runs taken =>
      cases here.symm.trans there
      cases here'.symm.trans (here_putDestination (by rw [destinations_glance]; exact here))
      have gone := BoundedQueue.count_of_removeFirst taken c
      obtain ⟨-, -, -, -, asked, -⟩ := BoundedQueue.split_of_removeFirst taken
      rw [eq_of_beq asked, List.count_singleton_self] at gone
      exact List.count_eq_zero.1 (by dsimp only; omega) active

theorem inactive_invoke (sees : w.seesRunning = true) (here : w.destinations[d]? = some D)
    (once : D.active.items.count c ≤ 1) : ¬ (w.invoke (.release d c)).2.ActiveAt d c := by
  have start := started_start (.release d c) (w.push [.finish (.release d c)])
  rw [done_release (w := w.push _) here c] at start
  exact start.inactive ((seesRunning_push w _).trans sees) here once

/-! ## Hand-overs that are still to be made -/

/-- The hand-overs that were decided and are still to be made. -/
def outstanding (w : Client) : List Pairing := handovers (callsOf w.agenda) ++ deferred w.tasks

/-- Where no call is made, the hand-overs that are decided become outstanding. -/
theorem outstanding_of_decided (before : w.ledger.Handed) (after : w'.ledger.Handed)
    (same : made w'.history = made w.history) {new : List Pairing}
    (decided : assignments w'.history = new ++ assignments w.history) :
    w'.outstanding.Perm (new ++ w.outstanding) := by
  have before : (assignments w.history).Perm
    (handovers (made w.history) ++ w.outstanding) := before
  have after : (assignments w'.history).Perm
    (handovers (made w'.history) ++ w'.outstanding) := after
  rw [same, decided] at after
  have both := after.symm.trans ((before.append_left new).trans (List.perm_append_comm_assoc _ _ _))
  exact (List.perm_append_left_iff _).1 both

theorem outstanding_invoke (run : Reached allowed w) {op : Operation} (waits : w.awaits = true)
    (may : allowed w op) : (w.invoke op).2.outstanding.Perm w.outstanding := by
  have decided : assignments (w.invoke op).2.history = [] ++ assignments w.history := by
    have start := started_start op (w.push [.finish op])
    show assignments ((w.push [.finish op]).start op).2.history = assignments w.history
    rcases start.history with same | ⟨d, error, spared⟩ | ⟨d, e, accepts, -⟩
    · rw [same]
      rfl
    · rw [spared]
      rfl
    · rw [accepts]
      rfl
  exact outstanding_of_decided run.handed (run.invoke op waits may).handed (made_invoke op) decided

theorem Turned.decided {f : Frame} (turn : Turned f w w') :
    ∃ new, assignments w'.history = new ++ assignments w.history := by
  have entry : w'.history = w.history ∨ ∃ ev, w'.history = ev :: w.history ∧ _ :=
    turn.ledger.history
  rcases entry with same | ⟨ev, added, -⟩
  · exact ⟨[], by rw [same]; rfl⟩
  · rw [added]
    exact ⟨[ev].filterMap Event.assignment?, List.filterMap_append (l := [ev])⟩

theorem Turned.outstanding {f : Frame} (turn : Turned f w w') (run : Reached allowed (w.push [f]))
    (uncalled : ∀ c, f ≠ .call c) {new : List Pairing}
    (decided : assignments w'.history = new ++ assignments w.history) :
    w'.outstanding.Perm (new ++ (w.push [f]).outstanding) :=
  outstanding_of_decided run.handed (run.handed.entry run.numbered turn.ledger)
    (turn.made uncalled) decided

end Client

namespace Loopback

namespace Simulation

variable {panicking : List ListenerId} {s : Simulation} {w v : Client} {t t' : Transport}

/-! ## Active connections -/

/-- Every active connection has an exchange on its way or outstanding, or it has taken one whose
listener panics. -/
def AtWork (panicking : List ListenerId) (w : Client) (t : Transport) : Prop :=
  ∀ d c, w.ActiveAt d c →
    w.Doomed panicking d c ∨ ∃ e, (c, e) ∈ t.carrying ++ w.outstanding

/-- Where no further connection is active, nothing is forgotten and nothing else is under way, the
active connections are still at work. -/
theorem AtWork.mono (h : AtWork panicking w t)
    (active : ∀ {d c}, v.ActiveAt d c → w.ActiveAt d c)
    (history : ∀ ev ∈ w.history, ev ∈ v.history)
    (underWay : (t'.carrying ++ v.outstanding).Perm (t.carrying ++ w.outstanding)) :
    AtWork panicking v t' := fun d c there =>
  (h d c (active there)).imp (fun doomed => doomed.mono history)
    fun ⟨e, listed⟩ => ⟨e, underWay.mem_iff.2 listed⟩

/-- The exchange of a connection that is not active afterwards, or is doomed, may end. -/
theorem AtWork.arrived (h : AtWork panicking w t)
    (active : ∀ {d c}, v.ActiveAt d c → w.ActiveAt d c)
    (history : ∀ ev ∈ w.history, ev ∈ v.history) {c : ConnectionId} {e : Exchange}
    (left : t.carrying.Perm ((c, e) :: t'.carrying))
    (outstanding : v.outstanding.Perm w.outstanding)
    (ends : ∀ d, v.ActiveAt d c → v.Doomed panicking d c) : AtWork panicking v t' := by
  intro d' c' there
  rcases h d' c' (active there) with doomed | ⟨e', listed⟩
  · exact Or.inl (doomed.mono history)
  · -- only the pairing of the one connection is over
    rcases List.mem_cons.1 ((left.append outstanding.symm).mem_iff.1 listed) with own | other
    · cases own
      exact Or.inl (ends d' there)
    · exact Or.inr ⟨e', other⟩

/-- A hand-over that is made moves from the client to the transport. -/
theorem underWay_called (v : Client) (c : Call) (t : Transport) :
    ((Transport.called (v.push [.call c]) c t).carrying ++ (v.record (.called c)).outstanding).Perm
      (t.carrying ++ (v.push [.call c]).outstanding) := by
  have hands : (v.push [.call c]).outstanding = c.handover?.toList ++ v.outstanding := by
    cases c <;> rfl
  rw [hands]
  refine ((carrying_called _ c t).append_right _).trans ?_
  rw [List.append_assoc]
  exact List.perm_append_comm_assoc _ _ _

namespace Hosts

/-- A job that is done carries no exchange and reports something else than a release to the client,
or it completes an exchange, and the connection returns to its destination unless the listener
panics. -/
theorem arrives (hosts : Hosts panicking s) {before after : List Turn} {j : Turn}
    (next : s.transport.ready = before ++ j :: after) {op : Option Operation}
    (done : Done { s with transport := { s.transport with ready := before ++ after } } j.job t op) :
    (j.job.pairing? = none ∧ ∃ report, op = some report ∧ report.isReport = true ∧
      (∀ d c, report ≠ .release d c) ∧
      total (·.exchanges) t.links = total (·.exchanges) s.transport.links) ∨
    ∃ c e link d, j.job = .exchange c e ∧ s.transport.links[c]? = some link ∧
      link.destination = some d ∧
      t.links = s.transport.links.set c { link with exchanges := link.exchanges + 1 } ∧
      (e.listener ∈ panicking ∧ op = none ∨
        e.listener ∉ panicking ∧ op = some (.release d c)) := by
  have left := carrying_of_done next done
  have panics : s.transport.panicking = panicking := hosts.untroubled.panics
  generalize j.job = job at done left
  cases done with
  | refused name => exact Or.inl ⟨rfl, _, rfl, rfl, fun _ _ => nofun, rfl⟩
  | connected => exact Or.inl ⟨rfl, _, rfl, rfl, fun _ _ => nofun, total_append _ _ _⟩
  | performed => exact Or.inl ⟨rfl, _, rfl, rfl, fun _ _ => nofun, rfl⟩
  | lost missing =>
      -- an exchange is on its way only on a connection that is there
      obtain ⟨link, -, -, here, -⟩ :=
        hosts.scripted.carrying_link (left.mem_iff.2 List.mem_cons_self)
      cases here.symm.trans missing
  | broken here closed =>
      exact absurd ⟨_, List.mem_of_getElem? here, closed⟩ hosts.unsevered
  | stranded here opened stays =>
      -- every connection was made for some destination
      obtain ⟨link, d, -, there, home, -⟩ :=
        hosts.scripted.carrying_link (left.mem_iff.2 List.mem_cons_self)
      cases here.symm.trans there
      refine Or.inr ⟨_, _, _, d, rfl, here, home, rfl, Or.inl ⟨?_, rfl⟩⟩
      rcases stays with panics' | nowhere
      · exact panics ▸ panics'
      · cases home.symm.trans nowhere
  | returned here opened home calm =>
      exact Or.inr ⟨_, _, _, _, rfl, here, home, rfl, Or.inr ⟨panics ▸ calm, rfl⟩⟩

/-- A connection that returns to one destination is active there or nowhere. -/
theorem home_of_active (hosts : Hosts panicking s) {d : DestinationId} {c : ConnectionId}
    (active : s.client.ActiveAt d c) {link : Link} (known : s.transport.links[c]? = some link) :
    link.destination = some d := by
  obtain ⟨D, here, active⟩ := active
  have arrived := (hosts.smooth.placed here).delivered_of_pooled (Or.inr active)
  obtain ⟨link', known', home⟩ := mem_linksOf.1 ((hosts.scripted.attached d).mem_iff.1 arrived)
  cases known.symm.trans known'
  exact home

/-- Once released, a connection is active nowhere. -/
theorem inactive_of_released (hosts : Hosts panicking s) {d : DestinationId} {c : ConnectionId}
    {link : Link} (known : s.transport.links[c]? = some link) (home : link.destination = some d)
    (d' : DestinationId) : ¬ (s.client.invoke (.release d c)).2.ActiveAt d' c := by
  intro active
  have before := Client.activeAt_invoke active
  cases home.symm.trans (hosts.home_of_active before known)
  -- it was active once, and that copy is the one that was released
  obtain ⟨D, here, -⟩ := before
  have places := (hosts.smooth.placed here).places_le_one (hosts.once d) c
  rw [Client.places_site] at places
  exact Client.inactive_invoke hosts.smooth.sees here (by omega) active

/-- An active connection that carries an exchange of a panicking listener is doomed. -/
theorem doomed_of_carrying (hosts : Hosts panicking s) {d : DestinationId} {c : ConnectionId}
    {e : Exchange} (carried : (c, e) ∈ s.transport.carrying) (panics : e.listener ∈ panicking)
    (active : s.client.ActiveAt d c) : s.client.Doomed panicking d c := by
  obtain ⟨link, d', deferred, known, home, took⟩ := hosts.scripted.carrying_link carried
  cases home.symm.trans (hosts.home_of_active active known)
  exact ⟨e, deferred, took, panics⟩

end Hosts

theorem keeps_atWork : Keeps (Hosts panicking) Serving (AtWork panicking) where
  moved _ moved h :=
    h.mono id (fun _ there => there) ((moved.jobs.filterMap _).append_right _)
  command past may h := h.mono Client.activeAt_invoke (past.run.remembers _)
    ((Client.outstanding_invoke past.run.client past.run.waits (Or.inl may)).append_left _)
  done {w t before j after t' op} past next done h := by
    have left := carrying_of_done next done
    have outstanding {op : Operation} (report : op.isReport = true) :
        (w.invoke op).2.outstanding.Perm w.outstanding :=
      Client.outstanding_invoke past.run.client past.run.waits (Or.inr report)
    rcases past.arrives next done with
      ⟨none, op, rfl, report, -⟩ | ⟨c, e, link, d, own, here, home, -, ends⟩
    · rw [none] at left
      exact h.mono Client.activeAt_invoke (past.run.remembers op)
        (left.symm.append (outstanding report))
    · rw [own] at left
      rcases ends with ⟨panics, rfl⟩ | ⟨-, rfl⟩
      · exact h.arrived id (fun _ there => there) left (.refl _) fun d' active =>
          past.doomed_of_carrying (left.mem_iff.2 List.mem_cons_self) panics active
      · exact h.arrived Client.activeAt_invoke (past.run.remembers _) left (outstanding rfl)
          fun d' active => absurd active (past.inactive_of_released here home d')
  drives := by
    constructor
    · intro f v v' t run turn uncalled h d c active
      rcases turn.active (run.scoped.frames f List.mem_cons_self) active with
        old | ⟨e, deferred, added⟩
      · -- what was under way before still is
        obtain ⟨new, decided⟩ := turn.decided
        have out := turn.outstanding run uncalled decided
        refine (h d c old).imp (fun doomed => doomed.mono turn.ledger.remembers) ?_
        rintro ⟨e, there⟩
        refine ⟨e, ?_⟩
        rcases List.mem_append.1 there with carried | waiting
        · exact List.mem_append_left _ carried
        · exact List.mem_append_right _ (out.mem_iff.2 (List.mem_append_right _ waiting))
      · -- the exchange that it took is now outstanding
        have decided : assignments v'.history = [(c, e)] ++ assignments v.history := by
          rw [added]
          rfl
        have out := turn.outstanding run uncalled decided
        exact Or.inr ⟨e, List.mem_append_right _ (out.mem_iff.2 List.mem_cons_self)⟩
    · exact fun _ h => h.mono id (fun _ => List.mem_cons_of_mem _) (underWay_called _ _ _)

/-- In a simulation that hosts panicking listeners, every active connection has an exchange on its
way or outstanding, or it has taken one of theirs. -/
theorem Hosts.atWork (hosts : Hosts panicking s) : AtWork panicking s.client s.transport := by
  refine hosts.keeps (fun {w} new timings _ d c active => ?_) keeps_atWork
  obtain ⟨D, here, there⟩ := active
  cases new with
  | fresh name limits listeners => cases here
  | lone name limits listeners a =>
      rw [List.mem_singleton.1 (List.mem_of_getElem? here)] at there
      cases there

/-! ## When every job is done -/

theorem Reached.outstanding_nil {allowed : Operation → Prop} (run : Reached allowed s)
    (settled : s.Settled) : s.client.outstanding = [] := by
  rw [Client.outstanding, run.quiet, run.tasks_nil settled]
  rfl

/-- When every job is done, every active connection is doomed. -/
theorem Hosts.doomed_at_rest (hosts : Hosts panicking s) (settled : s.Settled) {d : DestinationId}
    {c : ConnectionId} (active : s.client.ActiveAt d c) : s.client.Doomed panicking d c := by
  refine (hosts.atWork d c active).resolve_right ?_
  rintro ⟨e, underWay⟩
  rw [settled.carrying, hosts.run.outstanding_nil settled] at underWay
  cases underWay

/-- When every job is done and no listener panics, no connection is active. -/
theorem Serves.active_nil (serves : Serves s) (settled : s.Settled) {d : DestinationId}
    {D : Destination} (here : s.client.destinations[d]? = some D) : D.active.items = [] := by
  refine List.eq_nil_iff_forall_not_mem.2 fun c active => ?_
  obtain ⟨e, -, -, none⟩ := serves.doomed_at_rest settled ⟨D, here, active⟩
  cases none

/-! ## Exchanges that were completed -/

/-- The exchanges that connections have completed are those that were handed over and are not on
their way any more. -/
def Tallied (w : Client) (t : Transport) : Prop :=
  total (·.exchanges) t.links + t.carrying.length = (handovers (made w.history)).length

theorem exchanges_called (w : Client) (c : Call) (t : Transport) :
    total (·.exchanges) (Transport.called w c t).links = total (·.exchanges) t.links := by
  cases c with
  | connect d a =>
      simp only [Transport.called]
      split <;> rfl
  | close c =>
      show total _ (t.links.modify c _) = _
      cases here : t.links[c]? with
      | none => rw [List.modify_eq_self (List.getElem?_eq_none_iff.1 here)]
      | some link =>
          rw [List.modify_eq_set_getElem?, here]
          exact Nat.add_right_cancel (total_set _ here _)
  | _ => rfl

theorem keeps_tallied : Keeps (Hosts panicking) Serving Tallied where
  moved _ moved h := by
    have same := (moved.jobs.filterMap Job.pairing?).length_eq
    rw [Tallied, moved.links]
    exact Eq.trans (congrArg _ same) h
  command {w t op} _ _ h := by
    rw [Tallied, Client.made_invoke]
    exact h
  done {w t before j after t' op} past next done h := by
    rw [Tallied, Client.made_begun, ← h]
    have left := (carrying_of_done next done).length_eq
    rw [List.length_append] at left
    rcases past.arrives next done with
      ⟨none, op, -, -, -, same⟩ | ⟨c, e, link, d, own, here, -, links, -⟩
    · rw [none] at left
      rw [same, left]
      exact congrArg _ (Nat.zero_add _).symm
    · rw [own] at left
      have more := total_set (fun l : Link => l.exchanges) here
        { link with exchanges := link.exchanges + 1 }
      rw [links]
      dsimp only [Job.pairing?, Option.toList, List.length_singleton] at left more ⊢
      omega
  drives := by
    constructor
    · intro f v v' t _ turn uncalled h
      rw [Tallied, turn.made uncalled]
      exact h
    · intro c v t _ h
      have split : made (v.record (.called c)).history = made v.history ++ [c] := made_called c _
      have hands : handovers [c] = c.handover?.toList := by
        cases c <;> rfl
      have joined := (carrying_called (v.push [.call c]) c t).length_eq
      rw [Tallied, exchanges_called, split, handovers_append, List.length_append, joined, hands,
        List.length_append]
      have h : _ = (handovers (made v.history)).length := h
      omega

/-- The exchanges that connections have completed are those that were handed over and are not on
their way any more. -/
theorem Hosts.tallied (hosts : Hosts panicking s) : Tallied s.client s.transport := by
  refine hosts.keeps (fun new _ _ => ?_) keeps_tallied
  cases new <;> rfl

/-- When every job is done, the connections have completed all exchanges that connections took. -/
theorem Hosts.exchanges_at_rest (hosts : Hosts panicking s) (settled : s.Settled) :
    total (·.exchanges) s.transport.links = (assignments s.client.history).length := by
  have tallied := hosts.tallied
  have handed : (assignments s.client.history).Perm
    (handovers (made s.client.history) ++ s.client.outstanding) := hosts.run.client.handed
  rw [hosts.run.outstanding_nil settled, List.append_nil] at handed
  rw [Tallied, settled.carrying] at tallied
  exact tallied.trans handed.length_eq.symm

end Simulation

end Loopback

end ConnectionPool
