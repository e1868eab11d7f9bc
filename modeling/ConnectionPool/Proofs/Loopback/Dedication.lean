import ConnectionPool.Proofs.Destination.Alternation
import ConnectionPool.Proofs.Loopback.Occupation

/-!
# Connections and their exchanges

A connection works on the exchange that it has taken last, until it is released (`exchangeOf`), and
the transport carries no other exchange on it. Main statement: if listeners panic, a connection that
has taken an exchange of one of them keeps it for good, since nobody is going to release it
(`Simulation.Hosts.dedicated`), so it is active when every job is done, and no other connection is
(`Simulation.Hosts.active_iff`).
-/

set_option autoImplicit false

namespace ConnectionPool

variable {d : DestinationId} {c : ConnectionId} {e : Exchange}

/-- The event neither has a connection take an exchange nor releases a connection. -/
def Event.isNeutral : Event → Bool
  | .assigned _ _ _ _ => false
  | .invoked (.release _ _) _ => false
  | _ => true

/-- The exchange that the connection has taken at the destination, if it was not released there
since. -/
def exchangeOf (d : DestinationId) (c : ConnectionId) : List Event → Option Exchange
  | [] => none
  | ev :: history =>
      if ev.assigns d c then ev.taken?
      else if ev.releases d c then none
      else exchangeOf d c history

theorem exchangeOf_assigned (deferred : Bool) (history : List Event) :
    exchangeOf d c (.assigned d c e deferred :: history) = some e := by
  simp [exchangeOf, Event.assigns, Event.taken?]

theorem exchangeOf_other {ev : Event} (unassigned : ev.assigns d c = false)
    (unreleased : ev.releases d c = false) (history : List Event) :
    exchangeOf d c (ev :: history) = exchangeOf d c history := by
  simp [exchangeOf, unassigned, unreleased]

/-- What is neutral leaves connections with their exchanges. -/
theorem exchangeOf_append {new : List Event} (neutral : ∀ ev ∈ new, ev.isNeutral = true)
    (history : List Event) : exchangeOf d c (new ++ history) = exchangeOf d c history := by
  induction new with
  | nil => rfl
  | cons ev new ih =>
      obtain ⟨own, others⟩ := List.forall_mem_cons.1 neutral
      rw [List.cons_append, exchangeOf_other, ih others]
      · refine Bool.eq_false_iff.2 fun assigns => ?_
        obtain ⟨e, deferred, rfl⟩ := Event.assigns_iff.1 assigns
        cases own
      · refine Bool.eq_false_iff.2 fun releases => ?_
        obtain ⟨reply, rfl⟩ := Event.releases_iff.1 releases
        cases own

theorem assigned_of_neutral {new history : List Event} (neutral : ∀ ev ∈ new, ev.isNeutral = true)
    {deferred : Bool} (took : .assigned d c e deferred ∈ new ++ history) :
    .assigned d c e deferred ∈ history := by
  refine (List.mem_append.1 took).resolve_left fun there => ?_
  cases neutral _ there

/-- A connection that works on an exchange has taken it, and is occupied. -/
theorem assigned_of_exchangeOf {history : List Event} (works : exchangeOf d c history = some e) :
    (∃ deferred, .assigned d c e deferred ∈ history) ∧ occupied d c history = true := by
  induction history with
  | nil => cases works
  | cons ev history ih =>
      rw [exchangeOf] at works
      split at works
      · next assigns =>
          obtain ⟨e', deferred, rfl⟩ := Event.assigns_iff.1 assigns
          cases works
          exact ⟨⟨deferred, List.mem_cons_self⟩, by simp [occupied, assigns]⟩
      · split at works
        · cases works
        · next unreleased =>
            obtain ⟨⟨deferred, took⟩, now⟩ := ih works
            exact ⟨⟨deferred, List.mem_cons_of_mem _ took⟩, by simp [occupied, unreleased, now]⟩

namespace Client

variable {allowed : Client → Operation → Prop} {w w' : Client}

/-- At the start of an operation nothing happens to connections before the operation is noted. -/
theorem history_invoke (w : Client) (op : Operation) : ∃ reply new,
    (w.invoke op).2.history = .invoked op reply :: (new ++ w.history) ∧
      ∀ ev ∈ new, ev.isNeutral = true := by
  have start := started_start op (w.push [.finish op])
  have noted : (w.invoke op).2.history = .invoked op ((w.push [.finish op]).start op).1 ::
    ((w.push [.finish op]).start op).2.history := rfl
  rw [noted]
  rcases start.history with same | ⟨d', error, spared⟩ | ⟨d', e, accepts, -⟩
  · exact ⟨_, [], congrArg _ same, List.forall_mem_nil _⟩
  · exact ⟨_, [_], congrArg _ spared, List.forall_mem_singleton.2 rfl⟩
  · exact ⟨_, [_], congrArg _ accepts, List.forall_mem_singleton.2 rfl⟩

/-- An operation that releases nothing is neutral at its start. -/
theorem neutral_invoke (w : Client) {op : Operation} (stays : ∀ d c, op ≠ .release d c) : ∃ new,
    (w.invoke op).2.history = new ++ w.history ∧ ∀ ev ∈ new, ev.isNeutral = true := by
  obtain ⟨reply, new, noted, neutral⟩ := history_invoke w op
  refine ⟨.invoked op reply :: new, noted, List.forall_mem_cons.2 ⟨?_, neutral⟩⟩
  cases op with
  | release d c => exact absurd rfl (stays d c)
  | _ => rfl

/-- A release is neutral for every connection but the one that it releases. -/
theorem exchangeOf_release {d' : DestinationId} {c' : ConnectionId}
    (other : Operation.release d c ≠ .release d' c') :
    exchangeOf d' c' (w.invoke (.release d c)).2.history = exchangeOf d' c' w.history := by
  obtain ⟨reply, new, noted, neutral⟩ := history_invoke w (.release d c)
  rw [noted, exchangeOf_other rfl, exchangeOf_append neutral]
  refine Bool.eq_false_iff.2 fun own => other ?_
  obtain ⟨reply, same⟩ := Event.releases_iff.1 own
  exact (Event.invoked.inj same).1

theorem assigned_of_invoke {op : Operation} {deferred : Bool}
    (took : .assigned d c e deferred ∈ (w.invoke op).2.history) :
    .assigned d c e deferred ∈ w.history := by
  obtain ⟨reply, new, noted, neutral⟩ := history_invoke w op
  rw [noted] at took
  exact assigned_of_neutral neutral ((List.mem_cons.1 took).resolve_left nofun)

/-- A turn has one connection take an exchange, or it is neutral. -/
theorem Turned.takes {f : Frame} (turn : Turned f w w') :
    (∃ d c e deferred, w'.history = .assigned d c e deferred :: w.history) ∨
      ∃ new, w'.history = new ++ w.history ∧ assignments w'.history = assignments w.history ∧
        ∀ ev ∈ new, ev.isNeutral = true := by
  have entry : w'.history = w.history ∨
    ∃ ev, w'.history = ev :: w.history ∧ ev.isInvocation = false := turn.ledger.history
  rcases entry with same | ⟨ev, added, other⟩
  · exact Or.inr ⟨[], same, congrArg _ same, List.forall_mem_nil _⟩
  · cases ev with
    | assigned d c e deferred => exact Or.inl ⟨d, c, e, deferred, added⟩
    | invoked op reply => cases other
    | _ =>
        refine Or.inr ⟨[_], added, ?_, List.forall_mem_singleton.2 rfl⟩
        rw [added]
        rfl

/-- A connection that takes an exchange was not occupied, if every connection is delivered once. -/
theorem Turned.free_of_assigned {f : Frame} (turn : Turned f w w')
    (run : Reached allowed (w.push [f])) (once : (delivered (w.attemptsOf d)).Nodup)
    {deferred : Bool} (added : w'.history = .assigned d c e deferred :: w.history) :
    occupied d c w.history = false := by
  have new : w'.eventsAt d = .assigned d c e deferred :: w.eventsAt d := by
    rw [eventsAt, added]
    exact List.filter_cons_of_pos (by simp [Event.destination?])
  by_cases about : f.destination? = some d
  · obtain ⟨D, D', here, here', moved⟩ :=
      turn.here about (run.scoped.frames f List.mem_cons_self d about)
    exact ((run.alternates here once).1.assign moved (run.placed here) once new).1
  · -- nothing happens at a destination that the frame is not about
    have same := congrArg Site.events (turn.elsewhere about (.fresh ⟨"", "", 0⟩ w.limits)).2
    exact absurd (new.symm.trans same) (List.cons_ne_self _ _)

end Client

namespace Loopback

namespace Simulation

variable {panicking : List ListenerId} {s : Simulation} {w v : Client} {t t' : Transport}

/-- An exchange is on its way or outstanding once at most. -/
theorem Reached.underWay_once (run : Reached Scripted s) (e : Exchange) :
    (takers e (s.transport.carrying ++ s.client.outstanding)).length ≤ 1 := by
  obtain ⟨own, n, -, -, counted⟩ := run.accounted e
  have handed : (assignments s.client.history).Perm
    (handovers (made s.client.history) ++ s.client.outstanding) := run.client.handed
  have matched := (handed.filterMap fun p => if p.2 = e then some p.1 else none).length_eq
  have matched : (takers e (assignments s.client.history)).length = (takers e _).length := matched
  have once := run.client_steady.taken_once e
  rw [takers_append, List.length_append] at matched ⊢
  omega

/-- Each exchange that is on its way or outstanding is what its connection works on, and a
connection that has taken an exchange of a panicking listener works on it for good. -/
structure Dedicated (panicking : List ListenerId) (w : Client) (t : Transport) : Prop where
  attached : Attached w t
  underWay : ∀ c e, (c, e) ∈ t.carrying ++ w.outstanding → ∃ d, exchangeOf d c w.history = some e
  kept : ∀ d c e deferred, .assigned d c e deferred ∈ w.history → e.listener ∈ panicking →
    exchangeOf d c w.history = some e

/-- Where nothing happens to connections, they stay dedicated. -/
theorem Dedicated.neutral (h : Dedicated panicking w t) (attached : Attached v t')
    {new : List Event} (added : v.history = new ++ w.history)
    (neutral : ∀ ev ∈ new, ev.isNeutral = true)
    (underWay : ∀ p ∈ t'.carrying ++ v.outstanding, p ∈ t.carrying ++ w.outstanding) :
    Dedicated panicking v t' := by
  refine ⟨attached, fun c e listed => ?_, fun d c e deferred took panics => ?_⟩
  · obtain ⟨d, works⟩ := h.underWay c e (underWay _ listed)
    refine ⟨d, ?_⟩
    rw [added, exchangeOf_append neutral]
    exact works
  · rw [added] at took ⊢
    rw [exchangeOf_append neutral]
    exact h.kept d c e deferred (assigned_of_neutral neutral took) panics

/-- A connection that takes an exchange while it is free works on that one, and the others stay
dedicated. -/
theorem Dedicated.assign (h : Dedicated panicking w t) (attached : Attached v t)
    {deferred : Bool} (free : occupied d c w.history = false)
    (added : v.history = .assigned d c e deferred :: w.history)
    (outstanding : v.outstanding.Perm ((c, e) :: w.outstanding)) : Dedicated panicking v t := by
  -- a connection that works on something is not the one that was free
  have still {d' : DestinationId} {c' : ConnectionId} {e' : Exchange}
      (works : exchangeOf d' c' w.history = some e') : exchangeOf d' c' v.history = some e' := by
    rw [added, exchangeOf_other ?_ rfl]
    · exact works
    · refine Bool.eq_false_iff.2 fun own => ?_
      obtain ⟨e'', deferred', same⟩ := Event.assigns_iff.1 own
      cases same
      cases free.symm.trans (assigned_of_exchangeOf works).2
  have new : exchangeOf d c v.history = some e := by
    rw [added]
    exact exchangeOf_assigned deferred _
  refine ⟨attached, fun c' e' listed => ?_, fun d' c' e' deferred' listed panics => ?_⟩
  · rcases List.mem_append.1 listed with carried | waiting
    · obtain ⟨d', works⟩ := h.underWay c' e' (List.mem_append_left _ carried)
      exact ⟨d', still works⟩
    · rcases List.mem_cons.1 (outstanding.mem_iff.1 waiting) with own | old
      · cases own
        exact ⟨d, new⟩
      · obtain ⟨d', works⟩ := h.underWay c' e' (List.mem_append_right _ old)
        exact ⟨d', still works⟩
  · rw [added] at listed
    rcases List.mem_cons.1 listed with own | old
    · cases own
      exact new
    · exact still (h.kept d' c' e' deferred' old panics)

/-- A connection that is released has worked on the exchange that arrives, and the others stay
dedicated. -/
theorem Dedicated.release (h : Dedicated panicking w t)
    (attached : Attached (w.invoke (.release d c)).2 t')
    (works : exchangeOf d c w.history = some e) (calm : e.listener ∉ panicking)
    (once : (takers e (t.carrying ++ w.outstanding)).length ≤ 1)
    (left : t.carrying.Perm ((c, e) :: t'.carrying))
    (outstanding : (w.invoke (.release d c)).2.outstanding.Perm w.outstanding) :
    Dedicated panicking (w.invoke (.release d c)).2 t' := by
  have still {d' : DestinationId} {c' : ConnectionId} {e' : Exchange}
      (other : e' ≠ e) (works' : exchangeOf d' c' w.history = some e') :
      exchangeOf d' c' (w.invoke (.release d c)).2.history = some e' := by
    rw [Client.exchangeOf_release]
    · exact works'
    · intro own
      cases own
      exact other (Option.some.inj (works'.symm.trans works))
  have all := left.append outstanding.symm
  refine ⟨attached, fun c' e' listed => ?_, fun d' c' e' deferred listed panics => ?_⟩
  · obtain ⟨d', works'⟩ := h.underWay c' e' (all.mem_iff.2 (List.mem_cons_of_mem _ listed))
    refine ⟨d', still ?_ works'⟩
    -- the exchange that arrives is not under way a second time
    rintro rfl
    have more : (takers e' (t.carrying ++ w.outstanding)).length = (takers e' _).length :=
      (all.filterMap _).length_eq
    have first : takers e' ((c, e') :: (t'.carrying ++ (w.invoke (.release d c)).2.outstanding)) =
        c :: takers e' (t'.carrying ++ (w.invoke (.release d c)).2.outstanding) :=
      List.filterMap_cons_some (if_pos rfl)
    have second := List.length_pos_of_mem (Client.mem_takers.2 listed)
    rw [List.cons_append, first, List.length_cons] at more
    omega
  · refine still ?_ (h.kept d' c' e' deferred (Client.assigned_of_invoke listed) panics)
    rintro rfl
    exact calm panics

/-- The exchange that a connection carries is what it works on at the destination it returns to. -/
theorem Dedicated.works_of_carrying (h : Dedicated panicking w t)
    (run : Client.Reached (Client.Obeys Serving) w) (carried : (c, e) ∈ t.carrying) {link : Link}
    (here : t.links[c]? = some link) (home : link.destination = some d) :
    exchangeOf d c w.history = some e := by
  obtain ⟨d', works⟩ := h.underWay c e (List.mem_append_left _ carried)
  obtain ⟨⟨deferred, took⟩, -⟩ := assigned_of_exchangeOf works
  obtain ⟨link', here', home'⟩ :=
    mem_linksOf.1 ((h.attached d').mem_iff.1 (run.delivered_of_assigned took))
  cases here.symm.trans here'
  cases home.symm.trans home'
  exact works

theorem keeps_dedicated : Keeps (Hosts panicking) Serving (Dedicated panicking) where
  moved {w t t'} past moved h :=
    h.neutral (keeps_attached.moved past.scripted moved h.attached) rfl (List.forall_mem_nil _)
      fun _ => ((moved.jobs.filterMap _).append_right w.outstanding).mem_iff.1
  command {w t op} past may h := by
    have attached := keeps_attached.command past.scripted (scripted_of_serving op may) h.attached
    have stays : ∀ d c, op ≠ .release d c := by
      rintro d c rfl
      exact may
    obtain ⟨new, added, neutral⟩ := Client.neutral_invoke w stays
    exact h.neutral attached added neutral fun _ =>
      ((Client.outstanding_invoke past.run.client past.run.waits (Or.inl may)).append_left
        t.carrying).mem_iff.1
  done {w t before j after t' op} past next done h := by
    have attached := keeps_attached.done past.scripted next done h.attached
    have left := carrying_of_done next done
    have outstanding {op : Operation} (report : op.isReport = true) :
        (w.invoke op).2.outstanding.Perm w.outstanding :=
      Client.outstanding_invoke past.run.client past.run.waits (Or.inr report)
    rcases past.arrives next done with
      ⟨none, op, rfl, report, stays, -⟩ | ⟨c, e, link, d, own, here, home, -, ends⟩
    · rw [none] at left
      obtain ⟨new, added, neutral⟩ := Client.neutral_invoke w stays
      exact h.neutral attached added neutral fun _ =>
        (left.symm.append (outstanding report)).mem_iff.1
    · rw [own] at left
      rcases ends with ⟨-, rfl⟩ | ⟨calm, rfl⟩
      · refine h.neutral attached rfl (List.forall_mem_nil _) fun p listed => ?_
        exact (left.append_right w.outstanding).mem_iff.2 (List.mem_cons_of_mem _ listed)
      · exact h.release attached
          (h.works_of_carrying past.run.client (left.mem_iff.2 List.mem_cons_self) here home) calm
          (past.scripted.underWay_once e) left (outstanding rfl)
  drives := by
    constructor
    · intro f v v' t run turn uncalled h
      have scripted := run.mono (q := Client.Obeys Scripted) fun w op may =>
        may.imp_left (scripted_of_serving op)
      have attached := keeps_attached.drives.turned scripted turn uncalled h.attached
      rcases turn.takes with ⟨d, c, e, deferred, added⟩ | ⟨new, added, same, neutral⟩
      · have decided : assignments v'.history = [(c, e)] ++ assignments v.history := by
          rw [added]
          rfl
        have out := turn.outstanding run uncalled decided
        exact h.assign attached (turn.free_of_assigned run (h.attached.once d) added) added out
      · have decided : assignments v'.history = [] ++ assignments v.history := same
        have out := turn.outstanding run uncalled decided
        exact h.neutral attached added neutral fun _ => (out.append_left t.carrying).mem_iff.1
    · intro c v t run h
      have scripted := run.mono (q := Client.Obeys Scripted) fun w op may =>
        may.imp_left (scripted_of_serving op)
      have added : (v.record (.called c)).history = [.called c] ++ v.history := rfl
      exact h.neutral (keeps_attached.drives.called scripted h.attached) added
        (List.forall_mem_singleton.2 rfl) fun _ => (underWay_called v c t).mem_iff.1

theorem Hosts.dedicated (hosts : Hosts panicking s) :
    Dedicated panicking s.client s.transport := by
  refine hosts.keeps (fun new timings _ => ?_) keeps_dedicated
  refine ⟨fun d => ?_, fun c e listed => ?_, fun d c e deferred took => ?_⟩
  · cases new <;> exact List.Perm.nil
  · cases new <;> cases listed
  · cases new <;> cases took

/-- When every job is done, the active connections are those that have taken an exchange of a
panicking listener. -/
theorem Hosts.active_iff (hosts : Hosts panicking s) (settled : s.Settled) :
    s.client.ActiveAt d c ↔ s.client.Doomed panicking d c := by
  refine ⟨hosts.doomed_at_rest settled, ?_⟩
  rintro ⟨e, deferred, took, panics⟩
  have occupied := (assigned_of_exchangeOf (hosts.dedicated.kept d c e deferred took panics)).2
  have here := List.getElem?_eq_getElem (hosts.run.client.scoped.events _ took d rfl)
  -- an occupied connection is in one place, and that is neither idle nor in hand
  obtain ⟨arrived, loose⟩ := (hosts.smooth.alternates here (hosts.once d)).1 occupied
  have arrived := List.count_pos_iff.1 arrived
  refine ⟨_, here, (hosts.smooth.pooled hosts.once hosts.run.quiet here arrived).resolve_left ?_⟩
  intro idle
  have some := List.count_pos_iff.2 idle
  have loose : _ + _ = 0 := loose
  exact absurd (Nat.le_zero.1 (loose ▸ Nat.le_add_right _ _)) (Nat.ne_of_gt some)

end Simulation

end Loopback

end ConnectionPool
