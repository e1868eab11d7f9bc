import Mathlib.Data.List.Chain
import Mathlib.Data.List.Range
import ConnectionPool.Proofs.Exchange.Reporting

/-!
# Who is told that a request was queued

A request that joins a queue is announced to the request listeners, one after the other, and each of
them may call the client again before the next one hears of it. So what a listener has been told is
read off the agenda as well as off the history: an announcement that is still to be made stands
right below the one before it, or below the callback in which the one before it is heard
(`Client.Reached.inTurn`). Main statements: what is announced to a listener is what was accepted,
one to one (`Client.Reached.announced_perm`); and if no request is sent twice, a listener is told
that a request failed after it was told that it was queued, unless a listener before it has not yet
returned from being told so (`Client.Reached.announced`).
-/

set_option autoImplicit false

namespace ConnectionPool

/-- What a call tells the request listener `i` was queued. -/
def Call.announcement? (i : Nat) : Call → Option Request
  | .requestQueued j r => if j = i then some r else none
  | _ => none

/-- What the request listener `i` is told was queued by these calls. -/
def announcements (i : Nat) (cs : List Call) : List Request := cs.filterMap (Call.announcement? i)

/-- The requests of the exchanges that were accepted, latest first. -/
def admitted (history : List Event) : List Request := (acceptances history).map (·.2.request)

/-- The request that the operation asks to be queued. -/
def Operation.request? : Operation → Option Request
  | .send _ r _ => some r
  | .submit r _ => some r
  | _ => none

/-- The request that was sent, whatever the answer. -/
def Event.tried? : Event → Option RequestId
  | .invoked op _ => op.request?.map (·.id)
  | _ => none

/-- The requests that were sent so far, whatever the answers, latest first. -/
def tries (history : List Event) : List RequestId := history.filterMap Event.tried?

/-- The frames announce nothing. -/
def Silent (fs : List Frame) : Prop := ∀ i r, Frame.call (.requestQueued i r) ∉ fs

/-- If `g` announces a request to some listener but the first, `f` announces it to the listener
before, or waits for that listener to return. -/
def Follows (f g : Frame) : Prop := ∀ i r, g = .call (.requestQueued i r) →
  ∃ j, i = j + 1 ∧ (f = .call (.requestQueued j r) ∨ f = .within (.requestQueued j r))

theorem mem_announcements {i : Nat} {r : Request} {cs : List Call} :
    r ∈ announcements i cs ↔ .requestQueued i r ∈ cs := by
  refine List.mem_filterMap.trans ⟨?_, fun h => ⟨_, h, if_pos rfl⟩⟩
  rintro ⟨c, hc, announces⟩
  cases c with
  | requestQueued j r' =>
      by_cases same : j = i
      · subst same
        cases (if_pos rfl).symm.trans announces
        exact hc
      · cases (if_neg same).symm.trans announces
  | _ => cases announces

theorem announcements_append (i : Nat) (cs cs' : List Call) :
    announcements i (cs ++ cs') = announcements i cs ++ announcements i cs' :=
  List.filterMap_append

theorem Silent.announcements {fs : List Frame} (h : Silent fs) (i : Nat) :
    announcements i (callsOf fs) = [] := by
  refine List.eq_nil_iff_forall_not_mem.2 fun r hr => ?_
  exact h i r (mem_callsOf.1 (mem_announcements.1 hr))

/-- Of the calls that announce a request to each of the first `n` listeners, one is for `i`. -/
theorem announcements_range {i n : Nat} (listens : i < n) (r : Request) :
    announcements i ((List.range n).map fun j => .requestQueued j r) = [r] :=
  List.filterMap_map.trans (filterMap_range_eq listens r)

theorem silent_failureCalls (w : Client) (e : Exchange) (cause : Cause) :
    Silent ((w.failureCalls e cause).map .call) := by
  intro i r told
  obtain ⟨c, own, same⟩ := List.mem_map.1 told
  cases same
  rcases List.mem_append.1 own with request | listener
  · split at request
    · obtain ⟨j, -, same⟩ := List.mem_map.1 request
      cases same
    · cases request
  · simp at listener

/-- No frame but an announcement has to follow another one. -/
theorem Silent.isChain_append {new fs : List Frame} (silent : Silent new)
    (chain : fs.IsChain Follows) (free : Silent fs.head?.toList) :
    (new ++ fs).IsChain Follows := by
  refine List.isChain_append.2 ⟨?_, chain, ?_⟩
  · induction new with
    | nil => exact .nil
    | cons f new ih =>
        refine List.isChain_cons.2 ⟨?_, ih fun i r there => silent i r (.tail _ there)⟩
        rintro g top i r rfl
        exact absurd (.tail _ (List.mem_of_mem_head? top)) (silent i r)
  · rintro f - g top i r rfl
    exact absurd (Option.mem_toList.2 top) (free i r)

/-- The announcements of one request, one after the other, follow each other. -/
theorem isChain_announce (n : Nat) (r : Request) :
    ((List.range n).map fun i => Frame.call (.requestQueued i r)).IsChain Follows := by
  refine (List.isChain_map _).2 ((List.isChain_range _ n).2 ?_)
  rintro m - i q same
  cases same
  exact ⟨m, rfl, Or.inl rfl⟩

theorem exists_follows {f g : Frame} {rest : List Frame} (chain : (f :: rest).IsChain Follows)
    (there : g ∈ rest) : ∃ above ∈ f :: rest, Follows above g := by
  induction rest generalizing f with
  | nil => cases there
  | cons h rest ih =>
      obtain ⟨next, further⟩ := List.isChain_cons_cons.1 chain
      rcases List.mem_cons.1 there with rfl | below
      · exact ⟨f, List.mem_cons_self, next⟩
      · obtain ⟨above, among, follows⟩ := ih further below
        exact ⟨above, List.mem_cons_of_mem _ among, follows⟩

/-- An announcement below a frame that does not belong to it waits for a listener before it to
return. -/
theorem suspended_of_pending {f : Frame} {rest : List Frame} (chain : (f :: rest).IsChain Follows)
    {r : Request} (unrelated : ∀ j, f ≠ .call (.requestQueued j r) ∧
      f ≠ .within (.requestQueued j r)) {i : Nat} (pending : .call (.requestQueued i r) ∈ rest) :
    ∃ j < i, .within (.requestQueued j r) ∈ rest := by
  -- going up the agenda from one announcement to the one before it
  induction i with
  | zero =>
      obtain ⟨above, -, follows⟩ := exists_follows chain pending
      obtain ⟨j, next, -⟩ := follows 0 r rfl
      cases next
  | succ i ih =>
      obtain ⟨above, among, follows⟩ := exists_follows chain pending
      obtain ⟨j, next, before⟩ := follows (i + 1) r rfl
      cases next
      rcases before with rfl | rfl
      · rcases List.mem_cons.1 among with top | below
        · exact absurd top.symm (unrelated i).1
        · obtain ⟨j, lt, suspended⟩ := ih below
          exact ⟨j, Nat.lt_succ_of_lt lt, suspended⟩
      · rcases List.mem_cons.1 among with top | below
        · exact absurd top.symm (unrelated i).2
        · exact ⟨i, Nat.lt_succ_self i, below⟩

namespace Client

variable {allowed : Client → Operation → Prop} {w w' : Client}

/-! ## Steps -/

/-- Carrying out a frame that makes no call announces nothing. -/
theorem Turned.silent {f : Frame} (turn : Turned f w w') (uncalled : ∀ c, f ≠ .call c) :
    ∃ new, w'.agenda = new ++ w.agenda ∧ Silent new := by
  cases turn with
  | call c => exact absurd rfl (uncalled c)
  | fail d e cause => exact ⟨_, by simp; rfl, silent_failureCalls _ e cause⟩
  | finish op | adrift names missing | takeNone here nothing | removeLast here empty =>
      exact ⟨[], rfl, by simp [Silent]⟩
  | parkIdle here empty room runs => exact ⟨[], agenda_glance w, by simp [Silent]⟩
  | parkStopped here empty room stopped => exact ⟨[_], by simp; rfl, by simp [Silent]⟩
  | assignDeferred here head unmarked => exact ⟨[_], rfl, by simp [Silent]⟩
  | _ => exact ⟨_, rfl, by simp [Silent]⟩

/-- A request that is accepted is announced to every listener. -/
theorem Sent.announces {d : DestinationId} {dest : Destination} {r : Request} {l : ListenerId}
    {reply : Reply} (sent : Sent d dest r l w reply w') :
    (w'.agenda = w.agenda ∧ acceptances w'.history = acceptances w.history) ∨
    ∃ e, e.request = r ∧ acceptances w'.history = (d, e) :: acceptances w.history ∧
      w'.agenda = ((List.range w.listeners).map (fun i => .call (.requestQueued i e.request)) ++
        [.acquire d]) ++ w.agenda := by
  have drawn : w.glance.drawTicket.glance.history = w.history :=
    (history_glance _).trans (history_glance w)
  cases sent with
  | mismatched error => exact Or.inl ⟨rfl, rfl⟩
  | stopped meant stopped | full meant runs full =>
      exact Or.inl ⟨agenda_glance w, congrArg _ (history_glance w)⟩
  | takenBack meant runs room stops taken => exact Or.inl ⟨by simp, congrArg _ drawn⟩
  | accepted meant runs room stillRuns =>
      refine Or.inr ⟨_, rfl, congrArg (fun h => _ :: acceptances h) drawn, ?_⟩
      have listening : w.glance.drawTicket.glance.listeners = w.listeners :=
        (listeners_glance _).trans (listeners_glance w)
      simp [listening]

/-- An operation that starts announces the request that it has accepted, and nothing else. -/
theorem Started.announces {op : Operation} {reply : Reply} (start : Started op w reply w') :
    (∃ new, w'.agenda = new ++ w.agenda ∧ Silent new ∧
      acceptances w'.history = acceptances w.history) ∨
    ∃ d e, acceptances w'.history = (d, e) :: acceptances w.history ∧
      w'.agenda = ((List.range w.listeners).map (fun i => .call (.requestQueued i e.request)) ++
        [.acquire d]) ++ w.agenda := by
  have still {v : Client} (agenda : v.agenda = w.agenda) (history : v.history = w.history) :
      ∃ new, v.agenda = new ++ w.agenda ∧ Silent new ∧
        acceptances v.history = acceptances w.history :=
    ⟨[], agenda, by simp [Silent], congrArg acceptances history⟩
  have only {f : Frame} {v : Client} (silent : Silent [f]) (agenda : v.agenda = f :: w.agenda)
      (history : v.history = w.history) :
      ∃ new, v.agenda = new ++ w.agenda ∧ Silent new ∧
        acceptances v.history = acceptances w.history :=
    ⟨[f], agenda, silent, congrArg acceptances history⟩
  have glanced := history_glance w
  cases start with
  | send here sent =>
      rcases sent.announces with ⟨agenda, accepts⟩ | ⟨e, -, accepts, agenda⟩
      · exact Or.inl ⟨[], agenda, by simp [Silent], accepts⟩
      · exact Or.inr ⟨_, e, accepts, agenda⟩
  | submit runs meets here sent =>
      have told := sent.announces
      rw [agenda_locate, agenda_glance, history_locate, glanced, listeners_locate,
        listeners_glance] at told
      rcases told with ⟨agenda, accepts⟩ | ⟨e, -, accepts, agenda⟩
      · exact Or.inl ⟨[], agenda, by simp [Silent], accepts⟩
      · exact Or.inr ⟨_, e, accepts, agenda⟩
  | submitStopped stopped | submitUnsupported runs nowhere | releaseStray here runs nothing =>
      exact Or.inl (still (agenda_glance w) glanced)
  | submitAdrift runs meets missing =>
      exact Or.inl (still (by simp) ((history_locate _ _).trans glanced))
  | locate meets => exact Or.inl (still (agenda_locate w _) (history_locate w _))
  | releaseStopped here stopped =>
      exact Or.inl ⟨[_, _], by simp; exact ⟨rfl, rfl⟩, by simp [Silent], congrArg _ glanced⟩
  | @release _ d dest c c' active here runs taken =>
      refine Or.inl (only (f := .serve d c false) (by simp [Silent]) ?_ glanced)
      rw [agenda_push, agenda_putDestination, agenda_glance]
      rfl
  | abort here taken | remove here | close here | connect here
  | settleConnected underWay unsettled pooled | settleFailed underWay unsettled pooled here
  | deliver held work | failHead held work here head =>
      exact Or.inl (only (by simp [Silent]) rfl rfl)
  | spare held work here empty => exact Or.inl ⟨[], rfl, by simp [Silent], acceptances_other rfl _⟩
  | stop => exact Or.inl ⟨_, rfl, by simp [Silent], rfl⟩
  | _ => exact Or.inl (still rfl rfl)

/-! ## Announcements in turn -/

/-- A call stays where it is while it is heard. -/
theorem Turned.inTurn_call {c : Call} (turn : Turned (.call c) w w')
    (chain : (.call c :: w.agenda).IsChain Follows) : w'.agenda.IsChain Follows := by
  obtain ⟨next, rest⟩ := List.isChain_cons.1 chain
  cases turn with
  | call c =>
      refine List.isChain_cons.2 ⟨fun g top i r own => ?_, rest⟩
      obtain ⟨j, before, same⟩ := next g top i r own
      refine ⟨j, before, Or.inr ?_⟩
      rcases same with same | other
      · cases same
        rfl
      · cases other
  | adrift names missing => cases names

theorem Turned.inTurn {f : Frame} (turn : Turned f w w')
    (chain : (f :: w.agenda).IsChain Follows) : w'.agenda.IsChain Follows := by
  -- only a call, and the callback in which it is heard, is followed by an announcement
  by_cases called : ∃ c, f = .call c
  · obtain ⟨c, rfl⟩ := called
    exact turn.inTurn_call chain
  by_cases inside : ∃ c, f = .within c
  · obtain ⟨c, rfl⟩ := inside
    cases turn with
    | within c => exact chain
    | adrift names missing => cases names
  obtain ⟨next, rest⟩ := List.isChain_cons.1 chain
  obtain ⟨new, agenda, silent⟩ := turn.silent fun c own => called ⟨c, own⟩
  rw [agenda]
  refine silent.isChain_append rest fun i r top => ?_
  obtain ⟨j, -, before⟩ := next _ (Option.mem_toList.1 top) i r rfl
  rcases before with call | within
  · exact absurd ⟨_, call⟩ called
  · exact absurd ⟨_, within⟩ inside

theorem Started.inTurn {op : Operation} {reply : Reply} (start : Started op w reply w')
    (chain : w.agenda.IsChain Follows) (free : Silent w.agenda.head?.toList) :
    w'.agenda.IsChain Follows := by
  rcases start.announces with ⟨new, agenda, silent, -⟩ | ⟨d, e, -, agenda⟩
  · rw [agenda]
    exact silent.isChain_append chain free
  · rw [agenda, List.append_assoc]
    refine List.isChain_append.2 ⟨isChain_announce _ _, ?_, ?_⟩
    · have acquiring : Silent [.acquire d] := by simp [Silent]
      exact acquiring.isChain_append chain free
    · rintro f - g top i r rfl
      cases top

/-- What is on top when an operation starts is a callback, if anything is. -/
theorem silent_of_awaits (waits : w.awaits = true) : Silent w.agenda.head?.toList := by
  intro i r top
  rw [Client.awaits] at waits
  split at waits
  · next nothing => simp [nothing] at top
  · next c rest inside => simp [inside] at top
  · cases waits

/-- In every client that is reached, an announcement that is still to be made stands right below the
one before it, or below the callback in which that one is heard. -/
theorem Reached.inTurn (run : Reached allowed w) : w.agenda.IsChain Follows := by
  refine run.invariant (P := fun w => w.agenda.IsChain Follows) ?_ ?_ ?_ ?_
  · intro w new
    cases new <;> exact .nil
  · intro f w w' _ chain turn
    exact turn.inTurn chain
  · intro c w chain
    exact (List.isChain_cons.1 (show (Frame.within c :: w.agenda).IsChain Follows from chain)).2
  · intro op reply w w' _ waits _ chain start
    have begun : (w.push [.finish op]).agenda.IsChain Follows :=
      Silent.isChain_append (by simp [Silent]) chain (silent_of_awaits waits)
    exact start.inTurn begun (by simp [Silent])

/-! ## Announcements and acceptances -/

/-- What was announced to the listener `i`, or is going to be, is what was accepted, one to one. -/
def AnnouncesAll (w : Client) (i : Nat) : Prop :=
  List.Perm (announcements i w.said) (admitted w.history)

theorem perm_announcements {new cs cs' : List Call} (i : Nat) (said : List.Perm cs' (new ++ cs)) :
    List.Perm (announcements i cs') (announcements i new ++ announcements i cs) :=
  announcements_append i new cs ▸ said.filterMap _

theorem Turned.announcesAll {f : Frame} {i : Nat} (turn : Turned f w w')
    (h : (w.push [f]).AnnouncesAll i) : w'.AnnouncesAll i := by
  have same : admitted w'.history = admitted w.history := congrArg (List.map _) turn.sends.2
  rw [AnnouncesAll, same]
  by_cases called : ∃ c, f = .call c
  · obtain ⟨c, rfl⟩ := called
    cases turn with
    | call c => exact said_called w c ▸ h
    | adrift names missing => cases names
  · have uncalled : ∀ c, f ≠ .call c := fun c own => called ⟨c, own⟩
    have none : f.call? = none := by
      cases f with
      | call c => exact absurd rfl (uncalled c)
      | _ => rfl
    obtain ⟨new, agenda, silent⟩ := turn.silent uncalled
    have told := perm_announcements i (said_of_agenda agenda (turn.made uncalled))
    rw [silent.announcements, List.nil_append] at told
    rw [AnnouncesAll, said_push none] at h
    exact told.trans h

theorem Started.announcesAll {op : Operation} {reply : Reply} {i : Nat}
    (start : Started op w reply w') (listens : i < w.listeners) (h : w.AnnouncesAll i) :
    w'.AnnouncesAll i := by
  rw [AnnouncesAll, admitted]
  rcases start.announces with ⟨new, agenda, silent, accepts⟩ | ⟨d, e, accepts, agenda⟩
  · have told := perm_announcements i (said_of_agenda agenda start.made)
    rw [silent.announcements, List.nil_append] at told
    rw [accepts]
    exact told.trans h
  · have told := perm_announcements i (said_of_agenda agenda start.made)
    rw [callsOf_append, callsOf_map_call, announcements_append,
      announcements_range listens e.request] at told
    rw [accepts]
    exact told.trans (h.cons _)

/-- In every client that is reached, what is announced to a request listener, or is going to be, is
what was accepted, one to one. -/
theorem Reached.announced_perm (run : Reached allowed w) {i : Nat} (listens : i < w.listeners) :
    List.Perm (announcements i w.said) (admitted w.history) := by
  refine run.invariant (P := fun w => i < w.listeners → w.AnnouncesAll i) ?_ ?_ (fun h => h) ?_
    listens
  · intro w new _
    cases new <;> exact List.Perm.nil
  · intro f w w' _ h turn listens
    exact turn.announcesAll (h (turn.listeners ▸ listens))
  · intro op reply w w' _ _ _ h start listens
    have listens : i < w.listeners := start.listeners ▸ listens
    have begun : (w.push [.finish op]).AnnouncesAll i := by
      rw [AnnouncesAll, said_push rfl]
      exact h listens
    have told := start.announcesAll listens begun
    -- to note the operation and its answer announces nothing and accepts nothing
    have same : (w'.record (.invoked op reply)).said = w'.said :=
      congrArg (· ++ _) (made_other rfl _)
    have accepted : admitted (w'.record (.invoked op reply)).history = admitted w'.history :=
      congrArg (List.map _) (acceptances_other rfl _)
    rw [AnnouncesAll, same, accepted]
    exact told

/-! ## Requests that are sent once -/

/-- The outside may invoke every operation, but it sends no request a second time. -/
def SendsOnce (w : Client) (op : Operation) : Prop :=
  ∀ r, op.request? = some r → r.id ∉ tries w.history

/-- A request that is noted as sent was tried. -/
theorem tried_of_send {ev : Event} {r : Request} {l : ListenerId} (sent : ev.send? = some (r, l)) :
    ev.tried? = some r.id := by
  cases ev with
  | invoked op reply =>
      cases op with
      | send d r' l' | submit r' l' =>
          cases reply with
          | done => cases sent; rfl
          | _ => cases sent
      | _ => cases reply <;> cases sent
  | _ => cases sent

theorem tries_cons (ev : Event) (history : List Event) :
    tries (ev :: history) = ev.tried?.toList ++ tries history := by
  rw [tries, List.filterMap_cons]
  cases ev.tried? <;> rfl

/-- What was accepted was sent. -/
theorem Reached.sent_of_admitted (run : Reached allowed w) {r : Request}
    (accepted : r ∈ admitted w.history) : ∃ ev ∈ w.history, ∃ l, ev.send? = some (r, l) := by
  obtain ⟨x, accepts, rfl⟩ := List.mem_map.1 accepted
  have sent : (x.2.request, x.2.listener) ∈ ConnectionPool.sends w.history :=
    run.sends_eq ▸ List.mem_map_of_mem accepts
  obtain ⟨ev, happened, noted⟩ := List.mem_filterMap.1 sent
  exact ⟨ev, happened, _, noted⟩

/-- A request that waits was sent. -/
theorem Reached.tried_of_waits (run : Reached Steady w) {r : RequestId} (waits : w.Waits r) :
    r ∈ tries w.history := by
  obtain ⟨D, known, e, queued, own⟩ := waits
  obtain ⟨d, here⟩ := List.getElem?_of_mem known
  have accepts := mem_acceptances.2 (run.untouched_of_queued here queued).1
  obtain ⟨ev, happened, l, sent⟩ := run.sent_of_admitted (List.mem_map_of_mem accepts)
  exact List.mem_filterMap.2 ⟨ev, happened, beq_iff_eq.1 own ▸ tried_of_send sent⟩

/-- If no request is sent twice, none is sent while it waits. -/
theorem Reached.steady_of_sendsOnce (run : Reached SendsOnce w) : Reached Steady w := by
  induction run with
  | initial new => exact .initial new
  | step past next ih =>
      cases next with
      | turn busy => exact ih.step (.turn busy)
      | resume inside => exact ih.step (.resume inside)
      | panic inside guarded => exact ih.step (.panic inside guarded)
      | invoke op waits may =>
          refine ih.step (.invoke op waits ?_)
          cases op with
          | send d r l => exact Or.inr fun queued => may r rfl (ih.tried_of_waits queued)
          | submit r l => exact Or.inr fun queued => may r rfl (ih.tried_of_waits queued)
          | _ => trivial

theorem Reached.nodup_tries (run : Reached SendsOnce w) : (tries w.history).Nodup := by
  have entered {s s' : Ledger} (entry : s.Entry s') : tries s'.history = tries s.history := by
    rcases entry.history with same | ⟨ev, added, other⟩
    · rw [same]
    · rw [added]
      cases ev with
      | invoked op reply => cases other
      | _ => rfl
  refine run.invariant (P := fun w => (tries w.history).Nodup) ?_ ?_ (fun h => h) ?_
  · intro w new
    cases new <;> exact List.nodup_nil
  · intro f w w' _ h turn
    exact (entered turn.ledger).symm ▸ h
  · intro op reply w w' _ _ may h start
    have same : tries w'.history = tries w.history := entered start.ledger
    show (tries (.invoked op reply :: w'.history)).Nodup
    rw [tries_cons, same]
    cases asks : op.request? with
    | none => simpa [Event.tried?, asks] using h
    | some r => simpa [Event.tried?, asks] using ⟨may r asks, h⟩

/-- What was sent and accepted was tried, in this order. -/
theorem sends_sublist_tries (history : List Event) :
    List.Sublist ((ConnectionPool.sends history).map (·.1.id)) (tries history) := by
  induction history with
  | nil => exact List.Sublist.slnil
  | cons ev history ih =>
      cases sent : ev.send? with
      | none =>
          rw [sends_other sent, tries_cons]
          exact ih.trans (List.sublist_append_right _ _)
      | some x =>
          rw [ConnectionPool.sends, List.filterMap_cons_some sent, tries_cons, tried_of_send sent]
          exact ih.cons_cons _

/-- If no request is sent twice, none is accepted twice. -/
theorem Reached.nodup_admitted (run : Reached SendsOnce w) :
    ((admitted w.history).map (·.id)).Nodup := by
  have same : (admitted w.history).map (·.id) =
      (ConnectionPool.sends w.history).map (·.1.id) := by
    rw [run.sends_eq, admitted, List.map_map, List.map_map]
    rfl
  exact same ▸ run.nodup_tries.sublist (sends_sublist_tries w.history)

/-- A request that was refused and is sent once is not accepted. -/
theorem Reached.not_admitted_of_refused (run : Reached SendsOnce w) {op : Operation} {x : PoolError}
    {r : Request} (refused : .invoked op (.refused x) ∈ w.history) (asks : op.request? = some r) :
    r.id ∉ (admitted w.history).map (·.id) := by
  intro there
  obtain ⟨q, accepted, same⟩ := List.mem_map.1 there
  obtain ⟨ev, happened, l, sent⟩ := run.sent_of_admitted accepted
  -- two calls to send the request would be noted
  have apart : ev ≠ .invoked op (.refused x) := by
    rintro rfl
    cases op <;> cases sent
  have : Std.Symm fun ev ev' : Event =>
      ∀ r, ev.tried? = some r → ∀ r', ev'.tried? = some r' → r ≠ r' :=
    ⟨fun ev ev' differ r h r' h' => (differ r' h' r h).symm⟩
  have differ := List.pairwise_filterMap.1 run.nodup_tries
  exact differ.forall happened refused apart q.id (tried_of_send sent) r.id
    (congrArg (Option.map _) asks) same

/-! ## What a listener hears -/

/-- What the request listener `i` is told was queued: of no request more than once, of every request
that was accepted once its operation is over, of none that was refused; and when it is going to be
told that a request failed, it was told before that it was queued, unless a listener before it has
not yet returned from being told so. -/
structure Announced (w : Client) (i : Nat) : Prop where
  atMostOnce : ((announcements i (made w.history)).map (·.id)).Nodup
  accepted : w.agenda = [] → ∀ d e, .accepted d e ∈ w.history →
    ((announcements i (made w.history)).map (·.id)).count e.request.id = 1
  rejected : ∀ op x r, .invoked op (.refused x) ∈ w.history → op.request? = some r →
    ((announcements i (made w.history)).map (·.id)).count r.id = 0
  first : ∀ r f rest, w.agenda = .call (.requestFailed i r f) :: rest →
    r ∈ announcements i (made w.history) ∨
      .call (.requestQueued i r) ∈ rest ∧ ∃ j < i, .within (.requestQueued j r) ∈ rest

/-- A request that a listener is about to be told has failed was accepted, so it is announced to
that listener at some time. -/
theorem Reached.announced_of_failing (run : Reached SendsOnce w) {i : Nat}
    (listens : i < w.listeners) {r : Request} {f : ExchangeFailure}
    (fails : .call (.requestFailed i r f) ∈ w.agenda) : r ∈ announcements i w.said := by
  have reported : (r, f) ∈ reports i w.said :=
    List.mem_filterMap.2 ⟨_, List.mem_append_right _ (mem_callsOf.2 fails), if_pos rfl⟩
  have broken := (run.failuresReported.reports i listens).mem_iff.1 reported
  obtain ⟨ev, happened, own⟩ := List.mem_filterMap.1 (List.mem_filter.1 broken).1
  cases ev with
  | failed d e cause =>
      cases own
      have accepts := run.steady_of_sendsOnce.accepted_of_event happened rfl (Or.inr rfl)
      exact (run.announced_perm listens).mem_iff.2 (List.mem_map_of_mem (mem_acceptances.2 accepts))
  | _ => cases own

/-- If no request is sent twice, each request listener is told once of every request that was
accepted and of no other, and it is told so before it is told that the request failed, unless a
listener before it has not yet returned from being told so. -/
theorem Reached.announced (run : Reached SendsOnce w) {i : Nat} (listens : i < w.listeners) :
    w.Announced i := by
  have told := run.announced_perm listens
  have split : announcements i w.said =
      announcements i (made w.history) ++ announcements i (callsOf w.agenda) :=
    announcements_append i _ _
  have heard : List.Sublist (announcements i (made w.history)) (announcements i w.said) :=
    split ▸ List.sublist_append_left _ _
  have apart : ((announcements i (made w.history)).map (·.id)).Nodup :=
    ((told.map _).nodup_iff.2 run.nodup_admitted).sublist (heard.map _)
  refine ⟨apart, ?_, ?_, ?_⟩
  · intro quiet d e accepts
    have among : e.request ∈ announcements i (made w.history) := by
      rw [said_quiet quiet] at told
      exact told.mem_iff.2 (List.mem_map_of_mem (mem_acceptances.2 accepts))
    exact List.count_eq_one_of_mem apart (List.mem_map_of_mem among)
  · intro op x r refused asks
    refine List.count_eq_zero_of_not_mem fun there => run.not_admitted_of_refused refused asks ?_
    exact (told.map _).mem_iff.1 ((heard.map _).subset there)
  · intro r f rest top
    have announced := run.announced_of_failing listens (top ▸ List.mem_cons_self)
    rw [split] at announced
    rcases List.mem_append.1 announced with already | still
    · exact Or.inl already
    · have pending := mem_callsOf.1 (mem_announcements.1 still)
      have chain := run.inTurn
      rw [top] at pending chain
      have below := (List.mem_cons.1 pending).resolve_left nofun
      exact Or.inr ⟨below, suspended_of_pending chain (fun j => ⟨nofun, nofun⟩) below⟩

/-- A client with two request listeners that may hold one connection to its only destination. -/
def twiceWatched : Client := .lone "watched" ⟨1, 4⟩ 2 ⟨"http", "localhost", 80⟩

/-- The first listener has closed the destination when it was told that a request was queued, and
the second one is going to be told that this request failed. -/
def twiceWatchedClosing : Client :=
  let w := (twiceWatched.invoke (.send 0 (narrowRequest 0) 0)).2.turn
  (w.invoke (.close 0)).2.turn.turn.turn.turn.turn.resume

theorem reached_twiceWatchedClosing : Reached SendsOnce twiceWatchedClosing := by
  have new : Reached SendsOnce twiceWatched := .initial (.lone _ _ _ _)
  have told := (new.invoke (.send 0 (narrowRequest 0) 0) (by decide) fun _ _ => nofun).step
    (.turn (by decide))
  have closing := (told.invoke (.close 0) (by decide) fun _ => nofun).step (.turn (by decide))
  have failing := (closing.step (.turn (by decide))).step (.turn (by decide))
  have failed := (failing.step (.turn (by decide))).step (.turn (by decide))
  exact failed.step (.resume rfl)

/-- That listener has not been told that the request was queued, but the first one has not returned
from being told so. -/
theorem twiceWatchedClosing_announced : Reached SendsOnce twiceWatchedClosing ∧
    1 < twiceWatchedClosing.listeners ∧
    (∃ f rest, twiceWatchedClosing.agenda = .call (.requestFailed 1 (narrowRequest 0) f) :: rest) ∧
    announcements 1 (made twiceWatchedClosing.history) = [] ∧ twiceWatchedClosing.Announced 1 :=
  ⟨reached_twiceWatchedClosing, by decide, ⟨_, _, rfl⟩, by decide,
    reached_twiceWatchedClosing.announced (by decide)⟩

/-- Each request listener was told that a request was queued before it was told that it failed. -/
def HearsInOrder (w : Client) : Prop :=
  ∀ i < w.listeners, ∀ later r f earlier,
    w.history = later ++ .called (.requestFailed i r f) :: earlier →
      .called (.requestQueued i r) ∈ earlier

/-- That client after both operations are over. -/
def twiceWatchedClosed : Client := twiceWatchedClosing.settle.resume.settle

/-- The second listener was told first that the request failed, and then that it was queued. -/
theorem twiceWatchedClosed_outOfOrder : Reached SendsOnce twiceWatchedClosed ∧
    twiceWatchedClosed.agenda = [] ∧ ¬ twiceWatchedClosed.HearsInOrder := by
  refine ⟨(reached_twiceWatchedClosing.settle.step (.resume rfl)).settle, by decide, ?_⟩
  intro inOrder
  have there := inOrder 1 (by decide) (twiceWatchedClosed.history.take 6) (narrowRequest 0)
    .asynchronousClose (twiceWatchedClosed.history.drop 7) (by decide)
  exact absurd there (by decide)

end Client

end ConnectionPool
