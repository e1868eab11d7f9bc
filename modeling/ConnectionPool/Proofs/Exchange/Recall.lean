import ConnectionPool.Proofs.Destination.Peace

/-!
# Why exchanges fail

In a peaceful run an exchange fails for one of two reasons: an abort found it while it waited
(`Recalled`), or its request had been given up when its turn came (`GivenUp`). The history says
which: an abort that finds an exchange is followed by the failure of that exchange at once, and a
request that was given up is marked before. Main statement: in a peaceful run every failure has one
of the two reasons, and an exchange that a connection took had neither
(`Client.Reached.reasoned`).
-/

set_option autoImplicit false

namespace ConnectionPool

/-- The exchange was taken back: an abort has found it, and then it failed. -/
def Recalled (history : List Event) (d : DestinationId) (e : Exchange) : Prop :=
  ∃ reason later before, history = later ++
    .failed d e (.aborted reason) :: .invoked (.abort d e.request.id reason) (.found true) :: before

/-- The request of the exchange was marked as given up before the exchange was dealt with. -/
def GivenUp (history : List Event) (e : Exchange) : Prop :=
  ∃ ev later earlier, history = later ++ ev :: earlier ∧
    (ev.taken? = some e ∨ ev.failed? = some e) ∧ .invoked (.mark e.request.id) .done ∈ earlier

/-- What has happened until an exchange is failed for this cause: an abort has just found it, or its
request was given up. -/
inductive Excused (history : List Event) (d : DestinationId) (e : Exchange) : Cause → Prop
  | aborted {before : List Event} (reason : String)
      (found : history = .invoked (.abort d e.request.id reason) (.found true) :: before) :
      Excused history d e (.aborted reason)
  | givenUp (marked : .invoked (.mark e.request.id) .done ∈ history) :
      Excused history d e (.aborted Client.passedOverReason)

/-- Every exchange that failed was excused, and no exchange that a connection took was given up. -/
structure Reasoned (history : List Event) : Prop where
  failed : ∀ later d e cause earlier, history = later ++ .failed d e cause :: earlier →
    Excused earlier d e cause
  taken : ∀ later d c e deferred earlier, history = later ++ .assigned d c e deferred :: earlier →
    .invoked (.mark e.request.id) .done ∉ earlier

namespace Reasoned

variable {history : List Event} {d : DestinationId} {e : Exchange}

theorem cons (h : Reasoned history) {ev : Event}
    (failed : ∀ d e cause, ev = .failed d e cause → Excused history d e cause)
    (taken : ∀ d c e deferred, ev = .assigned d c e deferred →
      .invoked (.mark e.request.id) .done ∉ history) : Reasoned (ev :: history) := by
  constructor
  · intro later d e cause earlier split
    cases later with
    | nil =>
        cases split
        exact failed d e cause rfl
    | cons ev' later =>
        cases split
        exact h.failed later d e cause earlier rfl
  · intro later d c e deferred earlier split
    cases later with
    | nil =>
        cases split
        exact taken d c e deferred rfl
    | cons ev' later =>
        cases split
        exact h.taken later d c e deferred earlier rfl

/-- An event that deals with no exchange needs no reason. -/
theorem cons_other (h : Reasoned history) {ev : Event} (unfailed : ev.failed? = none)
    (untaken : ev.taken? = none) : Reasoned (ev :: history) := by
  refine h.cons (fun d e cause own => ?_) (fun d c e deferred own => ?_)
  · rw [own] at unfailed
    cases unfailed
  · rw [own] at untaken
    cases untaken

/-- An exchange that failed was taken back or given up. -/
theorem recalled_or_givenUp (h : Reasoned history) {cause : Cause}
    (failed : .failed d e cause ∈ history) : Recalled history d e ∨ GivenUp history e := by
  obtain ⟨later, earlier, split⟩ := List.append_of_mem failed
  cases h.failed later d e cause earlier split with
  | aborted reason found =>
      rw [found] at split
      exact Or.inl ⟨reason, later, _, split⟩
  | givenUp marked => exact Or.inr ⟨_, later, earlier, split, Or.inr rfl, marked⟩

/-- An exchange that has not failed was neither taken back nor given up. -/
theorem not_recalled_or_givenUp (h : Reasoned history)
    (unfailed : ∀ d cause, .failed d e cause ∉ history) :
    ¬ Recalled history d e ∧ ¬ GivenUp history e := by
  constructor
  · rintro ⟨reason, later, before, split⟩
    refine unfailed d (.aborted reason) ?_
    rw [split]
    exact List.mem_append_right _ List.mem_cons_self
  · rintro ⟨ev, later, earlier, split, about, marked⟩
    cases ev with
    | assigned d c e' deferred =>
        rcases about with own | other
        · cases own
          exact h.taken later d c e deferred earlier split marked
        · cases other
    | failed d e' cause =>
        rcases about with other | own
        · cases other
        · cases own
          refine unfailed d cause ?_
          rw [split]
          exact List.mem_append_right _ List.mem_cons_self
    | _ => rcases about with taken | failed <;> contradiction

end Reasoned

namespace Client

variable {w w' : Client} {d : DestinationId} {e : Exchange}

/-! ## Marks -/

theorem marked_glance (w : Client) : w.glance.marked = w.marked := by rw [glance_eq]

theorem marked_locate (w : Client) (a : Address) : (w.locate a).2.marked = w.marked := by
  simp only [locate]
  split <;> rfl

theorem Turned.marked {f : Frame} (turn : Turned f w w') : w'.marked = w.marked := by
  cases turn with
  | fail d e cause => cases cause <;> rfl
  | parkIdle here empty room runs | parkStopped here empty room stopped => exact marked_glance w
  | _ => rfl

theorem Sent.marked {dest : Destination} {r : Request} {l : ListenerId} {reply : Reply}
    (sent : Sent d dest r l w reply w') : w'.marked = w.marked := by
  cases sent with
  | mismatched error => rfl
  | stopped meant stopped | full meant runs full => exact marked_glance w
  | takenBack meant runs room stops taken | accepted meant runs room stillRuns =>
      exact (marked_glance _).trans (marked_glance w)

/-- Requests are given up by the operation that does so. -/
theorem Started.marked {op : Operation} {reply : Reply} (start : Started op w reply w') :
    (w'.marked = w.marked ∧ ∀ r, op = .mark r → reply ≠ .done) ∨
      ∃ r, op = .mark r ∧ reply = .done ∧ w'.marked = r :: w.marked := by
  cases start with
  | send here sent => exact Or.inl ⟨sent.marked, fun _ => nofun⟩
  | submit runs meets here sent =>
      exact Or.inl ⟨sent.marked.trans ((marked_locate _ _).trans (marked_glance w)), fun _ => nofun⟩
  | submitAdrift runs meets missing =>
      exact Or.inl ⟨(marked_locate _ _).trans (marked_glance w), fun _ => nofun⟩
  | locate meets => exact Or.inl ⟨marked_locate w _, fun _ => nofun⟩
  | submitStopped stopped | submitUnsupported runs nowhere | releaseStopped here stopped
  | releaseStray here runs nothing | release here runs taken =>
      exact Or.inl ⟨marked_glance w, fun _ => nofun⟩
  | ignored op => exact Or.inl ⟨rfl, fun _ _ => nofun⟩
  | mark r => exact Or.inr ⟨r, rfl, rfl, rfl⟩
  | _ => exact Or.inl ⟨rfl, fun _ => nofun⟩

/-! ## Reasons -/

/-- The marks are those that were set, what has happened had its reason, and only the frame on top
fails an exchange, if any, and it has its reason too. -/
structure Candid (w : Client) : Prop where
  marks : ∀ r, w.isMarked r = true ↔ .invoked (.mark r) .done ∈ w.history
  reasoned : Reasoned w.history
  top : ∀ d e cause rest, w.agenda = .fail d e cause :: rest → Excused w.history d e cause
  below : ∀ f ∈ w.agenda.tail, f.failing? = none

/-- Where no frame fails an exchange there is nothing to give a reason for. -/
theorem candid_of_clear (marks : ∀ r, w.isMarked r = true ↔ .invoked (.mark r) .done ∈ w.history)
    (reasoned : Reasoned w.history) (clear : ∀ f ∈ w.agenda, f.failing? = none) : w.Candid := by
  refine ⟨marks, reasoned, fun d e cause rest top => ?_,
    fun f hf => clear f (List.mem_of_mem_tail hf)⟩
  have none := clear (.fail d e cause) (top ▸ List.mem_cons_self)
  cases none

theorem failureCalls_clear (w : Client) (e : Exchange) (cause : Cause) :
    ∀ f ∈ (w.failureCalls e cause).map .call, Frame.failing? f = none := by
  intro f told
  obtain ⟨c, -, rfl⟩ := List.mem_map.1 told
  rfl

/-- Carrying out a frame that closes nothing leaves a reason for every failure. -/
theorem Turned.candid {f : Frame} (turn : Turned f w w') (serene : f.isSerene = true)
    (h : (w.push [f]).Candid) : w'.Candid := by
  obtain ⟨marks, reasoned, top, below⟩ := h
  have below : ∀ g ∈ w.agenda, g.failing? = none := below
  have more {new : List Frame} (clear : ∀ g ∈ new, g.failing? = none) :
      ∀ g ∈ new ++ w.agenda, g.failing? = none := List.forall_mem_append.2 ⟨clear, below⟩
  have known : ∀ r, w.isMarked r = true ↔ .invoked (.mark r) .done ∈ w.history := marks
  have marks : ∀ r, w'.isMarked r = true ↔ .invoked (.mark r) .done ∈ w'.history := by
    intro r
    rw [isMarked, turn.marked]
    exact (known r).trans turn.ledger.invoked_iff.symm
  have reasoned : Reasoned w.history := reasoned
  have taken {d : DestinationId} {c : ConnectionId} {e : Exchange} {deferred : Bool}
      (unmarked : w.isMarked e.request.id = false) :
      Reasoned (.assigned d c e deferred :: w.history) := by
    refine reasoned.cons (fun _ _ _ => nofun) fun d' c' e' deferred' own there => ?_
    cases own
    cases unmarked.symm.trans ((known _).2 there)
  cases turn with
  | call c =>
      exact candid_of_clear marks (reasoned.cons_other rfl rfl)
        (more (List.forall_mem_singleton.2 rfl))
  | finish op => exact candid_of_clear marks (reasoned.cons_other rfl rfl) below
  | fail d e cause =>
      have failed : Reasoned (.failed d e cause :: w.history) := by
        refine reasoned.cons (fun d' e' cause' own => ?_) (fun _ _ _ _ => nofun)
        cases own
        exact top d e cause w.agenda rfl
      refine candid_of_clear marks (by cases cause <;> exact failed) ?_
      rw [agenda_push, agenda_countFate, agenda_record]
      exact more (failureCalls_clear _ e cause)
  | adrift names missing | takeNone here nothing => exact candid_of_clear marks reasoned below
  | within c | acquireIdle here head | acquireFull here nothing full | takeIdle here head
  | parkSurplus here empty full =>
      exact candid_of_clear marks reasoned (more (List.forall_mem_singleton.2 rfl))
  | acquireNew here nothing free =>
      exact candid_of_clear marks reasoned
        (more (List.forall_mem_cons.2 ⟨rfl, List.forall_mem_singleton.2 rfl⟩))
  | parkIdle here empty free runs =>
      refine candid_of_clear marks (history_glance w ▸ reasoned) ?_
      rw [agenda_putDestination, agenda_glance]
      exact below
  | parkStopped here empty free stopped =>
      refine candid_of_clear marks (history_glance w ▸ reasoned) ?_
      rw [agenda_push, agenda_countRemoved, agenda_putDestination, agenda_glance]
      exact more (List.forall_mem_singleton.2 rfl)
  | @passOver _ d dest c deferred e queue here head marked =>
      -- the exchange that is passed over is failed next, as its request was given up
      refine ⟨marks, reasoned, fun d' e' cause rest own => ?_, ?_⟩
      · cases own
        exact .givenUp ((known e.request.id).1 marked)
      · exact List.forall_mem_cons.2 ⟨rfl, below⟩
  | assign here head unmarked | assignDeferred here head unmarked =>
      exact candid_of_clear marks (taken unmarked) (more (List.forall_mem_singleton.2 rfl))
  | removeLast here empty | removeMore here waiting | closeIdle here | closeActive here
  | failQueued here => cases serene

/-- The start of a peaceful operation that hands exchanges over, if it runs a task, leaves a reason
for every failure. -/
theorem Started.candid {op : Operation} {reply : Reply}
    (start : Started op (w.push [.finish op]) reply w') (waits : w.awaits = true)
    (peaceful : Peaceful w op) (tasks : ∀ task ∈ w.tasks, ∃ c e, task.work = .deliver c e)
    (h : w.Candid) : (w'.record (.invoked op reply)).Candid := by
  have clear : ∀ f ∈ (w.push [.finish op]).agenda, f.failing? = none := by
    refine List.forall_mem_cons.2 ⟨rfl, fun f hf => ?_⟩
    have below := h.below
    rw [awaits] at waits
    split at waits
    · next none => cases none ▸ hf
    · next c rest top =>
        rw [top] at hf below
        rcases List.mem_cons.1 hf with rfl | under
        · rfl
        · exact below f under
    · cases waits
  have marks : ∀ r, (w'.record (.invoked op reply)).isMarked r = true ↔
      .invoked (.mark r) .done ∈ (w'.record (.invoked op reply)).history := by
    intro r
    have known : w.isMarked r = true ↔ .invoked (.mark r) .done ∈ w'.history :=
      (h.marks r).trans start.ledger.invoked_iff.symm
    show w'.marked.contains r = true ↔ _ ∈ _ :: w'.history
    rw [List.mem_cons]
    rcases start.marked with ⟨same, other⟩ | ⟨r', rfl, rfl, more⟩
    · rw [same]
      refine known.trans ⟨Or.inr, fun there => there.resolve_left fun own => ?_⟩
      cases own
      exact other r rfl rfl
    · rw [more, List.contains_cons, Bool.or_eq_true, beq_iff_eq]
      refine or_congr ⟨fun same => by rw [same], fun own => ?_⟩ known
      cases own
      rfl
  have reasoned : Reasoned (w'.record (.invoked op reply)).history := by
    refine Reasoned.cons_other ?_ rfl rfl
    rcases start.history with same | ⟨d, error, spared⟩ | ⟨d, e, queued, -⟩
    · rw [same]
      exact h.reasoned
    · rw [spared]
      exact h.reasoned.cons_other rfl rfl
    · rw [queued]
      exact h.reasoned.cons_other rfl rfl
  have unfailing (puts : ∀ f, (w.push [.finish op]).Puts op f → f.failing? = none) :
      (w'.record (.invoked op reply)).Candid := by
    obtain ⟨new, agenda, listed⟩ := start.agenda
    refine candid_of_clear marks reasoned ?_
    rw [agenda_record, agenda]
    exact List.forall_mem_append.2 ⟨fun f hf => puts f (listed f hf), clear⟩
  cases op with
  | abort d r reason =>
      cases start with
      | ignored op => exact candid_of_clear marks reasoned clear
      | abortMissed here nothing => exact candid_of_clear marks reasoned clear
      | abort here taken =>
          -- what was found is failed next
          obtain ⟨-, -, -, -, own, -⟩ := BoundedQueue.split_of_removeFirst taken
          have own := beq_iff_eq.1 own
          refine ⟨marks, reasoned, fun d' e cause rest top => ?_, clear⟩
          cases top
          exact .aborted reason (by rw [own]; rfl)
  | perform k =>
      cases start with
      | ignored op => exact candid_of_clear marks reasoned clear
      | deliver held work =>
          exact candid_of_clear marks reasoned (List.forall_mem_cons.2 ⟨rfl, clear⟩)
      | failHeadAdrift held work missing | spare held work here empty =>
          exact candid_of_clear marks reasoned clear
      | failHead held work here head =>
          obtain ⟨c, e, delivers⟩ := tasks _ (List.mem_of_find?_eq_some held)
          cases work.symm.trans delivers
  | _ => exact unfailing fun f puts => by cases puts <;> rfl

/-- If every connection is delivered once, then in a peaceful run there is a reason for every
failure, and an exchange that a connection took had not been given up. -/
theorem Reached.candid (run : Reached Peaceful w)
    (once : ∀ d, (delivered (w.attemptsOf d)).Nodup) : w.Candid := by
  refine run.delivering_once (P := Candid) (fun new => ?_)
    (fun {w w'} past once before next => ?_) once
  · have none : Reasoned [] := by
      constructor
      · exact fun later d e cause earlier split => absurd split.symm (by simp)
      · exact fun later d c e deferred earlier split => absurd split.symm (by simp)
    cases new <;>
      exact candid_of_clear (fun r => ⟨nofun, nofun⟩) none (List.forall_mem_nil _)
  · have serene := past.serene once
    rcases next.cases with ⟨f, v, rfl, turn⟩ | ⟨c, rfl⟩ | ⟨op, reply, v, waits, may, start, rfl⟩
    · exact turn.candid (serene.agenda f List.mem_cons_self) before
    · exact candid_of_clear before.marks before.reasoned before.below
    · exact start.candid waits may serene.tasks before

theorem Reached.reasoned (run : Reached Peaceful w)
    (once : ∀ d, (delivered (w.attemptsOf d)).Nodup) : Reasoned w.history :=
  (run.candid once).reasoned

end Client

end ConnectionPool
