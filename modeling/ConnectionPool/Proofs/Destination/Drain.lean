import ConnectionPool.Proofs.Client.Agenda
import ConnectionPool.Proofs.Client.Driven
import ConnectionPool.Proofs.Destination.SlotAccounting
import ConnectionPool.Proofs.Exchange.Fate

/-!
# What a stop drains

When a client stops it closes every destination in its registry, and a closing empties the idle
pool, the active pool and the queue one after another, with callbacks in between. A destination
drains while what is not empty there yet is going to be emptied by a frame of the stop, and nothing
else can fill it again (`Site.Draining`). Main statement: a stop drains every destination that the
registry names, and fails what waited there, if meanwhile nothing takes a connection away there or
ends an attempt there with one while exchanges wait (`Client.Course.stop_drains`). Where the
callback of a closed connection does take it away, the destination connects anew and is not drained
(`Client.stop_reopens`).
-/

set_option autoImplicit false

namespace ConnectionPool

namespace Frame

/-- How much of a closing the frame stands for. -/
def rank : Frame → Nat
  | .closeIdle _ => 3
  | .closeActive _ => 2
  | .failQueued _ => 1
  | _ => 0

/-- The frame looks for a connection. -/
def seeks : Frame → Bool
  | .acquire _ => true
  | .takeIdle _ => true
  | _ => false

/-- The frame does more if exchanges wait. -/
def minds : Frame → Bool
  | .serve _ _ _ => true
  | .remove _ _ => true
  | _ => false

end Frame

/-- What is empty in `D` is empty in `D'`, and slots that are all free stay free. -/
structure Destination.Dwindles (D D' : Destination) : Prop where
  idle : D.idle.items = [] → D'.idle.items = []
  active : D.active.items = [] → D'.active.items = []
  queue : D.queue.items = [] → D'.queue.items = []
  slots : D.slots.used = 0 → D'.slots.used = 0

namespace Destination

theorem Dwindles.refl (D : Destination) : D.Dwindles D := ⟨id, id, id, id⟩

theorem forget_dwindles (D : Destination) (c : ConnectionId) : D.Dwindles (D.forget c) := by
  have empty {q : BoundedQueue ConnectionId} (none : q.items = []) :
      (q.discard (· == c)).items = [] := by
    rcases q.items_discard (· == c) with ⟨-, same⟩ | ⟨before, a, after, split, -⟩
    · rw [same, none]
    · simp [none] at split
  refine ⟨empty, empty, id, fun free => ?_⟩
  rw [Destination.forget, SlotCounter.used_release, free]

end Destination

namespace Site

variable {d : DestinationId} {steady tidy : Prop} {s s' : Site} {f : Frame} {fs F : List Frame}
  {T : List Exchange}

/-- The frames `fs` leave nothing behind: none of them looks for a connection, those that mind
whether exchanges wait find none, and what is not empty yet will be emptied by one of them. The
exchanges `T` were taken. -/
structure Draining (fs : List Frame) (T : List Exchange) (s : Site) : Prop where
  calm : ∀ f ∈ fs, f.seeks = false ∧ (f.minds = true → s.dest.queue.items = [])
  idle : s.dest.idle.items = [] ∨ ∃ f ∈ fs, 3 ≤ f.rank
  active : s.dest.active.items = [] ∨ ∃ f ∈ fs, 2 ≤ f.rank
  queue : s.dest.queue.items = [] ∧ s.dest.slots.used = 0 ∨ ∃ f ∈ fs, 1 ≤ f.rank
  untaken : taken s.events = T

/-- Where nothing is left to be carried out, everything is empty. -/
theorem Draining.drained (h : s.Draining [] T) : s.dest.queue.items = [] ∧
    s.dest.idle.items = [] ∧ s.dest.active.items = [] ∧ s.dest.slots.used = 0 := by
  have none {n : Nat} : ¬ ∃ f ∈ ([] : List Frame), n ≤ f.rank := by
    rintro ⟨f, hf, -⟩
    cases hf
  obtain ⟨queue, slots⟩ := h.queue.resolve_right none
  exact ⟨queue, h.idle.resolve_right none, h.active.resolve_right none, slots⟩

/-- A destination that dwindles goes on draining, if what was to be emptied still is. -/
theorem Draining.dwindle (h : s.Draining fs T) {fs' : List Frame}
    (dwindles : s.dest.Dwindles s'.dest)
    (calm : ∀ f ∈ fs', f.seeks = false ∧ (f.minds = true → s'.dest.queue.items = []))
    (ranks : ∀ n, 1 ≤ n → (∃ f ∈ fs, n ≤ f.rank) → ∃ f ∈ fs', n ≤ f.rank)
    (untaken : taken s'.events = taken s.events) : s'.Draining fs' T where
  calm := calm
  idle := h.idle.imp dwindles.idle (ranks 3 (by decide))
  active := h.active.imp dwindles.active (ranks 2 (by decide))
  queue := h.queue.imp (fun ⟨queue, slots⟩ => ⟨dwindles.queue queue, dwindles.slots slots⟩)
    (ranks 1 (by decide))
  untaken := untaken.trans h.untaken

/-- A frame that stands for less can be left out. -/
theorem rank_tail {n : Nat} (less : f.rank < n) (ranked : ∃ g ∈ f :: fs, n ≤ g.rank) :
    ∃ g ∈ fs, n ≤ g.rank := by
  obtain ⟨g, hg, le⟩ := ranked
  rcases List.mem_cons.1 hg with rfl | rest
  · exact absurd less (Nat.not_lt.2 le)
  · exact ⟨g, rest, le⟩

theorem rank_append {n : Nat} (new : List Frame) (ranked : ∃ g ∈ fs, n ≤ g.rank) :
    ∃ g ∈ new ++ fs, n ≤ g.rank := by
  obtain ⟨g, hg, le⟩ := ranked
  exact ⟨g, List.mem_append_right _ hg, le⟩

/-- After a frame that is no part of a closing and puts nothing in its place, the others go on. -/
theorem Draining.pop (h : s.Draining (f :: fs) T) (plain : f.rank = 0)
    (dwindles : s.dest.Dwindles s'.dest) (untaken : taken s'.events = taken s.events) :
    s'.Draining fs T := by
  refine h.dwindle dwindles (fun g hg => ?_) (fun n some => rank_tail (plain ▸ some)) untaken
  obtain ⟨calm, minds⟩ := h.calm g (List.mem_cons_of_mem _ hg)
  exact ⟨calm, fun mind => dwindles.queue (minds mind)⟩

/-- Carrying out the frame on top, a destination goes on draining unless a connection is parked. -/
theorem Draining.turn (h : s.Draining (f :: fs) T) (turn : Turn d s s') (top : s.frames = f :: F)
    (unparked : s.dest.idle.items = [] → s'.dest.idle.items = []) :
    ∃ new, s'.frames = new ++ F ∧ s'.Draining (new ++ fs) T := by
  obtain ⟨calm, minds⟩ := h.calm f List.mem_cons_self
  have others : ∀ g ∈ fs, g.seeks = false ∧ (g.minds = true → s.dest.queue.items = []) :=
    fun g hg => h.calm g (List.mem_cons_of_mem _ hg)
  cases turn with
  | fail top' | parkSurplus top' empty full =>
      cases top.symm.trans top'
      exact ⟨[], rfl, h.pop rfl (.refl _) rfl⟩
  | acquireIdle top' head | acquireNew top' nothing free | acquireFull top' nothing full
  | takeIdle top' head | takeNone top' nothing =>
      cases top.symm.trans top'
      cases calm
  | parkIdle top' empty room =>
      cases top.symm.trans top'
      exact ⟨[], rfl, h.pop rfl ⟨unparked, id, id, id⟩ rfl⟩
  | @parkStopped F c deferred idle top' empty room =>
      cases top.symm.trans top'
      have rest := ({ s.dest with idle := idle } : Destination).forget_dwindles c
      exact ⟨[], rfl, h.pop rfl ⟨unparked, rest.active, rest.queue, rest.slots⟩ rfl⟩
  | passOver top' head | assign top' head =>
      -- no exchange waits while a connection is in hand
      cases top.symm.trans top'
      have waiting := (BoundedQueue.poll_eq_some_iff.1 head).1
      rw [minds rfl] at waiting
      cases waiting
  | removeLast top' empty =>
      cases top.symm.trans top'
      exact ⟨[], rfl, h.pop rfl (s.dest.forget_dwindles _) rfl⟩
  | removeMore top' waiting =>
      cases top.symm.trans top'
      exact absurd (minds rfl) waiting
  | closeIdle top' =>
      -- the closing goes on with the active connections
      cases top.symm.trans top'
      refine ⟨[.closeActive d], rfl, ?_, Or.inl rfl, ?_, ?_, h.untaken⟩
      · exact List.forall_mem_cons.2 ⟨⟨rfl, fun mind => by cases mind⟩, others⟩
      · exact Or.inr ⟨_, List.mem_cons_self, Nat.le_refl 2⟩
      · exact Or.inr ⟨_, List.mem_cons_self, Nat.le_succ 1⟩
  | closeActive top' =>
      -- and with the queue
      cases top.symm.trans top'
      refine ⟨[.failQueued d], rfl, ?_, ?_, Or.inl rfl, ?_, h.untaken⟩
      · exact List.forall_mem_cons.2 ⟨⟨rfl, fun mind => by cases mind⟩, others⟩
      · apply h.idle.imp_right
        intro ranked
        exact rank_append _ (rank_tail (f := .closeActive d) (Nat.lt_succ_self 2) ranked)
      · exact Or.inr ⟨_, List.mem_cons_self, Nat.le_refl 1⟩
  | failQueued top' =>
      cases top.symm.trans top'
      refine ⟨_, rfl, ?_, ?_, ?_, Or.inl ⟨rfl, rfl⟩, h.untaken⟩
      · intro g hg
        rcases List.mem_append.1 hg with fails | rest
        · obtain ⟨e, -, rfl⟩ := List.mem_map.1 fails
          exact ⟨rfl, fun mind => by cases mind⟩
        · exact ⟨(others g rest).1, fun _ => rfl⟩
      · apply h.idle.imp_right
        intro ranked
        have less : (Frame.failQueued d).rank < 3 := Nat.lt_succ_of_lt Nat.one_lt_two
        exact rank_append _ (rank_tail less ranked)
      · apply h.active.imp_right
        intro ranked
        exact rank_append _ (rank_tail (f := .failQueued d) Nat.one_lt_two ranked)

/-- The start of an operation fills nothing that was empty, unless an exchange is accepted. -/
theorem Start.dwindles (start : Start d steady tidy s s')
    (other : s'.frames ≠ .acquire d :: s.frames) : s.dest.Dwindles s'.dest := by
  cases start with
  | accept room => exact absurd rfl other
  | takeBack own room taken =>
      refine ⟨id, id, fun empty => ?_, id⟩
      -- as many wait as before
      have more := BoundedQueue.length_of_offer room
      rw [BoundedQueue.length_of_removeFirst taken, empty] at more
      exact List.eq_nil_of_length_eq_zero (Nat.succ.inj more)
  | abort taken =>
      refine ⟨id, id, fun empty => ?_, id⟩
      have more := BoundedQueue.length_of_removeFirst taken
      rw [empty] at more
      cases more
  | failHead head =>
      refine ⟨id, id, fun empty => ?_, id⟩
      rw [(BoundedQueue.poll_eq_some_iff.1 head).1] at empty
      cases empty
  | release taken =>
      refine ⟨id, fun empty => ?_, id, id⟩
      have more := BoundedQueue.length_of_removeFirst taken
      rw [empty] at more
      cases more
  | failedAttempt underWay unsettled =>
      refine ⟨id, id, id, fun free => ?_⟩
      rw [SlotCounter.used_release, free]
  | _ => exact .refl _

/-- The start of an operation puts no connection to work. -/
theorem Start.taken_eq (start : Start d steady tidy s s') : taken s'.events = taken s.events := by
  cases start <;> rfl

/-- What the start of an operation adds leaves a destination draining, unless it looks for a
connection, or minds whether exchanges wait while some do. -/
theorem Draining.start (h : s.Draining fs T) (start : Start d steady tidy s s')
    (calm : ∀ new, s'.frames = new ++ s.frames → ∀ f ∈ new, f.seeks = false ∧
      (f.minds = true → s.dest.queue.items = [])) :
    ∃ new, s'.frames = new ++ s.frames ∧ s'.Draining (new ++ fs) T := by
  have dwindles : s.dest.Dwindles s'.dest := by
    apply start.dwindles
    intro seeks
    obtain ⟨silent, -⟩ := calm [_] seeks _ List.mem_cons_self
    cases silent
  obtain ⟨new, frames, -⟩ := start.frames
  refine ⟨new, frames, h.dwindle dwindles ?_ (fun n _ => rank_append new) start.taken_eq⟩
  intro f hf
  rcases List.mem_append.1 hf with fresh | old
  · obtain ⟨seeks, minds⟩ := calm new frames f fresh
    exact ⟨seeks, fun mind => dwindles.queue (minds mind)⟩
  · obtain ⟨seeks, minds⟩ := h.calm f old
    exact ⟨seeks, fun mind => dwindles.queue (minds mind)⟩

/-- Only where a connection is in hand can an idle one appear. -/
theorem Turn.idle_empty (turn : Turn d s s') (empty : s.dest.idle.items = []) :
    s'.dest.idle.items = [] ∨ ∃ c deferred F, s.frames = .serve d c deferred :: F := by
  cases turn with
  | acquireIdle top head | takeIdle top head =>
      rw [(BoundedQueue.poll_eq_some_iff.1 head).1] at empty
      cases empty
  | parkSurplus top empty full | parkIdle top empty room | parkStopped top empty room
  | passOver top head | assign top head => exact Or.inr ⟨_, _, _, top⟩
  | removeLast top none | removeMore top waiting =>
      exact Or.inl ((s.dest.forget_dwindles _).idle empty)
  | closeIdle top => exact Or.inl rfl
  | _ => exact Or.inl empty

end Site

namespace Client

variable {allowed : Client → Operation → Prop} {w w' : Client} {d : DestinationId}
  {base : List Frame} {T : List Exchange}

/-- No exchange waits at the destination. -/
def NoneWait (w : Client) (d : DestinationId) : Prop :=
  ∀ D, w.destinations[d]? = some D → D.queue.items = []

/-- What the outside may invoke if it is not to keep a stop from draining the destination `d`: it
does not start the client again, and while exchanges wait at `d` it takes no connection away there
and ends no attempt there with a connection. -/
def SparesWaiting (d : DestinationId) (w : Client) : Operation → Prop
  | .setRunning flag => flag = false
  | .foresee _ => False
  | .remove d' _ => d' = d → w.NoneWait d
  | .release d' _ => d' = d → w.NoneWait d
  | .settle a (.connected _) =>
      ∀ attempt, w.attempts[a]? = some attempt → attempt.isOf d = true → w.NoneWait d
  | _ => True

theorem staysHalted_of_spares {op : Operation} (spares : SparesWaiting d w op) :
    StaysHalted w op := by
  cases op with
  | setRunning flag => exact spares
  | foresee answers => exact False.elim spares
  | _ => trivial

theorem unforeseen_of_spares {op : Operation} (spares : SparesWaiting d w op) :
    Unforeseen w op := by
  rintro answers rfl
  exact spares

theorem spares_push {op : Operation} (spares : SparesWaiting d w op) (fs : List Frame) :
    SparesWaiting d (w.push fs) op := by
  cases op with
  | settle a o => cases o <;> exact spares
  | _ => exact spares

/-- Of the frames `base` down, the agenda is what it was, and above them the destination drains. -/
def Drains (base : List Frame) (d : DestinationId) (T : List Exchange) (w : Client) : Prop :=
  ∃ D fs, w.destinations[d]? = some D ∧ w.framesAt d = fs ++ base.filter (·.isAt d) ∧
    (w.site d D).Draining fs T

/-- A halted client that has an idle connection had it before. -/
theorem Turned.idle_empty {f : Frame} {D D' : Destination} (turn : Turned f w w')
    (about : f.destination? = some d) (stopped : w.seesRunning = false)
    (here : w.destinations[d]? = some D) (here' : w'.destinations[d]? = some D')
    (moved : Site.Turn d ((w.push [f]).site d D) (w'.site d D'))
    (minds : f.minds = true → D.queue.items = []) (empty : D.idle.items = []) :
    D'.idle.items = [] := by
  rcases moved.idle_empty empty with still | ⟨c, deferred, F, inHand⟩
  · exact still
  · -- the connection in hand is not parked
    have top : (w.push [f]).framesAt d = f :: _ := framesAt_of_top rfl about
    cases top.symm.trans inHand
    obtain ⟨-, D'', here'', -, left⟩ := turn.unparked here (minds rfl) (Or.inr stopped)
    cases here'.symm.trans here''
    rcases left with rfl | ⟨idle, room, rfl⟩
    · exact empty
    · have parked := (BoundedQueue.offer_eq_ok_iff.1 room).2.2
      rw [empty, List.nil_append] at parked
      rcases idle.count_discard c c with ⟨none, -⟩ | ⟨-, length⟩
      · rw [parked, List.count_singleton_self] at none
        cases none
      · rw [parked] at length
        exact List.eq_nil_of_length_eq_zero (Nat.succ.inj length.symm)

/-- A halted client starts an operation that spares waiting exchanges with frames that leave a
destination draining. -/
theorem Puts.calm {op : Operation} {f : Frame} (puts : w.Puts op f)
    (stopped : w.seesRunning = false) (spares : SparesWaiting d w op)
    (here : f.destination? = some d) :
    f.seeks = false ∧ (f.minds = true → w.NoneWait d) := by
  cases puts with
  | tell runs i r => cases here
  | acquire runs d' | reuse runs d' c => cases runs.symm.trans stopped
  | forget stopped d' c | remove d' c =>
      cases here
      exact ⟨rfl, fun _ => spares rfl⟩
  | serve underWay pooled c =>
      cases here
      exact ⟨rfl, fun _ => spares _ underWay (Attempt.isOf_iff.2 ⟨pooled, rfl⟩)⟩
  | _ => exact ⟨rfl, fun mind => by cases mind⟩

/-- Where a frame about the destination lies above the others, carrying it out keeps the destination
draining. -/
theorem Turned.drains_here {f : Frame} (turn : Turned f w w') (about : f.destination? = some d)
    (stopped : w.seesRunning = false) {op : Operation} {rest : List Frame}
    (inside : .finish op :: rest <:+ f :: w.agenda)
    (h : (w.push [f]).Drains (.finish op :: rest) d T) : w'.Drains (.finish op :: rest) d T := by
  obtain ⟨D, fs, here, frames, draining⟩ := h
  have top : (w.push [f]).framesAt d = f :: w.framesAt d := framesAt_of_top rfl about
  rcases List.suffix_cons_iff.1 inside with same | ⟨above, agenda⟩
  · -- the end of an operation is about no destination
    cases (List.cons.inj same).1
    cases about
  · have below : w.framesAt d = above.filter (·.isAt d) ++
        (Frame.finish op :: rest).filter (·.isAt d) := by
      rw [framesAt, ← agenda, List.filter_append]
    have split : fs = f :: above.filter (·.isAt d) := by
      rw [top, below, ← List.cons_append] at frames
      exact (List.append_cancel_right frames).symm
    subst split
    obtain ⟨D₁, D', here₁, here', moved⟩ := turn.here about (lt_of_here here)
    cases here.symm.trans here₁
    obtain ⟨new, frames', draining'⟩ := draining.turn moved top
      (turn.idle_empty about stopped here here' moved (draining.calm f List.mem_cons_self).2)
    refine ⟨D', _, here', ?_, draining'⟩
    rw [List.append_assoc, ← below]
    exact frames'

/-- A frame that is not about a destination leaves it draining. -/
theorem Turned.drains_away {f : Frame} (turn : Turned f w w') (away : f.destination? ≠ some d)
    (h : (w.push [f]).Drains base d T) : w'.Drains base d T := by
  obtain ⟨D, fs, here, frames, draining⟩ := h
  obtain ⟨same, unmoved⟩ := turn.elsewhere away D
  have before := site_push_away away w D []
  refine ⟨D, fs, same.trans here, ?_, ?_⟩
  · exact (congrArg Site.frames (unmoved.trans before.symm)).trans frames
  · rw [unmoved, ← push_nil w, ← before]
    exact draining

/-- A halted client that starts an operation which spares waiting exchanges leaves a destination
draining. -/
theorem Started.drains {op : Operation} {reply : Reply}
    (start : Started op (w.push [.finish op]) reply w') (halted : w.Halted)
    (spares : SparesWaiting d w op) (h : w.Drains base d T) :
    (w'.record (.invoked op reply)).Drains base d T := by
  obtain ⟨D, fs, here, frames, draining⟩ := h
  have made : d < w'.destinations.length :=
    Nat.lt_of_lt_of_le (lt_of_here here) start.length_destinations_le
  have here' := List.getElem?_eq_getElem made
  obtain ⟨D₁, before, moved⟩ := start.site False.elim False.elim here'
  rw [site_push_away (by simp [Frame.destination?]), push_nil] at moved
  have same : D₁ = D := by
    rcases before with here₁ | ⟨missing, -⟩
    · exact Option.some.inj (here₁.symm.trans here)
    · cases here.symm.trans missing
  subst same
  obtain ⟨added, agenda, puts⟩ := start.agenda
  have above : w'.framesAt d = added.filter (·.isAt d) ++ w.framesAt d := by
    rw [framesAt, agenda, List.filter_append]
    rfl
  have stopped : (w.push [.finish op]).seesRunning = false :=
    (seesRunning_push w _).trans halted.seesRunning
  obtain ⟨new, frames', draining'⟩ := draining.start moved fun new split f hf => by
    have split : w'.framesAt d = new ++ w.framesAt d := split
    rw [above] at split
    rw [← List.append_cancel_right split] at hf
    obtain ⟨hf, about⟩ := List.mem_filter.1 hf
    obtain ⟨seeks, minds⟩ :=
      (puts f hf).calm stopped (spares_push spares _) (Frame.isAt_iff.1 about)
    exact ⟨seeks, fun mind => minds mind _ here⟩
  refine ⟨_, new ++ fs, here', ?_, ?_⟩
  · rw [List.append_assoc, ← frames]
    exact frames'
  · rw [site_noted]
    exact draining'

/-- A step of a halted client that does not go below the end of an operation keeps a destination
draining. -/
theorem Step.drains (halted : w.Halted) (next : Step (SparesWaiting d) w w') {op : Operation}
    {rest : List Frame} (inside : .finish op :: rest <:+ w.agenda)
    (h : w.Drains (.finish op :: rest) d T) : w'.Drains (.finish op :: rest) d T := by
  rcases next.cases with ⟨f, v, rfl, turn⟩ | ⟨c, rfl⟩ | ⟨op', reply, v, waits, may, start, rfl⟩
  · by_cases about : f.destination? = some d
    · have stopped : v.seesRunning = false := (seesRunning_push v [f]).symm.trans halted.seesRunning
      exact turn.drains_here about stopped inside h
    · exact turn.drains_away about h
  · exact h
  · exact start.drains halted may h

theorem Course.drains {past : List Client} (halted : w.Halted)
    (course : Course (SparesWaiting d) w past w') {op₀ : Operation} {rest : List Frame}
    (inside : ∀ v ∈ past, .finish op₀ :: rest <:+ v.agenda)
    (h : w.Drains (.finish op₀ :: rest) d T) : w'.Drains (.finish op₀ :: rest) d T := by
  induction course with
  | nil => exact h
  | snoc course next ih =>
      obtain ⟨now, earlier⟩ := List.forall_mem_cons.1 inside
      have halted := course.halted (fun _ _ => staysHalted_of_spares) halted
      exact next.drains halted now (ih earlier)

/-- A stop leaves every destination that the registry names draining. -/
theorem drains_stop {a : Address} (registered : (a, d) ∈ w.registry) {D : Destination}
    (here : w.destinations[d]? = some D) :
    (w.invoke .stop).2.Drains (.finish .stop :: w.agenda) d (taken (w.eventsAt d)) := by
  have agenda : (w.invoke .stop).2.agenda =
      (w.registry.map fun r => Frame.closeIdle r.2) ++ .finish .stop :: w.agenda := rfl
  have unseen : (w.invoke .stop).2.eventsAt d = w.eventsAt d :=
    List.filter_cons_of_neg (by simp [Event.destination?])
  refine ⟨D, (w.registry.map fun r => Frame.closeIdle r.2).filter (·.isAt d), here, ?_, ?_⟩
  · rw [framesAt, agenda, List.filter_append]
  have closes : .closeIdle d ∈ (w.registry.map fun r => Frame.closeIdle r.2).filter (·.isAt d) :=
    List.mem_filter.2 ⟨List.mem_map.2 ⟨_, registered, rfl⟩, by simp [Frame.destination?]⟩
  have ranked {n : Nat} (le : n ≤ 3) :
      ∃ f ∈ (w.registry.map fun r => Frame.closeIdle r.2).filter (·.isAt d), n ≤ f.rank :=
    ⟨_, closes, le⟩
  constructor
  · intro f hf
    obtain ⟨r, -, rfl⟩ := List.mem_map.1 (List.mem_filter.1 hf).1
    exact ⟨rfl, fun mind => by cases mind⟩
  · exact Or.inr (ranked (by decide))
  · exact Or.inr (ranked (by decide))
  · exact Or.inr (ranked (by decide))
  · exact congrArg taken unseen

/-- A stop drains every destination that the registry names, if nothing takes a connection away
there or ends an attempt there with one while exchanges wait: when it returns the queue and both
pools are empty, all slots are free, and what waited has failed, once, and was handed to no
connection. -/
theorem Course.stop_drains {past : List Client} (run : Reached Unforeseen w)
    (waits : w.awaits = true) {a : Address} (registered : (a, d) ∈ w.registry) {D : Destination}
    (here : w.destinations[d]? = some D)
    (course : Course (SparesWaiting d) (w.invoke .stop).2 past w')
    (inside : ∀ v ∈ past, .finish .stop :: w.agenda <:+ v.agenda)
    (ended : w'.agenda = .finish .stop :: w.agenda) :
    ∃ D', w'.destinations[d]? = some D' ∧ D'.queue.items = [] ∧ D'.idle.items = [] ∧
      D'.active.items = [] ∧ D'.slots.used = 0 ∧
      ∀ e ∈ D.queue.items, ∃ cause, w'.traces d e = (Fate.failed cause).traces e := by
  have foreseen : (w.invoke .stop).2.foreseen = [] := run.foreseen_nil
  have halted : (w.invoke .stop).2.Halted := ⟨rfl, foreseen ▸ List.forall_mem_nil _⟩
  obtain ⟨D', fs, here', frames, draining⟩ :=
    course.drains halted inside (drains_stop registered here)
  -- nothing is left above the end of the stop
  have none : fs = [] := by
    rw [framesAt, ended] at frames
    exact List.append_left_eq_self.1 frames.symm
  subst none
  have empty : D'.queue.items = [] ∧ D'.idle.items = [] ∧ D'.active.items = [] ∧
      D'.slots.used = 0 := draining.drained
  obtain ⟨queue, idle, active, slots⟩ := empty
  refine ⟨D', here', queue, idle, active, slots, fun e waiting => ?_⟩
  have before := run.steady
  have after : Reached Steady w' := Reached.steady <|
    (course.mono fun _ _ => unforeseen_of_spares).reached
      (run.step (.invoke .stop waits fun _ => by simp))
  -- what waited has failed: nothing below the stop concerns it, and no connection took it
  obtain ⟨accepts, untaken, -⟩ := before.untouched_of_queued here waiting
  have accepts' : .accepted d e ∈ w'.history :=
    course.keeps (fun kept next => next.remembers kept) (List.mem_cons_of_mem _ accepts)
  have unconcerned : ∀ f ∈ w'.agenda, f.concerns e = false := by
    rw [ended]
    exact List.forall_mem_cons.2 ⟨rfl, before.unconcerned_of_queued here waiting⟩
  have same : taken (w'.eventsAt d) = taken (w.eventsAt d) := draining.untaken
  have untaken' : takers e (assignments w'.history) = [] := by
    have taken' := after.length_takers accepts'
    rw [same, ← before.length_takers accepts, untaken] at taken'
    exact List.eq_nil_of_length_eq_zero taken'
  exact after.failed_of_untaken unconcerned accepts' here' (by simp [queue]) untaken'

/-! ## A client that stops -/

/-- A client that routes two requests to its only destination has made its connection for the first,
and the other waits. -/
def narrowRouted : Client :=
  let w := ((Client.fresh "narrow" ⟨1, 4⟩ 0).invoke (.submit (narrowRequest 0) 0)).2.settle
  let w := (w.invoke (.submit (narrowRequest 1) 0)).2.settle
  (w.invoke (.settle 0 (.connected 7))).2.settle

/-- The client stops and closes its connection. -/
def narrowStopping : Client := (narrowRouted.invoke .stop).2.turn.turn.turn

/-- The connection has the request that waits given up, and the stop goes on. -/
def narrowDrained : Client := (narrowStopping.invoke (.abort 0 1 "gone")).2.settle.resume.turn

theorem reached_narrowRouted : Reached Unforeseen narrowRouted := by
  have new : Reached Unforeseen (Client.fresh "narrow" ⟨1, 4⟩ 0) := .initial (.fresh _ _ _)
  have first := (new.invoke (.submit (narrowRequest 0) 0) (by decide) fun _ => by simp).settle
  have second := (first.invoke (.submit (narrowRequest 1) 0) (by decide) fun _ => by simp).settle
  exact (second.invoke (.settle 0 (.connected 7)) (by decide) fun _ => by simp).settle

/-- The first steps of the stop lead into the callback of the connection that is closed. -/
theorem course_narrowStopping : ∃ past, Course allowed (narrowRouted.invoke .stop).2 past
    narrowStopping ∧ ∀ v ∈ past, [.finish .stop] <:+ v.agenda := by
  have starts : Course allowed (narrowRouted.invoke .stop).2 []
    (narrowRouted.invoke .stop).2 := .nil
  exact ⟨_, ((starts.snoc (.turn (by decide))).snoc (.turn (by decide))).snoc (.turn (by decide)),
    by decide⟩

theorem narrowStopping_inside :
    narrowStopping.agenda = [.within (.close 7), .failQueued 0, .finish .stop] := by decide

theorem narrowDrained_drained :
    ∃ D D', narrowRouted.destinations[0]? = some D ∧ narrowDrained.destinations[0]? = some D' ∧
      D.queue.items = [⟨1, narrowRequest 1, 0⟩] ∧ D'.queue.items = [] ∧ D'.idle.items = [] ∧
      D'.active.items = [] ∧ D'.slots.used = 0 ∧
      ∃ cause, narrowDrained.traces 0 ⟨1, narrowRequest 1, 0⟩ =
        (Fate.failed cause).traces ⟨1, narrowRequest 1, 0⟩ := by
  have stopping : ∃ past, Course (SparesWaiting 0) (narrowRouted.invoke .stop).2 past
      narrowStopping ∧ ∀ v ∈ past, [.finish .stop] <:+ v.agenda := course_narrowStopping
  obtain ⟨past, course, inside⟩ := stopping
  obtain ⟨past, course, inside⟩ := course.callback inside narrowStopping_inside (by decide)
    (.abort 0 1 "gone") trivial
  -- the callback returns, and the queue is empty by now
  have returns : (narrowStopping.invoke (.abort 0 1 "gone")).2.settle.agenda =
      [.within (.close 7), .failQueued 0, .finish .stop] := by decide
  have drained := (course.snoc (.resume returns)).snoc (.turn (by decide))
  have registered : (⟨"http", "localhost", 80⟩, 0) ∈ narrowRouted.registry := by decide
  obtain ⟨D', here', queue, idle, active, slots, failed⟩ :=
    drained.stop_drains reached_narrowRouted (by decide) registered
      (List.getElem?_eq_getElem (by decide))
      (List.forall_mem_cons.2 ⟨by decide, List.forall_mem_cons.2 ⟨by decide, inside⟩⟩) (by decide)
  exact ⟨_, D', List.getElem?_eq_getElem (by decide), here', by decide, queue, idle, active, slots,
    failed _ (by decide)⟩

/-! ## What a callback can reopen -/

/-- Whatever the outside does during a stop, short of starting the client again, the destination is
empty at the end and everything that waited there has failed. -/
def StopDrains (w : Client) (d : DestinationId) : Prop :=
  ∀ past w', Course StaysHalted (w.invoke .stop).2 past w' →
    (∀ v ∈ past, .finish .stop :: w.agenda <:+ v.agenda) → w'.agenda = .finish .stop :: w.agenda →
    ∀ D D', w.destinations[d]? = some D → w'.destinations[d]? = some D' →
      D'.queue.items = [] ∧ D'.idle.items = [] ∧ D'.active.items = [] ∧ D'.slots.used = 0 ∧
        ∀ e ∈ D.queue.items, ∃ cause, w'.traces d e = (Fate.failed cause).traces e

/-- The connection that is closed is taken away, and as a request waits another one is asked for. -/
def narrowReplaced : Client := (narrowStopping.invoke (.remove 0 7)).2.settle

/-- The other connection is made at once, and the stop goes on. -/
def narrowReopened : Client :=
  (narrowReplaced.invoke (.settle 1 (.connected 8))).2.settle.resume.turn

/-- A stop leaves behind the connection that was asked for from within it, with the request that
waited. -/
theorem stop_reopens : Reached Unforeseen narrowRouted ∧ narrowRouted.awaits = true ∧
    (∃ a, (a, 0) ∈ narrowRouted.registry) ∧ ¬ narrowRouted.StopDrains 0 ∧
    narrowReopened.traces 0 ⟨1, narrowRequest 1, 0⟩ =
      (Fate.handed 8).traces ⟨1, narrowRequest 1, 0⟩ := by
  have registered : (⟨"http", "localhost", 80⟩, 0) ∈ narrowRouted.registry := by decide
  refine ⟨reached_narrowRouted, by decide, ⟨_, registered⟩, fun drains => ?_, by decide⟩
  have stopping : ∃ past, Course StaysHalted (narrowRouted.invoke .stop).2 past
      narrowStopping ∧ ∀ v ∈ past, [.finish .stop] <:+ v.agenda := course_narrowStopping
  obtain ⟨past, course, inside⟩ := stopping
  obtain ⟨past, course, inside⟩ := course.callback inside narrowStopping_inside (by decide)
    (.remove 0 7) trivial
  have replaced : narrowReplaced.agenda = [.within (.close 7), .failQueued 0, .finish .stop] := by
    decide
  obtain ⟨past, course, inside⟩ := course.callback inside replaced (by decide)
    (.settle 1 (.connected 8)) trivial
  have returns : (narrowReplaced.invoke (.settle 1 (.connected 8))).2.settle.agenda =
      [.within (.close 7), .failQueued 0, .finish .stop] := by decide
  have reopened := (course.snoc (.resume returns)).snoc (.turn (by decide))
  obtain ⟨-, -, active, -⟩ := drains _ narrowReopened reopened
    (List.forall_mem_cons.2 ⟨by decide, List.forall_mem_cons.2 ⟨by decide, inside⟩⟩) (by decide)
    _ _ (List.getElem?_eq_getElem (by decide)) (List.getElem?_eq_getElem (by decide))
  exact absurd active (by decide)

end Client

end ConnectionPool
