import ConnectionPool.Proofs.Client.Registry
import ConnectionPool.Proofs.Destination.Custody
import ConnectionPool.Proofs.Destination.Drain

/-!
# What a stop leaves behind

A client that stops forgets its destinations and closes what they pool. An attempt that is under way
by then delivers its connection later, and if the client was started again, or a request waits, the
connection joins a pool that no later stop is going to close (`Client.Reopens`). Main statement:
when nothing is to be done after a last stop, every connection that was delivered was closed, or its
removal was asked for, unless it joined a pool of a destination that was forgotten already or was
crowded out (`Client.Course.stop_leaves`). A connection that arrives after a restart is left behind
(`Client.restart_leaks`).
-/

set_option autoImplicit false

namespace ConnectionPool

/-- The connection whose removal was asked for, and where. -/
def Event.removal? : Event → Option (DestinationId × ConnectionId)
  | .invoked (.remove d c) _ => some (d, c)
  | _ => none

namespace Site

variable {d : DestinationId} {steady tidy : Prop} {s s' : Site} {L M : ConnectionId → Prop}
  {c : ConnectionId}

/-- What is pooled, the connections `L` apart, is going to be closed by a closing under way. -/
structure Swept (L : ConnectionId → Prop) (s : Site) : Prop where
  idle : ∀ c ∈ s.dest.idle.items, L c ∨ ∃ f ∈ s.frames, 3 ≤ f.rank
  active : ∀ c ∈ s.dest.active.items, L c ∨ ∃ f ∈ s.frames, 2 ≤ f.rank

theorem Swept.mono (h : s.Swept L) (more : ∀ c, L c → M c) : s.Swept M where
  idle c hc := (h.idle c hc).imp_left (more c)
  active c hc := (h.active c hc).imp_left (more c)

/-- Carrying out a frame pools only a connection that it had in hand. -/
theorem Turn.pooled (turn : Turn d s s') :
    (c ∈ s'.dest.idle.items →
      c ∈ s.dest.idle.items ∨ ∃ deferred F, s.frames = .serve d c deferred :: F) ∧
    (c ∈ s'.dest.active.items →
      c ∈ s.dest.active.items ∨ ∃ deferred F, s.frames = .serve d c deferred :: F) := by
  cases turn with
  | acquireIdle top head | takeIdle top head =>
      refine ⟨fun idle => Or.inl ?_, Or.inl⟩
      rw [(BoundedQueue.poll_eq_some_iff.1 head).1]
      exact List.mem_cons_of_mem _ idle
  | parkIdle top empty room =>
      refine ⟨fun idle => ?_, Or.inl⟩
      rcases (BoundedQueue.mem_of_offer room).1 idle with old | rfl
      · exact Or.inl old
      · exact Or.inr ⟨_, _, top⟩
  | parkStopped top empty room =>
      refine ⟨fun idle => ?_, fun active => Or.inl (BoundedQueue.mem_of_mem_discard active)⟩
      have parked := BoundedQueue.mem_of_mem_discard idle
      rcases (BoundedQueue.mem_of_offer room).1 parked with old | rfl
      · exact Or.inl old
      · exact Or.inr ⟨_, _, top⟩
  | assign top head =>
      refine ⟨Or.inl, fun active => ?_⟩
      rcases BoundedQueue.mem_offerOrDrop active with old | rfl
      · exact Or.inl old
      · exact Or.inr ⟨_, _, top⟩
  | removeLast top empty | removeMore top waiting =>
      constructor
      · intro idle
        exact Or.inl (BoundedQueue.mem_of_mem_discard idle)
      · intro active
        exact Or.inl (BoundedQueue.mem_of_mem_discard active)
  | closeIdle top => exact ⟨fun none => (nomatch none), Or.inl⟩
  | closeActive top => exact ⟨Or.inl, fun none => (nomatch none)⟩
  | _ => exact ⟨Or.inl, Or.inl⟩

/-- A part of a closing that is under way still is, unless it is the frame that was carried out. -/
theorem Turn.ranks (turn : Turn d s s') {n : Nat} (ranked : ∃ f ∈ s.frames, n ≤ f.rank) :
    (∃ f ∈ s'.frames, n ≤ f.rank) ∨ ∃ f F, s.frames = f :: F ∧ n ≤ f.rank := by
  obtain ⟨f, F, new, top, now, -⟩ := turn.frames
  rw [top] at ranked
  by_cases less : f.rank < n
  · rw [now]
    exact Or.inl (rank_append new (rank_tail less ranked))
  · exact Or.inr ⟨f, F, top, Nat.le_of_not_lt less⟩

/-- Idle connections that are going to be closed still are, or have just been taken out. -/
theorem Turn.sweeps_idle (turn : Turn d s s') (ranked : ∃ f ∈ s.frames, 3 ≤ f.rank) :
    s'.dest.idle.items = [] ∨ ∃ f ∈ s'.frames, 3 ≤ f.rank := by
  rcases turn.ranks ranked with still | ⟨f, F, top, le⟩
  · exact Or.inr still
  · cases turn with
    | closeIdle top' => exact Or.inl rfl
    | _ top' =>
        cases top.symm.trans top'
        simp [Frame.rank] at le

/-- Active connections that are going to be closed still are, or have just been taken out. -/
theorem Turn.sweeps_active (turn : Turn d s s') (ranked : ∃ f ∈ s.frames, 2 ≤ f.rank) :
    s'.dest.active.items = [] ∨ ∃ f ∈ s'.frames, 2 ≤ f.rank := by
  rcases turn.ranks ranked with still | ⟨f, F, top, le⟩
  · exact Or.inr still
  · cases turn with
    | closeIdle top' => exact Or.inr ⟨_, List.mem_cons_self, Nat.le_refl 2⟩
    | closeActive top' => exact Or.inl rfl
    | _ top' =>
        cases top.symm.trans top'
        simp [Frame.rank] at le

/-- Carrying out a frame leaves a destination swept, if `L` holds of a connection that joins a
pool. -/
theorem Swept.turn (h : s.Swept L) (turn : Turn d s s')
    (joined : ∀ c deferred F, s.frames = .serve d c deferred :: F →
      c ∈ s'.dest.idle.items ∨ c ∈ s'.dest.active.items → L c) : s'.Swept L := by
  constructor
  · intro c there
    rcases turn.pooled.1 there with old | ⟨deferred, F, top⟩
    · rcases h.idle c old with left | ranked
      · exact Or.inl left
      · rcases turn.sweeps_idle ranked with none | still
        · rw [none] at there
          cases there
        · exact Or.inr still
    · exact Or.inl (joined c deferred F top (Or.inl there))
  · intro c there
    rcases turn.pooled.2 there with old | ⟨deferred, F, top⟩
    · rcases h.active c old with left | ranked
      · exact Or.inl left
      · rcases turn.sweeps_active ranked with none | still
        · rw [none] at there
          cases there
        · exact Or.inr still
    · exact Or.inl (joined c deferred F top (Or.inr there))

/-- The start of an operation pools nothing. -/
theorem Start.pooled (start : Start d steady tidy s s') :
    s'.dest.idle = s.dest.idle ∧ (c ∈ s'.dest.active.items → c ∈ s.dest.active.items) := by
  cases start with
  | release taken =>
      exact ⟨rfl, fun active => (BoundedQueue.sublist_of_removeFirst taken).subset active⟩
  | _ => exact ⟨rfl, id⟩

theorem Swept.start (h : s.Swept L) (start : Start d steady tidy s s') : s'.Swept L := by
  obtain ⟨new, above, -⟩ := start.frames
  constructor
  · intro c there
    rw [(start.pooled (c := c)).1] at there
    rw [above]
    exact (h.idle c there).imp_right (rank_append new)
  · intro c there
    rw [above]
    exact (h.active c (start.pooled.2 there)).imp_right (rank_append new)

/-- Carrying out a frame puts no connection to work and parks none where no exchange waits and none
is parked. -/
theorem Turn.empty (turn : Turn d s s') (queue : s.dest.queue.items = [])
    (active : s.dest.active.items = []) :
    s'.dest.queue.items = [] ∧ s'.dest.active.items = [] := by
  cases turn with
  | passOver top head | assign top head =>
      rw [(BoundedQueue.poll_eq_some_iff.1 head).1] at queue
      cases queue
  | parkStopped top none room => exact ⟨queue, (s.dest.forget_dwindles _).active active⟩
  | removeLast top none | removeMore top waiting =>
      exact ⟨queue, (s.dest.forget_dwindles _).active active⟩
  | closeActive top => exact ⟨queue, rfl⟩
  | failQueued top => exact ⟨rfl, active⟩
  | _ => exact ⟨queue, active⟩

end Site

namespace Client

variable {allowed : Client → Operation → Prop} {w w' : Client} {d : DestinationId}
  {c : ConnectionId} {past : List Client}

/-! ## Destinations that were forgotten -/

/-- The turn that comes next puts the connection in hand into a pool of a destination that a stop
has forgotten. -/
def Reopens (w : Client) (d : DestinationId) (c : ConnectionId) : Prop :=
  w.Forgot d ∧ ∃ deferred rest, w.agenda = .serve d c deferred :: rest ∧ w.turn.Pools d c

/-- A client that does not await the outside takes a turn. -/
theorem Step.eq_turn (next : Step allowed w w') (busy : w.awaits = false) : w' = w.turn := by
  cases next with
  | turn _ => rfl
  | resume inside | panic inside _ =>
      rw [awaits, inside] at busy
      cases busy
  | invoke op waits _ => cases busy.symm.trans waits

/-- A connection that joins a pool of a forgotten destination is one that is reopened. -/
theorem reopens_of_joined {f : Frame} (next : Step allowed (w.push [f]) w')
    (about : f.destination? = some d) (forgot : (w.push [f]).Forgot d) {D D' : Destination}
    (here' : w'.destinations[d]? = some D') {deferred : Bool} {F : List Frame}
    (top : ((w.push [f]).site d D).frames = .serve d c deferred :: F)
    (joined : c ∈ D'.idle.items ∨ c ∈ D'.active.items) : (w.push [f]).Reopens d c := by
  have own : (w.push [f]).framesAt d = f :: _ := framesAt_of_top rfl about
  cases own.symm.trans top
  have now := next.eq_turn rfl
  subst now
  exact ⟨forgot, deferred, w.agenda, rfl, D', here', joined⟩

/-- What a forgotten destination pools is going to be closed, or joined the pool after the
destination was forgotten. -/
theorem Course.swept {w₀ : Client} (first : Initial w₀) (course : Course allowed w₀ past w)
    (forgot : w.Forgot d) : ∀ {D : Destination}, w.destinations[d]? = some D →
      (w.site d D).Swept fun c => ∃ v ∈ past, v.Reopens d c := by
  induction course with
  | nil =>
      intro D here
      obtain ⟨a, new⟩ := first.site here
      rw [new]
      exact ⟨List.forall_mem_nil _, List.forall_mem_nil _⟩
  | @snoc past v v' course next ih =>
      intro D' here'
      rcases next.rerouted.forgot_before forgot with before | ⟨-, closes⟩
      · obtain ⟨D, moves⟩ := next.moves_freely (course.reached (.initial first)) here'
        have old {D : Destination} (here : v.destinations[d]? = some D) :
            (v.site d D).Swept fun c => ∃ u ∈ v :: past, u.Reopens d c := by
          refine (ih before here).mono fun c earlier => ?_
          obtain ⟨u, hu, reopens⟩ := earlier
          exact ⟨u, List.mem_cons_of_mem _ hu, reopens⟩
        cases moves with
        | turned top turn about here moved =>
            subst top
            refine (old here).turn moved fun c deferred F top joined => ?_
            exact ⟨_, List.mem_cons_self,
              reopens_of_joined next about before here' top joined⟩
        | away top turn other here same | ended top here same =>
            rw [same]
            exact old here
        | started waits may start noted made moved =>
            rcases made with here | ⟨missing, -⟩
            · exact (old here).start moved
            · exact absurd before.1 (Nat.not_lt.2 (List.getElem?_eq_none_iff.1 missing))
      · -- the stop that forgets it is about to close it
        have there : .closeIdle d ∈ v'.framesAt d :=
          List.mem_filter.2 ⟨closes, by simp [Frame.destination?]⟩
        constructor
        · intro c _
          exact Or.inr ⟨_, there, Nat.le_refl 3⟩
        · intro c _
          exact Or.inr ⟨_, there, Nat.le_succ 2⟩

/-- Between two outermost steps, whatever a forgotten destination pools joined the pool after the
destination was forgotten. -/
theorem Course.reopened {w₀ : Client} (first : Initial w₀) (course : Course allowed w₀ past w)
    (quiet : w.agenda = []) (forgot : w.Forgot d) {D : Destination}
    (here : w.destinations[d]? = some D) (pooled : c ∈ D.idle.items ∨ c ∈ D.active.items) :
    ∃ v ∈ past, v.Reopens d c := by
  have swept := course.swept first forgot here
  -- no closing is under way
  have none {n : Nat} : ¬ ∃ f ∈ w.framesAt d, n ≤ f.rank := by
    rw [framesAt_quiet quiet]
    rintro ⟨f, hf, -⟩
    cases hf
  rcases pooled with idle | active
  · exact (swept.idle c idle).resolve_right none
  · exact (swept.active c active).resolve_right none

theorem Course.still_forgot (course : Course allowed w past w') (forgot : w.Forgot d) :
    w'.Forgot d :=
  course.keeps (fun forgot next => next.rerouted.still_forgot forgot) forgot

/-! ## Destinations of a halted client -/

/-- Nothing is pooled at the destination and no exchange waits there, if it was made at all. -/
def Vacant (w : Client) (d : DestinationId) : Prop :=
  ∀ D, w.destinations[d]? = some D →
    D.queue.items = [] ∧ D.idle.items = [] ∧ D.active.items = []

/-- A halted client starts no search for a connection. -/
theorem Started.no_search {op : Operation} {reply : Reply} (start : Started op w reply w')
    (stopped : w.seesRunning = false) : w'.framesAt d ≠ .acquire d :: w.framesAt d := by
  intro searches
  obtain ⟨new, agenda, puts⟩ := start.agenda
  rw [framesAt, agenda, List.filter_append, ← List.singleton_append] at searches
  have search : .acquire d ∈ new.filter (·.isAt d) := by
    rw [List.append_cancel_right searches]
    exact List.mem_cons_self
  generalize asked : Frame.acquire d = f at search
  cases puts f (List.mem_filter.1 search).1 with
  | acquire runs d' => cases runs.symm.trans stopped
  | _ => cases asked

/-- A vacant destination of a halted client stays vacant. -/
theorem Step.vacant (run : Reached allowed w) (halted : w.Halted) (next : Step allowed w w')
    (vacant : w.Vacant d) : w'.Vacant d := by
  intro D' here'
  obtain ⟨D, moves⟩ := next.moves_freely run here'
  cases moves with
  | @turned f v top turn about here moved =>
      subst top
      obtain ⟨queue, idle, active⟩ := vacant D here
      have stopped : v.seesRunning = false :=
        (seesRunning_push v [f]).symm.trans halted.seesRunning
      obtain ⟨queue', active'⟩ := moved.empty queue active
      exact ⟨queue',
        turn.idle_empty about stopped here here' moved (fun _ => queue) idle, active'⟩
  | away top turn other here same | ended top here same =>
      have unchanged : D' = D := congrArg Site.dest same
      subst unchanged
      exact vacant D' here
  | @started op reply v waits may start noted before moved =>
      have empty : D.queue.items = [] ∧ D.idle.items = [] ∧ D.active.items = [] := by
        rcases before with here | ⟨-, a, rfl⟩
        · exact vacant D here
        · exact ⟨rfl, rfl, rfl⟩
      have stopped : (w.push [.finish op]).seesRunning = false :=
        (seesRunning_push w _).trans halted.seesRunning
      have dwindles : D.Dwindles D' := by
        apply moved.dwindles
        have silent : v.framesAt d ≠ _ := start.no_search (d := d) stopped
        subst noted
        exact silent
      obtain ⟨queue, idle, active⟩ := empty
      exact ⟨dwindles.queue queue, dwindles.idle idle, dwindles.active active⟩

theorem Course.vacant (run : Reached Anything w) (halted : w.Halted)
    (course : Course StaysHalted w past w') (vacant : w.Vacant d) : w'.Vacant d := by
  induction course with
  | nil => exact vacant
  | snoc course next ih =>
      have reached := (course.mono fun _ _ _ => trivial).reached run
      have still := course.halted (fun _ _ may => may) halted
      exact (next.mono fun _ _ _ => trivial).vacant reached still ih

/-- After a last stop every destination is forgotten, or it was made since and stays vacant. -/
theorem Course.forgot_or_vacant (run : Reached Unforeseen w) (waits : w.awaits = true)
    (course : Course StaysHalted (w.invoke .stop).2 past w') (d : DestinationId) :
    w'.Forgot d ∨ w'.Vacant d := by
  by_cases made : d < (w.invoke .stop).2.destinations.length
  · -- the stop has cleared the registry
    have forgot : (w.invoke .stop).2.Forgot d := ⟨made, List.forall_mem_nil _⟩
    exact Or.inl (course.still_forgot forgot)
  · have stopped : Reached Unforeseen (w.invoke .stop).2 :=
      run.step (.invoke .stop waits fun _ => by simp)
    have foreseen : (w.invoke .stop).2.foreseen = [] := stopped.foreseen_nil
    have halted : (w.invoke .stop).2.Halted := ⟨rfl, foreseen ▸ List.forall_mem_nil _⟩
    refine Or.inr (course.vacant (stopped.mono fun _ _ _ => trivial) halted ?_)
    intro D here
    exact absurd (lt_of_here here) made

/-! ## After a last stop -/

/-- When nothing is to be done after a last stop, every connection that an attempt of a destination
delivered was closed, or its removal was asked for, unless at some moment it joined a pool of a
destination that was forgotten already, or was put to work where the active connections left no room
for it. -/
theorem Course.stop_leaves {name : String} {limits : Limits} {listeners : Nat}
    {before after : List Client} (run : Course Unforeseen (.fresh name limits listeners) before w)
    (waits : w.awaits = true) (course : Course StaysHalted (w.invoke .stop).2 after w')
    (quiet : w'.agenda = []) {a : Attempt} (known : a ∈ w'.attempts) (pooled : a.pooled = true)
    (own : a.delivery? = some c) :
    .called (.close c) ∈ w'.history ∨
      (∃ reply, .invoked (.remove a.destination c) reply ∈ w'.history) ∨
      ∃ v ∈ after ++ w :: before, v.Reopens a.destination c ∨ v.Crowds a.destination c := by
  have first : Initial (.fresh name limits listeners) := .fresh _ _ _
  have reached : Reached Unforeseen w := run.reached (.initial first)
  have whole : Course Anything (.fresh name limits listeners) (after ++ w :: before) w' := by
    have stopped := (run.mono fun _ _ _ => trivial).invoke .stop waits trivial
    exact stopped.append (course.mono fun _ _ _ => trivial)
  have made := (whole.reached (.initial first)).scoped.attempts a known
  have here := List.getElem?_eq_getElem made
  have arrived : c ∈ delivered (w'.attemptsOf a.destination) := by
    exact List.mem_filterMap.2
      ⟨a, List.mem_filter.2 ⟨known, Attempt.isOf_iff.2 ⟨pooled, rfl⟩⟩, own⟩
  rcases whole.custody_quiet first quiet here arrived with kept | closed | asked | ⟨v, hv, crowds⟩
  · rcases course.forgot_or_vacant reached waits a.destination with forgot | vacant
    · obtain ⟨v, hv, reopens⟩ := whole.reopened first quiet forgot here kept
      exact Or.inr (Or.inr ⟨v, hv, Or.inl reopens⟩)
    · obtain ⟨-, idle, active⟩ := vacant _ here
      rw [idle, active] at kept
      rcases kept with there | there
      · cases there
      · cases there
  · exact Or.inl closed
  · exact Or.inr (Or.inl asked)
  · exact Or.inr (Or.inr ⟨v, hv, Or.inr crowds⟩)

/-! ## A client that is started again -/

/-- The outside sends to the client, gives requests up, releases and takes away connections,
completes attempts or lets them fail, runs tasks, and stops and starts the client. -/
def Ordinary (_ : Client) : Operation → Prop
  | .submit .. | .abort .. | .mark _ | .release .. | .remove .. | .perform _ | .stop => True
  | .settle _ o => o ≠ .abandoned
  | .setRunning flag => flag = true
  | _ => False

theorem Ordinary.unforeseen {op : Operation} (may : w.Ordinary op) : w.Unforeseen op := by
  intro answers foresees
  subst foresees
  exact may

/-- After a last stop, when every attempt has ended and every task has run, every connection that an
attempt of a destination delivered was closed, or its removal was asked for. -/
def StopLeavesNothing (name : String) (limits : Limits) (listeners : Nat) : Prop :=
  ∀ before w after w', Course Ordinary (.fresh name limits listeners) before w →
    w.awaits = true →
    Course (fun v op => v.Ordinary op ∧ v.StaysHalted op) (w.invoke .stop).2 after w' →
    w'.agenda = [] → w'.tasks = [] → (∀ a ∈ w'.attempts, a.outcome ≠ none) →
    ∀ a ∈ w'.attempts, a.pooled = true → ∀ c, a.delivery? = some c →
      .called (.close c) ∈ w'.history ∨
        ∃ reply, .invoked (.remove a.destination c) reply ∈ w'.history

/-- A client has stopped while its only connection was being made, and was started again before it
arrived. -/
def narrowRevived : Client :=
  let w := ((Client.fresh "narrow" ⟨1, 4⟩ 0).invoke (.submit (narrowRequest 0) 0)).2.settle
  let w := (w.invoke .stop).2.settle
  let w := (w.invoke (.setRunning true)).2.settle
  (w.invoke (.settle 0 (.connected 7))).2.settle

/-- The client has stopped for good. -/
def narrowLeaking : Client := (narrowRevived.invoke .stop).2.settle

/-- The revived client needs no more than to send, to stop and start again, and to have its attempt
completed. -/
theorem course_narrowRevived (submits : ∀ w r l, allowed w (.submit r l))
    (stops : ∀ w, allowed w .stop) (starts : ∀ w, allowed w (.setRunning true))
    (settles : ∀ w a c, allowed w (.settle a (.connected c))) :
    ∃ past, Course allowed (.fresh "narrow" ⟨1, 4⟩ 0) past narrowRevived := by
  have new : Course allowed (.fresh "narrow" ⟨1, 4⟩ 0) [] _ := .nil
  obtain ⟨_, sent⟩ :=
    (new.invoke (.submit (narrowRequest 0) 0) (by decide) (submits _ _ _)).settle
  obtain ⟨_, stopped⟩ := (sent.invoke .stop (by decide) (stops _)).settle
  obtain ⟨_, started⟩ := (stopped.invoke (.setRunning true) (by decide) (starts _)).settle
  exact (started.invoke (.settle 0 (.connected 7)) (by decide) (settles _ _ _)).settle

theorem course_narrowLeaking : ∃ before after,
    Course Ordinary (.fresh "narrow" ⟨1, 4⟩ 0) before narrowRevived ∧
    Course (fun v op => v.Ordinary op ∧ v.StaysHalted op) (narrowRevived.invoke .stop).2 after
      narrowLeaking := by
  have revived : ∃ past, Course Ordinary (.fresh "narrow" ⟨1, 4⟩ 0) past narrowRevived :=
    course_narrowRevived (fun _ _ _ => trivial) (fun _ => trivial) (fun _ => rfl)
      (fun _ _ _ => by simp [Ordinary])
  have stops : Course (fun v op => v.Ordinary op ∧ v.StaysHalted op)
    (narrowRevived.invoke .stop).2 [] _ := .nil
  obtain ⟨before, run⟩ := revived
  obtain ⟨after, course⟩ := stops.settle
  exact ⟨before, after, run, course⟩

/-- The attempt that delivered the connection of the revived client. -/
def narrowArrival : Attempt := ⟨0, true, some (.connected 7)⟩

theorem narrowLeaking_keeps : .called (.close 7) ∉ narrowLeaking.history ∧
    ∀ reply, .invoked (.remove 0 7) reply ∉ narrowLeaking.history := by
  have none : ∀ e ∈ narrowLeaking.history, e.removal? = none := by decide
  refine ⟨by decide, fun reply asked => ?_⟩
  have removed := none _ asked
  cases removed

theorem narrowLeaking_reopened : ∃ before after,
    Course Unforeseen (.fresh "narrow" ⟨1, 4⟩ 0) before narrowRevived ∧
    Course StaysHalted (narrowRevived.invoke .stop).2 after narrowLeaking ∧
    ∃ v ∈ after ++ narrowRevived :: before, v.Reopens 0 7 ∨ v.Crowds 0 7 := by
  obtain ⟨before, after, ordinary, halted⟩ := course_narrowLeaking
  have run := ordinary.mono fun _ _ may => may.unforeseen
  have course := halted.mono fun _ _ may => may.2
  have known : narrowArrival ∈ narrowLeaking.attempts := by decide
  refine ⟨before, after, run, course, ?_⟩
  rcases run.stop_leaves (by decide) course (by decide) known rfl rfl with closed | asked | left
  · exact absurd closed narrowLeaking_keeps.1
  · obtain ⟨reply, asked⟩ := asked
    exact absurd asked (narrowLeaking_keeps.2 reply)
  · exact left

/-- A connection that arrives after a restart stays idle at a destination that no stop closes. -/
theorem restart_leaks : ¬ StopLeavesNothing "narrow" ⟨1, 4⟩ 0 ∧
    narrowLeaking.Pools 0 7 ∧ narrowLeaking.registry = [] := by
  refine ⟨fun nothing => ?_, ?_, by decide⟩
  · obtain ⟨before, after, run, course⟩ := course_narrowLeaking
    have known : narrowArrival ∈ narrowLeaking.attempts := by decide
    rcases nothing before _ after _ run (by decide) course (by decide) (by decide) (by decide)
      narrowArrival known rfl 7 rfl with closed | ⟨reply, asked⟩
    · exact narrowLeaking_keeps.1 closed
    · exact narrowLeaking_keeps.2 reply asked
  · exact ⟨_, List.getElem?_eq_getElem (by decide), Or.inl (by decide)⟩

end Client

end ConnectionPool
