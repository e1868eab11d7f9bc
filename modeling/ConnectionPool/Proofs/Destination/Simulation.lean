import ConnectionPool.Proofs.Client.Removal
import ConnectionPool.Proofs.Destination.Site

/-!
# Every destination moves as its site does

Main statements: every step of a client is a move of each of its sites (`Step.site`), and a law that
holds of new sites and that moves keep holds of every destination of every client that is reached
(`Reached.site`).
-/

set_option autoImplicit false

namespace ConnectionPool

@[simp] theorem Frame.isAt_iff {d : DestinationId} {f : Frame} :
    f.isAt d = true ↔ f.destination? = some d := by
  simp only [Frame.isAt]
  exact beq_iff_eq

@[simp] theorem Event.isAt_iff {d : DestinationId} {e : Event} :
    e.isAt d = true ↔ e.destination? = some d := by
  simp only [Event.isAt]
  exact beq_iff_eq

/-- Frames that are not about a destination leave nothing at its site. -/
theorem filter_isAt_nil {fs : List Frame} {d : DestinationId}
    (away : ∀ f ∈ fs, f.destination? ≠ some d) : fs.filter (·.isAt d) = [] := by
  rw [List.filter_eq_nil_iff]
  intro f hf
  rw [Frame.isAt_iff]
  exact away f hf

/-- Frames about a destination are all at its site. -/
theorem filter_isAt_self {fs : List Frame} {d : DestinationId}
    (here : ∀ f ∈ fs, f.destination? = some d) : fs.filter (·.isAt d) = fs := by
  rw [List.filter_eq_self]
  intro f hf
  rw [Frame.isAt_iff]
  exact here f hf

namespace Client

/-! ## What the parts of a step do to a site -/

section Parts

variable (w : Client) (d : DestinationId) (D : Destination)

@[simp] theorem site_push (fs : List Frame) :
    (w.push fs).site d D =
      { w.site d D with frames := fs.filter (·.isAt d) ++ (w.site d D).frames } := by
  simp only [site, framesAt, push]
  rw [List.filter_append]
  rfl

@[simp] theorem site_record (e : Event) :
    (w.record e).site d D =
      { w.site d D with events := [e].filter (·.isAt d) ++ (w.site d D).events } := by
  simp only [site, eventsAt, record]
  rw [← List.singleton_append, List.filter_append]
  rfl

/-- What notes the start of an operation is about no destination. -/
theorem site_noted (op : Operation) (reply : Reply) :
    (w.record (.invoked op reply)).site d D = w.site d D := by
  rw [site_record, List.filter_cons_of_neg (by simp [Event.destination?])]
  rfl

@[simp] theorem site_addAttempt (d' : DestinationId) (pooled : Bool) :
    (w.addAttempt d' pooled).site d D =
      { w.site d D with
        attempts := (w.site d D).attempts ++
          [({ destination := d', pooled := pooled } : Attempt)].filter (·.isOf d) } := by
  simp only [site, attemptsOf, addAttempt]
  rw [List.filter_append]
  rfl

@[simp] theorem site_putDestination (d' : DestinationId) (D' : Destination) :
    (w.putDestination d' D').site d D = w.site d D := rfl

@[simp] theorem site_addTask (work : Work) : (w.addTask work).site d D = w.site d D := rfl

@[simp] theorem site_glance : w.glance.site d D = w.site d D := by rw [glance_eq]; rfl

@[simp] theorem site_drawTicket : w.drawTicket.site d D = w.site d D := rfl

@[simp] theorem site_countFate (cause : Cause) : (w.countFate cause).site d D = w.site d D := by
  cases cause <;> rfl

@[simp] theorem site_countRemoved : w.countRemoved.site d D = w.site d D := rfl

@[simp] theorem site_countRejected : w.countRejected.site d D = w.site d D := rfl

@[simp] theorem site_countQueued : w.countQueued.site d D = w.site d D := rfl

@[simp] theorem site_countCreated : w.countCreated.site d D = w.site d D := rfl

@[simp] theorem site_countFailure : w.countFailure.site d D = w.site d D := rfl

end Parts

theorem history_glance (w : Client) : w.glance.history = w.history := by rw [glance_eq]

theorem here_putDestination {w : Client} {d : DestinationId} {D D' : Destination}
    (here : w.destinations[d]? = some D) : (w.putDestination d D').destinations[d]? = some D' := by
  simp [putDestination, lt_of_here here]

theorem elsewhere_putDestination {w : Client} {d d' : DestinationId} {D' : Destination}
    (other : d' ≠ d) : (w.putDestination d' D').destinations[d]? = w.destinations[d]? := by
  simp [putDestination, other]

/-! ## Turns -/

/-- A frame that is not about a destination leaves the site of that destination as it is. -/
theorem Turned.elsewhere {f : Frame} {w w' : Client} {d : DestinationId} (turn : Turned f w w')
    (other : f.destination? ≠ some d) (D : Destination) :
    w'.destinations[d]? = w.destinations[d]? ∧ w'.site d D = w.site d D := by
  cases turn with
  | call c => exact ⟨rfl, by simp [Frame.destination?, Event.destination?]⟩
  | within c => exact ⟨rfl, by simp [Frame.destination?]⟩
  | finish op => exact ⟨rfl, by simp [Event.destination?]⟩
  | fail d' e cause =>
      -- neither the event nor the calls to listeners are about the destination `d`
      have ne : d' ≠ d := by simpa [Frame.destination?] using other
      refine ⟨by cases cause <;> rfl, ?_⟩
      rw [site_push, filter_isAt_nil (by simp [Frame.destination?])]
      simp [Event.destination?, ne]
  | adrift names missing => exact ⟨rfl, rfl⟩
  | acquireIdle here head | takeIdle here head | acquireNew here nothing free
  | passOver here head marked | removeMore here waiting =>
      have ne := by simpa [Frame.destination?] using other
      exact ⟨elsewhere_putDestination ne, by simp [Frame.destination?, Attempt.isOf, ne]⟩
  | acquireFull here nothing full =>
      have ne := by simpa [Frame.destination?] using other
      exact ⟨rfl, by simp [Frame.destination?, ne]⟩
  | takeNone here nothing => exact ⟨rfl, rfl⟩
  | parkSurplus here empty full => exact ⟨rfl, by simp [Frame.destination?]⟩
  | parkIdle here empty room runs =>
      have ne := by simpa [Frame.destination?] using other
      refine ⟨(elsewhere_putDestination ne).trans ?_, by simp⟩
      rw [destinations_glance]
  | parkStopped here empty room stopped =>
      have ne := by simpa [Frame.destination?] using other
      refine ⟨(elsewhere_putDestination ne).trans ?_, by simp [Frame.destination?]⟩
      rw [destinations_glance]
  | assign here head unmarked | assignDeferred here head unmarked =>
      have ne := by simpa [Frame.destination?] using other
      refine ⟨elsewhere_putDestination ne, ?_⟩
      simp [Frame.destination?, Event.destination?, ne]
  | removeLast here empty =>
      have ne := by simpa [Frame.destination?] using other
      exact ⟨elsewhere_putDestination ne, by simp⟩
  | closeIdle here | closeActive here | failQueued here =>
      have ne := by simpa [Frame.destination?] using other
      refine ⟨elsewhere_putDestination ne, ?_⟩
      rw [site_push, filter_isAt_nil (by simp [Frame.destination?, or_imp, forall_and, ne])]
      rfl

theorem push_nil (w : Client) : w.push [] = w := rfl

theorem site_push_here {f : Frame} {d : DestinationId} (about : f.destination? = some d)
    (w : Client) (D : Destination) (fs : List Frame) :
    (w.push (f :: fs)).site d D =
      { (w.push fs).site d D with frames := f :: ((w.push fs).site d D).frames } := by
  simp [about]

theorem site_push_away {f : Frame} {d : DestinationId} (away : f.destination? ≠ some d)
    (w : Client) (D : Destination) (fs : List Frame) :
    (w.push (f :: fs)).site d D = (w.push fs).site d D := by
  simp [away]

/-- A frame about a destination moves the site of that destination. -/
theorem Turned.here {f : Frame} {w w' : Client} {d : DestinationId}
    (turn : Turned f w w') (about : f.destination? = some d) (made : d < w.destinations.length) :
    ∃ D D', w.destinations[d]? = some D ∧ w'.destinations[d]? = some D' ∧
      Site.Turn d ((w.push [f]).site d D) (w'.site d D') := by
  simp only [site_push_here about, push_nil]
  cases turn with
  | call c | within c | finish op => cases about
  | fail d' e cause =>
      cases about
      have here := List.getElem?_eq_getElem made
      refine ⟨_, _, here, by cases cause <;> exact here, ?_⟩
      rw [site_push _ _ _ (List.map _ _), filter_isAt_nil (by simp [Frame.destination?]),
        site_countFate, site_record, List.filter_cons_of_pos (by simp [Event.destination?])]
      exact .fail rfl
  | adrift names missing =>
      cases about.symm.trans names
      exact absurd (List.getElem?_eq_none_iff.1 missing) (Nat.not_le.2 made)
  | acquireIdle here head =>
      cases about
      refine ⟨_, _, here, here_putDestination here, ?_⟩
      rw [site_push_here rfl]
      exact .acquireIdle rfl head
  | acquireNew here nothing free =>
      cases about
      refine ⟨_, _, here, here_putDestination here, ?_⟩
      -- the call to the connector is not at the site, the frame that it returns to is
      rw [site_push_away (by simp [Frame.destination?]), site_push_here rfl, push_nil,
        site_addAttempt, List.filter_cons_of_pos (by simp [Attempt.isOf])]
      exact .acquireNew rfl nothing free
  | acquireFull here nothing full =>
      cases about
      refine ⟨_, _, here, here, ?_⟩
      rw [site_push_here rfl]
      exact .acquireFull rfl nothing full
  | takeIdle here head =>
      cases about
      refine ⟨_, _, here, here_putDestination here, ?_⟩
      rw [site_push_here rfl]
      exact .takeIdle rfl head
  | takeNone here nothing =>
      cases about
      exact ⟨_, _, here, here, .takeNone rfl nothing⟩
  | parkSurplus here empty full =>
      cases about
      refine ⟨_, _, here, here, ?_⟩
      rw [site_push_away (by simp [Frame.destination?])]
      exact .parkSurplus rfl empty full
  | parkIdle here empty room runs =>
      cases about
      refine ⟨_, _, here, here_putDestination (by rw [destinations_glance]; exact here), ?_⟩
      rw [site_putDestination, site_glance]
      exact .parkIdle rfl empty room
  | parkStopped here empty room stopped =>
      cases about
      refine ⟨_, _, here, here_putDestination (by rw [destinations_glance]; exact here), ?_⟩
      rw [site_push_away (by simp [Frame.destination?]), push_nil, site_countRemoved,
        site_putDestination, site_glance]
      exact .parkStopped rfl empty room
  | passOver here head marked =>
      cases about
      refine ⟨_, _, here, here_putDestination here, ?_⟩
      rw [site_push_here rfl, site_push_here rfl]
      exact .passOver rfl head
  | assign here head unmarked =>
      cases about
      refine ⟨_, _, here, here_putDestination here, ?_⟩
      rw [site_push_away (by simp [Frame.destination?]), push_nil, site_record,
        List.filter_cons_of_pos (by simp [Event.destination?])]
      exact .assign rfl head
  | assignDeferred here head unmarked =>
      cases about
      refine ⟨_, _, here, here_putDestination here, ?_⟩
      -- at the site it makes no difference that a task hands the exchange over
      rw [site_addTask, site_record, List.filter_cons_of_pos (by simp [Event.destination?])]
      exact .assign rfl head
  | removeLast here empty =>
      cases about
      exact ⟨_, _, here, here_putDestination here, .removeLast rfl empty⟩
  | removeMore here waiting =>
      cases about
      refine ⟨_, _, here, here_putDestination here, ?_⟩
      rw [site_push_here rfl]
      exact .removeMore rfl waiting
  | closeIdle here =>
      cases about
      refine ⟨_, _, here, here_putDestination here, ?_⟩
      rw [site_push, List.filter_append, filter_isAt_nil (by simp [Frame.destination?]),
        filter_isAt_self (by simp [Frame.destination?])]
      -- of what is to be done next only the rest of the closing is at the site
      exact .closeIdle rfl
  | closeActive here =>
      cases about
      refine ⟨_, _, here, here_putDestination here, ?_⟩
      rw [site_push, List.filter_append, filter_isAt_nil (by simp [Frame.destination?]),
        filter_isAt_self (by simp [Frame.destination?])]
      exact .closeActive rfl
  | failQueued here =>
      cases about
      refine ⟨_, _, here, here_putDestination here, ?_⟩
      rw [site_push, filter_isAt_self (by simp [Frame.destination?])]
      exact .failQueued rfl

/-- The topmost frame is on top of the site of its destination. -/
theorem framesAt_of_top {w : Client} {d : DestinationId} {f : Frame} {rest : List Frame}
    (top : w.agenda = f :: rest) (about : f.destination? = some d) :
    w.framesAt d = f :: rest.filter (·.isAt d) := by
  rw [framesAt, top, List.filter_cons_of_pos (Frame.isAt_iff.2 about)]

/-- A connection in hand that finds nothing to do, where there is no room or the client does not
run, is not parked: at most it is forgotten. -/
theorem Turned.unparked {w w' : Client} {d : DestinationId} {D : Destination} {c : ConnectionId}
    {deferred : Bool} (turn : Turned (.serve d c deferred) w w')
    (here : w.destinations[d]? = some D) (empty : D.queue.items = [])
    (unwanted : D.idle.items.length = D.idle.capacity ∨ w.seesRunning = false) :
    w'.history = w.history ∧ ∃ D', w'.destinations[d]? = some D' ∧ w'.site d D' = w.site d D' ∧
      (D' = D ∨ ∃ idle, D.idle.offer c = .ok idle ∧
        D' = ({ D with idle := idle } : Destination).forget c) := by
  have notWaiting {e : Exchange} {queue : BoundedQueue Exchange} :
      D.queue.poll ≠ some (e, queue) := by
    intro head
    rw [(BoundedQueue.poll_eq_some_iff.1 head).1] at empty
    cases empty
  cases turn with
  | adrift names missing =>
      cases names
      cases here.symm.trans missing
  | parkSurplus here' =>
      refine ⟨rfl, D, here, ?_, Or.inl rfl⟩
      rw [site_push_away (by simp [Frame.destination?]), push_nil]
  | parkIdle here' empty' room runs =>
      cases here.symm.trans here'
      rcases unwanted with full | stopped
      · exact absurd full (Nat.ne_of_lt (BoundedQueue.offer_eq_ok_iff.1 room).1)
      · cases runs.symm.trans stopped
  | parkStopped here' empty' room stopped =>
      cases here.symm.trans here'
      refine ⟨history_glance w, _,
        here_putDestination (by rw [destinations_glance]; exact here), ?_,
        Or.inr ⟨_, room, rfl⟩⟩
      rw [site_push_away (by simp [Frame.destination?]), push_nil, site_countRemoved,
        site_putDestination, site_glance]
  | passOver here' head | assign here' head | assignDeferred here' head =>
      cases here.symm.trans here'
      exact absurd head notWaiting

/-! ## Operations -/

/-- The state of a destination before a step that may have made it. -/
def Before (w : Client) (d : DestinationId) (D : Destination) : Prop :=
  w.destinations[d]? = some D ∨ w.destinations[d]? = none ∧ ∃ a, D = .fresh a w.limits

/-- After one destination was put, it is the one put, and every other is what it was. -/
theorem cases_putDestination {w : Client} {d d' : DestinationId} {D₀ D D' : Destination}
    (here : w.destinations[d']? = some D₀)
    (here' : (w.putDestination d' D').destinations[d]? = some D) :
    d' = d ∧ D = D' ∨ d' ≠ d ∧ w.destinations[d]? = some D := by
  by_cases same : d' = d
  · subst same
    rw [here_putDestination here] at here'
    cases here'
    exact Or.inl ⟨rfl, rfl⟩
  · rw [elsewhere_putDestination same] at here'
    exact Or.inr ⟨same, here'⟩

/-- A check of the flag between two checks of a steady client sees the same. -/
theorem seesRunning_again {w : Client} (steady : w.foreseen = []) :
    w.glance.drawTicket.seesRunning = w.seesRunning := by
  have nothing : w.glance.drawTicket.foreseen = [] := by
    rw [glance_eq]
    simp [drawTicket, steady]
  rw [seesRunning_of_foreseen_nil nothing, seesRunning_of_foreseen_nil steady, glance_eq]
  rfl

/-- Where no exchange for a request waits, what is queued for it is what is taken back. -/
theorem eq_of_takenBack {q queue queue' : BoundedQueue Exchange} {e e' : Exchange} {r : RequestId}
    (unknown : ∀ x ∈ q.items, x.isFor r = false) (room : q.offer e = .ok queue)
    (taken : queue.removeFirst (·.isFor r) = some (e', queue')) : e' = e := by
  obtain ⟨before, after, split, -, own, -⟩ := BoundedQueue.split_of_removeFirst taken
  have there : e' ∈ q.items ++ [e] := by
    rw [← (BoundedQueue.offer_eq_ok_iff.1 room).2.2, split]
    exact List.mem_append_right _ List.mem_cons_self
  rcases List.mem_append.1 there with old | new
  · exact absurd own (Bool.eq_false_iff.1 (unknown e' old))
  · exact List.mem_singleton.1 new

/-- Queueing a request moves the site of its destination, and no other. -/
theorem Sent.site {w w' : Client} {d₀ d : DestinationId} {dest D' : Destination} {r : Request}
    {l : ListenerId} {reply : Reply} {steady tidy : Prop} (sent : Sent d₀ dest r l w reply w')
    (calm : steady → w.foreseen = [] ∨ ∀ e ∈ dest.queue.items, e.isFor r.id = false)
    (here₀ : w.destinations[d₀]? = some dest)
    (here' : w'.destinations[d]? = some D') :
    ∃ D, w.destinations[d]? = some D ∧ Site.Start d steady tidy (w.site d D) (w'.site d D') := by
  cases sent with
  | mismatched error => exact ⟨D', here', .stay⟩
  | stopped meant stopped | full meant runs full =>
      refine ⟨D', (congrArg (·[d]?) (destinations_glance w)).symm.trans here', ?_⟩
      rw [site_countRejected, site_glance]
      exact .stay
  | takenBack meant runs room stops taken =>
      have drawn : w.glance.drawTicket.glance.destinations = w.destinations := by
        rw [destinations_glance, drawTicket, destinations_glance]
      rcases cases_putDestination (by rw [drawn]; exact here₀) here' with ⟨rfl, rfl⟩ | ⟨ne, here⟩
      · refine ⟨dest, here₀, ?_⟩
        rw [site_countRejected, site_putDestination, site_glance, site_drawTicket, site_glance]
        -- the checks differ only if something was foreseen, and then no other exchange is found
        refine .takeBack (fun still => ?_) room taken
        rcases calm still with foreseen | unknown
        · rw [seesRunning_again foreseen, runs] at stops
          cases stops
        · exact eq_of_takenBack unknown room taken
      · rw [drawn] at here
        refine ⟨D', here, ?_⟩
        rw [site_countRejected, site_putDestination, site_glance, site_drawTicket, site_glance]
        exact .stay
  | accepted meant runs room stillRuns =>
      have drawn : w.glance.drawTicket.glance.destinations = w.destinations := by
        rw [destinations_glance, drawTicket, destinations_glance]
      -- request listeners are called first, and none of these calls is at a site
      rw [site_push, List.filter_append, filter_isAt_nil (by simp [Frame.destination?]),
        site_countQueued, site_record, site_putDestination, site_glance, site_drawTicket,
        site_glance]
      rcases cases_putDestination (by rw [drawn]; exact here₀) here' with ⟨rfl, rfl⟩ | ⟨ne, here⟩
      · refine ⟨dest, here₀, ?_⟩
        rw [List.filter_cons_of_pos (by simp [Event.destination?]),
          List.filter_cons_of_pos (by simp [Frame.destination?])]
        exact .accept room
      · rw [drawn] at here
        refine ⟨D', here, ?_⟩
        rw [List.filter_cons_of_neg (by simp [Event.destination?, ne]),
          List.filter_cons_of_neg (by simp [Frame.destination?, ne])]
        exact .stay

theorem site_locate (w : Client) (a : Address) (d : DestinationId) (D : Destination) :
    (w.locate a).2.site d D = w.site d D := by
  simp only [locate]
  split <;> rfl

/-- The search for the destination of an address leaves every destination as it is and makes at most
a fresh one. -/
theorem before_of_locate {w : Client} {a : Address} {d : DestinationId} {D : Destination}
    (here : (w.locate a).2.destinations[d]? = some D) : w.Before d D := by
  simp only [locate] at here
  split at here
  · exact Or.inl here
  · rcases Nat.lt_trichotomy d w.destinations.length with old | new | far
    · rw [List.getElem?_append_left old] at here
      exact Or.inl here
    · subst new
      rw [List.getElem?_concat_length] at here
      cases here
      exact Or.inr ⟨List.getElem?_eq_none (Nat.le_refl _), a, rfl⟩
    · rw [List.getElem?_eq_none (by simp only [List.length_append, List.length_singleton]; omega)]
        at here
      cases here

theorem before_of_glance {w : Client} {d : DestinationId} {D : Destination}
    (before : w.glance.Before d D) : w.Before d D := by
  rw [glance_eq] at before
  exact before

/-- If no exchange for a request waits, none does at a destination that was there or is new. -/
theorem unknown_of_not_waits {w : Client} {d : DestinationId} {D : Destination} {r : RequestId}
    (before : w.Before d D) (unknown : ¬ w.Waits r) : ∀ e ∈ D.queue.items, e.isFor r = false := by
  intro e he
  rcases before with here | ⟨-, a, rfl⟩
  · exact Bool.eq_false_iff.2 fun own => unknown ⟨D, List.mem_of_getElem? here, e, he, own⟩
  · cases he

/-- Replacing an item of a list splits the list at that item. -/
theorem split_of_set {α : Type} {l : List α} {i : Nat} {x : α} (h : l[i]? = some x) (y : α) :
    ∃ before after, l = before ++ x :: after ∧ l.set i y = before ++ y :: after := by
  induction l generalizing i with
  | nil => cases h
  | cons b rest ih =>
      cases i with
      | zero =>
          cases h
          exact ⟨[], rest, rfl, rfl⟩
      | succ i =>
          obtain ⟨before, after, hl, hs⟩ := ih h
          exact ⟨b :: before, after, by rw [hl]; rfl, by rw [List.set_cons_succ, hs]; rfl⟩

/-- The end of an attempt is seen at the site it was made for, and only there. -/
theorem site_conclude {w : Client} {a : AttemptId} {attempt : Attempt}
    (underWay : w.attempts[a]? = some attempt) (o : Outcome) (d : DestinationId) (D : Destination) :
    (attempt.isOf d = true ∧ ∃ before after, w.attemptsOf d = before ++ attempt :: after ∧
      (w.conclude a attempt o).site d D =
        { w.site d D with attempts := before ++ { attempt with outcome := some o } :: after }) ∨
    (attempt.isOf d = false ∧ (w.conclude a attempt o).site d D = w.site d D) := by
  obtain ⟨before, after, old, new⟩ := split_of_set underWay { attempt with outcome := some o }
  cases own : attempt.isOf d with
  | true =>
      have ended : ({ attempt with outcome := some o } : Attempt).isOf d = true := own
      refine Or.inl ⟨rfl, before.filter (·.isOf d), after.filter (·.isOf d), ?_, ?_⟩
      · rw [attemptsOf, old, List.filter_append, List.filter_cons_of_pos own]
      · simp only [site, attemptsOf, conclude]
        rw [new, List.filter_append, List.filter_cons_of_pos ended]
        rfl
  | false =>
      have same : ({ attempt with outcome := some o } : Attempt).isOf d = attempt.isOf d := rfl
      have ended : ({ attempt with outcome := some o } : Attempt).isOf d ≠ true := by
        rw [same, own]
        exact Bool.false_ne_true
      refine Or.inr ⟨rfl, ?_⟩
      simp only [site, attemptsOf, conclude]
      rw [new, List.filter_append, List.filter_cons_of_neg ended, old, List.filter_append,
        List.filter_cons_of_neg (by rw [own]; exact Bool.false_ne_true)]
      rfl

/-- An attempt that is not pooled is at no site. -/
theorem isOf_eq_false {a : Attempt} (unpooled : a.pooled = false) (d : DestinationId) :
    a.isOf d = false := by
  rw [Attempt.isOf, unpooled, Bool.false_and]

/-- A pooled attempt that is at another site was made for another destination. -/
theorem ne_of_foreign {a : Attempt} {d : DestinationId} (pooled : a.pooled = true)
    (foreign : a.isOf d = false) : a.destination ≠ d := by
  intro same
  rw [Attempt.isOf_iff.2 ⟨pooled, same⟩] at foreign
  cases foreign

/-- The frames that stop a client, as far as they are about one destination. -/
theorem filter_closeIdle (rs : List (Address × DestinationId)) (d : DestinationId) :
    ∃ n, (rs.map fun r => Frame.closeIdle r.2).filter (·.isAt d) =
      List.replicate n (.closeIdle d) ∧ ((∀ r ∈ rs, r.2 ≠ d) → n = 0) := by
  refine ⟨_, List.eq_replicate_of_mem ?_, fun away => ?_⟩
  · intro f hf
    obtain ⟨hmem, hat⟩ := List.mem_filter.1 hf
    obtain ⟨r, -, rfl⟩ := List.mem_map.1 hmem
    rw [Frame.isAt_iff] at hat
    cases hat
    rfl
  · rw [filter_isAt_nil]
    · rfl
    · intro f hf about
      obtain ⟨r, hr, rfl⟩ := List.mem_map.1 hf
      cases about
      exact away r hr rfl

theorem pooled_of_pools {w : Client} {d : DestinationId} {D : Destination} {c : ConnectionId}
    (here : w.destinations[d]? = some D) (pools : w.Pools d c) :
    c ∈ D.idle.items ∨ c ∈ D.active.items := by
  obtain ⟨D', here', pooled⟩ := pools
  cases here.symm.trans here'
  exact pooled

/-! ### What an operation does at one destination

An operation that is about one destination leaves every other as it is. How the site of its own
destination moves is given to each lemma. -/

section Arms

variable {w : Client} {d d₀ : DestinationId} {D D₀ D₁ D' : Destination} {steady tidy : Prop}
variable {a : AttemptId} {attempt : Attempt}

/-- What an operation leaves to be done is at one site. -/
theorem start_push {f : Frame} (about : f.destination? = some d₀)
    (moves : d₀ = d → Site.Start d steady tidy (w.site d D)
      { w.site d D with frames := f :: (w.site d D).frames }) :
    Site.Start d steady tidy (w.site d D) ((w.push [f]).site d D) := by
  by_cases same : d₀ = d
  · subst same
    rw [site_push_here about]
    exact moves rfl
  · rw [site_push_away (by simp [about, same])]
    exact .stay

/-- An operation changes one destination and leaves something to be done there. -/
theorem start_put {f : Frame} (about : f.destination? = some d₀)
    (here : w.destinations[d₀]? = some D₀)
    (here' : (w.putDestination d₀ D₁).destinations[d]? = some D')
    (moves : d₀ = d → Site.Start d steady tidy (w.site d D₀)
      { w.site d D₁ with frames := f :: (w.site d D₁).frames }) :
    ∃ D, w.destinations[d]? = some D ∧ Site.Start d steady tidy (w.site d D)
      (((w.putDestination d₀ D₁).push [f]).site d D') := by
  rcases cases_putDestination here here' with ⟨same, rfl⟩ | ⟨ne, here⟩
  · subst same
    refine ⟨D₀, here, ?_⟩
    rw [site_push_here about]
    exact moves rfl
  · refine ⟨D', here, ?_⟩
    rw [site_push_away (by simp [about, ne])]
    exact .stay

/-- An attempt ends, and nothing else is done. -/
theorem start_conclude {o : Outcome} (underWay : w.attempts[a]? = some attempt)
    (moves : attempt.isOf d = true → ∀ before after,
      w.attemptsOf d = before ++ attempt :: after → Site.Start d steady tidy (w.site d D)
        { w.site d D with attempts := before ++ { attempt with outcome := some o } :: after }) :
    Site.Start d steady tidy (w.site d D) ((w.conclude a attempt o).site d D) := by
  rcases site_conclude underWay o d D with ⟨own, before, after, split, ended⟩ | ⟨-, same⟩
  · rw [ended]
    exact moves own before after split
  · rw [same]
    exact .stay

/-- A connection is delivered, and is in hand at the destination it was made for. -/
theorem start_settleConnected {c : ConnectionId} (underWay : w.attempts[a]? = some attempt)
    (unsettled : attempt.outcome = none) (pooled : attempt.pooled = true) :
    Site.Start d steady tidy (w.site d D)
      (((w.conclude a attempt (.connected c)).countCreated.push
        [.serve attempt.destination c true]).site d D) := by
  rcases site_conclude underWay (.connected c) d D with
    ⟨own, before, after, split, ended⟩ | ⟨foreign, same⟩
  · obtain ⟨-, rfl⟩ := Attempt.isOf_iff.1 own
    rw [site_push_here rfl, push_nil, site_countCreated, ended]
    exact .connected split unsettled
  · have ne : attempt.destination ≠ d := ne_of_foreign pooled foreign
    rw [site_push_away (by simp [Frame.destination?, ne]), push_nil, site_countCreated, same]
    exact .stay

/-- An attempt fails, and the destination it was made for gets the slot back. -/
theorem start_settleFailed {error : TransportError} (underWay : w.attempts[a]? = some attempt)
    (unsettled : attempt.outcome = none) (pooled : attempt.pooled = true)
    (here : w.destinations[attempt.destination]? = some D₀)
    (here' : (w.putDestination attempt.destination
      { D₀ with slots := D₀.slots.release }).destinations[d]? = some D') :
    ∃ D, w.destinations[d]? = some D ∧ Site.Start d steady tidy (w.site d D)
      ((w.conclude a attempt (.failed error)).site d D') := by
  rcases cases_putDestination here here' with ⟨same, rfl⟩ | ⟨ne, here⟩
  · refine ⟨D₀, same ▸ here, ?_⟩
    have own : attempt.isOf d = true := Attempt.isOf_iff.2 ⟨pooled, same⟩
    rcases site_conclude underWay (.failed error) d { D₀ with slots := D₀.slots.release } with
      ⟨-, before, after, split, ended⟩ | ⟨foreign, -⟩
    · rw [ended]
      exact .failedAttempt split unsettled
    · exact absurd same (ne_of_foreign pooled foreign)
  · exact ⟨D', here, start_conclude underWay fun own => absurd (Attempt.isOf_iff.1 own).2 ne⟩

end Arms

/-- The start of an operation moves the site of every destination, a new one included. -/
theorem Started.site {op : Operation} {reply : Reply} {w w' : Client} {d : DestinationId}
    {D' : Destination} {steady tidy : Prop} (start : Started op w reply w')
    (calm : steady → w.Steady op) (neat : tidy → w.Tidy d op)
    (here' : w'.destinations[d]? = some D') :
    ∃ D, w.Before d D ∧ Site.Start d steady tidy (w.site d D) (w'.site d D') := by
  have glanced := congrArg (·[d]?) (destinations_glance w)
  have old {D : Destination} {s : Site} (moved : w.destinations[d]? = some D ∧
      Site.Start d steady tidy (w.site d D) s) :
      ∃ D, w.Before d D ∧ Site.Start d steady tidy (w.site d D) s := ⟨D, Or.inl moved.1, moved.2⟩
  cases start with
  | ignored op | locateUnsupported nowhere | abortMissed here nothing
  | failHeadAdrift held work missing | mark r | setRunning flag | foresee answers =>
      exact old ⟨here', .stay⟩
  | send here sent =>
      have calm (still : steady) := (calm still).imp_right (unknown_of_not_waits (Or.inl here))
      exact (sent.site calm here here').elim fun _ => old
  | submitStopped stopped | submitUnsupported runs nowhere | releaseStray here runs nothing =>
      refine old ⟨glanced.symm.trans here', ?_⟩
      rw [site_glance]
      exact .stay
  | @submit _ _ a dest r l _ runs meets here sent =>
      have earlier := before_of_glance (before_of_locate here)
      have calm (still : steady) : (w.glance.locate a).2.foreseen = [] ∨
          ∀ e ∈ dest.queue.items, e.isFor r.id = false := by
        refine (calm still).imp (fun foreseen => ?_) (unknown_of_not_waits earlier)
        rw [foreseen_locate, foreseen_glance_nil foreseen]
      obtain ⟨D, here, move⟩ := sent.site calm here here'
      rw [site_locate, site_glance] at move
      exact ⟨D, before_of_glance (before_of_locate here), move⟩
  | submitAdrift runs meets missing =>
      refine ⟨D', before_of_glance (before_of_locate here'), ?_⟩
      rw [site_locate, site_glance]
      exact .stay
  | locate meets =>
      refine ⟨D', before_of_locate here', ?_⟩
      rw [site_locate]
      exact .stay
  | abort here taken =>
      exact (start_put rfl here here' fun | rfl => .abort taken).elim fun _ => old
  | @releaseStopped _ d₀ dest c here stopped =>
      -- what is released to a stopped client is removed; that it is closed is at no site
      have there := glanced.symm.trans here'
      refine old ⟨there, ?_⟩
      rw [← site_glance, ← push_nil w.glance,
        ← site_push_away (f := .call (.close c)) (by simp [Frame.destination?])]
      refine start_push rfl ?_
      rintro rfl
      exact .remove fun tidy => pooled_of_pools there (neat tidy rfl stopped)
  | release here runs taken =>
      rw [← destinations_glance] at here
      obtain ⟨D, there, move⟩ := start_put rfl here here' fun | rfl => .release taken
      rw [site_glance] at move
      exact old ⟨glanced.symm.trans there, move⟩
  | remove here =>
      refine old ⟨here', start_push rfl ?_⟩
      rintro rfl
      exact .remove fun tidy => pooled_of_pools here' (neat tidy rfl)
  | close here =>
      refine old ⟨here', start_push rfl ?_⟩
      rintro rfl
      exact .close 1 fun tidy => absurd rfl (neat tidy)
  | connect here =>
      -- an attempt that is not pooled is no attempt of the destination
      refine old ⟨here', ?_⟩
      rw [site_push_away (by simp [Frame.destination?]), push_nil, site_addAttempt,
        List.filter_cons_of_neg (by simp [Attempt.isOf]), List.filter_nil, List.append_nil]
      exact .stay
  | settleConnected underWay unsettled pooled =>
      exact old ⟨here', start_settleConnected underWay unsettled pooled⟩
  | settleFailed underWay unsettled pooled here =>
      exact (start_settleFailed underWay unsettled pooled here here').elim fun _ => old
  | settleAdrift underWay unsettled pooled missing =>
      -- an attempt of the destination would not be adrift
      refine old ⟨here', start_conclude underWay fun own => ?_⟩
      obtain ⟨-, rfl⟩ := Attempt.isOf_iff.1 own
      cases here'.symm.trans missing
  | settleAbandoned underWay unsettled pooled =>
      exact old ⟨here', start_conclude underWay fun _ _ _ split => .abandoned split unsettled⟩
  | settleUnpooled underWay unsettled unpooled =>
      refine old ⟨here', start_conclude underWay fun own => ?_⟩
      rw [isOf_eq_false unpooled] at own
      cases own
  | deliver held work =>
      refine old ⟨here', ?_⟩
      rw [site_push_away (by simp [Frame.destination?])]
      exact .stay
  | @spare _ t task d₀ error dest held work here empty =>
      refine old ⟨here', ?_⟩
      by_cases same : d₀ = d
      · subst same
        rw [site_record, List.filter_cons_of_pos (by simp [Event.destination?])]
        exact .spare error
      · rw [site_record, List.filter_cons_of_neg (by simp [Event.destination?, same])]
        exact .stay
  | failHead held work here head =>
      exact (start_put rfl here here' fun | rfl => .failHead head).elim fun _ => old
  | stop =>
      -- a destination is closed as often as the registry names it
      obtain ⟨n, closes, none⟩ := filter_closeIdle w.registry d
      refine old ⟨here', ?_⟩
      rw [site_push, closes]
      exact .close n fun tidy => none (neat tidy)

/-! ## Steps -/

theorem seesRunning_push (w : Client) (fs : List Frame) :
    (w.push fs).seesRunning = w.seesRunning := by
  simp only [seesRunning, checkRunning, push]
  cases w.foreseen <;> rfl

theorem tidy_push {w : Client} {d : DestinationId} {op : Operation} (neat : w.Tidy d op)
    (fs : List Frame) : (w.push fs).Tidy d op := by
  cases op with
  | release d' c => exact fun same stopped => neat same ((seesRunning_push w fs).symm.trans stopped)
  | _ => exact neat

theorem steady_push {w : Client} {op : Operation} (calm : w.Steady op) (fs : List Frame) :
    (w.push fs).Steady op := by
  cases op <;> exact calm

/-- What a step from `w` to `w'` does to the destination `d`, which it finds as `D` and leaves as
`D'`: it carries out a frame about the destination, or another one, or it ends a callback, or it
starts an operation. -/
inductive Moves (allowed : Client → Operation → Prop) (d : DestinationId) (steady tidy : Prop)
    (w w' : Client) (D D' : Destination) : Prop
  | turned {f : Frame} {v : Client} (top : w = v.push [f]) (turn : Turned f v w')
      (about : f.destination? = some d) (here : w.destinations[d]? = some D)
      (moved : Site.Turn d (w.site d D) (w'.site d D'))
  | away {f : Frame} {v : Client} (top : w = v.push [f]) (turn : Turned f v w')
      (other : f.destination? ≠ some d) (here : w.destinations[d]? = some D)
      (same : w'.site d D' = w.site d D)
  | ended {c : Call} (top : w = w'.push [.within c]) (here : w.destinations[d]? = some D)
      (same : w'.site d D' = w.site d D)
  | started {op : Operation} {reply : Reply} {v : Client} (waits : w.awaits = true)
      (may : allowed w op) (start : Started op (w.push [.finish op]) reply v)
      (noted : w' = v.record (.invoked op reply)) (before : w.Before d D)
      (moved : Site.Start d steady tidy (w.site d D) (w'.site d D'))

/-- A step does one of these to every destination, a new one included. -/
theorem Step.moves {allowed : Client → Operation → Prop} {w w' : Client} {d : DestinationId}
    {D' : Destination} {steady tidy : Prop} (past : Reached allowed w) (next : Step allowed w w')
    (calm : steady → ∀ op, allowed w op → w.Steady op)
    (neat : tidy → ∀ op, allowed w op → w.Tidy d op)
    (here' : w'.destinations[d]? = some D') :
    ∃ D, Moves allowed d steady tidy w w' D D' := by
  rcases next.cases with ⟨f, v, rfl, turn⟩ | ⟨c, rfl⟩ | ⟨op, reply, v, waits, may, start, rfl⟩
  · -- a frame moves the site it is about, and no other
    by_cases about : f.destination? = some d
    · have made := past.scoped.frames f List.mem_cons_self d about
      obtain ⟨D, D'', here, here'', moved⟩ := turn.here about made
      cases here'.symm.trans here''
      exact ⟨_, .turned rfl turn about here moved⟩
    · obtain ⟨same, unmoved⟩ := turn.elsewhere about D'
      refine ⟨D', .away rfl turn about (same.symm.trans here') ?_⟩
      rw [site_push_away about, push_nil, unmoved]
  · -- the end of a callback is at no site
    refine ⟨D', .ended rfl here' ?_⟩
    rw [site_push_away (by simp [Frame.destination?]), push_nil]
  · -- neither is the mark of an operation's end, nor the event that notes its start
    obtain ⟨D, before, moved⟩ := start.site (fun still => steady_push (calm still op may) _)
      (fun tidy => tidy_push (neat tidy op may) _) here'
    rw [site_push_away (by simp [Frame.destination?]), push_nil] at moved
    refine ⟨D, .started waits may start rfl before ?_⟩
    rw [site_noted]
    exact moved

/-- What a step does where nothing is asked of the outside. -/
theorem Step.moves_freely {allowed : Client → Operation → Prop} {w w' : Client} {d : DestinationId}
    {D' : Destination} (past : Reached allowed w) (next : Step allowed w w')
    (here' : w'.destinations[d]? = some D') : ∃ D, Moves allowed d False False w w' D D' :=
  next.moves past False.elim False.elim here'

/-- A step moves the site of every destination, a new one included. -/
theorem Step.site {allowed : Client → Operation → Prop} {w w' : Client} {d : DestinationId}
    {D' : Destination} {steady tidy : Prop} (past : Reached allowed w) (next : Step allowed w w')
    (calm : steady → ∀ op, allowed w op → w.Steady op)
    (neat : tidy → ∀ op, allowed w op → w.Tidy d op)
    (here' : w'.destinations[d]? = some D') :
    ∃ D, w.Before d D ∧ Site.Move d steady tidy (w.site d D) (w'.site d D') := by
  obtain ⟨D, moves⟩ := next.moves past calm neat here'
  cases moves with
  | turned top turn about here moved => exact ⟨D, Or.inl here, .turn moved⟩
  | away top turn other here same | ended top here same =>
      refine ⟨D, Or.inl here, ?_⟩
      rw [same]
      exact .stay
  | started waits may start noted before moved =>
      refine ⟨D, before, .start (fun c hc => ?_) moved⟩
      exact past.no_removal waits d c (List.mem_filter.1 hc).1

/-! ## Limits stay what they are -/

theorem limits_glance (w : Client) : w.glance.limits = w.limits := by rw [glance_eq]

theorem limits_locate (w : Client) (a : Address) : (w.locate a).2.limits = w.limits := by
  simp only [locate]
  split <;> rfl

theorem Turned.limits {f : Frame} {w w' : Client} (turn : Turned f w w') :
    w'.limits = w.limits := by
  cases turn with
  | fail d e cause => cases cause <;> rfl
  | parkIdle here empty room runs | parkStopped here empty room stopped => exact limits_glance w
  | _ => rfl

theorem Sent.limits {d : DestinationId} {dest : Destination} {r : Request} {l : ListenerId}
    {reply : Reply} {w w' : Client} (sent : Sent d dest r l w reply w') :
    w'.limits = w.limits := by
  cases sent with
  | mismatched error => rfl
  | stopped meant stopped | full meant runs full => exact limits_glance w
  | takenBack meant runs room stops taken | accepted meant runs room stillRuns =>
      exact (limits_glance w.glance.drawTicket).trans (limits_glance w)

theorem Started.limits {op : Operation} {reply : Reply} {w w' : Client}
    (start : Started op w reply w') : w'.limits = w.limits := by
  cases start with
  | send here sent => exact sent.limits
  | submit runs meets here sent => rw [sent.limits, limits_locate, limits_glance]
  | submitAdrift runs meets missing => rw [limits_locate, limits_glance]
  | locate meets => exact limits_locate w _
  | submitStopped stopped | submitUnsupported runs nowhere | releaseStopped here stopped
  | releaseStray here runs nothing | release here runs taken => exact limits_glance w
  | _ => rfl

theorem Step.limits {allowed : Client → Operation → Prop} {w w' : Client}
    (next : Step allowed w w') : w'.limits = w.limits := by
  rcases next.cases with ⟨f, v, rfl, turn⟩ | ⟨c, rfl⟩ | ⟨op, reply, v, waits, may, start, rfl⟩
  · exact turn.limits
  · rfl
  · exact start.limits

/-! ## Laws of sites -/

/-- The site of a destination that was just made, or is yet to be made. -/
def newSite (a : Address) (l : Limits) : Site where
  dest := .fresh a l

/-- A destination that does not exist has no past. -/
theorem site_missing {w : Client} (whole : w.Scoped) {d : DestinationId}
    (missing : w.destinations[d]? = none) (D : Destination) : w.site d D = { dest := D } := by
  have none {x : DestinationId} (lt : x < w.destinations.length) : x ≠ d := by
    rintro rfl
    exact absurd lt (Nat.not_lt.2 (List.getElem?_eq_none_iff.1 missing))
  have frames : w.framesAt d = [] :=
    filter_isAt_nil fun f hf about => none (whole.frames f hf d about) rfl
  have attempts : w.attemptsOf d = [] := by
    refine List.filter_eq_nil_iff.2 fun a ha own => none (whole.attempts a ha) ?_
    exact beq_iff_eq.1 (Bool.and_eq_true_iff.1 own).2
  have events : w.eventsAt d = [] := by
    refine List.filter_eq_nil_iff.2 fun e he about => none (whole.events e he d ?_) rfl
    exact Event.isAt_iff.1 about
  simp only [site]
  rw [frames, attempts, events]

theorem Initial.site {w : Client} (new : Initial w) {d : DestinationId} {D : Destination}
    (here : w.destinations[d]? = some D) : ∃ a, w.site d D = newSite a w.limits := by
  cases new with
  | fresh name limits listeners => cases here
  | lone name limits listeners a =>
      have only := List.mem_of_getElem? here
      rw [List.mem_singleton.1 only]
      exact ⟨a, rfl⟩

/-- A law that holds of new sites and that moves keep holds of every destination of every client
that is reached. -/
theorem Reached.site {allowed : Client → Operation → Prop} {d : DestinationId} {steady tidy : Prop}
    {I : Limits → Site → Prop} (calm : steady → ∀ w op, allowed w op → w.Steady op)
    (neat : tidy → ∀ w op, allowed w op → w.Tidy d op) (new : ∀ a l, I l (newSite a l))
    (kept : ∀ {l s s'}, I l s → Site.Move d steady tidy s s' → I l s') {w : Client}
    (run : Reached allowed w) : ∀ {D}, w.destinations[d]? = some D → I w.limits (w.site d D) := by
  induction run with
  | initial first =>
      intro D here
      obtain ⟨a, eq⟩ := first.site here
      rw [eq]
      exact new a _
  | @step w w' past next ih =>
      intro D' here'
      obtain ⟨D, before, moved⟩ :=
        next.site past (fun still => calm still w) (fun tidy => neat tidy w) here'
      rw [next.limits]
      refine kept ?_ moved
      rcases before with here | ⟨missing, a, rfl⟩
      · exact ih here
      · -- the step made the destination, so its site was new before the step
        rw [site_missing past.scoped missing]
        exact new a _

end Client

end ConnectionPool
