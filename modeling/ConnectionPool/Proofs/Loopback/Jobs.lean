import ConnectionPool.Proofs.Client.Errands
import ConnectionPool.Proofs.Client.Registry
import ConnectionPool.Proofs.Destination.Placement
import ConnectionPool.Proofs.Loopback.Run

/-!
# Jobs of the transport

What a client asks the transport to do is a job there until it is done. A script sends requests,
looks destinations up, takes requests back, gives them up, and stops and starts the client
(`Scripted`). Main statements, for every simulation that runs such a script: each task that the
executor holds waits on the run queue (`Simulation.Reached.task_ready`); each attempt that goes on
has one job that is going to end it, and nothing else has such a job (`Simulation.Reached.sought`);
and the connections that the attempts of a destination delivered are those that return to it
(`Simulation.Reached.attached`).
-/

set_option autoImplicit false

namespace ConnectionPool

namespace Loopback

/-- What a script may ask for: it sends requests, looks destinations up, takes requests back, gives
them up, and stops and starts the client. -/
def Scripted : Operation → Prop
  | .submit _ _ => True
  | .locate _ _ _ => True
  | .abort _ _ _ => True
  | .mark _ => True
  | .stop => True
  | .setRunning flag => flag = true
  | _ => False

/-- The attempt that a job is going to end, and the destination it is for. -/
def Job.connection? : Job → Option (AttemptId × DestinationId)
  | .connect a _ d => some (a, d)
  | _ => none

namespace Simulation

variable {s : Simulation} {w v : Client} {t t' : Transport}

/-! ## Tasks wait on the run queue -/

/-- Each task that the executor holds is a job, or the executor is about to be called for it, and no
task sleeps. -/
structure Employed (w : Client) (t : Transport) : Prop where
  held : ∀ task ∈ w.tasks, .call (.execute task.id) ∈ w.agenda ∨ .task task.id ∈ t.jobs
  awake : ∀ k, .task k ∉ t.sleeping.map (·.2)

/-- What the outside does about a call leaves the jobs that there are. -/
theorem mem_jobs_called {j : Job} (there : j ∈ t.jobs) (w : Client) (c : Call) :
    j ∈ (Transport.called w c t).jobs := by
  have scheduled {u : Transport} (same : u.jobs = t.jobs) (j' : Job) :
      j ∈ (u.schedule j' false).jobs :=
    (perm_jobs_schedule u j' false).mem_iff.2 (List.mem_cons_of_mem _ (same ▸ there))
  cases c with
  | connect d a =>
      simp only [Transport.called]
      split
      · exact scheduled rfl _
      · exact scheduled rfl _
  | execute k | send c e => exact scheduled rfl _
  | _ => exact there

theorem sleeping_called (w : Client) (c : Call) (t : Transport) :
    (Transport.called w c t).sleeping = t.sleeping := by
  cases c with
  | connect d a =>
      simp only [Transport.called]
      split <;> rfl
  | _ => rfl

/-- The start of an operation has the executor called for the tasks that it leaves. -/
theorem employed_invoke {op : Operation} (awake : ∀ k, .task k ∉ t.sleeping.map (·.2))
    (held : ∀ task ∈ w.tasks, task ∈ (w.invoke op).2.tasks →
      .call (.execute task.id) ∈ w.agenda ∨ .task task.id ∈ t.jobs) :
    Employed (w.invoke op).2 t := by
  have start := Client.started_start op (w.push [.finish op])
  obtain ⟨new, agenda, -⟩ := start.agenda
  refine ⟨fun task there => ?_, awake⟩
  have still (old : task ∈ w.tasks) :
      .call (.execute task.id) ∈ (w.invoke op).2.agenda ∨ .task task.id ∈ t.jobs := by
    refine (held task old there).imp_left fun calls => ?_
    have below : .call (.execute task.id) ∈ ((w.push [.finish op]).start op).2.agenda := by
      rw [agenda]
      exact List.mem_append_right _ (List.mem_cons_of_mem _ calls)
    exact below
  have there : task ∈ ((w.push [.finish op]).start op).2.tasks := there
  rcases start.tasks with same | ⟨work, more, calls⟩ | ⟨k, asked, dropped⟩
  · exact still (same ▸ there)
  · rw [more] at there
    rcases List.mem_append.1 there with old | new
    · exact still old
    · rw [List.mem_singleton.1 new]
      exact Or.inl calls
  · rw [dropped] at there
    exact still (List.mem_filter.1 there).1

theorem keeps_employed (allowed : Operation → Prop) : Keeps (Reached allowed) allowed Employed where
  moved _ moved h := by
    refine ⟨fun task there => (h.held task there).imp_right moved.jobs.mem_iff.2,
      fun k sleeps => ?_⟩
    exact h.awake k (moved.awake k sleeps)
  command _ _ h := employed_invoke h.awake fun task there _ => h.held task there
  done {w t before j after t' op} run next done h := by
    have others {task : Task} (there : task ∈ w.tasks) (other : j.job ≠ .task task.id) :
        .call (.execute task.id) ∈ w.agenda ∨ .task task.id ∈ t'.jobs := by
      refine (h.held task there).imp_right fun job => ?_
      rw [done.jobs]
      exact (List.mem_cons.1 ((perm_jobs next).mem_iff.1 job)).resolve_left other.symm
    have awake : ∀ k, .task k ∉ t'.sleeping.map (·.2) := by
      rw [done.sleeping]
      exact h.awake
    cases op with
    | none =>
        refine ⟨fun task there => others there fun own => ?_, awake⟩
        rw [own] at done
        cases done
    | some op =>
        refine employed_invoke awake fun task there still => others there fun own => ?_
        -- the task that is run is not held any more
        rw [own] at done
        cases done
        have still : task ∈ ((w.push _).start (.perform task.id)).2.tasks := still
        rw [Client.tasks_perform] at still
        simp at still
  drives := by
    constructor
    · intro f v v' t _ turn uncalled h
      obtain ⟨new, agenda⟩ := turn.agenda
      have still {task : Task} (there : task ∈ v.tasks) :
          .call (.execute task.id) ∈ v'.agenda ∨ .task task.id ∈ t.jobs := by
        refine (h.held task there).imp_left fun calls => ?_
        rcases List.mem_cons.1 calls with own | below
        · exact absurd own.symm (uncalled _)
        · exact agenda ▸ List.mem_append_right new below
      refine ⟨fun task there => ?_, h.awake⟩
      rcases turn.tasks with same | ⟨work, more, calls⟩
      · exact still (same ▸ there)
      · rw [more] at there
        rcases List.mem_append.1 there with old | new
        · exact still old
        · rw [List.mem_singleton.1 new]
          exact Or.inl calls
    · intro c v t _ h
      refine ⟨fun task there => ?_, fun k => ?_⟩
      · rcases h.held task there with calls | job
        · rcases List.mem_cons.1 calls with own | below
          · -- the executor is called for this task
            cases own
            exact Or.inr ((perm_jobs_schedule t _ _).mem_iff.2 List.mem_cons_self)
          · exact Or.inl below
        · exact Or.inr (mem_jobs_called job _ c)
      · rw [sleeping_called]
        exact h.awake k

/-- In every simulation that is reached, each task that the executor holds waits on the run
queue. -/
theorem Reached.task_ready {allowed : Operation → Prop} (run : Reached allowed s) :
    ∀ task ∈ s.client.tasks, .task task.id ∈ s.transport.ready.map (·.job) := by
  have first {w : Client} (new : Client.Initial w) (timings : LoopbackTimings)
      (panicking : List ListenerId) : Employed w { timings, panicking } := by
    cases new <;> exact ⟨List.forall_mem_nil _, fun k => List.not_mem_nil⟩
  have employed := run.keeps first (keeps_employed allowed)
  intro task there
  rcases employed.held task there with calls | job
  · rw [run.quiet] at calls
    cases calls
  · exact (List.mem_append.1 job).resolve_right (employed.awake _)

/-! ## Attempts have their jobs -/

/-- The attempts that jobs are going to end, and the destinations they are for. -/
def seeking (t : Transport) : List (AttemptId × DestinationId) := t.jobs.filterMap Job.connection?

/-- Every attempt is to fill a slot of its destination. The connector is asked for each attempt that
goes on, by a call to be made or by a job, once, and for nothing else. -/
structure Sought (w : Client) (t : Transport) : Prop where
  pooled : ∀ x ∈ w.attempts, x.pooled = true
  once : ∀ a d, (w.connects ++ seeking t).count (a, d) =
    if w.attempts[a]? = some ⟨d, true, none⟩ then 1 else 0

theorem seeking_schedule (t : Transport) (j : Job) (rested : Bool) :
    (seeking (t.schedule j rested)).Perm (j.connection?.toList ++ seeking t) :=
  perm_filterMap _ (perm_jobs_schedule t j rested)

theorem seeking_of_next {before after : List Turn} {j : Turn}
    (next : t.ready = before ++ j :: after) :
    (seeking t).Perm (j.job.connection?.toList ++ seeking { t with ready := before ++ after }) :=
  perm_filterMap _ (perm_jobs next)

/-- A call is answered by the job that it asks for. -/
theorem seeking_called (w v : Client) (c : Call) (t : Transport) :
    ((v.push [.call c]).connects ++ seeking t).Perm
      ((v.record (.called c)).connects ++ seeking (Transport.called w c t)) := by
  have same {u : Transport} (jobs : u.jobs = t.jobs) {j : Job} (plain : j.connection? = none) :
      (seeking t).Perm (seeking (u.schedule j false)) := by
    have joined := seeking_schedule u j false
    have still : seeking u = seeking t := congrArg (List.filterMap Job.connection?) jobs
    rw [plain, still] at joined
    exact joined.symm
  cases c with
  | connect d a =>
      have moved {u : Transport} (jobs : u.jobs = t.jobs) (number : Option Nat) :
          ((a, d) :: v.connects ++ seeking t).Perm
            (v.connects ++ seeking (u.schedule (.connect a number d) false)) := by
        have joined := seeking_schedule u (.connect a number d) false
        have still : seeking u = seeking t := congrArg (List.filterMap Job.connection?) jobs
        rw [still] at joined
        exact List.perm_middle.symm.trans (joined.symm.append_left _)
      simp only [Transport.called]
      split
      · exact moved rfl none
      · exact moved rfl _
  | execute k | send c e => exact (same rfl rfl).append_left _
  | _ => exact List.Perm.refl _

theorem connects_push {f : Frame} (uncalled : ∀ c, f ≠ .call c) (v : Client) :
    (v.push [f]).connects = v.connects := by
  refine Client.connects_of_agenda rfl fun g hg => ?_
  rw [List.mem_singleton.1 hg]
  cases f with
  | call c => exact absurd rfl (uncalled c)
  | _ => rfl

theorem Sought.of_same (h : Sought w t) (attempts : v.attempts = w.attempts)
    (asked : (w.connects ++ seeking t).Perm (v.connects ++ seeking t')) : Sought v t' := by
  constructor
  · rw [attempts]
    exact h.pooled
  · intro a d
    rw [attempts, ← asked.count_eq]
    exact h.once a d

/-- The connector is asked for an attempt that begins. -/
theorem Sought.begin (h : Sought w t) (d : DestinationId)
    (attempts : v.attempts = w.attempts ++ [{ destination := d, pooled := true }])
    (asked : v.connects = (w.attempts.length, d) :: w.connects) : Sought v t := by
  constructor
  · rw [attempts]
    exact List.forall_mem_append.2 ⟨h.pooled, by simp⟩
  · intro a d'
    have once := h.once a d'
    rw [attempts, asked, List.cons_append, List.count_cons, once]
    -- the new attempt has the number that comes after all the others
    rcases Nat.lt_trichotomy a w.attempts.length with old | own | beyond
    · rw [List.getElem?_append_left old, if_neg (c := (_ == _) = true)]
      · rfl
      · simpa using fun same => absurd same.symm (Nat.ne_of_lt old)
    · subst own
      rw [List.getElem?_concat_length, List.getElem?_eq_none (Nat.le_refl _)]
      simp
    · rw [List.getElem?_eq_none (Nat.le_of_lt beyond),
        List.getElem?_eq_none (by rw [List.length_append]; exact beyond)]
      simpa using fun same => absurd same (Nat.ne_of_lt beyond)

/-- The attempt that a job is going to end goes on. -/
theorem Sought.underWay (h : Sought w t) {a : AttemptId} {d : DestinationId}
    (asked : (a, d) ∈ seeking t) : w.attempts[a]? = some ⟨d, true, none⟩ := by
  have counted := List.count_pos_iff.2 (List.mem_append_right w.connects asked)
  rw [h.once a d] at counted
  by_contra other
  rw [if_neg other] at counted
  cases counted

/-- A job ends the attempt that it was asked for. -/
theorem Sought.conclude (h : Sought w t) {a : AttemptId} {d : DestinationId} {o : Outcome}
    (asked : (seeking t).Perm ((a, d) :: seeking t')) (same : v.connects = w.connects)
    (attempts : v.attempts = w.attempts.set a ⟨d, true, some o⟩) : Sought v t' := by
  have underWay := h.underWay (asked.mem_iff.2 List.mem_cons_self)
  refine ⟨?_, fun a' d' => ?_⟩
  · rw [attempts]
    intro x there
    rcases List.mem_or_eq_of_mem_set there with old | rfl
    · exact h.pooled x old
    · rfl
  · have left : [(a, d)].count (a', d') + (v.connects ++ seeking t').count (a', d') =
        if w.attempts[a']? = some ⟨d', true, none⟩ then 1 else 0 := by
      rw [← h.once a' d', same, ← List.count_append]
      exact ((asked.append_left w.connects).trans List.perm_middle).symm.count_eq _
    rw [attempts, List.getElem?_set]
    by_cases own : a = a'
    · -- the attempt has ended, and its only job is gone
      subst own
      rw [if_pos rfl, if_pos (List.getElem?_eq_some_iff.1 underWay).1, if_neg (by simp)]
      rw [underWay] at left
      by_cases home : d = d'
      · subst home
        rw [List.count_singleton_self, if_pos rfl] at left
        omega
      · rw [if_neg (by simpa using home)] at left
        omega
    · have none : [(a, d)].count (a', d') = 0 :=
        List.count_eq_zero_of_not_mem (by simpa using fun h => absurd h.symm own)
      rw [if_neg own]
      omega

/-- An operation that neither asks for a connection nor ends an attempt leaves the attempts and the
calls to the connector. -/
theorem Sought.invoke (h : Sought w t) {op : Operation} (other : ∀ d, op ≠ .connect d)
    (goesOn : ∀ a o, op ≠ .settle a o) (same : (seeking t).Perm (seeking t')) :
    Sought (w.invoke op).2 t' := by
  refine h.of_same (Client.attempts_invoke other goesOn) ?_
  rw [Client.connects_invoke other]
  exact same.append_left _

theorem keeps_sought : Keeps (Reached Scripted) Scripted Sought where
  moved _ moved h := h.of_same rfl ((moved.jobs.filterMap _).symm.append_left _)
  command {w t op} _ may h := by
    refine h.invoke ?_ ?_ (List.Perm.refl _)
    · rintro d rfl
      exact may
    · rintro a o rfl
      exact may
  done {w t before j after t' op} run next done h := by
    have left := seeking_of_next next
    have jobs : seeking { t with ready := before ++ after } = seeking t' :=
      congrArg (List.filterMap Job.connection?) done.jobs.symm
    rw [jobs] at left
    have ended {a : AttemptId} {number : Option Nat} {d : DestinationId} {o : Outcome}
        (own : j.job = .connect a number d) : Sought (w.invoke (.settle a o)).2 t' := by
      rw [own] at left
      have underWay := h.underWay (left.mem_iff.2 List.mem_cons_self)
      exact h.conclude left (Client.connects_invoke fun _ => nofun)
        (Client.attempts_concluded underWay o)
    -- a job of the connector settles its attempt, every other job asks for no connection
    generalize own : j.job = job at done left
    cases done with
    | refused name => exact ended own
    | connected => exact ended own
    | lost missing | broken here closed | stranded here opened stays =>
        exact h.of_same rfl (left.append_left _)
    | returned here opened home => exact h.invoke (fun _ => nofun) (fun _ _ => nofun) left
    | performed => exact h.invoke (fun _ => nofun) (fun _ _ => nofun) left
  drives := by
    constructor
    · intro f v v' t _ turn uncalled h
      have before := connects_push uncalled v
      rcases turn.connects with ⟨attempts, connects⟩ | ⟨d, attempts, connects⟩
      · refine h.of_same attempts ?_
        rw [before, connects]
      · rw [← before] at connects
        exact h.begin d attempts connects
    · intro c v t _ h
      exact h.of_same rfl (seeking_called _ v c t)

/-- In every simulation that is reached, each attempt that goes on has one job that is going to end
it, and no other attempt has one. -/
theorem Reached.sought (run : Reached Scripted s) : Sought s.client s.transport := by
  refine run.keeps (fun new timings panicking => ?_) keeps_sought
  cases new <;> exact ⟨List.forall_mem_nil _, fun a d => rfl⟩

/-! ## The connections that were made for a destination -/

/-- The connections that return to a destination. -/
def linksOf (t : Transport) (d : DestinationId) : List ConnectionId :=
  (List.range t.links.length).filter fun c => (t.links.map (·.destination))[c]? == some (some d)

theorem mem_linksOf {d : DestinationId} {c : ConnectionId} :
    c ∈ linksOf t d ↔ ∃ link, t.links[c]? = some link ∧ link.destination = some d := by
  rw [linksOf, List.mem_filter, List.getElem?_map, beq_iff_eq, Option.map_eq_some_iff]
  refine ⟨And.right, fun home => ⟨?_, home⟩⟩
  obtain ⟨link, here, -⟩ := home
  exact List.mem_range.2 (List.getElem?_eq_some_iff.1 here).1

/-- The connections that the attempts of a destination delivered are those that return to it. -/
def Attached (w : Client) (t : Transport) : Prop :=
  ∀ d, (delivered (w.attemptsOf d)).Perm (linksOf t d)

theorem linksOf_of_homes (same : t'.links.map (·.destination) = t.links.map (·.destination))
    (d : DestinationId) : linksOf t' d = linksOf t d := by
  have length : t'.links.length = t.links.length := by
    rw [← List.length_map (·.destination), same, List.length_map]
  rw [linksOf, same, length]
  rfl

theorem linksOf_join (t : Transport) (number : Nat) (d d' : DestinationId) :
    linksOf (t.join number d) d' =
      linksOf t d' ++ if d = d' then [t.links.length] else [] := by
  have homes : (t.join number d).links.map (·.destination) =
      t.links.map (·.destination) ++ [some d] := by
    simp [Transport.join]
  have length : (t.join number d).links.length = t.links.length + 1 := by
    simp [Transport.join]
  rw [linksOf, homes, length, List.range_succ, List.filter_append]
  congr 1
  · refine List.filter_congr fun c old => ?_
    rw [List.getElem?_append_left (by simpa using old)]
  · by_cases own : d = d'
    · rw [if_pos own, List.filter_cons_of_pos (by simp [own]), List.filter_nil]
    · rw [if_neg own, List.filter_cons_of_neg (by simp [own]), List.filter_nil]

theorem homes_closeLink (t : Transport) (c : ConnectionId) :
    (t.closeLink c).links.map (·.destination) = t.links.map (·.destination) := by
  apply List.ext_getElem?
  intro i
  rw [Transport.closeLink, List.getElem?_map, List.getElem?_map, List.getElem?_modify]
  cases t.links[i]? with
  | none => rfl
  | some link => by_cases own : c = i <;> simp [own]

theorem homes_answer {c : ConnectionId} {link : Link} (here : t.links[c]? = some link)
    (e : Exchange) :
    (t.answer c link e).links.map (·.destination) = t.links.map (·.destination) :=
  Client.map_set_of_same here rfl

theorem homes_called (w : Client) (c : Call) (t : Transport) :
    (Transport.called w c t).links.map (·.destination) = t.links.map (·.destination) := by
  cases c with
  | connect d a =>
      simp only [Transport.called]
      split <;> rfl
  | close c => exact homes_closeLink t c
  | _ => rfl

/-- An attempt that goes on has delivered nothing. -/
theorem delivered_begin (attempts : List Attempt) (d d' : DestinationId) :
    delivered ((attempts ++ [(⟨d', true, none⟩ : Attempt)]).filter (·.isOf d)) =
      delivered (attempts.filter (·.isOf d)) := by
  have nothing : delivered [⟨d', true, none⟩] = [] := rfl
  have left := delivered_isOf_sublist [⟨d', true, none⟩] d
  rw [nothing, List.sublist_nil] at left
  rw [List.filter_append, delivered, List.filterMap_append]
  exact (congrArg _ left).trans (List.append_nil _)

/-- An attempt that ends adds what it delivers to what its destination was delivered. -/
theorem delivered_conclude {attempts : List Attempt} {a : AttemptId} {d : DestinationId}
    (underWay : attempts[a]? = some ⟨d, true, none⟩) (o : Outcome) (d' : DestinationId) :
    (delivered ((attempts.set a ⟨d, true, some o⟩).filter (·.isOf d'))).Perm
      (delivered (attempts.filter (·.isOf d')) ++
        if d = d' then delivered [⟨d, true, some o⟩] else []) := by
  obtain ⟨before, after, old, new⟩ := Client.split_of_set underWay ⟨d, true, some o⟩
  rw [new, old, List.filter_append, List.filter_append]
  by_cases own : d = d'
  · obtain ⟨ended, underWay⟩ := delivered_settled (before.filter (·.isOf d'))
      (after.filter (·.isOf d')) (a := ⟨d, true, none⟩) rfl o
    rw [if_pos own, List.filter_cons_of_pos (Attempt.isOf_iff.2 ⟨rfl, own⟩),
      List.filter_cons_of_pos (Attempt.isOf_iff.2 ⟨rfl, own⟩), ended, underWay, List.append_assoc]
    exact List.perm_append_comm.append_left _
  · have away (x : Option Outcome) : ¬ (Attempt.mk d true x).isOf d' = true := fun is =>
      own (Attempt.isOf_iff.1 is).2
    rw [if_neg own, List.filter_cons_of_neg (away _), List.filter_cons_of_neg (away _),
      List.append_nil]

theorem Attached.of_same (h : Attached w t) (attempts : v.attempts = w.attempts)
    (homes : t'.links.map (·.destination) = t.links.map (·.destination)) : Attached v t' := by
  intro d
  rw [Client.attemptsOf, attempts, linksOf_of_homes homes]
  exact h d

/-- What an attempt delivers when it ends, its destination was delivered. -/
theorem Attached.conclude (h : Attached w t) {a : AttemptId} {d : DestinationId}
    (underWay : w.attempts[a]? = some ⟨d, true, none⟩) (o : Outcome) (d' : DestinationId) :
    (delivered ((w.invoke (.settle a o)).2.attemptsOf d')).Perm
      (linksOf t d' ++ if d = d' then delivered [⟨d, true, some o⟩] else []) := by
  rw [Client.attemptsOf, Client.attempts_concluded underWay]
  exact (delivered_conclude underWay o d').trans ((h d').append_right _)

theorem keeps_attached : Keeps (Reached Scripted) Scripted Attached where
  moved _ moved h := h.of_same rfl (by rw [moved.links])
  command {w t op} _ may h := by
    refine h.of_same (Client.attempts_invoke ?_ ?_) rfl
    · rintro d rfl
      exact may
    · rintro a o rfl
      exact may
  done {w t before j after t' op} run next done h := by
    have underWay {a : AttemptId} {number : Option Nat} {d : DestinationId}
        (own : j.job = .connect a number d) : w.attempts[a]? = some ⟨d, true, none⟩ := by
      refine run.sought.underWay ((seeking_of_next next).mem_iff.2 ?_)
      rw [own]
      exact List.mem_cons_self
    generalize own : j.job = job at done
    cases done with
    | @refused a d name =>
        intro d'
        have ended := h.conclude (underWay own) (.failed (refusal name)) d'
        have nothing : (if d = d' then delivered [⟨d, true, some (.failed (refusal name))⟩]
            else []) = [] := by
          split <;> rfl
        rw [nothing, List.append_nil] at ended
        exact ended
    | @connected a number d =>
        intro d'
        rw [linksOf_join]
        exact h.conclude (underWay own) (.connected t.links.length) d'
    | lost missing => exact h.of_same rfl rfl
    | broken here closed => exact h.of_same rfl rfl
    | stranded here opened stays => exact h.of_same rfl (homes_answer here _)
    | returned here opened home =>
        exact h.of_same (Client.attempts_invoke (fun _ => nofun) (fun _ _ => nofun))
          (homes_answer here _)
    | performed =>
        exact h.of_same (Client.attempts_invoke (fun _ => nofun) (fun _ _ => nofun)) rfl
  drives := by
    constructor
    · intro f v v' t _ turn _ h
      rcases turn.connects with ⟨attempts, -⟩ | ⟨d, attempts, -⟩
      · exact h.of_same attempts rfl
      · intro d'
        rw [Client.attemptsOf, attempts, delivered_begin]
        exact h d'
    · intro c v t _ h
      exact h.of_same rfl (homes_called _ c t)

/-- In every simulation that is reached, the connections that the attempts of a destination
delivered are those that return to it. -/
theorem Reached.attached (run : Reached Scripted s) : Attached s.client s.transport := by
  refine run.keeps (fun new timings panicking => ?_) keeps_attached
  intro d
  cases new <;> exact List.Perm.nil

/-- So each of them was delivered once, and is there. -/
theorem Attached.once (h : Attached w t) (d : DestinationId) :
    (delivered (w.attemptsOf d)).Nodup :=
  ((h d).nodup_iff).2 (List.nodup_range.filter _)

theorem Reached.delivered_once (run : Reached Scripted s) (d : DestinationId) :
    (delivered (s.client.attemptsOf d)).Nodup :=
  run.attached.once d

/-! ## When every job is done -/

/-- No timer and no task is left. -/
structure Settled (s : Simulation) : Prop where
  ready : s.transport.ready = []
  sleeping : s.transport.sleeping = []

theorem Settled.jobs (settled : s.Settled) : s.transport.jobs = [] := by
  rw [Transport.jobs, settled.ready, settled.sleeping]
  rfl

theorem Reached.tasks_nil {allowed : Operation → Prop} (run : Reached allowed s)
    (settled : s.Settled) : s.client.tasks = [] := by
  refine List.eq_nil_iff_forall_not_mem.2 fun task held => ?_
  have waits := run.task_ready task held
  rw [settled.ready] at waits
  cases waits

end Simulation

end Loopback

end ConnectionPool
