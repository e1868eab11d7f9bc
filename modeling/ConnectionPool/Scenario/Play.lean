import ConnectionPool.Scenario.Stage

/-!
# Playing a scenario

`Stage.step` makes one move: the client's turn if it has one, else one duty of the outside. A move
of the client that calls the outside puts the duties of that callback on top, and a callback whose
duties are done returns. `Stage.run` makes moves until the command is over.
-/

set_option autoImplicit false

namespace ConnectionPool.Scenario.Stage

/-! ## Callbacks -/

/-- The outside is called. Each callback notes the call first and then follows its hook. -/
def called (s : Stage) : Call → Stage
  | .connect d a =>
      -- the attempt is treated once the hook has run
      let s := { s with connects := s.connects + 1 }
      let s := s.note none (.connect s.connects (s.destinationText d))
      let hook := s.outside.onConnect
      { s with outside := { s.outside with onConnect := hook.tail } }.enter hook [.treat d a]
  | .execute t =>
      let s := s.note none .execute
      if s.outside.inlineExecutor then s.enter [] [.invoke (.perform t)]
      else { s with waiting := s.waiting ++ [t] }.enter [] []
  | .send c e =>
      let s := s.note (some (s.peerHome c)) (.sent (s.peerName c) (s.requestName e.request.id))
      let hook := (s.peers[c]?.map (·.onSend)).getD []
      (s.setPeer c fun p => { p with onSend := p.onSend.tail }).enter hook [.follow c e]
  | .close c =>
      let s := s.note (some (s.peerHome c)) (.closed (s.peerName c))
      let hook := (s.peers[c]?.map (·.onClose)).getD []
      (s.setPeer c fun p => { p with onClose := p.onClose.tail }).enter hook []
  | .requestQueued i r =>
      let s := s.note none (.queued i (s.requestName r.id))
      let hook := (s.outside.watchers[i]?.map (·.onQueued)).getD []
      (s.setWatcher i fun v => { v with onQueued := v.onQueued.tail }).enter hook []
  | .requestFailed i r f =>
      let s := s.note (some (requestHome r)) (.requestFailure i (s.requestName r.id) f)
      let hook := (s.outside.watchers[i]?.map (·.onFailure)).getD []
      (s.setWatcher i fun v => { v with onFailure := v.onFailure.tail }).enter hook []
  | .responseFailed e f =>
      let name := (s.observers[e.listener]?.map (·.name)).getD ""
      let s := s.note (some (requestHome e.request))
        (.responseFailure name (s.requestName e.request.id) f)
      let hook := (s.observers[e.listener]?.map (·.onFailure)).getD []
      (s.setObserver e.listener fun o => { o with onFailure := o.onFailure.tail }).enter hook []
  | .completed e result =>
      let name := (s.observers[e.listener]?.map (·.name)).getD ""
      let s := s.note (some (requestHome e.request)) (.complete name result)
      let hook := (s.observers[e.listener]?.map (·.onComplete)).getD []
      (s.setObserver e.listener fun o => { o with onComplete := o.onComplete.tail }).enter hook []

/-- A connection tells the listener of an exchange itself that the exchange succeeded. -/
def succeed (s : Stage) (e : Exchange) (duties : List Duty) : Stage :=
  let name := (s.observers[e.listener]?.map (·.name)).getD ""
  let s := s.note (some (requestHome e.request)) (.complete name (.succeeded e.request))
  let hook := (s.observers[e.listener]?.map (·.onComplete)).getD []
  (s.setObserver e.listener fun o => { o with onComplete := o.onComplete.tail }).assign
    ((hook.headD []).map .act ++ duties)

/-! ## Commands -/

/-- Play a command that is one operation. -/
def actBy (s : Stage) (c : Command) (op : Operation) : Stage :=
  let (reply, s) := s.invoke op
  s.assign [.tell c (Result.ofReply reply)]

/-- Play a command on a destination that goes by a name. -/
def actAt (s : Stage) (c : Command) (name : String) (k : DestinationId → Stage) : Stage :=
  match s.destinations.lookup name with
  | none => s.assign [.tell c .unfit]
  | some d => k d

/-- Read something of a destination that goes by a name. -/
def read (s : Stage) (c : Command) (name : String) (k : Destination → Result) : Stage :=
  s.actAt c name fun d =>
    match s.client.destinations[d]? with
    | none => s.assign [.tell c .unfit]
    | some dest => s.assign [.tell c (k dest)]

/-- Take an attempt that waits for a command. -/
def takePending (s : Stage) (place : Nat) : Option (AttemptId × Stage) :=
  s.pending[place]?.map fun a => (a, { s with pending := s.pending.eraseIdx place })

/-- A connection belongs to the destination of the first attempt it completes. -/
def settleIn (s : Stage) (c : ConnectionId) (a : AttemptId) : Stage :=
  let d := s.client.attempts[a]?.map (·.destination)
  s.setPeer c fun p => { p with home := p.home <|> d }

/-- Find or make a destination and keep it under a name. The answer lists the other names under
which the same destination is kept, and this name too if nothing changes for it. -/
def locate (s : Stage) (c : Command) (handle scheme host : String) (port : Option UInt16) : Stage :=
  let (reply, s) := s.invoke (.locate scheme host port)
  match reply with
  | .located d =>
      match s.client.destinations[d]? with
      | none => s.assign [.tell c .unfit]
      | some dest =>
          let names := (s.destinations.filter (·.2 == d)).map (·.1)
          let kept := (s.destinations.filter (·.1 != handle)) ++ [(handle, d)]
          { s with destinations := kept }.assign
            [.tell c (.located dest.address (names.mergeSort fun a b => !(b < a)))]
  | other => s.assign [.tell c (Result.ofReply other)]

/-- The number of callbacks on an agenda that have not returned. -/
def callbacks (agenda : List Frame) : Nat :=
  agenda.countP fun
    | .within _ => true
    | _ => false

/-- A callback panics: the duties of every callback that ends are dropped. -/
def unwind (s : Stage) : Stage :=
  let client := s.client.panic
  let ended := callbacks s.client.agenda - callbacks client.agenda
  { s with client := client, control := s.control.drop ended }

/-- Begin a command. -/
def act (s : Stage) (c : Command) : Stage :=
  match c with
  | .request u =>
      let (r, s) := s.request u
      s.assign [.tell c (.request (s.client.isMarked r.id))]
  | .mark u =>
      let (r, s) := s.request u
      s.actBy c (.mark r.id)
  | .send name u l =>
      let (r, s) := s.request u
      s.actAt c name fun d =>
        let (l, s) := s.observer l u.name
        s.actBy c (.send d r l)
  | .submit u l =>
      let (r, s) := s.request u
      if s.isLone then s.assign [.tell c .unfit]
      else
        let (l, s) := s.observer l u.name
        s.actBy c (.submit r l)
  | .locate handle scheme host port =>
      if s.isLone then s.assign [.tell c .unfit] else s.locate c handle scheme host port
  | .abort name u reason =>
      let (r, s) := s.request u
      s.actAt c name fun d => s.actBy c (.abort d r.id reason)
  | .release name u =>
      let (p, s) := s.peer u
      s.actAt c name fun d => s.actBy c (.release d p)
  | .remove name u =>
      let (p, s) := s.peer u
      s.actAt c name fun d => s.actBy c (.remove d p)
  | .close name => s.actAt c name fun d => s.actBy c (.close d)
  | .stats name => s.read c name fun dest => .stats dest.stats
  | .dump name => s.read c name fun dest => .text (dest.dump s.peerText)
  | .describe name => s.read c name fun dest => .texts [dest.address.display, dest.debug]
  | .connect name future =>
      s.actAt c name fun d =>
        let (reply, s) := s.invoke (.connect d)
        match reply with
        | .opened a => s.assign [.keep future a, .tell c .ok]
        | other => s.assign [.tell c (Result.ofReply other)]
  | .poll future =>
      match s.futures.lookup future with
      | none => s.assign [.tell c .noFuture]
      | some a =>
          match s.client.attempts[a]?.bind (·.answer?) with
          | none => s.assign [.tell c .pending]
          | some answer =>
              let s := { s with futures := s.futures.filter (·.1 != future) }
              match answer with
              | .ok p => s.assign [.tell c (.connection (s.peerName p))]
              | .error e => s.assign [.tell c (.refused e)]
  | .forget future =>
      let known := (s.futures.lookup future).isSome
      { s with futures := s.futures.filter (·.1 != future) }.assign [.tell c (.flag known)]
  | .complete place u =>
      match s.takePending place with
      | none => s.assign [.tell c .nothingPending]
      | some (a, s) =>
          let (p, s) := s.peer u
          (s.settleIn p a).actBy c (.settle a (.connected p))
  | .fail place error =>
      match s.takePending place with
      | none => s.assign [.tell c .nothingPending]
      | some (a, s) => s.actBy c (.settle a (.failed error))
  | .drop place =>
      match s.takePending place with
      | none => s.assign [.tell c .nothingPending]
      | some (a, s) => s.actBy c (.settle a .abandoned)
  | .run most place => s.assign [.runTasks c most place 0]
  | .same u v =>
      let (p, s) := s.peer u
      let (q, s) := s.peer v
      s.assign [.tell c (.flag (p == q))]
  | .foresee answers =>
      if s.isLone then s.actBy c (.foresee answers) else s.assign [.tell c .unfit]
  -- a single destination only shares the flag of its client and is not closed with it
  | .stop => s.actBy c (if s.isLone then .setRunning false else .stop)
  | .start => s.actBy c (.setRunning true)
  | .panic => (s.note none .panic).unwind
  | .unknown _ => s.assign [.tell c .unfit]

/-! ## Duties -/

/-- What the connector refuses an attempt with. -/
def refusal : TransportError := ⟨"ConnectionRefused", "refused"⟩

/-- Do one duty. -/
def discharge (s : Stage) : Duty → Stage
  | .act c => s.act c
  | .tell c r =>
      -- within a callback the answer is only noted
      if s.control.length ≤ 1 then { s with result := r } else s.note none (.did c r)
  | .invoke op => (s.invoke op).2
  | .treat d a =>
      let mode := s.outside.modes.headD s.outside.mode
      let s := { s with outside := { s.outside with modes := s.outside.modes.tail } }
      match mode with
      | .manual => { s with pending := s.pending ++ [a] }
      | .established =>
          let s := { s with made := s.made + 1 }
          let (p, s) := s.peer { s.outside.made with name := s!"auto{s.made}" }
          let s := s.setPeer p fun q => { q with home := q.home <|> some d }
          (s.invoke (.settle a (.connected p))).2
      | .refused => (s.invoke (.settle a (.failed refusal))).2
      | .dropped => (s.invoke (.settle a .abandoned)).2
  | .follow c e =>
      match s.peers[c]? with
      | none => s
      | some p =>
          match p.home with
          | none => s
          | some d =>
              match p.afterSend with
              | .wait => s
              | .release => (s.invoke (.release d c)).2
              | .remove => (s.invoke (.remove d c)).2
              | .complete => s.succeed e [.invoke (.release d c)]
  | .keep future a =>
      { s with futures := (s.futures.filter (·.1 != future)) ++ [(future, a)] }
  | .runTasks c left place done =>
      match left, s.waiting[place]? with
      | some 0, _ => s.assign [.tell c (.count done)]
      | _, none => s.assign [.tell c (.count done)]
      | _, some t =>
          let s := { s with waiting := s.waiting.eraseIdx place }
          -- what the task calls comes before the next task
          let (_, s) := s.invoke (.perform t)
          s.assign [.runTasks c (left.map (· - 1)) place (done + 1)]

/-- The outside does its next duty; when the innermost callback has none left, it returns. -/
def attend (s : Stage) : Option Stage :=
  match s.control with
  | [] => none
  | [] :: rest => some { s with control := rest, client := s.client.resume }
  | (d :: ds) :: rest => some ({ s with control := ds :: rest }.discharge d)

/-- One move, if the command is not over yet. -/
def step (s : Stage) : Option Stage :=
  match s.client.agenda with
  | [] => s.attend
  | .within _ :: _ => s.attend
  | .call c :: _ => some ({ s with client := s.client.turn }.called c)
  | _ :: _ => some { s with client := s.client.turn }

/-- At most `n` moves. -/
def run : Nat → Stage → Stage
  | 0, s => s
  | n + 1, s =>
      match s.step with
      | none => s
      | some s => run n s

end ConnectionPool.Scenario.Stage
