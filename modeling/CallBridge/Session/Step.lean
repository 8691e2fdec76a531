import CallBridge.Session.Basic

/-!
# Steps of a session

Each step has an answer, and a report says besides what the step did: frames sent to a tape,
callbacks run, the state of each bridge, and the log records.
-/

namespace CallBridge

inductive Step (n : Nat) where
  | expose (b : Fin n) (name : String) (f : Exposed n)
  | names (b : Fin n)
  | isExposed (b : Fin n) (name : String)
  | config (b : Fin n)
  | describe (b : Fin n)
  | call (b : Fin n) (function : String) (args : List Json) (name : String)
  | remote (b : Fin n) (function : String)
  | callRemote (b : Fin n) (function : String) (args : List Json) (name : String)
  | remotes (b : Fin n)
  | callRemotes (b : Fin n) (args : List Json) (name : String)
  | openWith (b : Fin n) (kind : Session.ChannelKind)
  | link (b c : Fin n)
  | handle (b : Fin n) (frame : String)
  | handleValue (b : Fin n) (v : Json)
  | serve (b : Fin n) (frames : List String)
  | startServer (b : Fin n)
  | pollServer (b : Fin n)
  | pump (b : Fin n) (max : Option Nat)
  | inject (b : Fin n) (frame : String)
  | receive (b : Fin n)
  | closeSender (b : Fin n)
  | closeReceiver (b : Fin n)
  | hangUp (b : Fin n)
  | dropBridge (b : Fin n)
  | advance (ms : Nat)
  | setLevel (l : Level)
  | future (name : String)
  | poll (name : String)
  | drop (name : String)
  | describeHandle (name : String)
  | bind (name : String) (sequel : Catalog.Sequel n)
  | attach (name : String) (c : Callback n)

namespace Session

variable {n : Nat}

/-- Does something with a bridge that the session still has. -/
def withBridge (s : Session n) (b : Fin n) (f : Unit → Session n × Answer) : Session n × Answer :=
  if (s.endpoint b).present then f () else (s, .text "no bridge")

/-- Does something with a call kept under a name. -/
def withHandle (s : Session n) (name : String) (f : Handle n → Session n × Answer) :
    Session n × Answer :=
  match s.handle? name with
  | some x => f x
  | none => (s, .text "no handle")

def answered (s : Session n) (r : Host n × Except BridgeError Unit) : Session n × Answer :=
  ({ s with host := r.1 }, .result r.2)

def remoteNames (s : Session n) (b : Fin n) : List String :=
  (s.host.bridge b).config.remoteFunctions

/-- Binds a callback to a binder. -/
def attach [Limits] (s : Session n) (name : String) (c : Callback n) : Session n × Answer :=
  s.withHandle name fun
    | .future _ _ _ => (s, .text "is future")
    | .binder b id =>
        if c.holds.all fun target => (s.endpoint target).present then
          let s := s.removeHandle name
          ({ s with host := s.host.bind b id c }, .nothing)
        else (s, .text "no bridge")

def step [Limits] (s : Session n) : Step n → Session n × Answer
  | .expose b name f =>
      s.withBridge b fun _ => ({ s with host := s.host.expose b name f }, .nothing)
  | .names b => s.withBridge b fun _ => (s, .texts (s.host.bridge b).names)
  | .isExposed b name => s.withBridge b fun _ => (s, .flag ((s.host.bridge b).isExposed name))
  | .config b => s.withBridge b fun _ => (s, .config (s.host.bridge b).config)
  | .describe b => s.withBridge b fun _ => (s, .text (s.host.bridge b).describe)
  | .call b function args name => s.withBridge b fun _ => s.call b function args name
  | .remote b function => s.withBridge b fun _ =>
      (s, if function ∈ s.remoteNames b then .stub function else .nothing)
  | .callRemote b function args name => s.withBridge b fun _ =>
      if function ∈ s.remoteNames b then s.call b function args name else (s, .nothing)
  | .remotes b => s.withBridge b fun _ => (s, .texts (s.remoteNames b))
  | .callRemotes b args name => s.withBridge b fun _ =>
      let (s, answers) := s.callEach b args name 0 (s.remoteNames b)
      (s, .several answers)
  | .openWith b kind => s.withBridge b fun _ =>
      let (s, r) := s.openWith b kind
      (s, .result r)
  | .link b c => s.withBridge b fun _ => s.withBridge c fun _ => s.link b c
  | .handle b frame => s.withBridge b fun _ => s.answered (s.host.handle b frame)
  | .handleValue b v => s.withBridge b fun _ => s.answered (s.host.handleValue b v)
  | .serve b frames => s.withBridge b fun _ => s.answered (s.host.serve b frames)
  | .startServer b => s.withBridge b fun _ => s.startServer b
  | .pollServer b => s.pollServer b
  | .pump b max => s.withBridge b fun _ => s.pump b (max.getD Limits.frames)
  | .inject b frame => s.inject b frame
  | .receive b => s.receive b
  | .closeSender b => (s.updateEndpoint b fun p => { p with sender := none }, .nothing)
  | .closeReceiver b =>
      ((s.closeEnd (s.endpoint b).receiver).updateEndpoint b fun p => { p with receiver := none },
        .nothing)
  | .hangUp b =>
      (((s.closeEnd (s.endpoint b).inbound).endServer b).updateEndpoint b
          fun p => { p with inbound := none },
        .nothing)
  | .dropBridge b => (s.updateEndpoint b fun p => { p with present := false }, .nothing)
  | .advance ms => ({ s with clock := s.clock + ms }, .nothing)
  | .setLevel l => ({ s with manager := s.manager.map fun m => { m with level := l } }, .nothing)
  | .future name => s.withHandle name fun
      | .binder b id => (s.setHandle name (.future b id none), .text "future")
      | .future _ _ _ => (s, .text "future")
  | .poll name => s.withHandle name (s.poll name)
  | .drop name => s.withHandle name fun x =>
      ({ s.removeHandle name with host := discard s.host x }, .nothing)
  | .describeHandle name => s.withHandle name fun
      | .binder _ id =>
          (s, .text ("ResultBinder \x7b id: " ++ id.describe ++ ", bound: false \x7d"))
      | .future _ _ _ => (s, .text "is future")
  | .bind name sequel => s.attach name (sequel.callback name)
  | .attach name c => s.attach name c

/-! ## Reports -/

structure Report (n : Nat) where
  answer : Answer
  sent : List (Fin n × String)
  fired : List (String × Outcome)
  states : List (Option Status)
  log : Option (List (List String))

/-- Frames that a tape accepted. -/
def sentOf : Event n → Option (Fin n × String)
  | .offered b .tape frame none => some (b, frame)
  | _ => none

def firedOf : Event n → Option (String × Outcome)
  | .noted label what => some (label, what)
  | _ => none

def loggedOf : Event n → Option Log.Event
  | .logged e => some e
  | _ => none

def states (s : Session n) : List (Option Status) :=
  (List.finRange n).map fun b =>
    if (s.endpoint b).present then some (s.host.bridge b).status else none

/-- Passes log events on to a manager. -/
def record [Limits] (m : Log.Manager) (events : List Log.Event) : Log.Manager :=
  events.foldl (fun m e => m.emit e) m

/-- Makes a step and reports on it. -/
def advance [Limits] (s : Session n) (x : Step n) : Session n × Report n :=
  let (next, answer) := s.step x
  let events := next.host.trace.drop s.host.trace.length
  let manager := next.manager.map fun m => record m (events.filterMap loggedOf)
  let noted := manager.map fun m =>
    m.notes.drop ((next.manager.map fun old => old.notes.length).getD 0)
  let next := { next with manager }
  (next, ⟨answer, events.filterMap sentOf, events.filterMap firedOf, next.states, noted⟩)

/-- The reports of all steps. -/
def run [Limits] (s : Session n) : List (Step n) → List (Report n)
  | [] => []
  | x :: rest =>
      let (s, r) := s.advance x
      r :: run s rest

end Session

end CallBridge
