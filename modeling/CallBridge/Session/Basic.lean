import CallBridge.Bridge.Dispatch
import CallBridge.Catalog
import CallBridge.Log.Manager

/-!
# Sessions

A session drives a host from outside. It keeps the calls it holds under names of its choice, as
binders or as futures, and for each bridge the ends of the lines that lead to it and from it. Time
is a clock in milliseconds that moves only when the session says so.

A binder is a call that nothing is bound to yet. A future is polled; its timeout starts with the
first poll, and an outcome that has arrived wins over a timeout that has passed.
-/

namespace CallBridge

inductive Handle (n : Nat) where
  | binder (b : Fin n) (id : CallId)
  | future (b : Fin n) (id : CallId) (started : Option Nat)

def Handle.bridge {n : Nat} : Handle n → Fin n
  | .binder b _ => b
  | .future b _ _ => b

/-- What a session holds of one bridge: the bridge itself, and lines by their index. -/
structure Endpoint where
  present : Bool := true
  /-- Frames for the bridge that wait to be pumped or served. -/
  inbound : Option Nat := none
  /-- The inbound line that a server has taken. -/
  serving : Option Nat := none
  /-- Where the outside sends frames to the bridge. -/
  sender : Option Nat := none
  /-- Where the outside receives frames of the bridge. -/
  receiver : Option Nat := none

structure Session (n : Nat) where
  host : Host n
  endpoints : Vector Endpoint n
  handles : List (String × Handle n) := []
  clock : Nat := 0
  manager : Option Log.Manager := none

/-- The answer to a step. -/
inductive Answer where
  | nothing
  | text (s : String)
  | flag (b : Bool)
  | texts (l : List String)
  | config (c : Config)
  | token (id : CallId)
  | result (r : Except BridgeError Unit)
  | outcome (o : Outcome)
  | stub (name : String)
  | several (l : List Answer)
  | pumped (l : List (String × Except BridgeError Unit))
  | injected (closed : Bool) (r : Except BridgeError Unit)
  | received (frames : List String) (connected : Bool)

namespace Session

variable {n : Nat}

/-- Bridges that are made a millisecond apart. -/
def epoch (b : Fin n) : Nat := 1700000000000 + b

/-- New bridges, with what the clock said when each of them was made. -/
def start (configs : Vector Config n) (threshold : Option Level)
    (clock : Fin n → Nat := epoch) : Session n where
  host := .ofConfigs clock configs
  endpoints := .replicate n {}
  manager := threshold.map fun l => { level := l, sink := some .recording }

def endpoint (s : Session n) (b : Fin n) : Endpoint := getElem s.endpoints b b.isLt

def updateEndpoint (s : Session n) (b : Fin n) (f : Endpoint → Endpoint) : Session n :=
  { s with endpoints := s.endpoints.set b (f (s.endpoint b)) b.isLt }

/-- The receiving end of a line goes away, if there is one. -/
def closeEnd (s : Session n) : Option Nat → Session n
  | some i => { s with host := s.host.closeLine i }
  | none => s

/-! ## Who still holds a bridge -/

/-- Functions exposed on `owner` hold `b`. -/
def registryHolds (s : Session n) (owner b : Fin n) : Bool :=
  (s.host.bridge owner).registry.any fun e => e.2.holds.contains b

/-- Callbacks that wait on `owner` hold `b`. -/
def pendingHolds (s : Session n) (owner b : Fin n) : Bool :=
  (s.host.bridge owner).pending.any fun e =>
    match e.2 with
    | .waiting => false
    | .callback c => c.holds.contains b

/-- The session, a server, or code that is itself still held holds on to `b`. Bridges that hold each
other stay; a chain of more than `n` holders has such bridges in it. -/
def isHeld (s : Session n) : Nat → Fin n → Bool
  | 0, _ => true
  | room + 1, b =>
      (s.endpoint b).present || (s.endpoint b).serving.isSome ||
      (List.finRange n).any fun owner =>
        let alive := owner == b || isHeld s room owner
        (s.registryHolds owner b && alive) ||
        (s.pendingHolds owner b && (alive || s.handles.any fun h => h.2.bridge == owner))

/-- The bridge still sends into line `i`. -/
def feeds (s : Session n) (b : Fin n) (i : Nat) : Bool :=
  match (s.host.bridge b).outbound with
  | .opened channel _ => channel.carrier == .line i && s.isHeld n b
  | .connecting _ => false

/-- Someone can still send into line `i`. -/
def hasSender (s : Session n) (i : Nat) : Bool :=
  (List.finRange n).any fun b => (s.endpoint b).sender == some i || s.feeds b i

/-! ## Calls held by name -/

def handle? (s : Session n) (name : String) : Option (Handle n) := s.handles.lookup name

def removeHandle (s : Session n) (name : String) : Session n :=
  { s with handles := s.handles.filter fun h => h.1 ≠ name }

def setHandle (s : Session n) (name : String) (x : Handle n) : Session n :=
  { s with handles := (s.removeHandle name).handles ++ [(name, x)] }

/-- What a future says when it ends without an outcome: whether its call was still pending. -/
def giveUp (id : CallId) : Host n × Bool → Host n
  | (h, true) =>
      h.log .debug Host.binderTarget "discarded pending call of dropped future" [Host.idField id]
  | (h, false) => h

def discard (h : Host n) : Handle n → Host n
  | .binder b id => (h.drop b id).1
  | .future b id _ => giveUp id (h.drop b id)

/-- Keeps a new call under a name; what had the name before is let go. -/
def keep (s : Session n) (name : String) (b : Fin n) (id : CallId) : Session n :=
  let s := match s.handle? name with
    | some old => { s with host := discard s.host old }
    | none => s
  s.setHandle name (.binder b id)

def call (s : Session n) (b : Fin n) (function : String) (args : List Json) (name : String) :
    Session n × Answer :=
  match s.host.call b function args with
  | (h, .ok id) => (keep { s with host := h } name b id, .token id)
  | (h, .error e) => ({ s with host := h }, .result (.error e))

/-- Calls each of the functions in turn; the calls are kept under numbered names. -/
def callEach (s : Session n) (b : Fin n) (args : List Json) (name : String) :
    Nat → List String → Session n × List Answer
  | _, [] => (s, [])
  | i, function :: rest =>
      let (s, a) := s.call b function args (name ++ toString i)
      let (s, as) := callEach s b args name (i + 1) rest
      (s, a :: as)

/-- The time limit of awaited calls, in milliseconds. -/
def limit (h : Host n) (b : Fin n) : Option Nat := (h.bridge b).config.timeoutMs.map UInt64.toNat

/-- What a poll finds. -/
inductive Poll where
  | pending
  | ready (o : Outcome)

/-- Polls a future at time `now` that was first polled at `started`. -/
def pollFuture (h : Host n) (b : Fin n) (id : CallId) (started now : Nat) : Host n × Poll :=
  match h.takeOutcome b id with
  | (h, some o) => (h, .ready o)
  | (h, none) =>
      match limit h b with
      | some ms =>
          if started + ms ≤ now then
            let h := h.log .warn Host.binderTarget
              ("remote call timed out after " ++ Duration.describeMillis ms) [Host.idField id]
            (giveUp id (h.expire b id), .ready (.error .timeout))
          else (h, .pending)
      | none => (h, .pending)

/-- Polls the call kept under `name`; a binder becomes a future first. -/
def poll (s : Session n) (name : String) : Handle n → Session n × Answer
  | .binder b id => go b id s.clock
  | .future b id started => go b id (started.getD s.clock)
where
  go (b : Fin n) (id : CallId) (started : Nat) : Session n × Answer :=
    match pollFuture s.host b id started s.clock with
    | (h, .ready o) => (removeHandle { s with host := h } name, .outcome o)
    | (h, .pending) =>
        (setHandle { s with host := h } name (.future b id (some started)), .text "pending")

/-! ## Channels -/

/-- The kinds of channel that a session can open a bridge with. -/
inductive ChannelKind where
  /-- Frames stay in sight; refusals by offer number. -/
  | tape (verdict : Nat → Option BridgeError)
  /-- The outside receives the frames. -/
  | outlet
  /-- The outside receives the frames, and has a line to the bridge as well. -/
  | peer

/-- Replaces the line from which the outside receives. -/
def setReceiver (s : Session n) (b : Fin n) (i : Nat) : Session n :=
  (s.closeEnd (s.endpoint b).receiver).updateEndpoint b fun p => { p with receiver := some i }

def setInbound (s : Session n) (b : Fin n) (i : Nat) : Session n :=
  (s.closeEnd (s.endpoint b).inbound).updateEndpoint b fun p => { p with inbound := some i }

def addLine (s : Session n) : Session n × Nat :=
  let (h, i) := s.host.addLine
  ({ s with host := h }, i)

def openBridge (s : Session n) (b : Fin n) (channel : Channel) :
    Session n × Except BridgeError Unit :=
  let (h, r) := s.host.openWith b channel
  ({ s with host := h }, r)

def openLine (i : Nat) : Channel := { carrier := .line i }

def openWith (s : Session n) (b : Fin n) : ChannelKind → Session n × Except BridgeError Unit
  | .tape verdict => s.openBridge b ⟨.tape, verdict⟩
  | .outlet =>
      let (s, out) := s.addLine
      (s.setReceiver b out).openBridge b (openLine out)
  | .peer =>
      let (s, out) := s.addLine
      let (s, back) := s.addLine
      let s := (s.setReceiver b out).setInbound b back
      let s := s.updateEndpoint b fun p => { p with sender := some back }
      s.openBridge b (openLine out)

/-- Joins two bridges by a line in each direction. -/
def link (s : Session n) (b c : Fin n) : Session n × Answer :=
  let (s, there) := s.addLine
  let (s, back) := s.addLine
  let s := (s.setInbound b back).setInbound c there
  let (s, first) := s.openBridge b (openLine there)
  let (s, second) := s.openBridge c (openLine back)
  (s, .several [.result first, .result second])

/-! ## Inbound frames -/

/-- Handles the frames of a line one by one, also those that arrive meanwhile. -/
def pumpLine [Limits] (h : Host n) (b : Fin n) (i : Nat) :
    Nat → Host n × List (String × Except BridgeError Unit)
  | 0 => (h, [])
  | room + 1 =>
      match h.popLine i with
      | (h, none) => (h, [])
      | (h, some frame) =>
          let (h, r) := h.handle b frame
          let (h, rest) := pumpLine h b i room
          (h, (frame, r) :: rest)

/-- Serves the frames of a line until it is empty or a frame is malformed. -/
def serveLine [Limits] (h : Host n) (b : Fin n) (i : Nat) : Nat → Host n × Option BridgeError
  | 0 => (h, none)
  | room + 1 =>
      match h.popLine i with
      | (h, none) => (h, none)
      | (h, some frame) =>
          let (h, r) := h.handle b frame
          match h.afterFrame r with
          | (h, some e) => (h, some e)
          | (h, none) => serveLine h b i room

/-- The server of `b` ends, and its line with it. -/
def endServer (s : Session n) (b : Fin n) : Session n :=
  (s.closeEnd (s.endpoint b).serving).updateEndpoint b fun p => { p with serving := none }

def startServer (s : Session n) (b : Fin n) : Session n × Answer :=
  match (s.endpoint b).inbound with
  | none => (s, .text "no inbound")
  | some i =>
      ((s.endServer b).updateEndpoint b fun p => { p with inbound := none, serving := some i },
        .text "started")

def pollServer [Limits] (s : Session n) (b : Fin n) : Session n × Answer :=
  match (s.endpoint b).serving with
  | none => (s, .text "not serving")
  | some i =>
      match serveLine s.host b i Limits.frames with
      | (h, some e) => (endServer { s with host := h } b, .result (.error e))
      | (h, none) =>
          let s := { s with host := h }
          if s.hasSender i then (s, .text "pending")
          else (endServer { s with host := s.host.serveEnded } b, .result (.ok ()))

def pump [Limits] (s : Session n) (b : Fin n) (max : Nat) : Session n × Answer :=
  match (s.endpoint b).inbound with
  | none => (s, .text "no inbound")
  | some i =>
      let (h, results) := pumpLine s.host b i max
      ({ s with host := h }, .pumped results)

/-- The outside sends a frame to the bridge. -/
def inject (s : Session n) (b : Fin n) (frame : String) : Session n × Answer :=
  match (s.endpoint b).sender with
  | none => (s, .text "no peer")
  | some i =>
      let closed := !(s.host.line i).receiving
      let (h, refusal) := s.host.pushLine i frame
      ({ s with host := h }, .injected closed (Host.asResult refusal))

/-- The outside takes all frames that the bridge has sent. -/
def receive (s : Session n) (b : Fin n) : Session n × Answer :=
  match (s.endpoint b).receiver with
  | none => (s, .text "no peer")
  | some i =>
      let (h, frames) := s.host.drainLine i
      ({ s with host := h }, .received frames (s.hasSender i))

end Session

end CallBridge
