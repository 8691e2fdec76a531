import CallBridge.Bridge.Basic
import CallBridge.Log.Event

/-!
# The host of the bridges

A host has `n` bridges and the lines between them and the outside. Everything that happens is
appended to its trace: frames produced and offered to channels, calls made, issued, bound, dropped
and expired, functions invoked, returns handled, outcomes delivered, notes of callbacks, log
events. Operations that run host code are in `CallBridge.Bridge.Dispatch`; those here do not.
-/

namespace CallBridge

/-- A queue of frames. When nobody can receive any more, it refuses frames. -/
structure Line where
  queue : List String := []
  receiving : Bool := true

inductive Event (n : Nat) where
  | produced (b : Fin n) (frame : String)
  | offered (b : Fin n) (carrier : Carrier) (frame : String) (refusal : Option BridgeError)
  /-- A call has taken its token, whether or not its frame goes out. -/
  | called (b : Fin n) (id : CallId) (name : String) (args : List Json)
  /-- The caller has its token. -/
  | issued (b : Fin n) (id : CallId) (name : String) (args : List Json)
  | bound (b : Fin n) (id : CallId) (c : Callback n)
  /-- A binder that nothing is bound to, or a future that has no outcome, is let go. -/
  | dropped (b : Fin n) (id : CallId)
  /-- A future has waited too long. -/
  | expired (b : Fin n) (id : CallId)
  | invoked (b : Fin n) (c : Call)
  | returned (b : Fin n) (r : Return)
  /-- An outcome reaches a callback, or the poll of a future. -/
  | delivered (b : Fin n) (id : CallId) (receiver : Option (Callback n)) (o : Outcome)
  | noted (label : String) (what : Outcome)
  | logged (e : Log.Event)

structure Host (n : Nat) where
  bridges : Vector (Bridge n) n
  lines : List Line := []
  trace : List (Event n) := []

namespace Host

variable {n : Nat}

/-- New bridges with these configurations. A bridge takes the epoch of its tokens from the clock, in
milliseconds, when it is made. -/
def ofConfigs (clock : Fin n → Nat) (configs : Vector Config n) : Host n :=
  { bridges := .ofFn fun b => { config := configs[b], tokens := { epoch := clock b } } }

def bridge (h : Host n) (b : Fin n) : Bridge n := h.bridges[b]

def setBridge (h : Host n) (b : Fin n) (x : Bridge n) : Host n :=
  { h with bridges := h.bridges.set b x }

def update (h : Host n) (b : Fin n) (f : Bridge n → Bridge n) : Host n :=
  h.setBridge b (f (h.bridge b))

def emit (h : Host n) (e : Event n) : Host n := { h with trace := h.trace ++ [e] }

def bridgeTarget : String := "eel_runtime::bridge"

def binderTarget : String := "eel_runtime::binder"

def panicTarget : String := "eel_core::panic_guard"

def log (h : Host n) (level : Level) (target message : String)
    (fields : List (String × String) := []) : Host n :=
  h.emit (.logged (.say level target message fields))

def idField (id : CallId) : String × String := ("call_id", id.display)

def nameField (name : String) : String × String := ("name", name)

/-! ## Lines -/

/-- A new line, and its index. -/
def addLine (h : Host n) : Host n × Nat := ({ h with lines := h.lines ++ [{}] }, h.lines.length)

def line (h : Host n) (i : Nat) : Line := h.lines.getD i { receiving := false }

def updateLine (h : Host n) (i : Nat) (f : Line → Line) : Host n :=
  { h with lines := h.lines.modify i f }

/-- Puts a frame into a line, or refuses it. -/
def pushLine (h : Host n) (i : Nat) (frame : String) : Host n × Option BridgeError :=
  if (h.line i).receiving then
    (h.updateLine i fun l => { l with queue := l.queue ++ [frame] }, none)
  else (h, some .channelClosed)

/-- The oldest frame of a line. -/
def popLine (h : Host n) (i : Nat) : Host n × Option String :=
  match (h.line i).queue with
  | [] => (h, none)
  | frame :: rest => (h.updateLine i fun l => { l with queue := rest }, some frame)

/-- Takes all frames out of a line. -/
def drainLine (h : Host n) (i : Nat) : Host n × List String :=
  (h.updateLine i fun l => { l with queue := [] }, (h.line i).queue)

/-- The receiving end goes away, and the frames in the line with it. -/
def closeLine (h : Host n) (i : Nat) : Host n :=
  h.updateLine i fun _ => { receiving := false }

/-! ## Outbound frames -/

/-- Hands a frame to a carrier. -/
def carry (h : Host n) (carrier : Carrier) (frame : String) : Host n × Option BridgeError :=
  match carrier with
  | .line i => h.pushLine i frame
  | .tape => (h, none)
  | .void => (h, none)

/-- Offers a frame to a channel as offer number `k`. -/
def offer (h : Host n) (b : Fin n) (channel : Channel) (k : Nat) (frame : String) :
    Host n × Option BridgeError :=
  let h := h.update b fun x => { x with outbound := .opened channel (k + 1) }
  let (h, refusal) := match channel.verdict k with
    | some e => (h, some e)
    | none => h.carry channel.carrier frame
  (h.emit (.offered b channel.carrier frame refusal), refusal)

def asResult : Option BridgeError → Except BridgeError Unit
  | none => .ok ()
  | some e => .error e

/-- Sends a frame out: into the buffer while connecting, and else to the channel. -/
def transmit (h : Host n) (b : Fin n) (frame : String) : Host n × Except BridgeError Unit :=
  let h := h.emit (.produced b frame)
  match (h.bridge b).outbound with
  | .connecting buffer =>
      (h.update b fun x => { x with outbound := .connecting (buffer ++ [frame]) }, .ok ())
  | .opened channel k =>
      let (h, refusal) := h.offer b channel k frame
      (h, asResult refusal)

/-- Offers frames in order up to the first refusal; `k` is the number of the first offer. -/
def flush (h : Host n) (b : Fin n) (channel : Channel) (total : Nat) :
    Nat → List String → Host n × Except BridgeError Unit
  | _, [] => (h, .ok ())
  | k, frame :: rest =>
      match h.offer b channel k frame with
      | (h, none) => flush h b channel total (k + 1) rest
      | (h, some e) =>
          (h.log .error bridgeTarget
            ("channel failed while flushing startup buffer, " ++ toString (total - k) ++ " of "
              ++ toString total ++ " frames lost"), .error e)

/-- Gives a channel to a connecting bridge and flushes the buffer into it. The bridge is open
afterwards even if the channel refused a frame. -/
def openWith (h : Host n) (b : Fin n) (channel : Channel) : Host n × Except BridgeError Unit :=
  match (h.bridge b).outbound with
  | .opened _ _ =>
      (h, .error (.invalidState ChannelState.connecting.title ChannelState.opened.title))
  | .connecting buffer =>
      let h := h.update b fun x => { x with outbound := .opened channel 0 }
      let h := h.log .info bridgeTarget "channel open, flushing startup buffer"
        [("buffered", toString buffer.length)]
      h.flush b channel buffer.length 0 buffer

/-! ## Functions and calls -/

/-- Makes a function callable by the peer; a later one replaces an earlier one of that name. -/
def expose (h : Host n) (b : Fin n) (name : String) (f : Exposed n) : Host n :=
  let message :=
    if (h.bridge b).isExposed name then "replaced exposed function" else "exposed function"
  (h.update b fun x => x.expose name f).log .debug bridgeTarget message [nameField name]

/-- Enters a call as pending. -/
def register (h : Host n) (b : Fin n) (id : CallId) : Host n :=
  let taken := ((h.bridge b).pending? id).isSome
  let h := h.update b fun x => x.enlist id .waiting
  if taken then
    h.log .warn binderTarget "replaced pending call with duplicate token" [idField id]
  else h

/-- Strikes a pending call; tells whether it was there. -/
def cancel (h : Host n) (b : Fin n) (id : CallId) : Host n × Bool :=
  (h.update b fun x => x.unlist id, ((h.bridge b).pending? id).isSome)

/-- Calls a function of the peer. If the frame is refused, nothing but the token counter has
moved. -/
def call (h : Host n) (b : Fin n) (name : String) (args : List Json) :
    Host n × Except BridgeError CallId :=
  let x := h.bridge b
  let id := x.tokens.peek
  let frame := (Message.call ⟨id, name, args⟩).encode x.config.layout
  let h := h.update b fun x => { x with tokens := x.tokens.advance }
  let h := h.emit (.called b id name args)
  let h := h.register b id
  let h := h.log .debug bridgeTarget "issuing remote call" [idField id, nameField name]
  match h.transmit b frame with
  | (h, .ok ()) => (h.emit (.issued b id name args), .ok id)
  | (h, .error e) => ((h.cancel b id).1, .error e)

/-- Binds a callback to a call that is still pending. -/
def bindPending (h : Host n) (b : Fin n) (id : CallId) (c : Callback n) : Host n :=
  (h.update b fun x =>
    { x with pending := x.pending.map fun p => if p.1 = id then (id, .callback c) else p }).emit
    (.bound b id c)

/-- Strikes a call that nothing is bound to, and an outcome put aside for it; tells whether it was
still pending. -/
def release (h : Host n) (b : Fin n) (id : CallId) : Host n × Bool :=
  let (h, present) := h.cancel b id
  (h.update b fun x => x.takeAside id, present)

/-- Lets go of a call that nothing is bound to. -/
def drop (h : Host n) (b : Fin n) (id : CallId) : Host n × Bool :=
  (h.emit (.dropped b id)).release b id

/-- Ends the wait for a call whose time has run out. -/
def expire (h : Host n) (b : Fin n) (id : CallId) : Host n × Bool :=
  (h.emit (.expired b id)).release b id

/-- Takes the outcome that was put aside for a call. -/
def takeOutcome (h : Host n) (b : Fin n) (id : CallId) : Host n × Option Outcome :=
  match (h.bridge b).arrived? id with
  | some o => ((h.update b fun x => x.takeAside id).emit (.delivered b id none o), some o)
  | none => (h, none)

end Host

end CallBridge
