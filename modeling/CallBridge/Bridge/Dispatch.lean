import CallBridge.Bridge.Host
import CallBridge.Limits

/-!
# Handling frames

Handling a frame may run host code: an exposed function for a call, a callback for a return. That
code may handle further frames, so handling is nested, as deep as the limits allow; a frame below
the last level is refused. `handleNested` has the depth as an argument and is otherwise the same at
every depth.
-/

namespace CallBridge

namespace Host

variable {n : Nat}

/-- How host code handles a frame. -/
abbrev Handling (n : Nat) := Host n → Fin n → String → Host n × Except BridgeError Unit

/-- Runs host code; `nested` handles the frames that it handles. -/
def run (nested : Handling n) : Proc n → Host n → Host n × Ending
  | .done e, h => (h, e)
  | .note label what next, h => run nested next (h.emit (.noted label what))
  | .call b name args callback holds next, h =>
      match h.call b name args with
      | (h, .ok id) => run nested (next (.ok id)) (h.bindPending b id ⟨callback, holds⟩)
      | (h, .error e) => run nested (next (.error e)) h
  | .callAndForget b name args next, h =>
      match h.call b name args with
      | (h, .ok id) => run nested (next (.ok id)) (h.drop b id).1
      | (h, .error e) => run nested (next (.error e)) h
  | .expose b name body holds next, h => run nested next (h.expose b name ⟨body, holds⟩)
  | .openWith b channel next, h =>
      let (h, r) := h.openWith b channel
      run nested (next r) h
  | .handle b frame next, h =>
      let (h, r) := nested h b frame
      run nested (next r) h
  | .names b next, h => run nested (next (h.bridge b).names) h
  | .status b next, h => run nested (next (h.bridge b).status) h

/-- Runs host code behind a guard: breaking off is an error like any other, and is logged. -/
def runGuarded (nested : Handling n) (p : Proc n) (h : Host n) : Host n × Reply :=
  match run nested p h with
  | (h, .returned value) => (h, .ok value)
  | (h, .failed e) => (h, .error e)
  | (h, .panicked cause) =>
      (h.log .error panicTarget ("caught panic: " ++ cause.describe), .error cause.toError)

/-- Runs a callback with an outcome; breaking off is only logged. -/
def runCallback (nested : Handling n) (c : Callback n) (b : Fin n) (id : CallId) (o : Outcome)
    (h : Host n) : Host n :=
  match run nested (c.body o) (h.emit (.delivered b id (some c) o)) with
  | (h, .panicked cause) =>
      (h.log .error panicTarget ("caught panic: " ++ cause.describe)).log .error binderTarget
        "completion callback panicked" [idField id]
  | (h, _) => h

/-- Delivers an outcome to a pending call; tells whether there was one. -/
def resolve (nested : Handling n) (h : Host n) (b : Fin n) (id : CallId) (o : Outcome) :
    Host n × Bool :=
  match (h.bridge b).pending? id with
  | none => (h, false)
  | some .waiting => (h.update b fun x => (x.unlist id).putAside id o, true)
  | some (.callback c) => (runCallback nested c b id o (h.update b fun x => x.unlist id), true)

def handleReturn (nested : Handling n) (h : Host n) (b : Fin n) (r : Return) : Host n :=
  let h := h.emit (.returned b r)
  match resolve nested h b r.id r.outcome with
  | (h, true) => h.log .debug bridgeTarget "resolved remote call" [idField r.id]
  | (h, false) => h.log .debug bridgeTarget "ignoring return with unknown token" [idField r.id]

/-- Sends a return back to the caller. -/
def answer (h : Host n) (b : Fin n) (r : Return) : Host n × Except BridgeError Unit :=
  h.transmit b ((Message.ret r).encode (h.bridge b).config.layout)

def handleCall (nested : Handling n) (h : Host n) (b : Fin n) (c : Call) :
    Host n × Except BridgeError Unit :=
  match (h.bridge b).exposed? c.name with
  | none =>
      (h.log .warn bridgeTarget "dropping call to unexposed function"
        [idField c.id, nameField c.name], .ok ())
  | some f =>
      match runGuarded nested (f.body c.args) (h.emit (.invoked b c)) with
      | (h, .ok value) => h.answer b (.ofReply c.id (.ok value))
      | (h, .error e) =>
          let h := h.log .warn bridgeTarget ("exposed function failed: " ++ e.display)
            [idField c.id, nameField c.name]
          match (h.bridge b).config.dispatchErrors with
          | .returnError => h.answer b (.ofReply c.id (.error e))
          | .drop => (h, .ok ())

def handleMessage (nested : Handling n) (h : Host n) (b : Fin n) :
    Message → Host n × Except BridgeError Unit
  | .call c => handleCall nested h b c
  | .ret r => (handleReturn nested h b r, .ok ())

/-- Handles a message, or reports why there is none. -/
def handleDecoded (nested : Handling n) (h : Host n) (b : Fin n) :
    Except CodecError Message → Host n × Except BridgeError Unit
  | .ok m => handleMessage nested h b m
  | .error e =>
      let e := e.toBridge
      (if e.isFatal then h.log .error bridgeTarget e.display else h, .error e)

/-- Handling below the last level. -/
def refuseNested [Limits] : Handling n := fun h _ _ => (h, .error Limits.refusal)

/-- Handles a frame whose code may nest `depth` further frames. -/
def handleNested [Limits] : Nat → Handling n
  | 0 => fun h b frame => handleDecoded refuseNested h b (Message.decode frame)
  | depth + 1 => fun h b frame => handleDecoded (handleNested depth) h b (Message.decode frame)

/-- Handling as host code sees it. -/
def nestedHandling [Limits] : Handling n := handleNested Limits.nesting

/-- Handles one inbound frame. -/
def handle [Limits] (h : Host n) (b : Fin n) (frame : String) : Host n × Except BridgeError Unit :=
  handleDecoded nestedHandling h b (Message.decode frame)

/-- Handles one inbound message that was already read as JSON. -/
def handleValue [Limits] (h : Host n) (b : Fin n) (v : Json) :
    Host n × Except BridgeError Unit :=
  handleDecoded nestedHandling h b
    (match Message.classify v with
      | .ok m => .ok m
      | .error raw => .error (.invalidFormat raw))

/-- Binds a callback to a call. If the outcome is already there, the callback runs at once. -/
def bind [Limits] (h : Host n) (b : Fin n) (id : CallId) (c : Callback n) : Host n :=
  if ((h.bridge b).pending? id).isSome then h.bindPending b id c
  else match (h.bridge b).arrived? id with
    | some o =>
        runCallback nestedHandling c b id o
          ((h.emit (.bound b id c)).update b fun x => x.takeAside id)
    | none => h.emit (.bound b id c)

/-- What serving does with the result of a frame: a malformed frame ends it, any other error is
only logged. -/
def afterFrame (h : Host n) : Except BridgeError Unit → Host n × Option BridgeError
  | .ok () => (h, none)
  | .error e =>
      if e.isFatal then (h, some e)
      else (h.log .warn bridgeTarget ("failed to process inbound frame: " ++ e.display), none)

def serveEnded (h : Host n) : Host n := h.log .info bridgeTarget "inbound channel closed"

/-- Handles frames one after the other until one is malformed or they end. -/
def serve [Limits] (h : Host n) (b : Fin n) : List String → Host n × Except BridgeError Unit
  | [] => (h.serveEnded, .ok ())
  | frame :: rest =>
      let (h, r) := h.handle b frame
      match h.afterFrame r with
      | (h, some e) => (h, .error e)
      | (h, none) => serve h b rest

end Host

end CallBridge
