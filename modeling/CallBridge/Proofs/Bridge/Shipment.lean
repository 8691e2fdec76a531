import CallBridge.Proofs.Bridge.Host

/-!
# What sending does

Sending a frame and opening a bridge change the outbound side of that bridge, put frames into lines
and add to the trace. What exactly they do depends on the outbound side and on which lines have a
receiver, and on nothing else of the host: `Outbound.sending` and `Outbound.opening` say it without
a host, and `transmit_eq` and `openWith_eq` carry it over.
-/

namespace CallBridge

variable {n : Nat}

/-- What is done to a host when a bridge sends: its outbound side becomes another, frames are put
into lines, and events are recorded. -/
structure Shipment (n : Nat) where
  outbound : Outbound
  /-- Frames for lines, each with the index of its line. -/
  pushes : List (Nat × String) := []
  events : List (Event n) := []

/-- Two shipments of one bridge, one after the other. -/
def Shipment.followedBy (x y : Shipment n) : Shipment n :=
  ⟨y.outbound, x.pushes ++ y.pushes, x.events ++ y.events⟩

/-- A frame goes into the line of its carrier, if that is a line. -/
def Carrier.pushes : Carrier → String → List (Nat × String)
  | .line i, frame => [(i, frame)]
  | .tape, _ => []
  | .void, _ => []

namespace Host

/-- Puts frames into lines. -/
def push (lines : List Line) (pushes : List (Nat × String)) : List Line :=
  pushes.foldl (fun ls p => ls.modify p.1 fun l => { l with queue := l.queue ++ [p.2] }) lines

def ship (h : Host n) (b : Fin n) (x : Shipment n) : Host n :=
  { bridges := (h.update b fun y => { y with outbound := x.outbound }).bridges
    lines := push h.lines x.pushes
    trace := h.trace ++ x.events }

/-- The same lines have a receiver. -/
def SameEnds (h k : Host n) : Prop := ∀ i, (k.line i).receiving = (h.line i).receiving

/-- Nobody receives what this carrier takes. -/
def isCutOff (h : Host n) : Carrier → Bool
  | .line i => !(h.line i).receiving
  | .tape => false
  | .void => false

/-- Why offer number `k` is refused, if it is: by the channel, or for want of a receiver. -/
def refusal (h : Host n) (channel : Channel) (k : Nat) : Option BridgeError :=
  (channel.verdict k).or (if h.isCutOff channel.carrier then some .channelClosed else none)

/-! ## Shipments -/

section Ship

variable (h : Host n) (b c : Fin n) (x y : Shipment n)

theorem bridge_ship :
    (h.ship b x).bridge c
      = if c = b then { h.bridge b with outbound := x.outbound } else h.bridge c :=
  h.bridge_update b c fun y => { y with outbound := x.outbound }

theorem outbound_ship :
    ((h.ship b x).bridge c).outbound = if c = b then x.outbound else (h.bridge c).outbound := by
  rw [bridge_ship]
  split <;> rfl

@[simp] theorem trace_ship : (h.ship b x).trace = h.trace ++ x.events := rfl

@[simp] theorem lines_ship : (h.ship b x).lines = push h.lines x.pushes := rfl

theorem ship_ship : (h.ship b x).ship b y = h.ship b (x.followedBy y) := by
  have hbridges := congrArg bridges (h.update_update b
    (fun z => { z with outbound := x.outbound }) fun z => { z with outbound := y.outbound })
  have hlines : push (push h.lines x.pushes) y.pushes = push h.lines (x.pushes ++ y.pushes) :=
    List.foldl_append.symm
  simp only [ship, Shipment.followedBy, hlines, List.append_assoc]
  congr 1

/-- A bridge that keeps its outbound side only records something. -/
theorem ship_same {o : Outbound} (hout : (h.bridge b).outbound = o) (es : List (Event n)) :
    h.ship b { outbound := o, events := es } = { h with trace := h.trace ++ es } := by
  have hself : h.bridges.set b { h.bridge b with outbound := o } b.isLt = h.bridges := by
    rw [← hout]
    exact h.bridges.set_getElem_self b.isLt
  simp only [ship, update, setBridge, hself]
  rfl

theorem receiving_push (lines : List Line) (pushes : List (Nat × String)) (i : Nat) :
    ((push lines pushes).getD i { receiving := false }).receiving
      = (lines.getD i { receiving := false }).receiving := by
  induction pushes generalizing lines with
  | nil => rfl
  | cons p rest ih =>
      have hpush := ih (lines.modify p.1 fun l => { l with queue := l.queue ++ [p.2] })
      refine hpush.trans ?_
      simp only [List.getD_eq_getElem?_getD, List.getElem?_modify]
      by_cases hp : p.1 = i
      · cases lines[i]? <;> simp [hp]
      · simp [hp]

theorem sameEnds_ship : SameEnds h (h.ship b x) := receiving_push h.lines x.pushes

end Ship

section Refusal

variable {h k : Host n}

theorem SameEnds.ship (hends : SameEnds h k) (b : Fin n) (x : Shipment n) :
    SameEnds (h.ship b x) (k.ship b x) := by
  intro i
  exact ((k.sameEnds_ship b x i).trans (hends i)).trans (h.sameEnds_ship b x i).symm

theorem SameEnds.refusal (hends : SameEnds h k) : k.refusal = h.refusal := by
  funext channel j
  have hcut : k.isCutOff channel.carrier = h.isCutOff channel.carrier := by
    cases channel.carrier with
    | line i => simp only [isCutOff, hends i]
    | tape | void => rfl
  simp only [Host.refusal, hcut]

theorem refusal_ship (h : Host n) (b : Fin n) (x : Shipment n) :
    (h.ship b x).refusal = h.refusal :=
  (h.sameEnds_ship b x).refusal

end Refusal

end Host

/-! ## Offers, frames and openings -/

section Sending

variable (b : Fin n) (channel : Channel)

/-- Offers a frame as offer number `k`. -/
def Shipment.offer (k : Nat) (frame : String) (refusal : Option BridgeError) : Shipment n where
  outbound := .opened channel (k + 1)
  pushes := if refusal = none then channel.carrier.pushes frame else []
  events := [.offered b channel.carrier frame refusal]

/-- What is recorded when frames are lost: `left` of `total`. -/
def Event.loss (left total : Nat) : Event n :=
  .logged (.say .error Host.bridgeTarget ("channel failed while flushing startup buffer, "
    ++ toString left ++ " of " ++ toString total ++ " frames lost") [])

/-- Offers frames up to the first refusal, from offer number `k` on. -/
def Shipment.flush (refusal : Nat → Option BridgeError) (total : Nat) :
    Nat → List String → Shipment n × Except BridgeError Unit
  | k, [] => ({ outbound := .opened channel k }, .ok ())
  | k, frame :: rest =>
      match refusal k with
      | none =>
          let (x, r) := flush refusal total (k + 1) rest
          ((Shipment.offer b channel k frame none).followedBy x, r)
      | some e =>
          ((Shipment.offer b channel k frame (some e)).followedBy
            { outbound := .opened channel (k + 1), events := [.loss (total - k) total] }, .error e)

/-- Sends a frame out. -/
def Outbound.sending (refusal : Channel → Nat → Option BridgeError) (frame : String) :
    Outbound → Shipment n × Except BridgeError Unit
  | .connecting buffer =>
      ({ outbound := .connecting (buffer ++ [frame]), events := [.produced b frame] }, .ok ())
  | .opened channel k =>
      (({ outbound := .opened channel k, events := [.produced b frame] } : Shipment n).followedBy
        (Shipment.offer b channel k frame (refusal channel k)),
        Host.asResult (refusal channel k))

/-- Gives a channel to the outbound side. -/
def Outbound.opening (refusal : Nat → Option BridgeError) :
    Outbound → Shipment n × Except BridgeError Unit
  | .opened held k =>
      ({ outbound := .opened held k },
        .error (.invalidState ChannelState.connecting.title ChannelState.opened.title))
  | .connecting buffer =>
      let record : Event n := .logged (.say .info Host.bridgeTarget
        "channel open, flushing startup buffer" [("buffered", toString buffer.length)])
      let (x, r) := Shipment.flush b channel refusal buffer.length 0 buffer
      (({ outbound := .opened channel 0, events := [record] } : Shipment n).followedBy x, r)

end Sending

namespace Host

theorem offer_eq (h : Host n) (b : Fin n) (channel : Channel) (k : Nat) (frame : String) :
    h.offer b channel k frame
      = (h.ship b (Shipment.offer b channel k frame (h.refusal channel k)),
        h.refusal channel k) := by
  obtain ⟨carrier, verdict⟩ := channel
  simp only [offer, refusal]
  cases verdict k with
  | some e => rfl
  | none =>
      cases carrier with
      | tape | void => rfl
      | line i =>
          have hline : ((h.update b fun x =>
              { x with outbound := .opened ⟨.line i, verdict⟩ (k + 1) }).line i).receiving
                = (h.line i).receiving := rfl
          cases hreceiving : (h.line i).receiving with
          | true =>
              simp only [carry, pushLine, hline, hreceiving, isCutOff]
              rfl
          | false =>
              simp only [carry, pushLine, hline, hreceiving, isCutOff]
              rfl

theorem transmit_eq (h : Host n) (b : Fin n) (frame : String) :
    h.transmit b frame
      = (h.ship b ((h.bridge b).outbound.sending b h.refusal frame).1,
        ((h.bridge b).outbound.sending b h.refusal frame).2) := by
  rw [transmit, bridge_emit]
  cases hout : (h.bridge b).outbound with
  | connecting buffer => rfl
  | opened channel k =>
      have hproduced : h.emit (.produced b frame)
          = h.ship b { outbound := .opened channel k, events := [.produced b frame] } :=
        (h.ship_same b hout _).symm
      simp only [offer_eq, hproduced, refusal_ship, ship_ship, Outbound.sending]

theorem flush_eq (b : Fin n) (channel : Channel) (total : Nat) (frames : List String) :
    ∀ (h : Host n) (k : Nat), (h.bridge b).outbound = .opened channel k →
      h.flush b channel total k frames
        = (h.ship b (Shipment.flush b channel (h.refusal channel) total k frames).1,
          (Shipment.flush b channel (h.refusal channel) total k frames).2) := by
  induction frames with
  | nil =>
      intro h k hout
      simp only [flush, Shipment.flush, h.ship_same b hout, List.append_nil]
  | cons frame rest ih =>
      intro h k hout
      simp only [flush, Shipment.flush, offer_eq]
      cases hrefusal : h.refusal channel k with
      | some e =>
          have hout' : ((h.ship b (Shipment.offer b channel k frame (some e))).bridge b).outbound
              = .opened channel (k + 1) := by
            rw [outbound_ship, if_pos rfl]
            rfl
          simp only [← ship_ship, ship_same _ b hout']
          rfl
      | none =>
          have hnext := ih (h.ship b (Shipment.offer b channel k frame none)) (k + 1)
            (by rw [outbound_ship, if_pos rfl]; rfl)
          rw [refusal_ship] at hnext
          simp only [hnext, ship_ship]

theorem openWith_eq (h : Host n) (b : Fin n) (channel : Channel) :
    h.openWith b channel
      = (h.ship b ((h.bridge b).outbound.opening b channel (h.refusal channel)).1,
        ((h.bridge b).outbound.opening b channel (h.refusal channel)).2) := by
  rw [openWith]
  cases hout : (h.bridge b).outbound with
  | opened held k =>
      simp only [Outbound.opening, h.ship_same b hout, List.append_nil]
  | connecting buffer =>
      obtain ⟨record, hrecord⟩ : ∃ record : Event n, record = .logged (.say .info bridgeTarget
          "channel open, flushing startup buffer" [("buffered", toString buffer.length)]) :=
        ⟨_, rfl⟩
      have hopened : (h.update b fun x => { x with outbound := .opened channel 0 }).emit record
          = h.ship b { outbound := .opened channel 0, events := [record] } := rfl
      have hflush := flush_eq b channel buffer.length buffer
        (h.ship b { outbound := .opened channel 0, events := [record] }) 0
        (by rw [outbound_ship, if_pos rfl])
      simp only [log, Outbound.opening, ← hrecord, hopened, hflush, refusal_ship, ship_ship]

/-! ## Calls -/

/-- The frame of the next call. -/
def callFrame (h : Host n) (b : Fin n) (name : String) (args : List Json) : String :=
  (Message.call ⟨(h.bridge b).tokens.peek, name, args⟩).encode (h.bridge b).config.layout

/-- The host when a call is about to send its frame. -/
def prepared (h : Host n) (b : Fin n) (name : String) (args : List Json) : Host n :=
  let id := (h.bridge b).tokens.peek
  ((((h.update b fun x => { x with tokens := x.tokens.advance }).emit
    (.called b id name args)).register b id).log .debug bridgeTarget "issuing remote call"
    [idField id, nameField name])

theorem call_eq (h : Host n) (b : Fin n) (name : String) (args : List Json) :
    h.call b name args
      = match (h.prepared b name args).transmit b (h.callFrame b name args) with
        | (k, .ok ()) =>
            (k.emit (.issued b (h.bridge b).tokens.peek name args), .ok (h.bridge b).tokens.peek)
        | (k, .error e) => ((k.cancel b (h.bridge b).tokens.peek).1, .error e) :=
  rfl

end Host

end CallBridge
