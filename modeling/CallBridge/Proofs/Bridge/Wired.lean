import CallBridge.Proofs.Bridge.Lockstep

/-!
# Hosts with the same wires

Two hosts whose outbound sides are the same, and whose lines have receivers in the same places, send
alike. If their traces are related in a way that further events do not disturb, this makes a lawful
pairing (`Pairing.lawful_of_wired`).
-/

namespace CallBridge

variable {n : Nat}

/-! ## Sending is idle -/

theorem Shipment.idle_flush (b : Fin n) (channel : Channel) (refusal : Nat → Option BridgeError)
    (total : Nat) (frames : List String) :
    ∀ k, ∀ e ∈ (Shipment.flush b channel refusal total k frames).1.events, e.IsIdle := by
  induction frames with
  | nil => simp [Shipment.flush]
  | cons frame rest ih =>
      intro k e he
      rw [Shipment.flush] at he
      split at he
      · rcases List.mem_append.1 he with hoffer | hrest
        · rw [List.mem_singleton.1 hoffer]
          trivial
        · exact ih (k + 1) e hrest
      · rcases List.mem_append.1 he with hoffer | hloss
        · rw [List.mem_singleton.1 hoffer]
          trivial
        · rw [List.mem_singleton.1 hloss]
          trivial

theorem Outbound.idle_sending (b : Fin n) (refusal : Channel → Nat → Option BridgeError)
    (frame : String) (o : Outbound) :
    ∀ e ∈ (o.sending b refusal frame).1.events, e.IsIdle := by
  intro e he
  cases o with
  | connecting buffer =>
      rw [List.mem_singleton.1 he]
      trivial
  | opened channel k =>
      rcases List.mem_append.1 he with hproduced | hoffer
      · rw [List.mem_singleton.1 hproduced]
        trivial
      · rw [List.mem_singleton.1 hoffer]
        trivial

theorem Outbound.idle_opening (b : Fin n) (channel : Channel)
    (refusal : Nat → Option BridgeError) (o : Outbound) :
    ∀ e ∈ (o.opening b channel refusal).1.events, e.IsIdle := by
  intro e he
  cases o with
  | opened held k => cases he
  | connecting buffer =>
      rcases List.mem_append.1 he with hrecord | hflush
      · rw [List.mem_singleton.1 hrecord]
        trivial
      · exact Shipment.idle_flush b channel refusal _ _ _ e hflush

/-! ## Traces side by side -/

def Event.isRecord : Event n → Bool
  | .logged _ => true
  | _ => false

/-- A trace without the log records. -/
def unlogged (es : List (Event n)) : List (Event n) := es.filter fun e => !e.isRecord

theorem unlogged_append (es es' : List (Event n)) :
    unlogged (es ++ es') = unlogged es ++ unlogged es' :=
  List.filter_append ..

/-- Traces may go on alike, without anything about calls left aside. -/
def TraceClosed (aside : Fin n → CallId → Bool)
    (T : List (Event n) → List (Event n) → Prop) : Prop :=
  ∀ {l r : List (Event n)} {e : Event n}, T l r → e.IsIdle ∨ e.Spares aside →
    T (l ++ [e]) (r ++ [e])

theorem TraceClosed.append {aside : Fin n → CallId → Bool}
    {T : List (Event n) → List (Event n) → Prop} (hT : TraceClosed aside T) {l r : List (Event n)}
    (hlr : T l r) {es : List (Event n)} (hes : ∀ e ∈ es, e.IsIdle) : T (l ++ es) (r ++ es) := by
  induction es generalizing l r with
  | nil => simpa using hlr
  | cons e es ih =>
      have hnext := hT hlr (.inl (hes e List.mem_cons_self))
      simpa using ih hnext fun e' he' => hes e' (List.mem_cons_of_mem _ he')

/-! ## The same wires -/

/-- Outbound sides and ends of lines are the same, and traces are related by `T`. Where the lines
are `exact`, they also hold the same frames. -/
structure Wired (exact : Prop) (T : List (Event n) → List (Event n) → Prop) (h k : Host n) :
    Prop where
  outbound : ∀ d, (k.bridge d).outbound = (h.bridge d).outbound
  ends : Host.SameEnds h k
  lines : exact → k.lines = h.lines
  trace : T h.trace k.trace

namespace Wired

variable {exact : Prop} {aside : Fin n → CallId → Bool}
  {T : List (Event n) → List (Event n) → Prop} {h k : Host n} {b : Fin n}

theorem emit (hT : TraceClosed aside T) (hw : Wired exact T h k) {e : Event n}
    (he : e.Spares aside) : Wired exact T (h.emit e) (k.emit e) :=
  { hw with trace := hT hw.trace (.inr he) }

theorem update (hw : Wired exact T h k) {f : Bridge n → Bridge n}
    (hf : ∀ x, (f x).outbound = x.outbound) : Wired exact T (h.update b f) (k.update b f) :=
  { hw with
    outbound := by
      intro d
      rw [k.field_update b d f Bridge.outbound hf, h.field_update b d f Bridge.outbound hf]
      exact hw.outbound d }

theorem ship (hT : TraceClosed aside T) (hw : Wired exact T h k) {x : Shipment n}
    (hx : ∀ e ∈ x.events, e.IsIdle) : Wired exact T (h.ship b x) (k.ship b x) where
  outbound d := by
    rw [Host.outbound_ship, Host.outbound_ship, hw.outbound d]
  ends := hw.ends.ship b x
  lines hexact := by rw [Host.lines_ship, Host.lines_ship, hw.lines hexact]
  trace := hT.append hw.trace hx

theorem transmit (hT : TraceClosed aside T) (hw : Wired exact T h k) (b : Fin n)
    (frame : String) :
    Wired exact T (h.transmit b frame).1 (k.transmit b frame).1 ∧
      (k.transmit b frame).2 = (h.transmit b frame).2 := by
  rw [Host.transmit_eq, Host.transmit_eq, hw.outbound b, hw.ends.refusal]
  exact ⟨hw.ship hT (Outbound.idle_sending b _ _ _), rfl⟩

theorem openWith (hT : TraceClosed aside T) (hw : Wired exact T h k) (b : Fin n)
    (channel : Channel) :
    Wired exact T (h.openWith b channel).1 (k.openWith b channel).1 ∧
      (k.openWith b channel).2 = (h.openWith b channel).2 := by
  rw [Host.openWith_eq, Host.openWith_eq, hw.outbound b, hw.ends.refusal]
  exact ⟨hw.ship hT (Outbound.idle_opening b channel _ _), rfl⟩

end Wired

theorem Pairing.lawful_of_wired {P : Pairing n} {exact : Prop}
    {T : List (Event n) → List (Event n) → Prop} (hwires : P.wires = Wired exact T)
    (hT : TraceClosed P.aside T)
    (hstatus : ∀ {h k b next}, P.Abreast h k → P.kind (.status b next) →
      P.ok h (.status b next) → next (k.bridge b).status = next (h.bridge b).status)
    (hleaves : ∀ {h p}, P.ok h p → p.Leaves P.aside h) : P.Lawful where
  emit hw he := by
    rw [hwires] at hw ⊢
    exact hw.emit hT he
  update hw hf := by
    rw [hwires] at hw ⊢
    exact hw.update hf
  transmit b frame hw := by
    rw [hwires] at hw ⊢
    exact hw.transmit hT b frame
  openWith hw _ := by
    rw [hwires] at hw ⊢
    exact hw.openWith hT _ _
  status := hstatus
  leaves := hleaves

end CallBridge
