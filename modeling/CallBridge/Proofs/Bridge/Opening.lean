import CallBridge.Proofs.Bridge.Post
import CallBridge.Proofs.Bridge.Wired

/-!
# Before and after an opening

A bridge that is open and one that still buffers go in lockstep if the channel accepts every frame
and host code does not look at it: what the one has been offered is what the other has been offered
and holds in its buffer (`Ahead`). When the second one is opened too, nothing is left of the
difference (`Host.openWith_abreast`).
-/

namespace CallBridge

variable {n : Nat}

/-! ## Code that does not look at the channel -/

/-- The request neither opens `b` nor asks for more than the number of its pending calls. -/
def Proc.Modest (b : Fin n) : Proc n → Prop
  | .openWith c _ _ => c ≠ b
  | .status c next => c = b → ∀ x y : Status, y.pending = x.pending → next y = next x
  | _ => True

/-- All code that the host holds is of some kind. -/
structure Host.Holds (kind : Proc n → Prop) (h : Host n) : Prop where
  functions : ∀ d, ∀ p ∈ (h.bridge d).registry, p.2.Throughout kind
  callbacks : ∀ d, ∀ p ∈ (h.bridge d).pending, ∀ c, p.2 = .callback c → c.Throughout kind

/-! ## Channels that accept every frame -/

/-- No frame is refused. -/
def Host.Accepts (h : Host n) (channel : Channel) : Prop := ∀ k, h.refusal channel k = none

def Channel.taking (channel : Channel) (frame : String) : Offer := ⟨channel.carrier, frame, none⟩

section Accepted

variable (b : Fin n)

/-- A trace without log records and without the offers of `b`. -/
def unoffered (es : List (Event n)) : List (Event n) :=
  (unlogged es).filter fun e => (e.offerOf b).isNone

theorem unoffered_append (es es' : List (Event n)) :
    unoffered b (es ++ es') = unoffered b es ++ unoffered b es' := by
  rw [unoffered, unlogged_append, List.filter_append]
  rfl

theorem unoffered_map_event (os : List Offer) : unoffered b (os.map (Offer.event b)) = [] := by
  refine List.filter_eq_nil_iff.2 fun e he => ?_
  obtain ⟨o, -, rfl⟩ := List.mem_map.1 (List.mem_filter.1 he).1
  simp [Offer.event, Event.offerOf]

theorem offers_eq_nil {b : Fin n} {es : List (Event n)} (hes : posts b es = []) :
    offers b es = [] := by
  rw [← offers_posts, hes]
  rfl

/-- A flush into such a channel offers all frames. -/
theorem Shipment.flush_accepted (channel : Channel) {refusal : Nat → Option BridgeError}
    (hrefusal : ∀ k, refusal k = none) (total : Nat) (frames : List String) :
    ∀ k, (Shipment.flush b channel refusal total k frames).2 = .ok () ∧
      (Shipment.flush b channel refusal total k frames).1.outbound
        = .opened channel (k + frames.length) ∧
      (Shipment.flush b channel refusal total k frames).1.events
        = (frames.map channel.taking).map (Offer.event b) := by
  induction frames with
  | nil => exact fun k => ⟨rfl, rfl, rfl⟩
  | cons frame rest ih =>
      intro k
      obtain ⟨hresult, hout, hevents⟩ := ih (k + 1)
      simp only [Shipment.flush, hrefusal, Shipment.followedBy]
      refine ⟨hresult, ?_, ?_⟩
      · rw [hout, List.length_cons]
        congr 1
        omega
      · rw [hevents]
        rfl

theorem Outbound.opening_accepted (channel : Channel) {refusal : Nat → Option BridgeError}
    (hrefusal : ∀ k, refusal k = none) (buffer : List String) :
    ((Outbound.connecting buffer).opening b channel refusal).2 = .ok () ∧
      ((Outbound.connecting buffer).opening b channel refusal).1.outbound
        = .opened channel buffer.length ∧
      offers b ((Outbound.connecting buffer).opening b channel refusal).1.events
        = buffer.map channel.taking ∧
      unoffered b ((Outbound.connecting buffer).opening b channel refusal).1.events = [] := by
  obtain ⟨hresult, hout, hevents⟩ :=
    Shipment.flush_accepted b channel hrefusal buffer.length buffer 0
  simp only [Outbound.opening, Shipment.followedBy, hresult, hout, hevents, Nat.zero_add]
  refine ⟨trivial, trivial, ?_, ?_⟩
  · rw [offers_append, offers_map_event]
    rfl
  · rw [unoffered_append, unoffered_map_event]
    rfl

end Accepted

/-! ## One opening ahead -/

/-- `b` is open on the right host and buffers on the left one, and what it buffers there has been
offered here. -/
structure Ahead (b : Fin n) (channel : Channel) (buffer : List String) (h k : Host n) : Prop where
  left : (h.bridge b).outbound = .connecting buffer
  right : (k.bridge b).outbound = .opened channel buffer.length
  others : ∀ d, d ≠ b → (k.bridge d).outbound = (h.bridge d).outbound
  ends : Host.SameEnds h k
  accepts : h.Accepts channel
  offers : offers b k.trace = offers b h.trace ++ buffer.map channel.taking
  trace : unoffered b k.trace = unoffered b h.trace

namespace Ahead

variable {b : Fin n} {channel : Channel} {buffer : List String} {h k : Host n}

theorem emit (hhk : Ahead b channel buffer h k) {e : Event n} (he : e.offerOf b = none) :
    Ahead b channel buffer (h.emit e) (k.emit e) :=
  { hhk with
    offers := by
      have hnone : CallBridge.offers b [e] = [] := by simp [CallBridge.offers, he]
      simp only [Host.trace_emit, offers_append, hnone, List.append_nil, hhk.offers]
    trace := by simp only [Host.trace_emit, unoffered_append, hhk.trace] }

theorem update (hhk : Ahead b channel buffer h k) {d : Fin n} {f : Bridge n → Bridge n}
    (hf : ∀ x, (f x).outbound = x.outbound) :
    Ahead b channel buffer (h.update d f) (k.update d f) :=
  { hhk with
    left := (h.field_update d b f Bridge.outbound hf).trans hhk.left
    right := (k.field_update d b f Bridge.outbound hf).trans hhk.right
    others := by
      intro c hc
      rw [k.field_update d c f Bridge.outbound hf, h.field_update d c f Bridge.outbound hf]
      exact hhk.others c hc }

/-- Other bridges send the same on both hosts. -/
theorem ship_of_ne (hhk : Ahead b channel buffer h k) {d : Fin n} (hd : d ≠ b) {x : Shipment n}
    (hx : posts b x.events = []) : Ahead b channel buffer (h.ship d x) (k.ship d x) where
  left := by rw [Host.outbound_ship, if_neg hd.symm, hhk.left]
  right := by rw [Host.outbound_ship, if_neg hd.symm, hhk.right]
  others c hc := by rw [Host.outbound_ship, Host.outbound_ship, hhk.others c hc]
  ends := hhk.ends.ship d x
  accepts := by
    intro j
    rw [Host.refusal_ship]
    exact hhk.accepts j
  offers := by
    simp only [Host.trace_ship, offers_append, offers_eq_nil hx, List.append_nil, hhk.offers]
  trace := by simp only [Host.trace_ship, unoffered_append, hhk.trace]

/-- A frame goes into the buffer on the left, and to the channel on the right. -/
theorem ship_frame (hhk : Ahead b channel buffer h k) (frame : String) :
    Ahead b channel (buffer ++ [frame])
      (h.ship b ((Outbound.connecting buffer).sending b h.refusal frame).1)
      (k.ship b ((Outbound.opened channel buffer.length).sending b h.refusal frame).1) where
  left := by
    rw [Host.outbound_ship, if_pos rfl]
    rfl
  right := by
    rw [Host.outbound_ship, if_pos rfl, List.length_append]
    rfl
  others d hd := by
    rw [Host.outbound_ship, Host.outbound_ship, if_neg hd, if_neg hd, hhk.others d hd]
  ends i := by
    rw [Host.sameEnds_ship k b _ i, Host.sameEnds_ship h b _ i, hhk.ends i]
  accepts := by
    intro j
    rw [Host.refusal_ship]
    exact hhk.accepts j
  offers := by
    have haccepted := hhk.accepts buffer.length
    simp only [Host.trace_ship, offers_append, hhk.offers]
    simp [Outbound.sending, Shipment.followedBy, Shipment.offer, haccepted, CallBridge.offers,
      List.filterMap_cons, Event.offerOf, Channel.taking]
  trace := by
    simp only [Host.trace_ship, unoffered_append, hhk.trace]
    simp [Outbound.sending, Shipment.followedBy, Shipment.offer, unoffered, unlogged,
      Event.isRecord, Event.offerOf]

theorem transmit (hhk : Ahead b channel buffer h k) (d : Fin n) (frame : String) :
    (∃ buffer', Ahead b channel buffer' (h.transmit d frame).1 (k.transmit d frame).1) ∧
      (k.transmit d frame).2 = (h.transmit d frame).2 := by
  rw [Host.transmit_eq, Host.transmit_eq, hhk.ends.refusal]
  -- Only the frames of `b` take different ways.
  by_cases hd : d = b
  · subst hd
    rw [hhk.left, hhk.right]
    refine ⟨⟨_, hhk.ship_frame frame⟩, ?_⟩
    simp only [Outbound.sending, hhk.accepts _]
    rfl
  · rw [hhk.others d hd]
    exact ⟨⟨buffer, hhk.ship_of_ne hd (Outbound.posts_sending_of_ne hd _ _ _)⟩, rfl⟩

/-- Another bridge is opened. -/
theorem openWith_of_ne (hhk : Ahead b channel buffer h k) {d : Fin n} (hd : d ≠ b)
    (other : Channel) :
    Ahead b channel buffer (h.openWith d other).1 (k.openWith d other).1 ∧
      (k.openWith d other).2 = (h.openWith d other).2 := by
  rw [Host.openWith_eq, Host.openWith_eq, hhk.ends.refusal, hhk.others d hd]
  exact ⟨hhk.ship_of_ne hd (Outbound.posts_opening_of_ne hd _ _ _), rfl⟩

end Ahead

/-! ## The two pairings -/

theorem Event.Spares.offerOf_eq {aside : Fin n → CallId → Bool} {e : Event n}
    (he : e.Spares aside) (b : Fin n) : e.offerOf b = none := by
  cases e with
  | produced | offered => exact he.elim
  | called | issued | bound | dropped | expired | invoked | returned | delivered | noted
  | logged => rfl

namespace Host

variable {b : Fin n} {channel : Channel} {h k start : Host n}

/-- While `b` is open on the right host only. -/
def beforeOpening (start : Host n) (b : Fin n) (channel : Channel) : Pairing n where
  aside _ _ := false
  left := start
  right := start
  kind := Proc.Modest b
  ok _ _ := True
  wires h k := ∃ buffer, Ahead b channel buffer h k

/-- The traces tell the same but for log records, and for when frames of `b` were offered. -/
def SameTale (b : Fin n) (left right : List (Event n)) : Prop :=
  offers b right = offers b left ∧ unoffered b right = unoffered b left

/-- When `b` is open on both hosts. -/
def afterOpening (start : Host n) (b : Fin n) : Pairing n where
  aside _ _ := false
  left := start
  right := start
  kind := Proc.Modest b
  ok _ _ := True
  wires := Wired False (SameTale b)

theorem lawful_beforeOpening (start : Host n) (b : Fin n) (channel : Channel) :
    (start.beforeOpening b channel).Lawful where
  emit := by
    rintro h k e ⟨buffer, hhk⟩ he
    exact ⟨buffer, hhk.emit (he.offerOf_eq b)⟩
  update := by
    rintro h k d f ⟨buffer, hhk⟩ hf
    exact ⟨buffer, hhk.update hf⟩
  transmit := by
    rintro h k d frame ⟨buffer, hhk⟩
    exact hhk.transmit d frame
  openWith := by
    rintro h k d other next ⟨buffer, hhk⟩ hkind
    obtain ⟨hahead, hresult⟩ := hhk.openWith_of_ne hkind other
    exact ⟨⟨buffer, hahead⟩, hresult⟩
  status := by
    intro h k d next hh hkind _
    obtain ⟨buffer, hahead⟩ := hh.wires
    have hbridge := (hh.beside d).eq_of_none fun _ => rfl
    by_cases hd : d = b
    · refine hkind hd _ _ ?_
      rw [hbridge]
      rfl
    · rw [hahead.others d hd] at hbridge
      rw [hbridge]
  leaves := fun _ => Proc.leaves_of_none _ _

theorem lawful_afterOpening (start : Host n) (b : Fin n) : (start.afterOpening b).Lawful := by
  refine Pairing.lawful_of_wired rfl ?_ ?_ fun _ => Proc.leaves_of_none _ _
  · rintro left right e ⟨hoffers, hrest⟩ _
    refine ⟨?_, ?_⟩
    · rw [offers_append, offers_append, hoffers]
    · rw [unoffered_append, unoffered_append, hrest]
  · intro h k d next hh _ _
    have hbridge := (hh.beside d).eq_of_none fun _ => rfl
    rw [hh.wires.outbound d] at hbridge
    rw [hbridge]

/-- A host that has just been opened is ahead of what it was before. -/
theorem abreast_openWith (hcode : h.Holds (Proc.Modest b)) {buffer : List String}
    (hout : (h.bridge b).outbound = .connecting buffer) (haccepts : h.Accepts channel) :
    (h.openWith b channel).2 = .ok () ∧
      (start.beforeOpening b channel).Abreast h (h.openWith b channel).1 := by
  obtain ⟨hresult, hopened, hoffers, hrest⟩ :=
    Outbound.opening_accepted b channel haccepts buffer
  rw [openWith_eq, hout]
  refine ⟨hresult, fun d => ?_, buffer, ?_⟩
  · refine .of_eq (fun _ => rfl) ?_ (hcode.functions d) (hcode.callbacks d)
    rw [bridge_ship]
    split
    · next hd => rw [hd]
    · rfl
  · exact
      { left := hout
        right := by rw [outbound_ship, if_pos rfl, hopened]
        others := fun d hd => by rw [outbound_ship, if_neg hd]
        ends := h.sameEnds_ship b _
        accepts := haccepts
        offers := by rw [trace_ship, offers_append, hoffers]
        trace := by rw [trace_ship, unoffered_append, hrest, List.append_nil] }

/-- When the left host is opened as well, the two are the same to the outside. -/
theorem openWith_abreast (hh : (start.beforeOpening b channel).Abreast h k) :
    (h.openWith b channel).2 = .ok () ∧
      (start.afterOpening b).Abreast (h.openWith b channel).1 k := by
  obtain ⟨buffer, hahead⟩ := hh.wires
  obtain ⟨hresult, hopened, hoffers, hrest⟩ :=
    Outbound.opening_accepted b channel hahead.accepts buffer
  rw [openWith_eq, hahead.left]
  refine ⟨hresult, fun d => ?_, ?_⟩
  · rw [bridge_ship]
    split
    · next hd =>
        subst hd
        exact (hh.beside d).outbound _ (k.bridge d).outbound
    · exact hh.beside d
  · exact
      { outbound := by
          intro d
          rw [outbound_ship]
          split
          · next hd => rw [hd, hahead.right, hopened]
          · next hd => exact hahead.others d hd
        ends := by
          intro i
          rw [hahead.ends i, h.sameEnds_ship b _ i]
        lines := False.elim
        trace := by
          refine ⟨?_, ?_⟩
          · rw [trace_ship, offers_append, hoffers, hahead.offers]
          · rw [trace_ship, unoffered_append, hrest, List.append_nil, hahead.trace] }

end Host

end CallBridge
