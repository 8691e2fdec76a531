import CallBridge.Proofs.Bridge.Shipment
import CallBridge.Proofs.Bridge.Turn

/-!
# The post of a bridge

The post of a bridge is what the trace says of its frames: that one was produced, and that one was
offered to a channel. While a bridge connects, its buffer holds what it has produced. A flush offers
the buffer up to the first refusal (`Flushed`), and from then on each frame is offered as soon as it
is produced (`OpenedBy`). One turn keeps this (`Turn.posting`).
-/

namespace CallBridge

variable {n : Nat}

/-! ## Frames in the trace -/

/-- A frame offered to a channel, and how the channel took it. -/
structure Offer where
  carrier : Carrier
  frame : String
  refusal : Option BridgeError
deriving DecidableEq

def Offer.event (b : Fin n) (o : Offer) : Event n := .offered b o.carrier o.frame o.refusal

section Lists

variable (b : Fin n)

def Event.isPost : Event n → Bool
  | .produced c _ => c = b
  | .offered c _ _ _ => c = b
  | _ => false

def Event.frameOf : Event n → Option String
  | .produced c frame => if c = b then some frame else none
  | _ => none

def Event.offerOf : Event n → Option Offer
  | .offered c carrier frame refusal => if c = b then some ⟨carrier, frame, refusal⟩ else none
  | _ => none

/-- Everything that is recorded about frames of `b`. -/
def posts (es : List (Event n)) : List (Event n) := es.filter (Event.isPost b)

/-- The frames that `b` has produced. -/
def produced (es : List (Event n)) : List String := es.filterMap (Event.frameOf b)

/-- What `b` has offered to channels. -/
def offers (es : List (Event n)) : List Offer := es.filterMap (Event.offerOf b)

/-- A frame is produced and at once offered. -/
def Offer.whenProduced (o : Offer) : List (Event n) := [.produced b o.frame, o.event b]

variable (es es' : List (Event n))

theorem posts_append : posts b (es ++ es') = posts b es ++ posts b es' := List.filter_append ..

theorem produced_append : produced b (es ++ es') = produced b es ++ produced b es' :=
  List.filterMap_append

theorem offers_append : offers b (es ++ es') = offers b es ++ offers b es' :=
  List.filterMap_append

theorem produced_posts : produced b (posts b es) = produced b es := by
  simp only [produced, posts, List.filterMap_filter]
  refine List.filterMap_congr fun e _ => ?_
  cases e <;> simp [Event.isPost, Event.frameOf]

theorem offers_posts : offers b (posts b es) = offers b es := by
  simp only [offers, posts, List.filterMap_filter]
  refine List.filterMap_congr fun e _ => ?_
  cases e <;> simp [Event.isPost, Event.offerOf]

theorem produced_map_produced (frames : List String) :
    produced b (frames.map (.produced b)) = frames := by
  simp [produced, List.filterMap_map, Function.comp_def, Event.frameOf]

theorem offers_map_produced (frames : List String) : offers b (frames.map (.produced b)) = [] := by
  simp [offers, List.filterMap_map, Function.comp_def, Event.offerOf]

theorem produced_map_event (os : List Offer) : produced b (os.map (Offer.event b)) = [] := by
  simp [produced, List.filterMap_map, Function.comp_def, Event.frameOf, Offer.event]

theorem offers_map_event (os : List Offer) : offers b (os.map (Offer.event b)) = os := by
  simp [offers, List.filterMap_map, Function.comp_def, Event.offerOf, Offer.event]

theorem produced_whenProduced (os : List Offer) :
    produced b (os.flatMap (Offer.whenProduced b)) = os.map Offer.frame := by
  induction os with
  | nil => rfl
  | cons o rest ih =>
      rw [List.flatMap_cons, produced_append, ih, List.map_cons]
      simp [produced, Offer.whenProduced, Offer.event, Event.frameOf]

theorem offers_whenProduced (os : List Offer) :
    offers b (os.flatMap (Offer.whenProduced b)) = os := by
  induction os with
  | nil => rfl
  | cons o rest ih =>
      rw [List.flatMap_cons, offers_append, ih]
      simp [offers, Offer.whenProduced, Offer.event, List.filterMap_cons, Event.offerOf]

end Lists

/-! ## Flushes -/

/-- A flush offers frames in order, up to and including the first refused one, and returns its
refusal. -/
inductive Flushed (carrier : Carrier) : List String → List Offer → Except BridgeError Unit → Prop
  | empty : Flushed carrier [] [] (.ok ())
  | accepted {frame rest os r} (hrest : Flushed carrier rest os r) :
      Flushed carrier (frame :: rest) (⟨carrier, frame, none⟩ :: os) r
  | refused (frame : String) (lost : List String) (e : BridgeError) :
      Flushed carrier (frame :: lost) [⟨carrier, frame, some e⟩] (.error e)

namespace Flushed

variable {carrier : Carrier} {frames : List String} {os : List Offer} {r : Except BridgeError Unit}

theorem carrier_eq (h : Flushed carrier frames os r) : ∀ o ∈ os, o.carrier = carrier := by
  induction h with
  | empty => simp
  | accepted _ ih => simpa using ih
  | refused => simp

/-- The frames that are not offered come last, and there are none if nothing is refused. -/
theorem lost (h : Flushed carrier frames os r) :
    ∃ lost, frames = os.map Offer.frame ++ lost ∧ (r = .ok () → lost = []) := by
  induction h with
  | empty => exact ⟨[], rfl, fun _ => rfl⟩
  | accepted _ ih =>
      obtain ⟨lost, rfl, hlost⟩ := ih
      exact ⟨lost, rfl, hlost⟩
  | refused frame lost e => exact ⟨lost, rfl, fun hok => by cases hok⟩

end Flushed

section Shipments

variable (b : Fin n)

theorem Shipment.flush_flushed (channel : Channel) (refusal : Nat → Option BridgeError)
    (total : Nat) (frames : List String) : ∀ k, ∃ os,
      Flushed channel.carrier frames os (Shipment.flush b channel refusal total k frames).2 ∧
      posts b (Shipment.flush b channel refusal total k frames).1.events
        = os.map (Offer.event b) ∧
      (Shipment.flush b channel refusal total k frames).1.outbound
        = .opened channel (k + os.length) := by
  induction frames with
  | nil => exact fun k => ⟨[], .empty, rfl, rfl⟩
  | cons frame rest ih =>
      intro k
      rw [Shipment.flush]
      cases refusal k with
      | some e =>
          refine ⟨_, .refused frame rest e, ?_, rfl⟩
          simp [Shipment.followedBy, Shipment.offer, posts, Event.isPost, Event.loss, Offer.event]
      | none =>
          obtain ⟨os, hflushed, hposts, hout⟩ := ih (k + 1)
          refine ⟨_, .accepted hflushed, ?_, ?_⟩
          · simp only [Shipment.followedBy, posts_append, hposts]
            simp [Shipment.offer, posts, Event.isPost, Offer.event]
          · simp only [Shipment.followedBy, hout, List.length_cons]
            congr 1
            omega

/-- What one bridge ships is no post of another. -/
theorem Shipment.posts_flush_of_ne {b c : Fin n} (hne : c ≠ b) (channel : Channel)
    (refusal : Nat → Option BridgeError) (total : Nat) (frames : List String) :
    ∀ k, posts b (Shipment.flush c channel refusal total k frames).1.events = [] := by
  induction frames with
  | nil => exact fun k => rfl
  | cons frame rest ih =>
      intro k
      rw [Shipment.flush]
      cases refusal k with
      | some e =>
          simp [Shipment.followedBy, Shipment.offer, posts, Event.isPost, Event.loss, hne]
      | none =>
          simp only [Shipment.followedBy, posts_append, ih]
          simp [Shipment.offer, posts, Event.isPost, hne]

theorem Outbound.posts_opening_of_ne {b c : Fin n} (hne : c ≠ b) (channel : Channel)
    (refusal : Nat → Option BridgeError) (o : Outbound) :
    posts b (o.opening c channel refusal).1.events = [] := by
  cases o with
  | opened held k => rfl
  | connecting buffer =>
      simp only [Outbound.opening, Shipment.followedBy, posts_append,
        Shipment.posts_flush_of_ne hne]
      rfl

theorem Outbound.posts_sending_of_ne {b c : Fin n} (hne : c ≠ b)
    (refusal : Channel → Nat → Option BridgeError) (frame : String) (o : Outbound) :
    posts b (o.sending c refusal frame).1.events = [] := by
  cases o <;>
    simp [Outbound.sending, Shipment.followedBy, Shipment.offer, posts, Event.isPost, hne]

end Shipments

/-! ## What a turn does -/

namespace Host

variable {h k l : Host n} {b : Fin n}

/-- The outbound side of `b` stays as it is, and nothing is recorded about its frames. -/
structure SamePost (b : Fin n) (h k : Host n) : Prop where
  outbound : (k.bridge b).outbound = (h.bridge b).outbound
  posts : posts b k.trace = posts b h.trace

theorem SamePost.refl (b : Fin n) (h : Host n) : SamePost b h h := ⟨rfl, rfl⟩

theorem SamePost.trans (hhk : SamePost b h k) (hkl : SamePost b k l) : SamePost b h l :=
  ⟨hkl.outbound.trans hhk.outbound, hkl.posts.trans hhk.posts⟩

theorem samePost_emit (h : Host n) {e : Event n} (he : e.isPost b = false) :
    SamePost b h (h.emit e) := by
  refine ⟨rfl, ?_⟩
  rw [trace_emit, posts_append]
  simp [CallBridge.posts, he]

theorem samePost_update (h : Host n) (b d : Fin n) {f : Bridge n → Bridge n}
    (hf : ∀ x, (f x).outbound = x.outbound) : SamePost b h (h.update d f) :=
  ⟨h.field_update d b f Bridge.outbound hf, rfl⟩

theorem samePost_ship_of_ne (h : Host n) {d : Fin n} (hne : d ≠ b) {x : Shipment n}
    (hposts : CallBridge.posts b x.events = []) : SamePost b h (h.ship d x) := by
  refine ⟨?_, ?_⟩
  · rw [outbound_ship, if_neg hne.symm]
  · rw [trace_ship, posts_append, hposts, List.append_nil]

theorem samePost_register (h : Host n) (b d : Fin n) (id : CallId) :
    SamePost b h (h.register d id) := by
  have hupdate : SamePost b h (h.update d fun x => x.enlist id .waiting) :=
    h.samePost_update b d fun _ => rfl
  simp only [register]
  split
  · exact hupdate.trans (samePost_emit _ rfl)
  · exact hupdate

theorem samePost_prepared (h : Host n) (b d : Fin n) (name : String) (args : List Json) :
    SamePost b h (h.prepared d name args) := by
  have htoken : SamePost b h (h.update d fun x => { x with tokens := x.tokens.advance }) :=
    h.samePost_update b d fun _ => rfl
  exact ((htoken.trans (samePost_emit _ rfl)).trans (samePost_register _ b d _)).trans
    (samePost_emit _ rfl)

theorem samePost_release (h : Host n) (b d : Fin n) (id : CallId) :
    SamePost b h (h.release d id).1 := by
  have hcancel : SamePost b h (h.cancel d id).1 :=
    h.samePost_update b d (f := fun x => x.unlist id) fun _ => rfl
  exact hcancel.trans (samePost_update _ b d (f := fun x => x.takeAside id) fun _ => rfl)

/-- What happens to the frames of `b` when it is not opened: nothing, or one frame is produced, and
is buffered or offered at once. -/
inductive Posting (b : Fin n) (h k : Host n) : Prop
  | still (hsame : SamePost b h k)
  | buffered {buffer} (frame : String) (hout : (h.bridge b).outbound = .connecting buffer)
      (hout' : (k.bridge b).outbound = .connecting (buffer ++ [frame]))
      (hposts : CallBridge.posts b k.trace = CallBridge.posts b h.trace ++ [.produced b frame])
  | offered {channel m} (o : Offer) (hcarrier : o.carrier = channel.carrier)
      (hout : (h.bridge b).outbound = .opened channel m)
      (hout' : (k.bridge b).outbound = .opened channel (m + 1))
      (hposts : CallBridge.posts b k.trace = CallBridge.posts b h.trace ++ o.whenProduced b)

theorem SamePost.posting (hhk : SamePost b h k) (hkl : Posting b k l) : Posting b h l := by
  cases hkl with
  | still hsame => exact .still (hhk.trans hsame)
  | buffered frame hout hout' hposts =>
      exact .buffered frame (hhk.outbound.symm.trans hout) hout' (by rw [hposts, hhk.posts])
  | offered o hcarrier hout hout' hposts =>
      exact .offered o hcarrier (hhk.outbound.symm.trans hout) hout' (by rw [hposts, hhk.posts])

theorem Posting.samePost (hhk : Posting b h k) (hkl : SamePost b k l) : Posting b h l := by
  cases hhk with
  | still hsame => exact .still (hsame.trans hkl)
  | buffered frame hout hout' hposts =>
      exact .buffered frame hout (hkl.outbound.trans hout') (hkl.posts.trans hposts)
  | offered o hcarrier hout hout' hposts =>
      exact .offered o hcarrier hout (hkl.outbound.trans hout') (hkl.posts.trans hposts)

theorem posting_transmit (h : Host n) (b d : Fin n) (frame : String) :
    Posting b h (h.transmit d frame).1 := by
  rw [transmit_eq]
  by_cases hd : d = b
  · subst hd
    cases hout : (h.bridge d).outbound with
    | connecting buffer =>
        refine .buffered frame hout ?_ ?_
        · rw [outbound_ship, if_pos rfl]
          rfl
        · rw [trace_ship, posts_append]
          simp [Outbound.sending, CallBridge.posts, Event.isPost]
    | opened channel m =>
        refine .offered ⟨channel.carrier, frame, h.refusal channel m⟩ rfl hout ?_ ?_
        · rw [outbound_ship, if_pos rfl]
          rfl
        · rw [trace_ship, posts_append]
          simp [Outbound.sending, Shipment.followedBy, Shipment.offer, CallBridge.posts,
            Event.isPost, Offer.whenProduced, Offer.event]
  · exact .still (h.samePost_ship_of_ne hd (Outbound.posts_sending_of_ne hd _ _ _))

theorem posting_call (h : Host n) (b d : Fin n) (name : String) (args : List Json) :
    Posting b h (h.call d name args).1 := by
  have hsent := (h.samePost_prepared b d name args).posting
    (posting_transmit _ b d (h.callFrame d name args))
  rw [call_eq]
  split <;> rename_i heq <;> rw [heq] at hsent
  · exact hsent.samePost (samePost_emit _ rfl)
  · exact hsent.samePost (samePost_update _ b d (f := fun x => x.unlist _) fun _ => rfl)

/-- An open bridge is not opened again. -/
theorem openWith_opened {channel : Channel} {m : Nat}
    (hout : (h.bridge b).outbound = .opened channel m) (other : Channel) :
    h.openWith b other = (h, .error (.invalidState "Connecting" "Open")) := by
  rw [openWith, hout]
  rfl

end Host

open Host in
theorem Quiet.posting {h k : Host n} (hquiet : Quiet h k) (b : Fin n) :
    Posting b h k ∨
      ∃ channel buffer,
        (h.bridge b).outbound = .connecting buffer ∧ k = (h.openWith b channel).1 := by
  cases hquiet with
  | remarked e he =>
      have hpost : e.isPost b = false := by cases e <;> first | rfl | exact he.elim
      exact .inl (.still (h.samePost_emit hpost))
  | invoked d c => exact .inl (.still (h.samePost_emit rfl))
  | rewired lines => exact .inl (.still ⟨rfl, rfl⟩)
  | exposed d name f =>
      have hupdate : SamePost b h (h.update d fun x => x.expose name f) :=
        h.samePost_update b d fun _ => rfl
      exact .inl (.still (hupdate.trans (samePost_emit _ rfl)))
  | sent d frame => exact .inl (h.posting_transmit b d frame)
  | opened d channel =>
      by_cases hd : d = b
      · subst hd
        cases hout : (h.bridge d).outbound with
        | connecting buffer => exact .inr ⟨channel, buffer, rfl, rfl⟩
        | opened held m =>
            rw [openWith_opened hout]
            exact .inl (.still (.refl d h))
      · rw [openWith_eq]
        exact .inl (.still (h.samePost_ship_of_ne hd (Outbound.posts_opening_of_ne hd _ _ _)))

open Host in
/-- A turn produces at most one frame of `b`, or opens it. -/
theorem Turn.posting {a a' : Host n × Custody n} (hturn : Turn a a') (b : Fin n) :
    Posting b a.1 a'.1 ∨ ∃ channel buffer, (a.1.bridge b).outbound = .connecting buffer ∧
      a' = ((a.1.openWith b channel).1, a.2) := by
  cases hturn with
  | quiet hquiet =>
      rcases hquiet.posting b with hposting | ⟨channel, buffer, hout, rfl⟩
      · exact .inl hposting
      · exact .inr ⟨channel, buffer, hout, rfl⟩
  | @refused h h' m d name args e hcall =>
      have hposting := h.posting_call b d name args
      rw [hcall] at hposting
      exact .inl hposting
  | @called h h' m d name args id hcall =>
      have hposting := h.posting_call b d name args
      rw [hcall] at hposting
      exact .inl hposting
  | @bound h m d id c hpending =>
      have hupdate : SamePost b h (h.update d fun x => { x with
          pending := x.pending.map fun p => if p.1 = id then (id, .callback c) else p }) :=
        h.samePost_update b d fun _ => rfl
      exact .inl (.still (hupdate.trans (samePost_emit _ rfl)))
  | @boundLate h m d id o c hpending harrived =>
      have hbound : SamePost b h (h.emit (.bound d id c)) := h.samePost_emit rfl
      have htaken :=
        hbound.trans (samePost_update _ b d (f := fun x => x.takeAside id) fun _ => rfl)
      exact .inl (.still (htaken.trans (samePost_emit _ rfl)))
  | @boundLost h m d id c hpending harrived => exact .inl (.still (h.samePost_emit rfl))
  | @dropped h m d id =>
      have hdropped : SamePost b h (h.emit (.dropped d id)) := h.samePost_emit rfl
      exact .inl (.still (hdropped.trans (samePost_release _ b d id)))
  | @expired h m d id harrived =>
      have hexpired : SamePost b h (h.emit (.expired d id)) := h.samePost_emit rfl
      exact .inl (.still (hexpired.trans (samePost_release _ b d id)))
  | @taken h m d id o harrived =>
      have htaken : SamePost b h (h.update d fun x => x.takeAside id) :=
        h.samePost_update b d fun _ => rfl
      exact .inl (.still (htaken.trans (samePost_emit _ rfl)))
  | @unmatched h m d r hpending => exact .inl (.still (h.samePost_emit rfl))
  | @parked h m d r hpending =>
      have hreturned : SamePost b h (h.emit (.returned d r)) := h.samePost_emit rfl
      have hparked := hreturned.trans (samePost_update _ b d
        (f := fun x => (x.unlist r.id).putAside r.id r.outcome) fun _ => rfl)
      exact .inl (.still hparked)
  | @fired h m d r c hpending =>
      have hreturned : SamePost b h (h.emit (.returned d r)) := h.samePost_emit rfl
      have hstruck := hreturned.trans
        (samePost_update _ b d (f := fun x => x.unlist r.id) fun _ => rfl)
      exact .inl (.still (hstruck.trans (samePost_emit _ rfl)))

/-! ## Before and after opening -/

section Phases

variable {h k : Host n} {b : Fin n}

/-- The buffer of `b` holds all that it has produced, and nothing has been offered. -/
structure Buffers (b : Fin n) (h : Host n) : Prop where
  outbound : (h.bridge b).outbound = .connecting (produced b h.trace)
  posts : posts b h.trace = (produced b h.trace).map (.produced b)

theorem Buffers.offers_eq (hbuffers : Buffers b h) : offers b h.trace = [] := by
  rw [← offers_posts, hbuffers.posts, offers_map_produced]

/-- `b` was opened with `channel` when the host was `first`. The frames that it had produced by then
were flushed, and those that came later were offered as they came. -/
structure OpenedBy (b : Fin n) (first : Host n) (channel : Channel) (flushed later : List Offer)
    (k : Host n) : Prop where
  buffer : (first.bridge b).outbound = .connecting (produced b first.trace)
  flush : Flushed channel.carrier (produced b first.trace) flushed (first.openWith b channel).2
  carrier : ∀ o ∈ later, o.carrier = channel.carrier
  outbound : (k.bridge b).outbound = .opened channel (flushed.length + later.length)
  posts : posts b k.trace = (produced b first.trace).map (.produced b)
    ++ flushed.map (Offer.event b) ++ later.flatMap (Offer.whenProduced b)

theorem Buffers.posting (hbuffers : Buffers b h) (hposting : Host.Posting b h k) :
    Buffers b k := by
  cases hposting with
  | still hsame =>
      have hframes : produced b k.trace = produced b h.trace := by
        rw [← produced_posts, hsame.posts, produced_posts]
      exact ⟨by rw [hsame.outbound, hframes, hbuffers.outbound],
        by rw [hsame.posts, hframes, hbuffers.posts]⟩
  | buffered frame hout hout' hposts =>
      have hframes : produced b k.trace = produced b h.trace ++ [frame] := by
        rw [← produced_posts, hposts, produced_append, produced_posts]
        exact congrArg _ (produced_map_produced b [frame])
      obtain rfl := Outbound.connecting.inj (hout.symm.trans hbuffers.outbound)
      exact ⟨by rw [hout', hframes], by rw [hposts, hframes, hbuffers.posts, List.map_append]; rfl⟩
  | offered o hcarrier hout hout' hposts => cases hout.symm.trans hbuffers.outbound

/-- What opening adds to the post: the offers of the flush. -/
theorem Buffers.openWith (hbuffers : Buffers b h) (channel : Channel) :
    ∃ flushed es, Flushed channel.carrier (produced b h.trace) flushed (h.openWith b channel).2 ∧
      (h.openWith b channel).1.trace = h.trace ++ es ∧
      CallBridge.posts b es = flushed.map (Offer.event b) ∧
      ((h.openWith b channel).1.bridge b).outbound = .opened channel flushed.length := by
  rw [Host.openWith_eq, hbuffers.outbound]
  obtain ⟨flushed, hflushed, hposts, hout⟩ := Shipment.flush_flushed b channel
    (h.refusal channel) (produced b h.trace).length (produced b h.trace) 0
  refine ⟨flushed, _, hflushed, rfl, ?_, ?_⟩
  · simp only [Outbound.opening, Shipment.followedBy, posts_append, hposts]
    rfl
  · rw [Host.outbound_ship, if_pos rfl, ← Nat.zero_add flushed.length]
    exact hout

theorem Buffers.openedBy (hbuffers : Buffers b h) (channel : Channel) :
    ∃ flushed, OpenedBy b h channel flushed [] (h.openWith b channel).1 := by
  obtain ⟨flushed, es, hflushed, htrace, hposts, hout⟩ := hbuffers.openWith channel
  refine ⟨flushed, hbuffers.outbound, hflushed, by simp, hout, ?_⟩
  rw [htrace, posts_append, hposts, hbuffers.posts]
  simp

variable {first : Host n} {channel : Channel} {flushed later : List Offer}

theorem OpenedBy.posting (hopened : OpenedBy b first channel flushed later h)
    (hposting : Host.Posting b h k) : ∃ later', OpenedBy b first channel flushed later' k := by
  cases hposting with
  | still hsame =>
      exact ⟨later, hopened.buffer, hopened.flush, hopened.carrier,
        hsame.outbound.trans hopened.outbound, hsame.posts.trans hopened.posts⟩
  | buffered frame hout hout' hposts => cases hout.symm.trans hopened.outbound
  | offered o hcarrier hout hout' hposts =>
      obtain ⟨rfl, rfl⟩ := Outbound.opened.inj (hout.symm.trans hopened.outbound)
      refine ⟨later ++ [o], hopened.buffer, hopened.flush, ?_, ?_, ?_⟩
      · intro o' ho'
        rcases List.mem_append.1 ho' with hmem | hmem
        · exact hopened.carrier o' hmem
        · rw [List.mem_singleton.1 hmem]
          exact hcarrier
      · rw [hout', List.length_append, List.length_singleton, Nat.add_assoc]
      · rw [hposts, hopened.posts, List.flatMap_append, List.flatMap_singleton]
        simp only [List.append_assoc]

theorem OpenedBy.produced_eq (hopened : OpenedBy b first channel flushed later k) :
    produced b k.trace = produced b first.trace ++ later.map Offer.frame := by
  rw [← produced_posts, hopened.posts, produced_append, produced_append, produced_map_produced,
    produced_map_event, produced_whenProduced, List.append_nil]

theorem OpenedBy.offers_eq (hopened : OpenedBy b first channel flushed later k) :
    offers b k.trace = flushed ++ later := by
  rw [← offers_posts, hopened.posts, offers_append, offers_append, offers_map_produced,
    offers_map_event, offers_whenProduced, List.nil_append]

theorem OpenedBy.carrier_eq (hopened : OpenedBy b first channel flushed later k) :
    ∀ o ∈ offers b k.trace, o.carrier = channel.carrier := by
  intro o ho
  rw [hopened.offers_eq] at ho
  rcases List.mem_append.1 ho with hmem | hmem
  · exact hopened.flush.carrier_eq o hmem
  · exact hopened.carrier o hmem

end Phases

/-- An open bridge keeps its channel. -/
theorem Turn.keeps_channel {a a' : Host n × Custody n} (hturn : Turn a a') {b : Fin n}
    {channel : Channel} (hopen : ∃ m, (a.1.bridge b).outbound = .opened channel m) :
    ∃ m, (a'.1.bridge b).outbound = .opened channel m := by
  obtain ⟨m, hout⟩ := hopen
  rcases hturn.posting b with hposting | ⟨other, buffer, hconnecting, -⟩
  · cases hposting with
    | still hsame => exact ⟨m, hsame.outbound.trans hout⟩
    | buffered frame hconnecting _ _ => cases hconnecting.symm.trans hout
    | offered o hcarrier hold hout' _ =>
        obtain ⟨rfl, rfl⟩ := Outbound.opened.inj (hold.symm.trans hout)
        exact ⟨_, hout'⟩
  · cases hconnecting.symm.trans hout

end CallBridge
