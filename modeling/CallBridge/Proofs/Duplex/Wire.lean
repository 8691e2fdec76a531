import CallBridge.Proofs.Bridge.Host
import CallBridge.Session.Basic
import Mathlib.Data.Fin.Basic

/-!
# Two bridges joined by lines

Each of two bridges sends into a line of its own that keeps all frames, and once it is open it sends
nowhere else. What is underway from a bridge is in its line or still in its buffer. `Adds` says what
an operation sends and what it puts on record; nothing else about the wires can change.
-/

namespace CallBridge

/-- The other of two bridges. -/
def other (b : Fin 2) : Fin 2 := 1 - b

@[simp] theorem other_other (b : Fin 2) : other (other b) = b := by revert b; decide

theorem other_ne (b : Fin 2) : other b ≠ b := by revert b; decide

theorem eq_or_eq_other (b c : Fin 2) : c = b ∨ c = other b := by revert b c; decide

/-- Says that a call is made, a function runs or a return is handled. -/
def Event.isNews {n : Nat} : Event n → Bool
  | .called _ _ _ _ => true
  | .invoked _ _ => true
  | .returned _ _ => true
  | _ => false

namespace Host

/-! ## Lines -/

section Lines

variable {n : Nat} (h : Host n)

theorem lt_of_receiving {i : Nat} (hi : (h.line i).receiving = true) : i < h.lines.length := by
  by_contra hlt
  have hnone : h.lines[i]? = none := List.getElem?_eq_none (Nat.le_of_not_lt hlt)
  rw [line, List.getD_eq_getElem?_getD, hnone] at hi
  cases hi

theorem line_updateLine {i : Nat} (hi : i < h.lines.length) (f : Line → Line) (j : Nat) :
    (h.updateLine i f).line j = if j = i then f (h.line i) else h.line j := by
  simp only [line, updateLine, List.getD_eq_getElem?_getD, List.getElem?_modify]
  by_cases hj : j = i
  · subst hj
    simp [List.getElem?_eq_getElem hi]
  · have hne : ¬ i = j := fun heq => hj heq.symm
    simp [hj, hne]

end Lines

variable {h h' : Host 2} {b c : Fin 2}

/-- The frames on their way from `b`, oldest first. -/
def underway (h : Host 2) (b : Fin 2) : List String :=
  (h.line b).queue ++ (h.bridge b).outbound.buffer

/-- Each bridge is connecting, or sends into its own line. -/
structure Joined (h : Host 2) : Prop where
  receiving : ∀ b : Fin 2, (h.line b).receiving = true
  outbound : ∀ b, (∃ buffer, (h.bridge b).outbound = .connecting buffer) ∨
    ∃ k, (h.bridge b).outbound = .opened (Session.openLine b) k

/-- From `h` to `h'` the frames set out from `b`, and the news is all that is on record of calls
made, functions run and returns handled. -/
structure Adds (h h' : Host 2) (b : Fin 2) (frames : List String) (news : List (Event 2)) :
    Prop where
  joined : h'.Joined
  underway : ∀ c, h'.underway c = h.underway c ++ if c = b then frames else []
  config : ∀ c, (h'.bridge c).config = (h.bridge c).config
  registry : ∀ c, (h'.bridge c).registry = (h.bridge c).registry
  trace : ∃ es : List (Event 2), h'.trace = h.trace ++ es ∧ es.filter Event.isNews = news

theorem Adds.trans {h₁ h₂ h₃ : Host 2} {frames frames' : List String}
    {news news' : List (Event 2)} (h₁₂ : Adds h₁ h₂ b frames news)
    (h₂₃ : Adds h₂ h₃ b frames' news') : Adds h₁ h₃ b (frames ++ frames') (news ++ news') where
  joined := h₂₃.joined
  underway c := by
    rw [h₂₃.underway, h₁₂.underway, List.append_assoc]
    split <;> rfl
  config c := (h₂₃.config c).trans (h₁₂.config c)
  registry c := (h₂₃.registry c).trans (h₁₂.registry c)
  trace := by
    obtain ⟨es, htrace, hnews⟩ := h₁₂.trace
    obtain ⟨es', htrace', hnews'⟩ := h₂₃.trace
    refine ⟨es ++ es', ?_, ?_⟩
    · rw [htrace', htrace, List.append_assoc]
    · rw [List.filter_append, hnews, hnews']

/-- What neither sends nor is news. -/
abbrev Still (h h' : Host 2) : Prop := ∀ b, Adds h h' b [] []

theorem Adds.still {frames : List String} {news : List (Event 2)} {h'' : Host 2}
    (hadds : Adds h h' b frames news) (hstill : Still h' h'') : Adds h h'' b frames news := by
  simpa using hadds.trans (hstill b)

theorem Still.adds {frames : List String} {news : List (Event 2)} {h'' : Host 2}
    (hstill : Still h h') (hadds : Adds h' h'' b frames news) : Adds h h'' b frames news := by
  simpa using (hstill b).trans hadds

theorem Still.trans {h'' : Host 2} (hstill : Still h h') (hstill' : Still h' h'') :
    Still h h'' :=
  fun b => (hstill b).still hstill'

theorem Joined.still_refl (hj : h.Joined) : Still h h := by
  intro b
  exact ⟨hj, fun c => by simp, fun c => rfl, fun c => rfl, [], by simp, rfl⟩

theorem Joined.adds_emit (hj : h.Joined) (e : Event 2) (b : Fin 2) :
    Adds h (h.emit e) b [] ([e].filter Event.isNews) where
  joined := ⟨hj.receiving, hj.outbound⟩
  underway c := by
    rw [ite_self, List.append_nil]
    rfl
  config c := rfl
  registry c := rfl
  trace := ⟨[e], rfl, rfl⟩

theorem Joined.still_emit (hj : h.Joined) {e : Event 2} (he : e.isNews = false) :
    Still h (h.emit e) := by
  intro b
  have hadds := hj.adds_emit e b
  rwa [List.filter_cons_of_neg (by simp [he])] at hadds

theorem Joined.still_log (hj : h.Joined) (level : Level) (target message : String)
    (fields : List (String × String)) : Still h (h.log level target message fields) :=
  hj.still_emit rfl

/-- An update of the tables, or of the tokens. -/
theorem Joined.still_update (hj : h.Joined) (d : Fin 2) {f : Bridge 2 → Bridge 2}
    (hconfig : ∀ x, (f x).config = x.config) (hregistry : ∀ x, (f x).registry = x.registry)
    (houtbound : ∀ x, (f x).outbound = x.outbound) : Still h (h.update d f) := by
  have hout : ∀ c, ((h.update d f).bridge c).outbound = (h.bridge c).outbound :=
    fun c => h.field_update d c f Bridge.outbound houtbound
  intro b
  refine ⟨⟨hj.receiving, fun c => ?_⟩, fun c => ?_, fun c => ?_, fun c => ?_, [], ?_, rfl⟩
  · rw [hout]
    exact hj.outbound c
  · rw [Host.underway, hout, ite_self, List.append_nil]
    rfl
  · exact h.field_update d c f Bridge.config hconfig
  · exact h.field_update d c f Bridge.registry hregistry
  · simp

/-! ## Sending -/

/-- `b` sends into its line, and has offered it `k` frames. -/
def onLine (h : Host 2) (b : Fin 2) (k : Nat) : Host 2 :=
  h.update b fun x => { x with outbound := .opened (Session.openLine b) k }

theorem buffer_onLine (h : Host 2) (b : Fin 2) (k : Nat) :
    ((h.onLine b k).bridge b).outbound.buffer = [] := by
  rw [onLine, bridge_update_self]
  rfl

theorem Joined.onLine (hj : h.Joined) (b : Fin 2) (k : Nat) : (h.onLine b k).Joined := by
  refine ⟨hj.receiving, fun c => ?_⟩
  rw [Host.onLine, bridge_update]
  split
  · next hc =>
      subst hc
      exact .inr ⟨k, rfl⟩
  · exact hj.outbound c

/-- Only the buffer is lost. -/
theorem underway_onLine (h : Host 2) (b : Fin 2) (k : Nat) (c : Fin 2) :
    h.underway c
      = (h.onLine b k).underway c ++ if c = b then (h.bridge b).outbound.buffer else [] := by
  by_cases hc : c = b
  · subst hc
    rw [if_pos rfl, underway, underway, buffer_onLine, List.append_nil]
    rfl
  · rw [if_neg hc, List.append_nil, underway, underway, onLine, bridge_update_of_ne _ _ hc]
    rfl

/-- A bridge with an empty buffer loses nothing. -/
theorem Joined.still_onLine (hj : h.Joined) (hbuffer : (h.bridge b).outbound.buffer = [])
    (k : Nat) : Still h (h.onLine b k) := by
  intro d
  refine ⟨hj.onLine b k, fun c => ?_, fun c => ?_, fun c => ?_, [], (List.append_nil _).symm, rfl⟩
  · rw [h.underway_onLine b k c, hbuffer, ite_self, ite_self, List.append_nil, List.append_nil]
  · exact h.field_update b c _ Bridge.config fun _ => rfl
  · exact h.field_update b c _ Bridge.registry fun _ => rfl

/-- A frame is put into the line of an open bridge. -/
theorem Joined.adds_push (hj : h.Joined) (hbuffer : (h.bridge b).outbound.buffer = [])
    (frame : String) :
    Adds h (h.updateLine b fun l => { l with queue := l.queue ++ [frame] }) b [frame] [] := by
  have hline := h.line_updateLine (h.lt_of_receiving (hj.receiving b))
    fun l => { l with queue := l.queue ++ [frame] }
  refine ⟨⟨fun c => ?_, hj.outbound⟩, fun c => ?_, fun c => rfl, fun c => rfl, [], ?_, rfl⟩
  · rw [hline]
    split
    · exact hj.receiving b
    · exact hj.receiving c
  · rw [underway, hline]
    by_cases hc : c = b
    · subst hc
      have hbuffer' : ((h.updateLine c fun l => { l with queue := l.queue ++ [frame] }).bridge
          c).outbound.buffer = [] := hbuffer
      rw [if_pos rfl, if_pos rfl, hbuffer', underway, hbuffer]
      simp
    · rw [if_neg (Fin.val_ne_of_ne hc), if_neg hc, List.append_nil]
      rfl
  · exact (List.append_nil _).symm

theorem offer_openLine (hreceiving : (h.line b).receiving = true) (k : Nat) (frame : String) :
    h.offer b (Session.openLine b) k frame
      = (((h.onLine b (k + 1)).updateLine b fun l => { l with queue := l.queue ++ [frame] }).emit
          (.offered b (.line b) frame none), none) := by
  have hpush : (h.onLine b (k + 1)).pushLine b frame
      = ((h.onLine b (k + 1)).updateLine b fun l => { l with queue := l.queue ++ [frame] }, none) :=
    if_pos hreceiving
  simp only [offer, carry, Session.openLine, onLine] at hpush ⊢
  rw [hpush]

theorem Joined.adds_offer (hj : h.Joined) (hbuffer : (h.bridge b).outbound.buffer = []) (k : Nat)
    (frame : String) :
    ∃ h', h.offer b (Session.openLine b) k frame = (h', none) ∧ Adds h h' b [frame] [] ∧
      (h'.bridge b).outbound.buffer = [] := by
  refine ⟨_, offer_openLine (hj.receiving b) k frame, ?_, h.buffer_onLine b (k + 1)⟩
  have hopened := hj.still_onLine hbuffer (k + 1)
  have hpushed := (hopened b).joined.adds_push (h.buffer_onLine b (k + 1)) frame
  exact (hopened.adds hpushed).still (hpushed.joined.still_emit rfl)

theorem Joined.adds_flush (frames : List String) (total : Nat) :
    ∀ (h : Host 2) (k : Nat), h.Joined → (h.bridge b).outbound.buffer = [] →
      ∃ h', h.flush b (Session.openLine b) total k frames = (h', .ok ()) ∧
        Adds h h' b frames [] := by
  induction frames with
  | nil => exact fun h k hj hbuffer => ⟨h, rfl, hj.still_refl b⟩
  | cons frame rest ih =>
      intro h k hj hbuffer
      obtain ⟨h₁, hoffer, hadds, hempty⟩ := hj.adds_offer hbuffer k frame
      obtain ⟨h₂, hflush, hrest⟩ := ih h₁ (k + 1) hadds.joined hempty
      refine ⟨h₂, ?_, hadds.trans hrest⟩
      rw [flush, hoffer]
      exact hflush

/-- Opening moves the buffer into the line, behind what is there. -/
theorem Joined.still_openWith (hj : h.Joined) (b : Fin 2) :
    Still h (h.openWith b (Session.openLine b)).1 := by
  rcases hj.outbound b with ⟨buffer, hbuffer⟩ | ⟨k, hopened⟩
  · have hlog := (hj.onLine b 0).still_log .info bridgeTarget
      "channel open, flushing startup buffer" [("buffered", toString buffer.length)]
    obtain ⟨h', hflush, hflushed⟩ := Joined.adds_flush buffer buffer.length _ 0 (hlog b).joined
      (h.buffer_onLine b 0)
    have hopen : h.openWith b (Session.openLine b) = (h', .ok ()) := by
      rw [openWith, hbuffer]
      exact hflush
    have hadds : Adds (h.onLine b 0) h' b buffer [] := hlog.adds hflushed
    rw [hopen]
    intro d
    refine ⟨hadds.joined, fun c => ?_, fun c => ?_, fun c => ?_, hadds.trace⟩
    · -- What left the buffer with the first step is what the flush sends.
      rw [hadds.underway, h.underway_onLine b 0 c, hbuffer, ite_self, List.append_nil]
      rfl
    · rw [hadds.config]
      exact h.field_update b c _ Bridge.config fun _ => rfl
    · rw [hadds.registry]
      exact h.field_update b c _ Bridge.registry fun _ => rfl
  · rw [openWith, hopened]
    exact hj.still_refl

/-- A frame sets out: into the buffer, or into the line. -/
theorem Joined.adds_transmit (hj : h.Joined) (b : Fin 2) (frame : String) :
    ∃ h', h.transmit b frame = (h', .ok ()) ∧ Adds h h' b [frame] [] := by
  have hproduced : Still h (h.emit (.produced b frame)) := hj.still_emit rfl
  have hj₁ := (hproduced b).joined
  rcases hj.outbound b with ⟨buffer, hbuffer⟩ | ⟨k, hopened⟩
  · refine ⟨_, by rw [transmit, bridge_emit, hbuffer], hproduced.adds ?_⟩
    refine ⟨⟨hj₁.receiving, fun c => ?_⟩, fun c => ?_, fun c => ?_, fun c => ?_, [], by simp, rfl⟩
    · rw [bridge_update]
      split
      · exact .inl ⟨_, rfl⟩
      · exact hj.outbound c
    · rw [underway, underway, bridge_update]
      by_cases hc : c = b
      · subst hc
        rw [if_pos rfl, if_pos rfl, bridge_emit, hbuffer]
        simp [Outbound.buffer, line]
      · rw [if_neg hc, if_neg hc, List.append_nil]
        rfl
    · exact field_update _ b c _ Bridge.config fun _ => rfl
    · exact field_update _ b c _ Bridge.registry fun _ => rfl
  · have hbuffer : ((h.emit (.produced b frame)).bridge b).outbound.buffer = [] := by
      rw [bridge_emit, hopened]
      rfl
    obtain ⟨h', hoffer, hadds, -⟩ := hj₁.adds_offer hbuffer k frame
    refine ⟨h', ?_, hproduced.adds hadds⟩
    rw [transmit, bridge_emit, hopened]
    simp only [hoffer]
    rfl

/-- A call sends its frame and is on record; it is never refused. -/
theorem Joined.adds_call (hj : h.Joined) (b : Fin 2) (name : String) (args : List Json) :
    ∃ h', h.call b name args = (h', .ok (h.bridge b).tokens.peek) ∧
      Adds h h' b
        [(Message.call ⟨(h.bridge b).tokens.peek, name, args⟩).encode (h.bridge b).config.layout]
        [.called b (h.bridge b).tokens.peek name args] := by
  obtain ⟨h₁, hh₁⟩ : ∃ h₁, h₁ = h.update b fun x => { x with tokens := x.tokens.advance } :=
    ⟨_, rfl⟩
  have htokens : Still h h₁ := by
    rw [hh₁]
    exact hj.still_update b (fun _ => rfl) (fun _ => rfl) fun _ => rfl
  have hcalled := (htokens b).joined.adds_emit (.called b (h.bridge b).tokens.peek name args) b
  obtain ⟨h₂, hh₂⟩ : ∃ h₂, h₂ = h₁.emit (.called b (h.bridge b).tokens.peek name args) := ⟨_, rfl⟩
  rw [← hh₂] at hcalled
  have hregister : Still h₂ (h₂.register b (h.bridge b).tokens.peek) := by
    have hentry : Still h₂ (h₂.update b fun x => x.enlist (h.bridge b).tokens.peek .waiting) :=
      hcalled.joined.still_update b (fun _ => rfl) (fun _ => rfl) fun _ => rfl
    simp only [register]
    split
    · exact hentry.trans ((hentry b).joined.still_log _ _ _ _)
    · exact hentry
  obtain ⟨h₃, hh₃⟩ : ∃ h₃, h₃ = (h₂.register b (h.bridge b).tokens.peek).log .debug bridgeTarget
      "issuing remote call" [idField (h.bridge b).tokens.peek, nameField name] := ⟨_, rfl⟩
  have hlog : Still h₂ h₃ := by
    rw [hh₃]
    exact hregister.trans ((hregister b).joined.still_log _ _ _ _)
  obtain ⟨h₄, htransmit, hsent⟩ := (hlog b).joined.adds_transmit b
    ((Message.call ⟨(h.bridge b).tokens.peek, name, args⟩).encode (h.bridge b).config.layout)
  refine ⟨h₄.emit (.issued b (h.bridge b).tokens.peek name args), ?_, ?_⟩
  · simp only [call, ← hh₁, ← hh₂, ← hh₃, htransmit]
  · have hall := ((htokens.adds hcalled).still hlog).trans hsent
    exact hall.still (hsent.joined.still_emit rfl)

/-! ## Taking a frame -/

/-- Taking the oldest frame out of the line of `b`. -/
theorem Joined.popLine (hj : h.Joined) (b : Fin 2) :
    h.popLine b = (h, none) ∨
      ∃ frame rest h', h.popLine b = (h', some frame) ∧ h.underway b = frame :: rest ∧
        h'.underway b = rest ∧ h'.underway (other b) = h.underway (other b) ∧ h'.Joined ∧
        h'.bridges = h.bridges ∧ h'.trace = h.trace := by
  rw [Host.popLine]
  cases hqueue : (h.line b).queue with
  | nil => exact .inl rfl
  | cons frame rest =>
      have hline := h.line_updateLine (h.lt_of_receiving (hj.receiving b))
        fun l => { l with queue := rest }
      refine .inr ⟨frame, rest ++ (h.bridge b).outbound.buffer, _, rfl, ?_, ?_, ?_,
        ⟨fun c => ?_, hj.outbound⟩, rfl, rfl⟩
      · rw [underway, hqueue]
        rfl
      · rw [underway, hline, if_pos rfl]
        rfl
      · rw [underway, hline, if_neg (Fin.val_ne_of_ne (other_ne b))]
        rfl
      · rw [hline]
        split
        · exact hj.receiving b
        · exact hj.receiving c

end Host

end CallBridge
