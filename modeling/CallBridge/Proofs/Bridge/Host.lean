import CallBridge.Bridge.Dispatch

/-!
# What the operations of a host leave alone

Sending frames, opening a bridge, exposing a function and writing to the log neither touch the
tables of calls nor say anything about a call in the trace: such operations are `Calm`. A call is a
token and an entry, calm in between, and then either issued or struck again (`call_cases`).
-/

namespace CallBridge

variable {n : Nat}

namespace Host

/-! ## Reading an updated host -/

section Fields

variable (h : Host n) (b c : Fin n) (f : Bridge n → Bridge n) (e : Event n)

theorem bridge_update :
    (h.update b f).bridge c = if c = b then f (h.bridge b) else h.bridge c := by
  simp only [update, setBridge, bridge]
  by_cases hc : c = b
  · subst hc
    simp
  · have hne : (b : Nat) ≠ c := fun heq => hc (Fin.ext heq.symm)
    simp [hc, hne]

@[simp] theorem bridge_update_self : (h.update b f).bridge b = f (h.bridge b) := by
  simp [bridge_update]

theorem bridge_update_of_ne {b c : Fin n} (hc : c ≠ b) :
    (h.update b f).bridge c = h.bridge c := by
  simp [bridge_update, hc]

variable {h b} in
theorem update_congr {f g : Bridge n → Bridge n} (hfg : f (h.bridge b) = g (h.bridge b)) :
    h.update b f = h.update b g := by
  rw [update, update, hfg]

@[simp] theorem trace_update : (h.update b f).trace = h.trace := rfl

@[simp] theorem lines_update : (h.update b f).lines = h.lines := rfl

@[simp] theorem bridge_emit : (h.emit e).bridge b = h.bridge b := rfl

@[simp] theorem trace_emit : (h.emit e).trace = h.trace ++ [e] := rfl

@[simp] theorem lines_emit : (h.emit e).lines = h.lines := rfl

/-- A field that an update of a bridge leaves alone is the same for every bridge afterwards. -/
theorem field_update {α : Type} (field : Bridge n → α) (hf : ∀ x, field (f x) = field x) :
    field ((h.update b f).bridge c) = field (h.bridge c) := by
  rw [bridge_update]
  split
  · next hc => rw [hf, hc]
  · rfl

end Fields

end Host

/-! ## Calm -/

/-- Is not about the life of a call. -/
def Event.IsIdle : Event n → Prop
  | .produced _ _ => True
  | .offered _ _ _ _ => True
  | .invoked _ _ => True
  | .noted _ _ => True
  | .logged _ => True
  | _ => False

namespace Host

/-- From `h` to `h'` nothing happens to any call. -/
structure Calm (h h' : Host n) : Prop where
  tokens : ∀ c, (h'.bridge c).tokens = (h.bridge c).tokens
  pending : ∀ c, (h'.bridge c).pending = (h.bridge c).pending
  arrived : ∀ c, (h'.bridge c).arrived = (h.bridge c).arrived
  trace : ∃ es : List (Event n), (∀ e ∈ es, e.IsIdle) ∧ h'.trace = h.trace ++ es

theorem Calm.refl (h : Host n) : Calm h h where
  tokens _ := rfl
  pending _ := rfl
  arrived _ := rfl
  trace := ⟨[], by simp, by simp⟩

theorem Calm.trans {h₁ h₂ h₃ : Host n} (h₁₂ : Calm h₁ h₂) (h₂₃ : Calm h₂ h₃) : Calm h₁ h₃ where
  tokens c := (h₂₃.tokens c).trans (h₁₂.tokens c)
  pending c := (h₂₃.pending c).trans (h₁₂.pending c)
  arrived c := (h₂₃.arrived c).trans (h₁₂.arrived c)
  trace := by
    obtain ⟨es, hes, htrace⟩ := h₁₂.trace
    obtain ⟨es', hes', htrace'⟩ := h₂₃.trace
    refine ⟨es ++ es', ?_, by rw [htrace', htrace, List.append_assoc]⟩
    intro e he
    exact (List.mem_append.1 he).elim (hes e) (hes' e)

theorem calm_emit (h : Host n) {e : Event n} (he : e.IsIdle) : Calm h (h.emit e) where
  tokens _ := rfl
  pending _ := rfl
  arrived _ := rfl
  trace := ⟨[e], by simpa using he, rfl⟩

theorem calm_log (h : Host n) (level : Level) (target message : String)
    (fields : List (String × String)) : Calm h (h.log level target message fields) :=
  h.calm_emit trivial

theorem calm_lines (h : Host n) (lines : List Line) : Calm h { h with lines } where
  tokens _ := rfl
  pending _ := rfl
  arrived _ := rfl
  trace := ⟨[], by simp, by simp⟩

theorem calm_outbound (h : Host n) (b : Fin n) (outbound : Outbound) :
    Calm h (h.update b fun x => { x with outbound }) where
  tokens c := h.field_update b c _ Bridge.tokens fun _ => rfl
  pending c := h.field_update b c _ Bridge.pending fun _ => rfl
  arrived c := h.field_update b c _ Bridge.arrived fun _ => rfl
  trace := ⟨[], by simp, by simp⟩

theorem calm_pushLine (h : Host n) (i : Nat) (frame : String) : Calm h (h.pushLine i frame).1 := by
  rw [pushLine]
  split
  · exact h.calm_lines _
  · exact .refl h

theorem calm_carry (h : Host n) (carrier : Carrier) (frame : String) :
    Calm h (h.carry carrier frame).1 := by
  cases carrier with
  | line i => exact h.calm_pushLine i frame
  | tape => exact .refl h
  | void => exact .refl h

theorem calm_offer (h : Host n) (b : Fin n) (channel : Channel) (k : Nat) (frame : String) :
    Calm h (h.offer b channel k frame).1 := by
  have hout := h.calm_outbound b (.opened channel (k + 1))
  simp only [offer]
  cases channel.verdict k with
  | some e => exact hout.trans (calm_emit _ trivial)
  | none => exact (hout.trans (calm_carry _ _ _)).trans (calm_emit _ trivial)

theorem calm_transmit (h : Host n) (b : Fin n) (frame : String) :
    Calm h (h.transmit b frame).1 := by
  have hout : Calm h (h.emit (.produced b frame)) := h.calm_emit trivial
  simp only [transmit]
  split
  · exact hout.trans (calm_outbound _ _ _)
  · exact hout.trans (calm_offer _ _ _ _ _)

theorem calm_flush (b : Fin n) (channel : Channel) (total : Nat) (frames : List String) :
    ∀ (h : Host n) (k : Nat), Calm h (h.flush b channel total k frames).1 := by
  induction frames with
  | nil => exact fun h _ => .refl h
  | cons frame rest ih =>
      intro h k
      have hoffer := h.calm_offer b channel k frame
      rw [flush]
      split
      · next h' heq =>
          rw [heq] at hoffer
          exact hoffer.trans (ih h' (k + 1))
      · next h' e heq =>
          rw [heq] at hoffer
          exact hoffer.trans (calm_log _ _ _ _ _)

theorem calm_openWith (h : Host n) (b : Fin n) (channel : Channel) :
    Calm h (h.openWith b channel).1 := by
  rw [openWith]
  split
  · exact .refl h
  · exact ((h.calm_outbound b _).trans (calm_log _ _ _ _ _)).trans (calm_flush _ _ _ _ _ _)

theorem calm_expose (h : Host n) (b : Fin n) (name : String) (f : Exposed n) :
    Calm h (h.expose b name f) := by
  have hreg : Calm h (h.update b fun x => x.expose name f) :=
    { tokens := fun c => h.field_update b c _ Bridge.tokens fun _ => rfl
      pending := fun c => h.field_update b c _ Bridge.pending fun _ => rfl
      arrived := fun c => h.field_update b c _ Bridge.arrived fun _ => rfl
      trace := ⟨[], by simp, by simp⟩ }
  exact hreg.trans (calm_log _ _ _ _ _)

/-! ## Calls -/

/-- The host when a call has its token and its entry, and its frame has not been sent. -/
def entered (h : Host n) (b : Fin n) (name : String) (args : List Json) : Host n :=
  let id := (h.bridge b).tokens.peek
  (h.update b fun x => { x with tokens := x.tokens.advance }.enlist id .waiting).emit
    (.called b id name args)

theorem calm_register (h : Host n) (b : Fin n) (id : CallId) :
    Calm (h.update b fun x => x.enlist id .waiting) (h.register b id) := by
  simp only [register]
  split
  · exact calm_log _ _ _ _ _
  · exact .refl _

theorem update_update (h : Host n) (b : Fin n) (f g : Bridge n → Bridge n) :
    (h.update b f).update b g = h.update b fun x => g (f x) := by
  simp only [update, setBridge, bridge]
  congr 1
  simp

/-- A call either is issued, or is refused by the channel and struck again. -/
theorem call_cases (h : Host n) (b : Fin n) (name : String) (args : List Json) :
    ∃ sent, Calm (h.entered b name args) sent ∧
      (h.call b name args
          = (sent.emit (.issued b (h.bridge b).tokens.peek name args),
            .ok (h.bridge b).tokens.peek) ∨
        ∃ e, h.call b name args = ((sent.cancel b (h.bridge b).tokens.peek).1, .error e)) := by
  have hentered : (((h.update b fun x => { x with tokens := x.tokens.advance }).emit
      (.called b (h.bridge b).tokens.peek name args)).update b
        fun x => x.enlist (h.bridge b).tokens.peek .waiting) = h.entered b name args := by
    exact congrArg (fun h' => emit h' (.called b (h.bridge b).tokens.peek name args))
      (h.update_update b (fun x => { x with tokens := x.tokens.advance })
        fun x => x.enlist (h.bridge b).tokens.peek .waiting)
  have hregister := calm_register ((h.update b fun x => { x with tokens := x.tokens.advance }).emit
    (.called b (h.bridge b).tokens.peek name args)) b (h.bridge b).tokens.peek
  rw [hentered] at hregister
  have hlog := hregister.trans (calm_log _ .debug bridgeTarget "issuing remote call"
    [idField (h.bridge b).tokens.peek, nameField name])
  have hsent := hlog.trans (calm_transmit _ b
    ((Message.call ⟨(h.bridge b).tokens.peek, name, args⟩).encode (h.bridge b).config.layout))
  refine ⟨_, hsent, ?_⟩
  simp only [call]
  split
  · next sent heq => exact .inl (by rw [heq])
  · next sent e heq => exact .inr ⟨e, by rw [heq]⟩

theorem call_ok {h h' : Host n} {b : Fin n} {name : String} {args : List Json} {id : CallId}
    (hcall : h.call b name args = (h', .ok id)) :
    id = (h.bridge b).tokens.peek ∧
      ∃ sent, Calm (h.entered b name args) sent ∧ h' = sent.emit (.issued b id name args) := by
  obtain ⟨sent, hcalm, hok | ⟨e, herror⟩⟩ := h.call_cases b name args
  · rw [hok, Prod.mk.injEq, Except.ok.injEq] at hcall
    obtain ⟨rfl, rfl⟩ := hcall
    exact ⟨rfl, sent, hcalm, rfl⟩
  · rw [herror, Prod.mk.injEq] at hcall
    exact absurd hcall.2 (by simp)

theorem call_error {h h' : Host n} {b : Fin n} {name : String} {args : List Json}
    {e : BridgeError} (hcall : h.call b name args = (h', .error e)) :
    ∃ sent, Calm (h.entered b name args) sent ∧
      h' = (sent.cancel b (h.bridge b).tokens.peek).1 := by
  obtain ⟨sent, hcalm, hok | ⟨e', herror⟩⟩ := h.call_cases b name args
  · rw [hok, Prod.mk.injEq] at hcall
    exact absurd hcall.2 (by simp)
  · rw [herror, Prod.mk.injEq] at hcall
    exact ⟨sent, hcalm, hcall.1.symm⟩

end Host

end CallBridge
