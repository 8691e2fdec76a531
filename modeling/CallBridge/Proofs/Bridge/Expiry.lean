import CallBridge.Proofs.Bridge.Course

/-!
# Nothing expires by itself

A call expires when whoever awaits it says so, and then nothing more happens to it. No code of the
host does that, however deep its frames nest: `Host.NoExpiry` holds from before to after.
-/

namespace CallBridge

variable {n : Nat} {b : Fin n} {id : CallId} {p q : Phase n} {es : List (Event n)}

/-! ## After expiry -/

theorem Phase.Next.of_abandoned {e : Event n} (h : Phase.Next b id .abandoned e q) :
    q = .abandoned := by
  cases h with
  | other he => rfl
  | ignored hp hr => rfl
  | dropped hp => rfl

theorem Course.of_abandoned (h : Course b id .abandoned es q) : q = .abandoned := by
  induction h with
  | refl => rfl
  | snoc hcourse hnext ih =>
      rw [ih] at hnext
      exact hnext.of_abandoned

/-- A call that has expired stays abandoned. -/
theorem Course.abandoned_of_expired (h : Course b id p es q) (hexpired : .expired b id ∈ es) :
    q = .abandoned := by
  obtain ⟨before, after, rfl⟩ := List.append_of_mem hexpired
  obtain ⟨r, r', -, hnext, hafter⟩ := h.split_cons
  cases hnext with
  | other he => exact absurd ⟨rfl, rfl⟩ he
  | expired => exact hafter.of_abandoned

/-! ## What the host does -/

namespace Host

variable {h h' : Host n}

/-- From `h` to `h'` the trace grows, and no call expires. -/
def NoExpiry (h h' : Host n) : Prop :=
  ∃ es, h'.trace = h.trace ++ es ∧ ∀ b id, .expired b id ∉ es

theorem NoExpiry.refl (h : Host n) : NoExpiry h h := ⟨[], by simp, by simp⟩

theorem NoExpiry.trans {h₁ h₂ h₃ : Host n} (h₁₂ : NoExpiry h₁ h₂) (h₂₃ : NoExpiry h₂ h₃) :
    NoExpiry h₁ h₃ := by
  obtain ⟨es, htrace, hes⟩ := h₁₂
  obtain ⟨es', htrace', hes'⟩ := h₂₃
  refine ⟨es ++ es', by rw [htrace', htrace, List.append_assoc], fun b id hmem => ?_⟩
  exact (List.mem_append.1 hmem).elim (hes b id) (hes' b id)

theorem noExpiry_emit (h : Host n) {e : Event n} (he : ∀ b id, .expired b id ≠ e) :
    NoExpiry h (h.emit e) :=
  ⟨[e], rfl, fun b id hmem => he b id (List.mem_singleton.1 hmem)⟩

theorem noExpiry_log (h : Host n) (level : Level) (target message : String)
    (fields : List (String × String)) : NoExpiry h (h.log level target message fields) :=
  h.noExpiry_emit fun _ _ => nofun

theorem Calm.noExpiry (hcalm : Calm h h') : NoExpiry h h' := by
  obtain ⟨es, hidle, htrace⟩ := hcalm.trace
  exact ⟨es, htrace, fun b id hmem => hidle _ hmem⟩

theorem noExpiry_call (h : Host n) (b : Fin n) (name : String) (args : List Json) :
    NoExpiry h (h.call b name args).1 := by
  obtain ⟨sent, hcalm, hcall⟩ := h.call_cases b name args
  have hentered : NoExpiry h (h.entered b name args) :=
    noExpiry_emit (h.update b _) fun _ _ => nofun
  have hsent := hentered.trans hcalm.noExpiry
  rcases hcall with hok | ⟨e, herror⟩
  · have hissued := sent.noExpiry_emit (e := .issued b (h.bridge b).tokens.peek name args)
      fun _ _ => nofun
    rw [hok]
    exact hsent.trans hissued
  · rw [herror]
    exact hsent

theorem noExpiry_bindPending (h : Host n) (b : Fin n) (id : CallId) (c : Callback n) :
    NoExpiry h (h.bindPending b id c) :=
  noExpiry_emit (h.update b _) (e := .bound b id c) fun _ _ => nofun

theorem noExpiry_drop (h : Host n) (b : Fin n) (id : CallId) : NoExpiry h (h.drop b id).1 :=
  h.noExpiry_emit (e := .dropped b id) fun _ _ => nofun

theorem noExpiry_run {nested : Handling n}
    (hnested : ∀ h b frame, NoExpiry h (nested h b frame).1) (p : Proc n) :
    ∀ h, NoExpiry h (run nested p h).1 := by
  induction p with
  | done e => exact NoExpiry.refl
  | note label what next ih =>
      exact fun h => (h.noExpiry_emit (e := .noted label what) fun _ _ => nofun).trans (ih _)
  | call b name args callback holds next _ ih =>
      intro h
      have hcall := h.noExpiry_call b name args
      rw [run]
      split <;> rename_i heq <;> rw [heq] at hcall
      · exact (hcall.trans (noExpiry_bindPending _ b _ _)).trans (ih _ _)
      · exact hcall.trans (ih _ _)
  | callAndForget b name args next ih =>
      intro h
      have hcall := h.noExpiry_call b name args
      rw [run]
      split <;> rename_i heq <;> rw [heq] at hcall
      · exact (hcall.trans (noExpiry_drop _ b _)).trans (ih _ _)
      · exact hcall.trans (ih _ _)
  | expose b name body holds next _ ih =>
      exact fun h => (h.calm_expose b name ⟨body, holds⟩).noExpiry.trans (ih _)
  | openWith b channel next ih =>
      exact fun h => (h.calm_openWith b channel).noExpiry.trans (ih _ _)
  | handle b frame next ih => exact fun h => (hnested h b frame).trans (ih _ _)
  | names b next ih => exact fun h => ih _ h
  | status b next ih => exact fun h => ih _ h

theorem noExpiry_runGuarded {nested : Handling n}
    (hnested : ∀ h b frame, NoExpiry h (nested h b frame).1) (p : Proc n) (h : Host n) :
    NoExpiry h (runGuarded nested p h).1 := by
  have hrun := noExpiry_run hnested p h
  rw [runGuarded]
  split <;> rename_i heq <;> rw [heq] at hrun
  · exact hrun
  · exact hrun
  · exact hrun.trans (noExpiry_log _ _ _ _ _)

theorem noExpiry_runCallback {nested : Handling n}
    (hnested : ∀ h b frame, NoExpiry h (nested h b frame).1) (c : Callback n) (b : Fin n)
    (id : CallId) (o : Outcome) (h : Host n) : NoExpiry h (runCallback nested c b id o h) := by
  have hrun := (h.noExpiry_emit (e := .delivered b id (some c) o) fun _ _ => nofun).trans
    (noExpiry_run hnested (c.body o) _)
  rw [runCallback]
  split <;> rename_i heq <;> rw [heq] at hrun
  · exact (hrun.trans (noExpiry_log _ _ _ _ _)).trans (noExpiry_log _ _ _ _ _)
  · exact hrun

theorem noExpiry_handleReturn {nested : Handling n}
    (hnested : ∀ h b frame, NoExpiry h (nested h b frame).1) (h : Host n) (b : Fin n)
    (r : Return) : NoExpiry h (handleReturn nested h b r) := by
  have hreturned : NoExpiry h (h.emit (.returned b r)) := h.noExpiry_emit fun _ _ => nofun
  have hresolved : NoExpiry (h.emit (.returned b r))
      (resolve nested (h.emit (.returned b r)) b r.id r.outcome).1 := by
    rw [resolve]
    split
    · exact .refl _
    · exact .refl _
    · exact noExpiry_runCallback hnested _ _ _ _ (update _ b _)
  rw [handleReturn]
  split <;> rename_i heq <;> rw [heq] at hresolved
  · exact (hreturned.trans hresolved).trans (noExpiry_log _ _ _ _ _)
  · exact (hreturned.trans hresolved).trans (noExpiry_log _ _ _ _ _)

theorem noExpiry_handleCall {nested : Handling n}
    (hnested : ∀ h b frame, NoExpiry h (nested h b frame).1) (h : Host n) (b : Fin n)
    (c : Call) : NoExpiry h (handleCall nested h b c).1 := by
  rw [handleCall]
  split
  · exact noExpiry_log _ _ _ _ _
  · next f hf =>
      have hbody := (h.noExpiry_emit (e := .invoked b c) (by simp)).trans
        (noExpiry_runGuarded hnested (f.body c.args) _)
      split <;> rename_i heq <;> rw [heq] at hbody
      · exact hbody.trans (calm_transmit _ b _).noExpiry
      · dsimp only
        split
        · exact (hbody.trans (noExpiry_log _ _ _ _ _)).trans (calm_transmit _ b _).noExpiry
        · exact hbody.trans (noExpiry_log _ _ _ _ _)

theorem noExpiry_handleDecoded {nested : Handling n}
    (hnested : ∀ h b frame, NoExpiry h (nested h b frame).1) (h : Host n) (b : Fin n)
    (r : Except CodecError Message) : NoExpiry h (handleDecoded nested h b r).1 := by
  cases r with
  | ok message =>
      cases message with
      | call c => exact noExpiry_handleCall hnested h b c
      | ret r => exact noExpiry_handleReturn hnested h b r
  | error e =>
      simp only [handleDecoded]
      split
      · exact noExpiry_log _ _ _ _ _
      · exact .refl h

theorem noExpiry_handleNested [Limits] (depth : Nat) :
    ∀ (h : Host n) b frame, NoExpiry h (handleNested depth h b frame).1 := by
  induction depth with
  | zero => exact fun h b frame => noExpiry_handleDecoded (fun h _ _ => .refl h) h b _
  | succ depth ih => exact fun h b frame => noExpiry_handleDecoded ih h b _

theorem noExpiry_handle [Limits] (h : Host n) (b : Fin n) (frame : String) :
    NoExpiry h (h.handle b frame).1 :=
  noExpiry_handleDecoded (noExpiry_handleNested Limits.nesting) h b _

theorem noExpiry_handleValue [Limits] (h : Host n) (b : Fin n) (v : Json) :
    NoExpiry h (h.handleValue b v).1 :=
  noExpiry_handleDecoded (noExpiry_handleNested Limits.nesting) h b _

theorem noExpiry_bind [Limits] (h : Host n) (b : Fin n) (id : CallId) (c : Callback n) :
    NoExpiry h (h.bind b id c) := by
  have hbound : NoExpiry h (h.emit (.bound b id c)) := h.noExpiry_emit fun _ _ => nofun
  rw [bind]
  split
  · exact h.noExpiry_bindPending b id c
  · split
    · exact hbound.trans
        (noExpiry_runCallback (noExpiry_handleNested Limits.nesting) _ _ _ _ (update _ b _))
    · exact hbound

theorem noExpiry_afterFrame (h : Host n) (r : Except BridgeError Unit) :
    NoExpiry h (h.afterFrame r).1 := by
  cases r with
  | ok u => exact .refl h
  | error e =>
      simp only [afterFrame]
      split
      · exact .refl h
      · exact noExpiry_log _ _ _ _ _

theorem noExpiry_serve [Limits] (b : Fin n) (frames : List String) :
    ∀ h : Host n, NoExpiry h (h.serve b frames).1 := by
  induction frames with
  | nil => exact fun h => noExpiry_log _ _ _ _ _
  | cons frame rest ih =>
      intro h
      have hframe := (h.noExpiry_handle b frame).trans
        (noExpiry_afterFrame (h.handle b frame).1 (h.handle b frame).2)
      simp only [serve]
      split <;> rename_i heq <;> rw [heq] at hframe
      · exact hframe
      · exact hframe.trans (ih _)

end Host

end CallBridge
