import CallBridge.Proofs.Bridge.Attend
import CallBridge.Proofs.Bridge.Course
import CallBridge.Proofs.Bridge.Post
import CallBridge.Proofs.Session.Orderly

/-!
# Refused calls

A call enters its token in the pending table before its frame goes out, and strikes it again when
the channel refuses the frame. That puts the table back as it was only if the token was not there
before. Every token in the table has been taken by some call (`Host.Accounted`), and the next token
has not, as long as the count of calls lasts. Main statement: `Session.refused_call_restores`.
-/

namespace CallBridge

variable {n : Nat}

/-! ## Tokens that calls have taken -/

/-- The tokens that callers on `b` have got. -/
def issuedIds (b : Fin n) (trace : List (Event n)) : List CallId :=
  trace.filterMap (Event.issuedOf b)

theorem issuedIds_append (b : Fin n) (es es' : List (Event n)) :
    issuedIds b (es ++ es') = issuedIds b es ++ issuedIds b es' :=
  List.filterMap_append

theorem issuedIds_concat (b : Fin n) (es : List (Event n)) {e : Event n}
    (he : e.issuedOf b = none) : issuedIds b (es ++ [e]) = issuedIds b es := by
  simp [issuedIds, he]

theorem mem_issuedIds {b : Fin n} {id : CallId} {trace : List (Event n)} :
    id ∈ issuedIds b trace ↔ ∃ name args, .issued b id name args ∈ trace := by
  rw [issuedIds, List.mem_filterMap]
  constructor
  · rintro ⟨e, he, hissued⟩
    obtain ⟨name, args, rfl⟩ := Event.issuedOf_eq_some.1 hissued
    exact ⟨name, args, he⟩
  · rintro ⟨name, args, he⟩
    exact ⟨_, he, Event.issuedOf_eq_some.2 ⟨name, args, rfl⟩⟩

theorem Host.Calm.issuedIds {h h' : Host n} (hcalm : Calm h h') (b : Fin n) :
    CallBridge.issuedIds b h'.trace = CallBridge.issuedIds b h.trace := by
  obtain ⟨es, hes, htrace⟩ := hcalm.trace
  have hidle : CallBridge.issuedIds b es = [] := by
    refine List.filterMap_eq_nil_iff.2 fun e he => ?_
    have := hes e he
    cases e <;> trivial
  rw [htrace, issuedIds_append, hidle, List.append_nil]

namespace Host

/-- A call that is issued has just taken its token. -/
theorem issuedIds_call (h : Host n) (b d : Fin n) (name : String) (args : List Json) :
    CallBridge.issuedIds b (h.call d name args).1.trace = CallBridge.issuedIds b h.trace ∨
      (CallBridge.calledIds b (h.call d name args).1.trace
          = CallBridge.calledIds b h.trace ++ [(h.bridge b).tokens.peek] ∧
        CallBridge.issuedIds b (h.call d name args).1.trace
          = CallBridge.issuedIds b h.trace ++ [(h.bridge b).tokens.peek]) := by
  obtain ⟨sent, hcalm, hcall⟩ := h.call_cases d name args
  have hsent : CallBridge.issuedIds b sent.trace = CallBridge.issuedIds b h.trace := by
    rw [hcalm.issuedIds b, entered, trace_emit, issuedIds_concat b _ rfl, trace_update]
  rcases hcall with hok | ⟨e, herror⟩
  · by_cases hd : d = b
    · subst hd
      right
      refine ⟨h.calledIds_call d name args, ?_⟩
      rw [hok, trace_emit, issuedIds_append, hsent]
      simp [CallBridge.issuedIds, Event.issuedOf]
    · left
      rw [hok, trace_emit, issuedIds_concat b _ (by simp [Event.issuedOf, hd]), hsent]
  · left
    rw [herror]
    exact hsent

end Host

/-- What a turn issues is a token that it takes. -/
theorem Turn.issued {a a' : Host n × Custody n} (hturn : Turn a a') (b : Fin n) :
    issuedIds b a'.1.trace = issuedIds b a.1.trace ∨
      (calledIds b a'.1.trace = calledIds b a.1.trace ++ [(a.1.bridge b).tokens.peek] ∧
        issuedIds b a'.1.trace = issuedIds b a.1.trace ++ [(a.1.bridge b).tokens.peek]) := by
  cases hturn with
  | quiet hquiet => exact .inl (hquiet.calm.issuedIds b)
  | @refused h h' m d name args e hcall => simpa only [hcall] using h.issuedIds_call b d name args
  | @called h h' m d name args id hcall => simpa only [hcall] using h.issuedIds_call b d name args
  | bound c hpending | boundLost c hpending harrived | dropped d id | expired harrived
  | taken harrived | unmatched hpending | parked hpending => exact .inl (issuedIds_concat b _ rfl)
  | boundLate c hpending harrived | fired hpending =>
      exact .inl ((issuedIds_concat b _ rfl).trans (issuedIds_concat b _ rfl))

/-! ## Tokens in the pending table -/

namespace Host

theorem pendingIds_update_subset (h : Host n) (d b : Fin n) {f : Bridge n → Bridge n}
    (hf : ∀ x, (f x).pendingIds ⊆ x.pendingIds) :
    ((h.update d f).bridge b).pendingIds ⊆ (h.bridge b).pendingIds := by
  rw [bridge_update]
  split
  · next hb =>
      rw [hb]
      exact hf _
  · exact List.Subset.refl _

theorem pendingIds_unlist_subset (h : Host n) (d b : Fin n) (id : CallId) :
    ((h.update d fun x => x.unlist id).bridge b).pendingIds ⊆ (h.bridge b).pendingIds := by
  refine h.pendingIds_update_subset d b fun x => ?_
  rw [Bridge.pendingIds_unlist]
  exact List.filter_sublist.subset

theorem pendingIds_takeAside_subset (h : Host n) (d b : Fin n) (id : CallId) :
    ((h.update d fun x => x.takeAside id).bridge b).pendingIds ⊆ (h.bridge b).pendingIds :=
  h.pendingIds_update_subset d b (f := fun x => x.takeAside id) fun _ => List.Subset.refl _

theorem pendingIds_release_subset (h : Host n) (d b : Fin n) (id : CallId) :
    ((h.release d id).1.bridge b).pendingIds ⊆ (h.bridge b).pendingIds :=
  List.Subset.trans ((h.update d fun x => x.unlist id).pendingIds_takeAside_subset d b id)
    (h.pendingIds_unlist_subset d b id)

theorem Calm.pendingIds {h h' : Host n} (hcalm : Calm h h') (b : Fin n) :
    (h'.bridge b).pendingIds = (h.bridge b).pendingIds := by
  rw [Bridge.pendingIds, hcalm.pending, Bridge.pendingIds]

/-- A call enters no token but the one it takes. -/
theorem pendingIds_call (h : Host n) (b d : Fin n) (name : String) (args : List Json) :
    ∀ id ∈ ((h.call d name args).1.bridge b).pendingIds,
      id ∈ (h.bridge b).pendingIds ∨ id ∈ CallBridge.calledIds b (h.call d name args).1.trace := by
  obtain ⟨sent, hcalm, hcall⟩ := h.call_cases d name args
  have hsent : ∀ id ∈ (sent.bridge b).pendingIds,
      id ∈ (h.bridge b).pendingIds ∨ id ∈ CallBridge.calledIds b sent.trace := by
    intro id hid
    rw [hcalm.pendingIds b, entered, bridge_emit, bridge_update] at hid
    rw [hcalm.calledIds b]
    split at hid
    · next hb =>
        subst hb
        rw [Bridge.pendingIds_enlist, List.mem_append, List.mem_singleton] at hid
        rcases hid with hold | rfl
        · exact .inl (List.mem_of_mem_filter hold)
        · right
          simp [entered, CallBridge.calledIds, Event.calledOf]
    · exact .inl hid
  rcases hcall with hok | ⟨e, herror⟩
  · rw [hok, trace_emit, calledIds_concat b _ rfl]
    exact hsent
  · rw [herror]
    intro id hid
    exact hsent id (sent.pendingIds_unlist_subset d b _ hid)

end Host

/-- A token that a turn enters has been taken. -/
theorem Turn.pendingIds {a a' : Host n × Custody n} (hturn : Turn a a') (b : Fin n) :
    ∀ id ∈ (a'.1.bridge b).pendingIds,
      id ∈ (a.1.bridge b).pendingIds ∨ id ∈ calledIds b a'.1.trace := by
  have hkept : (a'.1.bridge b).pendingIds ⊆ (a.1.bridge b).pendingIds →
      ∀ id ∈ (a'.1.bridge b).pendingIds,
        id ∈ (a.1.bridge b).pendingIds ∨ id ∈ calledIds b a'.1.trace :=
    fun hsubset id hid => .inl (hsubset hid)
  cases hturn with
  | quiet hquiet =>
      apply hkept
      rw [hquiet.calm.pendingIds b]
      exact List.Subset.refl _
  | @refused h h' m d name args e hcall => simpa only [hcall] using h.pendingIds_call b d name args
  | @called h h' m d name args id hcall => simpa only [hcall] using h.pendingIds_call b d name args
  | @bound h m d id c hpending =>
      apply hkept
      rw [Host.bindPending, Host.bridge_emit]
      refine h.pendingIds_update_subset d b fun x => ?_
      rw [Bridge.pendingIds, Bridge.map_fst_callback]
      exact List.Subset.refl _
  | @boundLate h m d id o c hpending harrived =>
      exact hkept (h.pendingIds_takeAside_subset d b id)
  | boundLost c hpending harrived | unmatched hpending => exact hkept (List.Subset.refl _)
  | @dropped h m d id => exact hkept ((h.emit (.dropped d id)).pendingIds_release_subset d b id)
  | @expired h m d id harrived =>
      exact hkept ((h.emit (.expired d id)).pendingIds_release_subset d b id)
  | @taken h m d id o harrived =>
      exact hkept (h.pendingIds_takeAside_subset d b id)
  | @parked h m d r hpending =>
      apply hkept
      refine (h.emit (.returned d r)).pendingIds_update_subset d b fun x => ?_
      show (x.unlist r.id).pendingIds ⊆ x.pendingIds
      rw [Bridge.pendingIds_unlist]
      exact List.filter_sublist.subset
  | @fired h m d r c hpending =>
      exact hkept ((h.emit (.returned d r)).pendingIds_unlist_subset d b r.id)

/-- Every token of `b` that is pending or that a caller has got was taken by a call. -/
structure Host.Accounted (h : Host n) (b : Fin n) : Prop where
  pending : (h.bridge b).pendingIds ⊆ calledIds b h.trace
  issued : issuedIds b h.trace ⊆ calledIds b h.trace

theorem Turn.calledIds_subset {a a' : Host n × Custody n} (hturn : Turn a a') (b : Fin n) :
    calledIds b a.1.trace ⊆ calledIds b a'.1.trace := by
  rcases hturn.tokens b with ⟨-, hcalled⟩ | ⟨-, hcalled⟩
  · rw [hcalled]
    exact List.Subset.refl _
  · rw [hcalled]
    exact List.subset_append_left ..

theorem Turn.accounted {a a' : Host n × Custody n} (hturn : Turn a a') {b : Fin n}
    (ha : a.1.Accounted b) : a'.1.Accounted b where
  pending id hid := by
    rcases hturn.pendingIds b id hid with hold | hcalled
    · exact hturn.calledIds_subset b (ha.pending hold)
    · exact hcalled
  issued := by
    rcases hturn.issued b with hissued | ⟨hcalled, hissued⟩
    · rw [hissued]
      exact List.Subset.trans ha.issued (hturn.calledIds_subset b)
    · rw [hissued, hcalled]
      exact List.append_subset.2
        ⟨List.subset_append_of_subset_left _ ha.issued, List.subset_append_right _ _⟩

/-- A token that was taken and not issued is not issued later, while the count lasts. -/
theorem Turns.not_issued {a a' : Host n × Custody n} (hturns : Turns a a') (hnum : a.1.Numbered)
    {b : Fin n} {id : CallId} (hcalled : id ∈ calledIds b a.1.trace)
    (hissued : id ∉ issuedIds b a.1.trace) (hcalls : calls b a'.1.trace ≤ 2 ^ 64) :
    id ∈ calledIds b a'.1.trace ∧ id ∉ issuedIds b a'.1.trace := by
  have hkeep : a'.1.Numbered ∧ id ∈ calledIds b a'.1.trace ∧
      (calls b a'.1.trace ≤ 2 ^ 64 → id ∉ issuedIds b a'.1.trace) := by
    refine hturns.keep (P := fun a => a.1.Numbered ∧ id ∈ calledIds b a.1.trace ∧
      (calls b a.1.trace ≤ 2 ^ 64 → id ∉ issuedIds b a.1.trace)) ?_
      ⟨hnum, hcalled, fun _ => hissued⟩
    rintro a c hturn ⟨hnum, hcalled, hissued⟩
    have hnum' := hturn.numbered hnum
    refine ⟨hnum', hturn.calledIds_subset b hcalled, fun hcalls => ?_⟩
    have hissued := hissued ((hturn.calls_le b).trans hcalls)
    rcases hturn.issued b with hsame | ⟨hnext, hissues⟩
    · rwa [hsame]
    · -- The token that is issued here is taken here, and so is not one taken before.
      rw [hissues, List.mem_append, List.mem_singleton]
      rintro (hold | rfl)
      · exact hissued hold
      · have hnodup := hnum'.nodup_calledIds hcalls
        rw [hnext] at hnodup
        exact (List.nodup_append.1 hnodup).2.2 _ hcalled _ (List.mem_singleton.2 rfl) rfl
  exact ⟨hkeep.2.1, hkeep.2.2 hcalls⟩

/-! ## Calls -/

/-- The frames of `b` that channels have accepted. -/
def acceptedFrames (b : Fin n) (es : List (Event n)) : List String :=
  ((offers b es).filter fun o => o.refusal = none).map Offer.frame

theorem acceptedFrames_append (b : Fin n) (es es' : List (Event n)) :
    acceptedFrames b (es ++ es') = acceptedFrames b es ++ acceptedFrames b es' := by
  rw [acceptedFrames, offers_append, List.filter_append, List.map_append]
  rfl

/-- What is logged when a call is about to send its frame. -/
def Event.issuing (id : CallId) (name : String) : Event n :=
  .logged (.say .debug Host.bridgeTarget "issuing remote call"
    [Host.idField id, Host.nameField name])

/-- Striking a token takes away its own entry alone, if no other has it. -/
theorem Bridge.filter_entered {x : Bridge n} {id : CallId} (hnone : x.pending? id = none)
    (c : Completion n) : ((x.pending ++ [(id, c)]).filter fun p => p.1 ≠ id) = x.pending := by
  have hrest : (x.pending.filter fun p => p.1 ≠ id) = x.pending :=
    congrArg Bridge.pending (x.unlist_of_none hnone)
  rw [List.filter_append, hrest]
  simp

namespace Host

section Calls

variable (h : Host n) (b : Fin n) (name : String) (args : List Json)

theorem lines_prepared : (h.prepared b name args).lines = h.lines := by
  simp only [prepared, log, lines_emit, register]
  split <;> rfl

theorem bridge_register (id : CallId) :
    (h.register b id).bridge b = (h.bridge b).enlist id .waiting := by
  rw [register]
  split <;> exact h.bridge_update_self b fun x => x.enlist id .waiting

theorem outbound_prepared :
    ((h.prepared b name args).bridge b).outbound = (h.bridge b).outbound := by
  rw [prepared, log, bridge_emit, bridge_register, bridge_emit, bridge_update_self]
  rfl

theorem refusal_prepared : (h.prepared b name args).refusal = h.refusal := by
  apply SameEnds.refusal
  intro i
  rw [line, lines_prepared, line]

/-- A call fails exactly if there is a channel that refuses the frame, and with its error. -/
theorem call_eq_error_iff {e : BridgeError} :
    (h.call b name args).2 = .error e ↔
      ∃ channel k, (h.bridge b).outbound = .opened channel k ∧ h.refusal channel k = some e := by
  have hsend : ((h.prepared b name args).transmit b (h.callFrame b name args)).2 = .error e ↔ _ :=
    transmit_eq_error_iff
  rw [outbound_prepared, refusal_prepared] at hsend
  rw [← hsend, call_eq]
  rcases (h.prepared b name args).transmit b (h.callFrame b name args) with ⟨k, _ | _⟩
  · simp
  · simp

variable {h b} in
/-- While a bridge connects, a call is issued. -/
theorem call_connecting (hconnecting : (h.bridge b).state = .connecting) :
    (h.call b name args).2 = .ok (h.bridge b).tokens.peek := by
  cases hcall : (h.call b name args).2 with
  | error e =>
      obtain ⟨channel, k, hopened, -⟩ := (h.call_eq_error_iff b name args).1 hcall
      rw [Bridge.state, hopened] at hconnecting
      cases hconnecting
  | ok id =>
      obtain ⟨rfl, -⟩ := call_ok (Prod.ext rfl hcall)
      rfl

variable {h b}

theorem register_of_none {id : CallId} (hnone : (h.bridge b).pending? id = none) :
    h.register b id = h.update b fun x => { x with pending := x.pending ++ [(id, .waiting)] } := by
  simp only [register, hnone, Option.isSome_none, Bool.false_eq_true, if_false]
  apply update_congr
  rw [Bridge.enlist, Bridge.unlist_of_none _ hnone]

/-- A new token is entered at the end of the table, and struck there again. -/
theorem prepared_of_new (hnew : (h.bridge b).pending? (h.bridge b).tokens.peek = none) :
    h.prepared b name args
      = ((h.update b fun x => { x with
          tokens := x.tokens.advance
          pending := x.pending ++ [((h.bridge b).tokens.peek, .waiting)] }).emit
        (.called b (h.bridge b).tokens.peek name args)).emit
        (.issuing (h.bridge b).tokens.peek name) := by
  have hvacant : (((h.update b fun x => { x with tokens := x.tokens.advance }).emit
      (.called b (h.bridge b).tokens.peek name args)).bridge b).pending?
        (h.bridge b).tokens.peek = none := by
    rw [bridge_emit, bridge_update_self]
    exact hnew
  rw [prepared, register_of_none hvacant]
  have hentry := h.update_update b (fun x => { x with tokens := x.tokens.advance })
    fun x => { x with pending := x.pending ++ [((h.bridge b).tokens.peek, .waiting)] }
  exact congrArg (fun k => (emit k (.called b (h.bridge b).tokens.peek name args)).emit
    (.issuing (h.bridge b).tokens.peek name)) hentry

/-- When the frame of a call with a new token is refused, the count of calls and the count of the
channel's offers have moved, and nothing else. -/
theorem call_refused (hnew : (h.bridge b).pending? (h.bridge b).tokens.peek = none)
    {channel : Channel} {k : Nat} {e : BridgeError}
    (hopened : (h.bridge b).outbound = .opened channel k)
    (hrefused : h.refusal channel k = some e) :
    h.call b name args
      = ({ h.update b (fun x => { x with
              tokens := x.tokens.advance
              outbound := .opened channel (k + 1) }) with
            trace := h.trace ++ [.called b (h.bridge b).tokens.peek name args,
              .issuing (h.bridge b).tokens.peek name, .produced b (h.callFrame b name args),
              .offered b channel.carrier (h.callFrame b name args) (some e)] },
        .error e) := by
  have hstruck : ((h.update b fun x => { x with
          tokens := x.tokens.advance
          pending := x.pending ++ [((h.bridge b).tokens.peek, .waiting)] }).update b
        fun x => { x with outbound := .opened channel (k + 1) }).update b
        (fun x => x.unlist (h.bridge b).tokens.peek)
      = h.update b fun x => { x with
          tokens := x.tokens.advance
          outbound := .opened channel (k + 1) } := by
    rw [update_update, update_update]
    apply update_congr
    simp only [Bridge.unlist, Bridge.filter_entered hnew]
  rw [call_eq, transmit_eq, outbound_prepared, refusal_prepared, hopened]
  simp only [Outbound.sending, hrefused, asResult, prepared_of_new name args hnew, cancel]
  refine congrArg (·, _) ?_
  rw [← hstruck]
  simp only [ship, emit, Shipment.followedBy, Shipment.offer, List.append_assoc]
  rfl

end Calls

end Host

/-! ## Runs -/

namespace Session

open Host

variable {s : Session n}

theorem Fresh.accounted (hs : s.Fresh) (b : Fin n) : s.host.Accounted b where
  pending := by
    rw [Bridge.pendingIds, hs.host.pending]
    exact List.nil_subset _
  issued := by
    rw [hs.host.trace]
    exact List.nil_subset _

/-- **Refused calls.** Wherever a run has come to, between two steps or inside the code of the host,
with fewer than `2 ^ 64` calls on `b` so far:

* a call on `b` fails exactly if `b` is open and its channel refuses the frame of the call, and it
  fails with the channel's error; while `b` connects, it is issued;
* a call that fails leaves every bridge and every line as it was, and the frames that were accepted
  so far; only the token of `b` and the number of the channel's next offer have moved on;
* in no run that goes on from there is its token taken or issued again, while the count lasts. -/
theorem refused_call_restores [Limits] (hs : s.Fresh) :
    (∀ steps, Turns (s.host, s.held) ((s.after steps).host, (s.after steps).held)) ∧
    ∀ h m, Turns (s.host, s.held) (h, m) → ∀ b, calls b h.trace < 2 ^ 64 →
      ∀ (name : String) (args : List Json),
        let x := h.bridge b
        let id := x.tokens.peek
        let frame := h.callFrame b name args
        (∀ e, (h.call b name args).2 = .error e ↔
          ∃ channel k, x.outbound = .opened channel k ∧ h.refusal channel k = some e) ∧
        (x.state = .connecting → (h.call b name args).2 = .ok id) ∧
        ∀ h' e, h.call b name args = (h', .error e) →
          (∃ channel k, x.outbound = .opened channel k ∧
            h'.bridge b = { x with
              tokens := x.tokens.advance
              outbound := .opened channel (k + 1) } ∧
            h'.trace = h.trace ++ [.called b id name args, .issuing id name, .produced b frame,
              .offered b channel.carrier frame (some e)]) ∧
          (h'.bridge b).status = x.status ∧ (h'.bridge b).outbound.buffer = x.outbound.buffer ∧
          (∀ c, c ≠ b → h'.bridge c = h.bridge c) ∧ h'.lines = h.lines ∧
          (∀ c, acceptedFrames c h'.trace = acceptedFrames c h.trace) ∧
          ∀ a, Turns (h', m) a → calls b a.1.trace ≤ 2 ^ 64 →
            (calledIds b a.1.trace).count id = 1 ∧
            ∀ name' args', .issued b id name' args' ∉ a.1.trace := by
  refine ⟨fun steps => (moves_after steps s hs.namesDistinct).2, ?_⟩
  intro h m hpast b hcalls name args x id frame
  have hnum : h.Numbered :=
    hpast.keep (P := fun a => a.1.Numbered) (fun _ _ hturn => hturn.numbered) hs.orderly.1
  have haccounted : h.Accounted b :=
    hpast.keep (P := fun a => a.1.Accounted b) (fun _ _ hturn => hturn.accounted) (hs.accounted b)
  have hfresh : id ∉ calledIds b h.trace := hnum.peek_notMem hcalls
  have hnew : x.pending? id = none := by
    by_contra hpending
    exact hfresh (haccounted.pending ((x.mem_pendingIds id).2 hpending))
  refine ⟨fun e => h.call_eq_error_iff b name args, call_connecting name args, ?_⟩
  intro h' e hcall
  obtain ⟨channel, k, hopened, hrefused⟩ :=
    (h.call_eq_error_iff b name args).1 (congrArg Prod.snd hcall)
  have hnum' : h'.Numbered := (Turn.refused (m := m) hcall).numbered hnum
  rw [call_refused name args hnew hopened hrefused, Prod.mk.injEq] at hcall
  obtain ⟨rfl, -⟩ := hcall
  have hbridge := h.bridge_update_self b fun x => { x with
    tokens := x.tokens.advance
    outbound := .opened channel (k + 1) }
  have hothers : ∀ c, c ≠ b → (h.update b fun x => { x with
      tokens := x.tokens.advance
      outbound := .opened channel (k + 1) }).bridge c = h.bridge c :=
    fun c hc => h.bridge_update_of_ne _ hc
  refine ⟨⟨channel, k, hopened, hbridge, rfl⟩, ?_, ?_, hothers, rfl, ?_, ?_⟩
  · refine (congrArg Bridge.status hbridge).trans ?_
    simp only [Bridge.status, Bridge.state, hopened, x]
    rfl
  · refine (congrArg (fun y => y.outbound.buffer) hbridge).trans ?_
    rw [hopened]
    rfl
  · intro c
    refine (acceptedFrames_append c _ _).trans ?_
    by_cases hc : b = c <;> simp [acceptedFrames, offers, Event.offerOf, Event.issuing, hc]
  · intro a hturns hlater
    have htaken : id ∈ calledIds b (h.trace ++ [.called b id name args, .issuing id name,
        .produced b frame, .offered b channel.carrier frame (some e)]) := by
      simp [calledIds, Event.calledOf]
    have hunissued : id ∉ issuedIds b (h.trace ++ [.called b id name args, .issuing id name,
        .produced b frame, .offered b channel.carrier frame (some e)]) := by
      intro hmem
      apply hfresh
      apply haccounted.issued
      simpa [issuedIds, Event.issuedOf, Event.issuing] using hmem
    obtain ⟨hcalled, hissued⟩ := hturns.not_issued hnum' htaken hunissued hlater
    have hnodup := Host.Numbered.nodup_calledIds (hturns.keep (P := fun a => a.1.Numbered)
      (fun _ _ hturn => hturn.numbered) hnum') hlater
    exact ⟨List.count_eq_one_of_mem hnodup hcalled, fun name' args' hmem =>
      hissued (mem_issuedIds.2 ⟨name', args', hmem⟩)⟩

/-- The second frame that goes out is refused, while the first call still waits. -/
theorem refused_call_restores_second :
    let s : Session 1 := start #v[{}] none
    let steps : List (Step 1) := [.call 0 "f" [] "x",
      .openWith 0 (.tape fun k => if k = 1 then some .channelClosed else none)]
    let h := (s.after steps).host
    s.Fresh ∧ calls 0 h.trace < 2 ^ 64 ∧ (h.call 0 "g" []).2 = .error .channelClosed ∧
      (h.bridge 0).status = ⟨.opened, 1, 0⟩ ∧
      ((h.call 0 "g" []).1.bridge 0).status = ⟨.opened, 1, 0⟩ ∧
      acceptedFrames 0 (h.call 0 "g" []).1.trace = acceptedFrames 0 h.trace := by
  intro s steps h
  have hfresh : s.Fresh := fresh_start _ _ _
  have hcalls : calls 0 h.trace < 2 ^ 64 := by decide +kernel
  have herror : (h.call 0 "g" []).2 = .error .channelClosed := by decide +kernel
  have hstatus : (h.bridge 0).status = ⟨.opened, 1, 0⟩ := by decide +kernel
  have hpast : Turns (s.host, s.held) (h, (s.after steps).held) :=
    (refused_call_restores hfresh).1 steps
  clear_value h
  obtain ⟨-, hkept, -, -, -, haccepted, -⟩ :=
    ((refused_call_restores hfresh).2 h _ hpast 0 hcalls "g" []).2.2
      (h.call 0 "g" []).1 .channelClosed (Prod.ext rfl herror)
  exact ⟨hfresh, hcalls, herror, hstatus, hkept.trans hstatus, haccepted 0⟩

end Session

end CallBridge
