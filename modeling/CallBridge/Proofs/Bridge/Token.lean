import CallBridge.Proofs.Bridge.Turn
import CallBridge.Proofs.Json.Numeral
import Mathlib.Algebra.Group.Nat.Defs
import Mathlib.Data.List.Basic
import Mathlib.Data.List.Nodup

/-!
# Tokens are used once

The tokens of a bridge are numbered by its calls, whether or not a call goes out. The count has 64
bits, so up to `2 ^ 64` calls no token comes twice and the next one is new.
-/

namespace CallBridge

variable {n : Nat}

namespace TokenSource

/-- A token tells its epoch and its count: the point between them is no digit. -/
theorem token_inj {e₁ e₂ : Nat} {i j : UInt64} :
    token e₁ i = token e₂ j ↔ e₁ = e₂ ∧ i = j := by
  have hpoint : ∀ k, '.' ∉ Nat.toDigits 10 k := by
    intro k hmem
    cases Scan.isDigit_of_mem_toDigits hmem
  constructor
  · intro h
    rw [token, token, CallId.text.injEq, String.ofList_inj] at h
    obtain ⟨hepoch, -, hcount⟩ := (List.append_cons_inj_of_notMem (hpoint _) (hpoint _)).1 h
    exact ⟨Scan.toDigits_injective hepoch, UInt64.toNat_inj.1 (Scan.toDigits_injective hcount)⟩
  · rintro ⟨rfl, rfl⟩
    rfl

/-- The token of call number `k`, for a count that may be too large to be represented. -/
def nth (epoch k : Nat) : CallId := token epoch (UInt64.ofNat k)

theorem nth_injOn {epoch i j : Nat} (hi : i < 2 ^ 64) (hj : j < 2 ^ 64)
    (h : nth epoch i = nth epoch j) : i = j := by
  have hnat := congrArg UInt64.toNat (token_inj.1 h).2
  rwa [UInt64.toNat_ofNat_of_lt' hi, UInt64.toNat_ofNat_of_lt' hj] at hnat

end TokenSource

/-! ## Calls in the trace -/

def Event.calledOf (b : Fin n) : Event n → Option CallId
  | .called c id _ _ => if c = b then some id else none
  | _ => none

/-- The tokens that calls on `b` have taken. -/
def calledIds (b : Fin n) (trace : List (Event n)) : List CallId :=
  trace.filterMap (Event.calledOf b)

/-- The number of calls made on `b`, refused ones included. -/
def calls (b : Fin n) (trace : List (Event n)) : Nat := (calledIds b trace).length

theorem calledIds_append (b : Fin n) (es es' : List (Event n)) :
    calledIds b (es ++ es') = calledIds b es ++ calledIds b es' :=
  List.filterMap_append

theorem calledIds_concat (b : Fin n) (es : List (Event n)) {e : Event n}
    (he : e.calledOf b = none) : calledIds b (es ++ [e]) = calledIds b es := by
  simp [calledIds, he]

theorem calledIds_idle (b : Fin n) {es : List (Event n)} (hes : ∀ e ∈ es, e.IsIdle) :
    calledIds b es = [] := by
  refine List.filterMap_eq_nil_iff.2 fun e he => ?_
  have hidle := hes e he
  cases e <;> trivial

theorem Host.Calm.calledIds {h h' : Host n} (hcalm : Calm h h') (b : Fin n) :
    CallBridge.calledIds b h'.trace = CallBridge.calledIds b h.trace := by
  obtain ⟨es, hes, htrace⟩ := hcalm.trace
  rw [htrace, calledIds_append, calledIds_idle b hes, List.append_nil]

/-- The tokens taken on each bridge are those numbered below its count. -/
def Host.Numbered (h : Host n) : Prop :=
  ∀ b, (h.bridge b).tokens.issued = UInt64.ofNat (calls b h.trace) ∧
    calledIds b h.trace
      = (List.range (calls b h.trace)).map (TokenSource.nth (h.bridge b).tokens.epoch)

namespace Host

/-- The tables of a bridge have nothing to do with its tokens. -/
theorem tokens_update (h : Host n) (d b : Fin n) {f : Bridge n → Bridge n}
    (hf : ∀ x, (f x).tokens = x.tokens) :
    ((h.update d f).bridge b).tokens = (h.bridge b).tokens :=
  h.field_update d b f Bridge.tokens hf

theorem tokens_release (h : Host n) (d b : Fin n) (id : CallId) :
    ((h.release d id).1.bridge b).tokens = (h.bridge b).tokens := by
  have hcancel := h.tokens_update d b (f := fun x => x.unlist id) fun _ => rfl
  have htake := (h.update d fun x => x.unlist id).tokens_update d b
    (f := fun x => x.takeAside id) fun _ => rfl
  exact htake.trans hcancel

/-- After the token of a call is taken, the bridge's count has moved by one. -/
theorem tokens_entered (h : Host n) (b d : Fin n) (name : String) (args : List Json) :
    (((h.entered d name args).bridge b).tokens = (h.bridge b).tokens ∧
        CallBridge.calledIds b (h.entered d name args).trace = CallBridge.calledIds b h.trace) ∨
      (((h.entered d name args).bridge b).tokens = (h.bridge b).tokens.advance ∧
        CallBridge.calledIds b (h.entered d name args).trace
          = CallBridge.calledIds b h.trace ++ [(h.bridge b).tokens.peek]) := by
  by_cases hb : b = d
  · subst hb
    refine .inr ⟨?_, ?_⟩
    · simp [entered, Bridge.enlist]
    · simp [entered, CallBridge.calledIds, Event.calledOf]
  · have hne : ¬ d = b := fun heq => hb heq.symm
    refine .inl ⟨?_, ?_⟩
    · simp [entered, bridge_update, hb]
    · simp [entered, CallBridge.calledIds, Event.calledOf, hne]

theorem tokens_call (h : Host n) (b d : Fin n) (name : String) (args : List Json) :
    (((h.call d name args).1.bridge b).tokens = (h.bridge b).tokens ∧
        CallBridge.calledIds b (h.call d name args).1.trace = CallBridge.calledIds b h.trace) ∨
      (((h.call d name args).1.bridge b).tokens = (h.bridge b).tokens.advance ∧
        CallBridge.calledIds b (h.call d name args).1.trace
          = CallBridge.calledIds b h.trace ++ [(h.bridge b).tokens.peek]) := by
  obtain ⟨sent, hcalm, hcall⟩ := h.call_cases d name args
  have hentered := h.tokens_entered b d name args
  rw [← hcalm.tokens b, ← hcalm.calledIds b] at hentered
  rcases hcall with hok | ⟨e, herror⟩
  · rw [hok, trace_emit, calledIds_concat b _ rfl]
    exact hentered
  · have htokens : ((sent.cancel d (h.bridge d).tokens.peek).1.bridge b).tokens
        = (sent.bridge b).tokens := sent.field_update d b _ Bridge.tokens fun _ => rfl
    rw [herror, htokens]
    exact hentered

theorem calls_call (h : Host n) (b : Fin n) (name : String) (args : List Json) :
    calls b (h.call b name args).1.trace = calls b h.trace + 1 := by
  obtain ⟨sent, hcalm, hcall⟩ := h.call_cases b name args
  have hsent : calls b sent.trace = calls b h.trace + 1 := by
    rw [calls, hcalm.calledIds b]
    simp [entered, calls, CallBridge.calledIds, Event.calledOf]
  rcases hcall with hok | ⟨e, herror⟩
  · rw [hok, calls, trace_emit, calledIds_concat b _ rfl]
    exact hsent
  · rw [herror]
    exact hsent

/-- A call takes the next token of its bridge. -/
theorem calledIds_call (h : Host n) (b : Fin n) (name : String) (args : List Json) :
    CallBridge.calledIds b (h.call b name args).1.trace
      = CallBridge.calledIds b h.trace ++ [(h.bridge b).tokens.peek] := by
  rcases h.tokens_call b b name args with ⟨-, hsame⟩ | ⟨-, hnext⟩
  · have hcount := h.calls_call b name args
    rw [calls, hsame, calls] at hcount
    omega
  · exact hnext

end Host

/-- A turn takes the next token of a bridge, or none of it. -/
theorem Turn.tokens {a a' : Host n × Custody n} (hturn : Turn a a') (b : Fin n) :
    ((a'.1.bridge b).tokens = (a.1.bridge b).tokens ∧
        calledIds b a'.1.trace = calledIds b a.1.trace) ∨
      ((a'.1.bridge b).tokens = (a.1.bridge b).tokens.advance ∧
        calledIds b a'.1.trace = calledIds b a.1.trace ++ [(a.1.bridge b).tokens.peek]) := by
  cases hturn with
  | quiet hquiet => exact .inl ⟨hquiet.calm.tokens b, hquiet.calm.calledIds b⟩
  | @refused h h' m d name args e hcall => simpa only [hcall] using h.tokens_call b d name args
  | @called h h' m d name args id hcall => simpa only [hcall] using h.tokens_call b d name args
  | @bound h m d id c hpending =>
      refine .inl ⟨?_, calledIds_concat b _ rfl⟩
      rw [Host.bindPending, Host.bridge_emit]
      exact h.tokens_update d b fun _ => rfl
  | @boundLate h m d id o c hpending harrived =>
      refine .inl ⟨h.tokens_update d b (f := fun x => x.takeAside id) fun _ => rfl, ?_⟩
      exact (calledIds_concat b _ rfl).trans (calledIds_concat b _ rfl)
  | boundLost c hpending harrived => exact .inl ⟨rfl, calledIds_concat b _ rfl⟩
  | @dropped h m d id =>
      exact .inl ⟨(h.emit (.dropped d id)).tokens_release d b id, calledIds_concat b _ rfl⟩
  | @expired h m d id harrived =>
      exact .inl ⟨(h.emit (.expired d id)).tokens_release d b id, calledIds_concat b _ rfl⟩
  | @taken h m d id o harrived =>
      refine .inl ⟨h.tokens_update d b (f := fun x => x.takeAside id) fun _ => rfl, ?_⟩
      exact calledIds_concat b _ rfl
  | unmatched hpending => exact .inl ⟨rfl, calledIds_concat b _ rfl⟩
  | @parked h m d r hpending =>
      exact .inl ⟨(h.emit (.returned d r)).tokens_update d b fun _ => rfl,
        calledIds_concat b _ rfl⟩
  | @fired h m d r c hpending =>
      refine .inl ⟨h.tokens_update d b (f := fun x => x.unlist r.id) fun _ => rfl, ?_⟩
      exact (calledIds_concat b _ rfl).trans (calledIds_concat b _ rfl)

theorem Turn.numbered {a a' : Host n × Custody n} (hturn : Turn a a') (ha : a.1.Numbered) :
    a'.1.Numbered := by
  intro b
  obtain ⟨hissued, hids⟩ := ha b
  rcases hturn.tokens b with ⟨htokens, hcalled⟩ | ⟨htokens, hcalled⟩
  · have hcount : calls b a'.1.trace = calls b a.1.trace := congrArg List.length hcalled
    rw [htokens, hcalled, hcount]
    exact ⟨hissued, hids⟩
  · -- The counter may wrap around here; `nth` wraps around with it.
    have hcount : calls b a'.1.trace = calls b a.1.trace + 1 := by
      rw [calls, hcalled, List.length_append, List.length_singleton, calls]
    have hpeek : (a.1.bridge b).tokens.peek
        = TokenSource.nth (a.1.bridge b).tokens.epoch (calls b a.1.trace) := by
      rw [TokenSource.peek, hissued, TokenSource.nth]
    rw [htokens, hcalled, hcount, hids, hpeek]
    refine ⟨?_, ?_⟩
    · rw [TokenSource.advance, hissued, UInt64.ofNat_add]
      rfl
    · rw [List.range_succ, List.map_append]
      rfl

/-- Turns only make calls more. -/
theorem Turn.calls_le {a a' : Host n × Custody n} (hturn : Turn a a') (b : Fin n) :
    calls b a.1.trace ≤ calls b a'.1.trace := by
  rcases hturn.tokens b with ⟨-, hcalled⟩ | ⟨-, hcalled⟩
  · exact (congrArg List.length hcalled).ge
  · rw [calls, calls, hcalled, List.length_append]
    exact Nat.le_add_right _ _

/-- No token is taken twice while the count lasts. -/
theorem Host.Numbered.nodup_calledIds {h : Host n} (hnum : h.Numbered) {b : Fin n}
    (hcalls : calls b h.trace ≤ 2 ^ 64) : (calledIds b h.trace).Nodup := by
  rw [(hnum b).2]
  refine List.Nodup.map_on ?_ List.nodup_range
  intro i hi j hj heq
  exact TokenSource.nth_injOn ((List.mem_range.1 hi).trans_le hcalls)
    ((List.mem_range.1 hj).trans_le hcalls) heq

/-- The next token is new while the count lasts. -/
theorem Host.Numbered.peek_notMem {h : Host n} (hnum : h.Numbered) {b : Fin n}
    (hcalls : calls b h.trace < 2 ^ 64) : (h.bridge b).tokens.peek ∉ calledIds b h.trace := by
  obtain ⟨hissued, hids⟩ := hnum b
  rw [hids, TokenSource.peek, hissued]
  intro hmem
  obtain ⟨k, hk, heq⟩ := List.mem_map.1 hmem
  have hlt := List.mem_range.1 hk
  exact hlt.ne (TokenSource.nth_injOn (hlt.trans hcalls) hcalls heq)

end CallBridge
