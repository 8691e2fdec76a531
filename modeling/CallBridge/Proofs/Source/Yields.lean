import CallBridge.Source.Form
import CallBridge.Proofs.Except

/-!
# What parsers return

`Yields P p` says that whatever the parser `p` returns has the property `P`. It is proved along the
parser: a rule for each way to put parsers together, and a lemma for each parser.

The property here is that tokens are `Unbroken`: no statement ends among them. The marks of an
operator are, unless it is a semicolon, and so is whatever is put together of unbroken pieces and
of groups.
-/

namespace CallBridge.Source

/-- No statement ends among the tokens. One may end inside a group. -/
def Unbroken (ts : List Token) : Prop := ∀ t ∈ ts, t.isSemicolon = false

@[simp] theorem unbroken_nil : Unbroken [] := nofun

@[simp] theorem unbroken_cons {t : Token} {ts : List Token} :
    Unbroken (t :: ts) ↔ t.isSemicolon = false ∧ Unbroken ts := List.forall_mem_cons

@[simp] theorem unbroken_append {ts us : List Token} :
    Unbroken (ts ++ us) ↔ Unbroken ts ∧ Unbroken us := List.forall_mem_append

@[simp] theorem isSemicolon_group (d : Delimiter) (inner : List Token) :
    (Token.group d inner).isSemicolon = false := rfl

@[simp] theorem isSemicolon_ident (i : Ident) : (Token.ident i).isSemicolon = false := rfl

@[simp] theorem isSemicolon_word (w : String) : (Token.word w).isSemicolon = false := rfl

@[simp] theorem isSemicolon_literal (l : Literal) : (Token.literal l).isSemicolon = false := rfl

@[simp] theorem isSemicolon_mark {c : Char} (hc : ';' ≠ c) (joint : Bool) :
    (Token.mark c joint).isSemicolon = false := by
  rw [Token.isSemicolon]
  intro joint' heq
  exact hc (Token.mark.inj heq).1.symm

theorem unbroken_marks {cs : List Char} (hcs : ';' ∉ cs) : Unbroken (Token.marks cs) := by
  fun_induction Token.marks cs with
  | case1 => exact unbroken_nil
  | case2 c => exact unbroken_cons.2 ⟨isSemicolon_mark (by simpa using hcs) false, unbroken_nil⟩
  | case3 c rest hrest ih =>
      rw [List.mem_cons, not_or] at hcs
      exact unbroken_cons.2 ⟨isSemicolon_mark hcs.1 true, ih hcs.2⟩

@[simp] theorem unbroken_operator {s : String} (hs : ';' ∉ s.toList) :
    Unbroken (Token.operator s) := unbroken_marks hs

namespace Parser

variable {α β : Type} {P : α → Prop} {Q : β → Prop}

/-- Whatever the parser returns has the property. -/
def Yields (P : α → Prop) (p : Parser α) : Prop := ∀ ts a rest, p ts = .ok (a, rest) → P a

namespace Yields

/-! ## Rules -/

theorem mono {P' : α → Prop} {p : Parser α} (hp : Yields P p) (h : ∀ a, P a → P' a) :
    Yields P' p := fun ts a rest ha => h a (hp ts a rest ha)

theorem any (p : Parser α) : Yields (fun _ => True) p := fun _ _ _ _ => trivial

theorem pure {a : α} (ha : P a) : Yields P (Pure.pure a) := by
  intro ts b rest hb
  cases hb
  exact ha

theorem throw (e : String) : Yields P (MonadExcept.throw e) := nofun

theorem bind {p : Parser α} {f : α → Parser β} (hp : Yields P p)
    (hf : ∀ a, P a → Yields Q (f a)) : Yields Q (p >>= f) := by
  intro ts b rest hb
  obtain ⟨⟨a, mid⟩, ha, hb⟩ := bind_eq_ok_iff.1 hb
  exact hf a (hp ts a mid ha) mid b rest hb

/-- What comes first may return anything. -/
theorem after {p : Parser α} {f : α → Parser β} (hf : ∀ a, Yields Q (f a)) : Yields Q (p >>= f) :=
  bind (any p) fun a _ => hf a

/-- Nothing comes after a failure. -/
theorem throw_bind (e : String) {f : α → Parser β} :
    Yields Q ((MonadExcept.throw e : Parser α) >>= f) :=
  bind (P := fun _ => False) (throw e) fun _ hfalse => hfalse.elim

theorem ite {c : Prop} [Decidable c] {p q : Parser α} (hp : Yields P p) (hq : Yields P q) :
    Yields P (if c then p else q) := by
  split
  · exact hp
  · exact hq

theorem refuse (message : String) : Yields P (Parser.refuse message) :=
  after fun _ => ite (throw _) (throw _)

theorem of_all {p : Parser α} (hp : Yields P p) {ts : List Token} {a : α}
    (ha : p.all ts = .ok a) : P a := by
  rw [all.eq_def] at ha
  split at ha
  · next b hb =>
      obtain rfl := Except.ok.inj ha
      exact hp ts b [] hb
  · cases ha
  · cases ha

theorem inside {p : Parser α} (hp : Yields P p) (ts : List Token) :
    Yields P (Parser.inside p ts) := by
  intro rest a rest' ha
  rw [Parser.inside.eq_def] at ha
  split at ha
  · next b hb =>
      cases ha
      exact hp.of_all hb
  · cases ha

end Yields

/-! ## Single tokens -/

theorem yields_op {s : String} (hs : ';' ∉ s.toList) : Yields Unbroken (op s) := by
  refine .after fun ts => ?_
  split
  · exact .after fun _ => .pure (unbroken_operator hs)
  · exact .throw _

theorem yields_op? {s : String} (hs : ';' ∉ s.toList) : Yields Unbroken (op? s) :=
  .after fun _ => .ite (yields_op hs) (.pure unbroken_nil)

theorem yields_word (w : String) : Yields Unbroken (word w) :=
  .after fun _ => .ite (.after fun _ => .pure (by simp)) (.refuse _)

theorem yields_word? (w : String) : Yields Unbroken (word? w) :=
  .after fun _ => .ite (yields_word w) (.pure unbroken_nil)

theorem yields_lifetime : Yields Unbroken lifetime := by
  refine .after fun ts => ?_
  split
  · exact .after fun _ => .pure (by simp)
  · exact .refuse _

theorem yields_lifetime? : Yields Unbroken lifetime? :=
  .after fun _ => .ite yields_lifetime (.pure unbroken_nil)

theorem yields_literal : Yields (fun l => Unbroken l.tokens) literal := by
  refine .mono (.any _) fun l _ => ?_
  cases l <;> simp [LiteralForm.tokens]

/-! ## Sequences -/

theorem yields_rounds {step : Parser (List Token × Bool)}
    (hstep : Yields (fun r => Unbroken r.1) step) (fuel : Nat) :
    Yields Unbroken (rounds step fuel) := by
  induction fuel with
  | zero => exact .pure unbroken_nil
  | succ fuel ih =>
      refine .bind hstep fun r hr => ?_
      exact .ite (.bind ih fun more hmore => .pure (unbroken_append.2 ⟨hr, hmore⟩)) (.pure hr)

theorem yields_repeated {step : Parser (List Token × Bool)}
    (hstep : Yields (fun r => Unbroken r.1) step) : Yields Unbroken (repeated step) :=
  .after fun _ => yields_rounds hstep _

end Parser

end CallBridge.Source
