import CallBridge.Json.Reader
import CallBridge.Json.Printer

/-!
# Integer numerals read back

The decimal text of an integer in range, followed by anything that cannot belong to a number, is
read as that integer, and the rest is left untouched.
-/

namespace CallBridge.Scan

/-! ## Digits -/

/-- What may stand after a number without becoming part of it. -/
def EndsNumber : Symbols → Prop
  | [] => True
  | x :: _ => isDigit x = false ∧ x ≠ some '.' ∧ x ≠ some 'e' ∧ x ≠ some 'E'

theorem digitValue_of_isDigit {c : Char} (hc : c.isDigit = true) :
    digitValue (some c) = some (c.toNat - '0'.toNat) := by
  have hrange : '0' ≤ c ∧ c ≤ '9' := by
    simpa [Char.isDigit, Char.le_def] using hc
  simp [digitValue, hrange]

theorem isDigit_of_isDigit {c : Char} (hc : c.isDigit = true) : isDigit (some c) = true := by
  simp [isDigit, digitValue_of_isDigit hc]

/-- The value of one decimal digit. -/
def digitOf (c : Char) : Nat := c.toNat - '0'.toNat

theorem digits_ofChars_append {cs : List Char} {rest : Symbols}
    (hcs : ∀ c ∈ cs, c.isDigit = true) (hrest : EndsNumber rest) :
    digits (Symbols.ofChars cs ++ rest) = (cs.map digitOf, rest) := by
  induction cs with
  | nil =>
      cases rest with
      | nil => simp [digits, Symbols.ofChars]
      | cons x xs =>
          have hx : isDigit x = false := hrest.1
          simp [digits, Symbols.ofChars, hx]
  | cons c cs ih =>
      have hc : c.isDigit = true := hcs c List.mem_cons_self
      have ih' := ih fun d hd => hcs d (List.mem_cons_of_mem _ hd)
      simp only [digits, Symbols.ofChars, Prod.mk.injEq] at ih' ⊢
      simp [isDigit_of_isDigit hc, digitValue_of_isDigit hc, digitOf, ih']

theorem decimalValue_map_digitOf (cs : List Char) :
    decimalValue (cs.map digitOf) = Nat.ofDigitChars 10 cs 0 := by
  simp [decimalValue, Nat.ofDigitChars_eq_foldl, List.foldl_map, digitOf, Nat.mul_comm]

theorem decimalValue_toDigits (n : Nat) :
    decimalValue ((Nat.toDigits 10 n).map digitOf) = n := by
  rw [decimalValue_map_digitOf, Nat.ofDigitChars_ten_toDigits]

theorem toDigits_injective {i j : Nat} (h : Nat.toDigits 10 i = Nat.toDigits 10 j) : i = j := by
  have hi := Nat.ofDigitChars_ten_toDigits (n := i)
  rw [h, Nat.ofDigitChars_ten_toDigits] at hi
  exact hi.symm

theorem isDigit_of_mem_toDigits {n : Nat} {c : Char} (hc : c ∈ Nat.toDigits 10 n) :
    c.isDigit = true :=
  Nat.isDigit_of_mem_toDigits (by decide) (by decide) hc

/-- Only zero has a numeral that begins with a zero. -/
theorem head_toDigits_pos {n : Nat} (hn : 0 < n) :
    ∃ c cs, Nat.toDigits 10 n = c :: cs ∧ c ≠ '0' := by
  induction n using Nat.base_induction 10 (by decide) with
  | single m hm =>
      refine ⟨m.digitChar, [], Nat.toDigits_of_lt_base hm, ?_⟩
      rw [ne_eq, Nat.digitChar_eq_zero]
      omega
  | digit m k hk hm ih =>
      obtain ⟨c, cs, hcs, hc⟩ := ih hm
      refine ⟨c, cs ++ Nat.toDigits 10 k, ?_, hc⟩
      rw [← Nat.toDigits_append_toDigits (by decide) hm hk, hcs]
      rfl

/-! ## Numbers -/

theorem wholePart_toDigits (n : Nat) {rest : Symbols} (hrest : EndsNumber rest) :
    wholePart (Symbols.ofChars (Nat.toDigits 10 n) ++ rest)
      = .ok ((Nat.toDigits 10 n).map digitOf, rest) := by
  rcases Nat.eq_zero_or_pos n with rfl | hn
  · cases rest with
    | nil => rfl
    | cons x xs =>
        have hx : isDigit x = false := hrest.1
        simp [wholePart, Symbols.ofChars, hx, digitOf]
  · obtain ⟨c, cs, hcs, hc⟩ := head_toDigits_pos hn
    have hdigit : isDigit (some c) = true :=
      isDigit_of_isDigit (isDigit_of_mem_toDigits (n := n) (by simp [hcs]))
    have hdigits : digits (Symbols.ofChars (Nat.toDigits 10 n) ++ rest)
        = ((Nat.toDigits 10 n).map digitOf, rest) :=
      digits_ofChars_append (fun _ => isDigit_of_mem_toDigits) hrest
    rw [hcs] at hdigits ⊢
    simp only [Symbols.ofChars, List.map_cons, List.cons_append] at hdigits ⊢
    rw [wholePart.eq_def]
    split
    · contradiction
    · rename_i heq
      simp_all
    · rename_i heq
      simp only [List.cons.injEq] at heq
      obtain ⟨rfl, rfl⟩ := heq
      rw [if_pos hdigit, hdigits]

theorem fractionPart_ends {rest : Symbols} (hrest : EndsNumber rest) :
    fractionPart rest = .ok (none, rest) := by
  rw [fractionPart.eq_def]
  split
  · exact absurd rfl hrest.2.1
  · rfl

theorem exponentPart_ends {rest : Symbols} (hrest : EndsNumber rest) :
    exponentPart rest = .ok (none, rest) := by
  rw [exponentPart.eq_def]
  split
  · obtain ⟨-, -, he, hE⟩ := hrest
    simp_all
  · rfl

theorem literal_unsigned (n : Nat) {rest : Symbols} (hrest : EndsNumber rest) :
    literal (Symbols.ofChars (Nat.toDigits 10 n) ++ rest)
      = .ok (⟨false, (Nat.toDigits 10 n).map digitOf, none, none⟩, rest) := by
  have hsign : ∀ s, Symbols.ofChars (Nat.toDigits 10 n) ++ rest ≠ some '-' :: s := by
    intro s hs
    cases hcs : Nat.toDigits 10 n with
    | nil => simp at hcs
    | cons c cs =>
        have hc : c.isDigit = true := isDigit_of_mem_toDigits (n := n) (by simp [hcs])
        simp only [hcs, Symbols.ofChars, List.map_cons, List.cons_append, List.cons.injEq,
          Option.some.injEq] at hs
        simp [hs.1, Char.isDigit] at hc
  unfold literal
  split
  rename_i heq
  split at heq
  · rename_i hs
    exact absurd hs (hsign _)
  · obtain ⟨rfl, rfl⟩ := Prod.mk.inj heq
    simp only [wholePart_toDigits n hrest, fractionPart_ends hrest, exponentPart_ends hrest, bind,
      Except.bind]

theorem literal_signed (n : Nat) {rest : Symbols} (hrest : EndsNumber rest) :
    literal (some '-' :: (Symbols.ofChars (Nat.toDigits 10 n) ++ rest))
      = .ok (⟨true, (Nat.toDigits 10 n).map digitOf, none, none⟩, rest) := by
  simp only [literal, wholePart_toDigits n hrest, fractionPart_ends hrest,
    exponentPart_ends hrest, bind, Except.bind]

theorem integer?_unsigned {n : Nat} {i : Integer} (hi : i.val = n) :
    (Literal.mk false ((Nat.toDigits 10 n).map digitOf) none none).integer? = some i := by
  have hfits : Integer.ofInt? (n : Int) = some i := by
    rw [← hi]
    exact Integer.ofInt?_val i
  simp [Literal.integer?, decimalValue_toDigits, hfits]

theorem integer?_signed {n : Nat} {i : Integer} (hi : i.val = Int.negSucc n) :
    (Literal.mk true ((Nat.toDigits 10 (n + 1)).map digitOf) none none).integer? = some i := by
  have hneg : -((n + 1 : Nat) : Int) = i.val := by rw [hi]; rfl
  have hfits : Integer.ofInt? (-((n + 1 : Nat) : Int)) = some i := by
    rw [hneg]
    exact Integer.ofInt?_val i
  have hzero : ((n + 1 : Nat) : Int) ≠ 0 := by omega
  simp only [Literal.integer?, decimalValue_toDigits, hfits, hzero, if_true, if_false]

/-- A literal that fits an integer is that integer. -/
theorem number_of_literal {s rest : Symbols} {l : Literal} {i : Integer}
    (hl : literal s = .ok (l, rest)) (hi : l.integer? = some i) :
    number s = .ok (.int i, rest) := by
  simp only [number, hl, bind, Except.bind, Literal.number?, hi]

/-- An integer in range is read back from its decimal text. -/
theorem number_intText (i : Integer) {rest : Symbols} (hrest : EndsNumber rest) :
    number (Symbols.ofChars (Json.intText i.val) ++ rest) = .ok (.int i, rest) := by
  cases hi : i.val with
  | ofNat n => exact number_of_literal (literal_unsigned n hrest) (integer?_unsigned hi)
  | negSucc n => exact number_of_literal (literal_signed (n + 1) hrest) (integer?_signed hi)

end CallBridge.Scan
