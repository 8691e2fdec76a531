import CallBridge.Proofs.Json.Numeral

/-!
# An integer has one literal

A text that is read as an integer in range is the decimal text of that integer: a literal has no
plus sign and no needless zeros, and minus zero is a double. Main statement: `number_eq_int`.
-/

namespace CallBridge.Scan

/-! ## Digits -/

theorem isDigit_some_iff {c : Char} : isDigit (some c) = true ↔ 48 ≤ c.toNat ∧ c.toNat ≤ 57 := by
  have hrange : ('0' ≤ c && c ≤ '9') = true ↔ 48 ≤ c.toNat ∧ c.toNat ≤ 57 := by
    rw [Bool.and_eq_true_iff, decide_eq_true_iff, decide_eq_true_iff]
    exact Iff.rfl
  rw [← hrange, isDigit, digitValue]
  split <;> simp_all

theorem digitValue_eq {c : Char} (hc : isDigit (some c) = true) :
    digitValue (some c) = some (digitOf c) := by
  rw [isDigit, digitValue] at hc
  rw [digitValue]
  split at hc
  · next hrange => rw [if_pos hrange, digitOf]
  · cases hc

theorem toDigits_digitOf {c : Char} (hc : isDigit (some c) = true) :
    digitOf c < 10 ∧ Nat.toDigits 10 (digitOf c) = [c] := by
  obtain ⟨hlow, hhigh⟩ := isDigit_some_iff.1 hc
  have hof : digitOf c = c.toNat - 48 := rfl
  have hlt : digitOf c < 10 := by omega
  have hchar : (digitOf c).digitChar = c := by
    apply Char.toNat_inj.1
    rw [Nat.toNat_digitChar_of_lt_ten hlt]
    omega
  exact ⟨hlt, by rw [Nat.toDigits_of_lt_base hlt, hchar]⟩

theorem digits_cons {c : Char} (hc : isDigit (some c) = true) (s : Symbols) :
    digits (some c :: s) = (digitOf c :: (digits s).1, (digits s).2) := by
  simp only [digits, List.takeWhile_cons, List.dropWhile_cons, hc, if_true, List.filterMap_cons,
    digitValue_eq hc]

/-- What is taken off the front are characters that are digits. -/
theorem exists_digits (s : Symbols) :
    ∃ cs, s = Symbols.ofChars cs ++ (digits s).2 ∧ (digits s).1 = cs.map digitOf ∧
      ∀ c ∈ cs, isDigit (some c) = true := by
  induction s with
  | nil => exact ⟨[], rfl, rfl, by simp⟩
  | cons x s ih =>
      cases hx : isDigit x with
      | false =>
          refine ⟨[], ?_, ?_, by simp⟩
          · simp [digits, Symbols.ofChars, hx]
          · simp [digits, hx]
      | true =>
          cases x with
          | none => cases hx
          | some c =>
              obtain ⟨cs, hs, hds, hcs⟩ := ih
              rw [digits_cons hx]
              refine ⟨c :: cs, ?_, ?_, ?_⟩
              · exact congrArg (some c :: ·) hs
              · rw [List.map_cons, ← hds]
              · intro d hd
                rcases List.mem_cons.1 hd with rfl | hmem
                · exact hx
                · exact hcs d hmem

/-- Digits read on from a positive value are put behind its decimal text. -/
theorem toDigits_foldl {cs : List Char} (hcs : ∀ c ∈ cs, isDigit (some c) = true) {value : Nat}
    (hvalue : 0 < value) :
    Nat.toDigits 10 ((cs.map digitOf).foldl (fun n d => n * 10 + d) value)
      = Nat.toDigits 10 value ++ cs := by
  induction cs generalizing value with
  | nil => simp
  | cons c cs ih =>
      obtain ⟨hlt, hdigit⟩ := toDigits_digitOf (hcs c List.mem_cons_self)
      have hnext : 0 < value * 10 + digitOf c := by omega
      have happend := Nat.toDigits_append_toDigits (b := 10) (by decide) hvalue hlt
      rw [hdigit, Nat.mul_comm] at happend
      rw [List.map_cons, List.foldl_cons, ih (fun d hd => hcs d (List.mem_cons_of_mem c hd)) hnext,
        ← happend, List.append_assoc]
      rfl

/-! ## Numbers -/

theorem wholePart_eq {s rest : Symbols} {ds : List Nat} (hs : wholePart s = .ok (ds, rest)) :
    s = Symbols.ofChars (Nat.toDigits 10 (decimalValue ds)) ++ rest := by
  rw [wholePart.eq_def] at hs
  split at hs
  · cases hs
  · -- A zero stands alone.
    split at hs
    · split at hs
      · cases hs
      · cases hs
        rfl
    · cases hs
      rfl
  · next x s hzero =>
      split at hs
      · next hx =>
          cases x with
          | none => cases hx
          | some c =>
              obtain ⟨cs, htail, hds, hcs⟩ := exists_digits s
              rw [digits_cons hx, hds] at hs
              obtain ⟨rfl, rfl⟩ := Prod.mk.inj (Except.ok.inj hs)
              obtain ⟨-, hdigit⟩ := toDigits_digitOf hx
              have hpos : 0 < digitOf c := by
                obtain ⟨hlow, -⟩ := isDigit_some_iff.1 hx
                have hne : c.toNat ≠ 48 := by
                  intro heq
                  exact hzero (congrArg some (Char.toNat_inj.1 heq))
                have hof : digitOf c = c.toNat - 48 := rfl
                omega
              have hvalue : decimalValue (digitOf c :: cs.map digitOf)
                  = (cs.map digitOf).foldl (fun n d => n * 10 + d) (digitOf c) := by
                simp [decimalValue]
              rw [hvalue, toDigits_foldl hcs hpos, hdigit]
              exact congrArg (some c :: ·) htail
      · cases hs

theorem fractionPart_eq_none {s rest : Symbols} (hs : fractionPart s = .ok (none, rest)) :
    s = rest := by
  rw [fractionPart.eq_def] at hs
  split at hs
  · next s =>
      cases hdigits : someDigits s with
      | error e => simp [hdigits, bind, Except.bind] at hs
      | ok p => simp [hdigits, bind, Except.bind] at hs
  · cases hs
    rfl

theorem exponentPart_eq_none {s rest : Symbols} (hs : exponentPart s = .ok (none, rest)) :
    s = rest := by
  rw [exponentPart.eq_def] at hs
  split at hs
  · next c s =>
      split at hs
      · cases hdigits : someDigits (exponentSign s).2 with
        | error e => simp [hdigits, bind, Except.bind] at hs
        | ok p => simp [hdigits, bind, Except.bind] at hs
      · cases hs
        rfl
  · cases hs
    rfl

/-- The parts of a literal, from after its sign on. -/
theorem literal_parts {s rest : Symbols} {l : Literal} (hs : literal s = .ok (l, rest)) :
    ∃ s₀ s₁ s₂, s = (if l.negative then [some '-'] else []) ++ s₀ ∧
      wholePart s₀ = .ok (l.whole, s₁) ∧ fractionPart s₁ = .ok (l.fraction, s₂) ∧
      exponentPart s₂ = .ok (l.exponent, rest) := by
  unfold literal at hs
  split at hs
  rename_i negative s₀ hsign
  have htext : s = (if negative then [some '-'] else []) ++ s₀ := by
    split at hsign
    · cases hsign
      rfl
    · cases hsign
      rfl
  cases hwhole : wholePart s₀ with
  | error e => simp [hwhole, bind, Except.bind] at hs
  | ok p =>
      cases hfraction : fractionPart p.2 with
      | error e => simp [hwhole, hfraction, bind, Except.bind] at hs
      | ok q =>
          cases hexponent : exponentPart q.2 with
          | error e => simp [hwhole, hfraction, hexponent, bind, Except.bind] at hs
          | ok r =>
              simp only [hwhole, hfraction, hexponent, bind, Except.bind, Except.ok.injEq,
                Prod.mk.injEq] at hs
              obtain ⟨rfl, rfl⟩ := hs
              exact ⟨s₀, p.2, q.2, htext, hwhole, hfraction, hexponent⟩

theorem val_of_ofInt? {j : Int} {i : Integer} (hi : Integer.ofInt? j = some i) : i.val = j := by
  rw [Integer.ofInt?] at hi
  split at hi
  · obtain rfl := Option.some.inj hi
    rfl
  · cases hi

theorem intText_neg {n : Nat} (hn : n ≠ 0) :
    Json.intText (-(n : Int)) = '-' :: Nat.toDigits 10 n := by
  obtain ⟨m, rfl⟩ := Nat.exists_eq_succ_of_ne_zero hn
  rfl

/-- The text of a literal that is an integer in range. -/
theorem literal_eq {s rest : Symbols} {l : Literal} {i : Integer} (hs : literal s = .ok (l, rest))
    (hi : l.integer? = some i) : s = Symbols.ofChars (Json.intText i.val) ++ rest := by
  obtain ⟨s₀, s₁, s₂, rfl, hwhole, hfraction, hexponent⟩ := literal_parts hs
  obtain ⟨negative, ds, fraction, exponent⟩ := l
  rw [Literal.integer?.eq_def] at hi
  split at hi
  · next hnone hnone' =>
      dsimp only at hnone hnone' hwhole hfraction hexponent hi ⊢
      subst hnone hnone'
      obtain rfl := fractionPart_eq_none hfraction
      obtain rfl := exponentPart_eq_none hexponent
      rw [wholePart_eq hwhole]
      cases negative with
      | false =>
          rw [if_neg Bool.false_ne_true] at hi
          have hval : i.val = (decimalValue ds : Int) := val_of_ofInt? hi
          rw [hval]
          rfl
      | true =>
          -- Minus zero is no integer.
          rw [if_pos rfl] at hi
          split at hi
          · cases hi
          · next hzero =>
              have hne : decimalValue ds ≠ 0 := fun h => hzero (Int.natCast_eq_zero.2 h)
              have hval : i.val = -(decimalValue ds : Int) := val_of_ofInt? hi
              rw [hval, intText_neg hne]
              rfl
  · cases hi

/-- What is read as an integer in range is its decimal text. -/
theorem number_eq_int {s rest : Symbols} {i : Integer} (hs : number s = .ok (.int i, rest)) :
    s = Symbols.ofChars (Json.intText i.val) ++ rest := by
  unfold number at hs
  cases hliteral : literal s with
  | error e => simp [hliteral, bind, Except.bind] at hs
  | ok p =>
      obtain ⟨l, rest'⟩ := p
      simp only [hliteral, bind, Except.bind, Literal.number?] at hs
      cases hinteger : l.integer? with
      | some j =>
          simp only [hinteger, Except.ok.injEq, Prod.mk.injEq, Number.int.injEq] at hs
          obtain ⟨rfl, rfl⟩ := hs
          exact literal_eq hliteral hinteger
      | none =>
          -- Without an integer the number is a double.
          rw [hinteger] at hs
          cases hfloat : l.float? with
          | none => simp [hfloat] at hs
          | some x => simp [hfloat] at hs

end CallBridge.Scan

theorem CallBridge.Json.eq_intText_of_parseNumber? {text : String} {i : Integer}
    (htext : parseNumber? text = some (.int i)) : text = String.ofList (intText i.val) := by
  rw [parseNumber?] at htext
  split at htext
  · next n heq =>
      obtain rfl := Option.some.inj htext
      have hchars := Scan.number_eq_int heq
      rw [List.append_nil] at hchars
      have hlist : text.toList = intText i.val :=
        (List.map_inj_right fun _ _ => Option.some.inj).1 hchars
      rw [← hlist, String.ofList_toList]
  · cases htext
