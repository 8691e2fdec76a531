import CallBridge.Json.Reader
import CallBridge.Json.Printer

/-!
# Strings in quotes

`Spells` says which symbols between two quotes stand for a text: plain characters, short escapes,
and long ones, alone or as a surrogate pair. Such symbols are read as the text, with whatever
follows the closing quote left untouched, and what the printer puts between quotes is one spelling.
-/

namespace CallBridge.Scan

/-! ## Spellings -/

/-- What may stand for one character between quotes. -/
inductive SpellsChar : Symbols → Char → Prop
  | plain {c : Char} (hquote : c ≠ '"') (hslash : c ≠ '\\') (hplain : 0x20 ≤ c.toNat) :
      SpellsChar [some c] c
  | short {x c : Char} (hx : unescape x = some c) : SpellsChar [some '\\', some x] c
  | long {a b c d : Symbol} {n : Nat} (hn : hexValue4 a b c d = some n)
      (hleading : isLeading n = false) (htrailing : isTrailing n = false) :
      SpellsChar [some '\\', some 'u', a, b, c, d] (Char.ofNat n)
  | pair {a b c d a' b' c' d' : Symbol} {n m : Nat} (hn : hexValue4 a b c d = some n)
      (hm : hexValue4 a' b' c' d' = some m) (hleading : isLeading n = true)
      (htrailing : isTrailing m = true) :
      SpellsChar [some '\\', some 'u', a, b, c, d, some '\\', some 'u', a', b', c', d']
        (pairChar n m)

/-- The symbols stand for the characters when they are put between quotes. -/
inductive Spells : Symbols → List Char → Prop
  | nil : Spells [] []
  | cons {s t : Symbols} {c : Char} {cs : List Char} (hs : SpellsChar s c) (ht : Spells t cs) :
      Spells (s ++ t) (c :: cs)

/-- A string in quotes. -/
def Quotes (s : Symbols) (text : String) : Prop :=
  ∃ t, s = some '"' :: (t ++ [some '"']) ∧ Spells t text.toList

/-! ## Reading -/

theorem isTrailing_of_isLeading {n : Nat} (hn : isLeading n = true) : isTrailing n = false := by
  simp only [isLeading, Bool.and_eq_true, decide_eq_true_eq] at hn
  simp only [isTrailing, Bool.and_eq_false_iff, decide_eq_false_iff_not]
  omega

theorem ne_u_of_unescape {x c : Char} (hx : unescape x = some c) : x ≠ 'u' := by
  rintro rfl
  cases hx

/-- One character is read from any of its spellings. -/
theorem stringSymbols_of_spellsChar {s : Symbols} {c : Char} (h : SpellsChar s c)
    (rest : Symbols) : stringSymbols (s ++ rest) = consSymbol (some c) (stringSymbols rest) := by
  cases h with
  | plain hquote hslash hplain =>
      rw [List.singleton_append, stringSymbols, if_neg (Nat.not_lt.2 hplain)]
      · exact hquote
      · exact fun _ => hslash
      · exact fun _ _ => hslash
      · exact fun _ _ _ => hslash
  | @short x c hx =>
      show stringSymbols (some '\\' :: some x :: rest) = _
      rw [stringSymbols]
      · simp only [Option.bind_some, hx]
      · exact fun hxu => ne_u_of_unescape hx (Option.some.inj hxu)
  | long hn hleading htrailing =>
      show stringSymbols (some '\\' :: some 'u' :: _ :: _ :: _ :: _ :: rest) = _
      rw [stringSymbols]
      simp [hn, hleading, htrailing]
  | pair hn hm hleading htrailing =>
      show stringSymbols (some '\\' :: some 'u' :: _ :: _ :: _ :: _ ::
        some '\\' :: some 'u' :: _ :: _ :: _ :: _ :: rest) = _
      rw [stringSymbols]
      simp [hn, hm, hleading, htrailing, isTrailing_of_isLeading hleading]

theorem stringSymbols_of_spells {s : Symbols} {cs : List Char} (h : Spells s cs)
    (rest : Symbols) :
    stringSymbols (s ++ some '"' :: rest) = .ok (Symbols.ofChars cs, rest) := by
  induction h with
  | nil => rfl
  | cons hs _ ih =>
      rw [List.append_assoc, stringSymbols_of_spellsChar hs, ih]
      rfl

theorem toText?_ofChars (cs : List Char) :
    Symbols.toText? (Symbols.ofChars cs) = some (String.ofList cs) := by
  have hmap : (Symbols.ofChars cs).mapM id = some cs := by
    induction cs with
    | nil => rfl
    | cons c cs ih =>
        simp only [Symbols.ofChars, List.map_cons, List.mapM_cons, id] at ih ⊢
        simp [ih]
  simp [Symbols.toText?, hmap]

/-- A string is read from after its opening quote. -/
theorem stringRest_of_spells {s : Symbols} {text : String} (h : Spells s text.toList)
    (rest : Symbols) : stringRest (s ++ some '"' :: rest) = .ok (text, rest) := by
  simp only [stringRest, stringSymbols_of_spells h, bind, Except.bind, toText?_ofChars,
    String.ofList_toList]

/-! ## What is printed -/

theorem hexDigit?_digitChar : ∀ d, d < 16 → Text.hexDigit? (Nat.digitChar d) = some d := by
  decide

theorem hexValue_hexDigit (n : Nat) : hexValue (some (Json.hexDigit n)) = some (n % 16) := by
  simp only [hexValue, Option.bind_some, Json.hexDigit]
  exact hexDigit?_digitChar (n % 16) (Nat.mod_lt n (by decide))

/-- The four digits of an escaped control character spell it. -/
theorem hexValue4_control {n : Nat} (hn : n < 0x20) :
    hexValue4 (some '0') (some '0') (some (Json.hexDigit (n / 16))) (some (Json.hexDigit n))
      = some n := by
  have hzero : hexValue (some '0') = some 0 := by decide
  simp only [hexValue4, hzero, hexValue_hexDigit, Option.some.injEq]
  omega

/-- A control character in its long form. -/
theorem spellsChar_control {c : Char} (hc : c.toNat < 0x20) :
    SpellsChar [some '\\', some 'u', some '0', some '0', some (Json.hexDigit (c.toNat / 16)),
      some (Json.hexDigit c.toNat)] c := by
  have hleading : isLeading c.toNat = false := by simp [isLeading]; omega
  have htrailing : isTrailing c.toNat = false := by simp [isTrailing]; omega
  have hlong := SpellsChar.long (hexValue4_control hc) hleading htrailing
  rwa [Char.ofNat_toNat] at hlong

/-- What a character is written as spells it. -/
theorem spellsChar_escape (c : Char) : SpellsChar (Symbols.ofChars (Json.escape c)) c := by
  unfold Json.escape
  split
  · subst_vars; exact .short rfl
  split
  · subst_vars; exact .short rfl
  split
  · next hquote hslash hplain => exact .plain hquote hslash hplain
  split
  · subst_vars; exact .short rfl
  split
  · subst_vars; exact .short rfl
  split
  · subst_vars; exact .short rfl
  split
  · subst_vars; exact .short rfl
  split
  · subst_vars; exact .short rfl
  · exact spellsChar_control (by omega)

theorem spells_escaped (cs : List Char) :
    Spells (Symbols.ofChars (cs.flatMap Json.escape)) cs := by
  induction cs with
  | nil => exact .nil
  | cons c cs ih =>
      rw [List.flatMap_cons, Symbols.ofChars, List.map_append]
      exact .cons (spellsChar_escape c) ih

theorem quotes_quoted (s : String) : Quotes (Symbols.ofChars (Json.quoted s)) s :=
  ⟨_, by simp [Json.quoted, Symbols.ofChars], spells_escaped s.toList⟩

/-- A string is read back from after its opening quote. -/
theorem stringRest_quoted (s : String) (rest : Symbols) :
    stringRest (Symbols.ofChars (s.toList.flatMap Json.escape) ++ some '"' :: rest)
      = .ok (s, rest) :=
  stringRest_of_spells (spells_escaped s.toList) rest

end CallBridge.Scan
