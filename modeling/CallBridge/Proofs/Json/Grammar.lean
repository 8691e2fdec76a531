import CallBridge.Proofs.Json.Literal
import CallBridge.Proofs.Json.RoundTrip

/-!
# Texts of values

The texts that are JSON, said without reading them: blanks, strings with their escapes, numbers,
and arrays and objects with blanks around their items. They only ask for the form, so that an
escaped surrogate may stand alone in a string, a number may be out of range and arrays may nest to
any depth. Passing over a string or a number takes these texts up to their end.
-/

namespace CallBridge.Json

open Scan

/-! ## Blanks and lists -/

/-- Nothing but blanks. -/
def Blank (s : Symbols) : Prop := ∀ x ∈ s, isBlank x = true

abbrev Blanks := { s : Symbols // Blank s }

def noBlanks : Blanks := ⟨[], nofun⟩

theorem noBlanks_append (s : Symbols) : noBlanks.1 ++ s = s := rfl

/-- A piece of text with blanks around it. -/
structure Padded where
  before : Blanks
  body : Symbols
  after : Blanks

/-- A piece of text alone. -/
def bare (s : Symbols) : Padded := ⟨noBlanks, s, noBlanks⟩

/-- What stands after an item of a list: the further items, each after a comma, and `last`. -/
def following : List Padded → Symbols → Symbols
  | [], last => last
  | p :: items, last => some ',' :: (p.before.1 ++ (p.body ++ (p.after.1 ++ following items last)))

/-- Items with a comma between each two, and `last` after them. -/
def joined : List Padded → Symbols → Symbols
  | [], last => last
  | p :: items, last => p.before.1 ++ (p.body ++ (p.after.1 ++ following items last))

theorem following_append (items : List Padded) (last rest : Symbols) :
    following items last ++ rest = following items (last ++ rest) := by
  induction items with
  | nil => rfl
  | cons p items ih => simp [following, ih]

theorem joined_append (items : List Padded) (last rest : Symbols) :
    joined items last ++ rest = joined items (last ++ rest) := by
  cases items with
  | nil => rfl
  | cons p items => simp [joined, following_append]

theorem length_le_following (items : List Padded) (last : Symbols) :
    items.length + last.length ≤ (following items last).length := by
  induction items with
  | nil => simp [following]
  | cons p items ih =>
      simp only [following, List.length_cons, List.length_append]
      omega

theorem length_body_le_following {items : List Padded} {p : Padded} (hp : p ∈ items)
    (last : Symbols) : p.body.length ≤ (following items last).length := by
  induction items with
  | nil => cases hp
  | cons q items ih =>
      simp only [following, List.length_cons, List.length_append]
      rcases List.mem_cons.1 hp with rfl | hmem
      · omega
      · have := ih hmem
        omega

theorem length_body_le_joined {items : List Padded} {p : Padded} (hp : p ∈ items)
    (last : Symbols) : p.body.length ≤ (joined items last).length := by
  cases items with
  | nil => cases hp
  | cons q items =>
      simp only [joined, List.length_append]
      rcases List.mem_cons.1 hp with rfl | hmem
      · omega
      · have := length_body_le_following hmem last
        omega

theorem skipBlanks_blanks (b : Blanks) (s : Symbols) : skipBlanks (b.1 ++ s) = skipBlanks s :=
  skipBlanks_append b.2 s

theorem endsNumber_blanks (b : Blanks) {s : Symbols} (hs : EndsNumber s) :
    EndsNumber (b.1 ++ s) := by
  obtain ⟨b, hb⟩ := b
  cases b with
  | nil => exact hs
  | cons x b =>
      have hx := hb x List.mem_cons_self
      simp only [isBlank, Bool.or_eq_true, decide_eq_true_eq] at hx
      rcases hx with ((rfl | rfl) | rfl) | rfl <;>
        exact ⟨by decide, by decide, by decide, by decide⟩

theorem endsNumber_following (items : List Padded) {last : Symbols} (hlast : EndsNumber last) :
    EndsNumber (following items last) := by
  cases items with
  | nil => exact hlast
  | cons p items => exact ⟨by decide, by decide, by decide, by decide⟩

/-! ## Strings -/

/-- What may stand between quotes where nobody asks what it says. -/
inductive Passable : Symbols → Prop
  | nil : Passable []
  | plain {x : Symbol} {s : Symbols} (hquote : x ≠ some '"') (hslash : x ≠ some '\\')
      (hplain : ∀ c, x = some c → 0x20 ≤ c.toNat) (hs : Passable s) : Passable (x :: s)
  | short {x c : Char} {s : Symbols} (hx : unescape x = some c) (hs : Passable s) :
      Passable (some '\\' :: some x :: s)
  | long {a b c d : Symbol} {n : Nat} {s : Symbols} (hn : hexValue4 a b c d = some n)
      (hs : Passable s) : Passable (some '\\' :: some 'u' :: a :: b :: c :: d :: s)

/-- A string is passed over from after its opening quote. -/
theorem skipString_of_passable {s : Symbols} (h : Passable s) (rest : Symbols) :
    skipString (s ++ some '"' :: rest) = .ok rest := by
  induction h with
  | nil => rfl
  | @plain x s hquote hslash hplain _ ih =>
      cases x with
      | none => exact ih
      | some c =>
          have hquote' : c ≠ '"' := fun h => hquote (congrArg some h)
          have hslash' : c ≠ '\\' := fun h => hslash (congrArg some h)
          rw [List.cons_append, skipString, if_neg (Nat.not_lt.2 (hplain c rfl)), ih]
          · exact hquote'
          · exact fun _ => hslash'
          · exact fun _ _ => hslash'
          · exact fun _ _ _ => hslash'
  | @short x c s hx _ ih =>
      rw [List.cons_append, List.cons_append, skipString]
      · simp only [Option.bind_some, hx, ih]
      · exact fun hxu => ne_u_of_unescape hx (Option.some.inj hxu)
  | @long a b c d n s hn _ ih =>
      rw [List.cons_append, List.cons_append, List.cons_append, List.cons_append, List.cons_append,
        List.cons_append, skipString]
      simp only [hn, ih]

/-! ## Numbers -/

/-- At least one digit. -/
def Digits (s : Symbols) : Prop := s ≠ [] ∧ ∀ x ∈ s, isDigit x = true

/-- A zero alone, or digits that do not begin with one. -/
def IsWhole (s : Symbols) : Prop := s = [some '0'] ∨ Digits s ∧ s.head? ≠ some (some '0')

def IsFraction (s : Symbols) : Prop := s = [] ∨ ∃ t, s = some '.' :: t ∧ Digits t

def IsExponent (s : Symbols) : Prop :=
  s = [] ∨ ∃ e sign t, s = some e :: (sign ++ t) ∧ (e = 'e' ∨ e = 'E') ∧
    (sign = [] ∨ sign = [some '+'] ∨ sign = [some '-']) ∧ Digits t

/-- A number of any size. -/
def IsNumber (s : Symbols) : Prop :=
  ∃ sign whole fraction exponent, s = sign ++ (whole ++ (fraction ++ exponent)) ∧
    (sign = [] ∨ sign = [some '-']) ∧ IsWhole whole ∧ IsFraction fraction ∧ IsExponent exponent

/-- No digit comes next. -/
def StopsDigits (s : Symbols) : Prop := ∀ x ∈ s.head?, isDigit x = false

theorem stopsDigits_of_endsNumber {s : Symbols} (hs : EndsNumber s) : StopsDigits s := by
  cases s with
  | nil => nofun
  | cons x s =>
      intro y hy
      obtain rfl := Option.some.inj hy
      exact hs.1

theorem digits_append {s rest : Symbols} (hs : ∀ x ∈ s, isDigit x = true)
    (hrest : StopsDigits rest) : (digits (s ++ rest)).2 = rest := by
  show (s ++ rest).dropWhile isDigit = rest
  rw [List.dropWhile_append_of_pos hs]
  cases rest with
  | nil => rfl
  | cons x rest => exact List.dropWhile_cons_of_neg (by simp [hrest x rfl])

theorem someDigits_of_digits {s rest : Symbols} (hs : Digits s) (hrest : StopsDigits rest) :
    ∃ ds, someDigits (s ++ rest) = .ok (ds, rest) := by
  obtain ⟨hne, hs⟩ := hs
  cases s with
  | nil => exact absurd rfl hne
  | cons x s =>
      refine ⟨(digits (x :: s ++ rest)).1, ?_⟩
      rw [List.cons_append, someDigits, if_pos (hs x List.mem_cons_self), ← List.cons_append]
      exact congrArg Except.ok (Prod.ext rfl (digits_append hs hrest))

theorem wholePart_of_isWhole {s rest : Symbols} (hs : IsWhole s) (hrest : StopsDigits rest) :
    ∃ ds, wholePart (s ++ rest) = .ok (ds, rest) := by
  rcases hs with rfl | ⟨⟨hne, hs⟩, hzero⟩
  · refine ⟨[0], ?_⟩
    cases rest with
    | nil => rfl
    | cons x rest => simp [wholePart, hrest x rfl]
  · cases s with
    | nil => exact absurd rfl hne
    | cons x s =>
        refine ⟨(digits (x :: s ++ rest)).1, ?_⟩
        rw [List.cons_append, wholePart, if_pos (hs x List.mem_cons_self), ← List.cons_append]
        · exact congrArg Except.ok (Prod.ext rfl (digits_append hs hrest))
        · rintro rfl
          exact hzero rfl

theorem fractionPart_of_isFraction {s rest : Symbols} (hs : IsFraction s)
    (hrest : StopsDigits rest) (hpoint : rest.head? ≠ some (some '.')) :
    ∃ o, fractionPart (s ++ rest) = .ok (o, rest) := by
  rcases hs with rfl | ⟨t, rfl, ht⟩
  · refine ⟨none, ?_⟩
    rw [List.nil_append, fractionPart.eq_def]
    split
    · exact absurd rfl hpoint
    · rfl
  · obtain ⟨ds, hds⟩ := someDigits_of_digits ht hrest
    refine ⟨some ds, ?_⟩
    rw [List.cons_append, fractionPart, hds]
    rfl

theorem exponentSign_append {sign s : Symbols}
    (hsign : sign = [] ∨ sign = [some '+'] ∨ sign = [some '-']) (hs : Digits s) (rest : Symbols) :
    (exponentSign (sign ++ (s ++ rest))).2 = s ++ rest := by
  rcases hsign with rfl | rfl | rfl
  · obtain ⟨hne, hs⟩ := hs
    cases s with
    | nil => exact absurd rfl hne
    | cons x s =>
        have hx := hs x List.mem_cons_self
        rw [List.nil_append, List.cons_append, exponentSign.eq_def]
        split
        · next heq =>
            obtain ⟨rfl, -⟩ := List.cons.inj heq
            cases hx
        · next heq =>
            obtain ⟨rfl, -⟩ := List.cons.inj heq
            cases hx
        · rfl
  · rfl
  · rfl

theorem exponentPart_of_isExponent {s rest : Symbols} (hs : IsExponent s)
    (hrest : EndsNumber rest) : ∃ o, exponentPart (s ++ rest) = .ok (o, rest) := by
  rcases hs with rfl | ⟨e, sign, t, rfl, he, hsign, ht⟩
  · exact ⟨none, exponentPart_ends hrest⟩
  · obtain ⟨ds, hds⟩ := someDigits_of_digits ht (stopsDigits_of_endsNumber hrest)
    have hmark : (e = 'e' || e = 'E') = true := by simpa using he
    have hsplit := exponentSign_append hsign ht rest
    rcases hp : exponentSign (sign ++ (t ++ rest)) with ⟨negative, u⟩
    rw [hp] at hsplit
    obtain rfl : u = t ++ rest := hsplit
    refine ⟨some (negative, ds), ?_⟩
    rw [List.cons_append, List.append_assoc, exponentPart, if_pos hmark, hp]
    simp only [hds, bind, Except.bind]

theorem stopsDigits_exponent {s rest : Symbols} (hs : IsExponent s) (hrest : EndsNumber rest) :
    StopsDigits (s ++ rest) ∧ (s ++ rest).head? ≠ some (some '.') := by
  rcases hs with rfl | ⟨e, sign, t, rfl, he, -⟩
  · refine ⟨stopsDigits_of_endsNumber hrest, ?_⟩
    cases rest with
    | nil => nofun
    | cons x rest => exact fun h => hrest.2.1 (Option.some.inj h)
  · rcases he with rfl | rfl <;> exact ⟨fun x hx => Option.some.inj hx ▸ rfl, by simp⟩

theorem stopsDigits_fraction {s rest : Symbols} (hs : IsFraction s) (hrest : StopsDigits rest) :
    StopsDigits (s ++ rest) := by
  rcases hs with rfl | ⟨t, rfl, -⟩
  · exact hrest
  · exact fun x hx => Option.some.inj hx ▸ rfl

theorem head_of_isWhole {s : Symbols} (hs : IsWhole s) :
    ∃ c t, s = some c :: t ∧ isDigit (some c) = true := by
  rcases hs with rfl | ⟨⟨hne, hdigits⟩, -⟩
  · exact ⟨'0', [], rfl, rfl⟩
  · cases s with
    | nil => exact absurd rfl hne
    | cons x t =>
        have hx := hdigits x List.mem_cons_self
        cases x with
        | none => cases hx
        | some c => exact ⟨c, t, rfl, hx⟩

/-- The first symbol of a number tells that it is one. -/
theorem head_of_isNumber {s : Symbols} (hs : IsNumber s) :
    ∃ c t, s = some c :: t ∧ (c = '-' ∨ isDigit (some c) = true) := by
  obtain ⟨sign, whole, fraction, exponent, rfl, hsign, hwhole, -⟩ := hs
  rcases hsign with rfl | rfl
  · obtain ⟨c, t, rfl, hc⟩ := head_of_isWhole hwhole
    exact ⟨c, _, rfl, .inr hc⟩
  · exact ⟨'-', _, rfl, .inl rfl⟩

/-- A number is taken up to its end, whatever its size. -/
theorem literal_of_isNumber {s rest : Symbols} (hs : IsNumber s) (hrest : EndsNumber rest) :
    ∃ l, literal (s ++ rest) = .ok (l, rest) := by
  obtain ⟨sign, whole, fraction, exponent, rfl, hsign, hwhole, hfraction, hexponent⟩ := hs
  obtain ⟨hstop, hpoint⟩ := stopsDigits_exponent hexponent hrest
  obtain ⟨ds, hds⟩ := wholePart_of_isWhole hwhole (stopsDigits_fraction hfraction hstop)
  obtain ⟨f, hf⟩ := fractionPart_of_isFraction hfraction hstop hpoint
  obtain ⟨e, he⟩ := exponentPart_of_isExponent hexponent hrest
  simp only [List.append_assoc]
  rcases hsign with rfl | rfl
  · refine ⟨⟨false, ds, f, e⟩, ?_⟩
    obtain ⟨c, t, rfl, hc⟩ := head_of_isWhole hwhole
    unfold literal
    split
    rename_i heq
    split at heq
    · rename_i hminus
      rw [(List.cons.inj hminus).1] at hc
      cases hc
    · obtain ⟨rfl, rfl⟩ := Prod.mk.inj heq
      rw [List.nil_append, hds]
      simp only [hf, he, bind, Except.bind]
  · refine ⟨⟨true, ds, f, e⟩, ?_⟩
    simp only [List.singleton_append, literal, hds, hf, he, bind, Except.bind]

/-! ## Values -/

/-- A member of an object: a key and, after a colon, a value. -/
structure MemberText where
  key : Padded
  value : Padded

/-- The member as one piece of text. -/
def MemberText.toPadded (m : MemberText) : Padded :=
  ⟨m.key.before,
    m.key.body ++ (m.key.after.1 ++ some ':' :: (m.value.before.1 ++ m.value.body)),
    m.value.after⟩

/-- The text is that of a value. -/
inductive IsValue : Symbols → Prop
  | null : IsValue (Symbols.ofChars ['n', 'u', 'l', 'l'])
  | true : IsValue (Symbols.ofChars ['t', 'r', 'u', 'e'])
  | false : IsValue (Symbols.ofChars ['f', 'a', 'l', 's', 'e'])
  | number {s : Symbols} (hs : IsNumber s) : IsValue s
  | string {s : Symbols} (hs : Passable s) : IsValue (some '"' :: (s ++ [some '"']))
  | array (items : List Padded) (inner : Blanks) (hitems : ∀ p ∈ items, IsValue p.body) :
      IsValue (some '[' :: joined items (inner.1 ++ [some ']']))
  | object (members : List MemberText) (inner : Blanks)
      (hkeys : ∀ m ∈ members, ∃ s, m.key.body = some '"' :: (s ++ [some '"']) ∧ Passable s)
      (hvalues : ∀ m ∈ members, IsValue m.value.body) :
      IsValue (some '{' :: joined (members.map MemberText.toPadded) (inner.1 ++ [some '}']))

/-- The text begins like a value, and not with a blank or a closing bracket. -/
def StartsItem (s : Symbols) : Prop := ∃ c t, s = some c :: t ∧ Begins c

theorem begins_number {c : Char} (hc : c = '-' ∨ isDigit (some c) = true) : Begins c := by
  rcases hc with rfl | hc
  · exact ⟨by decide, by decide, by decide⟩
  · exact begins_of_isDigit (Char.isDigit_iff_toNat.2 (isDigit_some_iff.1 hc))

theorem startsItem_of_isValue {s : Symbols} (hs : IsValue s) : StartsItem s := by
  cases hs with
  | null => exact ⟨_, _, rfl, by decide, by decide, by decide⟩
  | true => exact ⟨_, _, rfl, by decide, by decide, by decide⟩
  | false => exact ⟨_, _, rfl, by decide, by decide, by decide⟩
  | number hs =>
      obtain ⟨c, t, rfl, hc⟩ := head_of_isNumber hs
      exact ⟨c, t, rfl, begins_number hc⟩
  | string => exact ⟨_, _, rfl, by decide, by decide, by decide⟩
  | array => exact ⟨_, _, rfl, by decide, by decide, by decide⟩
  | object => exact ⟨_, _, rfl, by decide, by decide, by decide⟩

/-! ## What is printed -/

section Printed

variable (layout : Layout)

/-- The break before an element. -/
def lineBreak (level : Nat) : Blanks :=
  ⟨Symbols.ofChars (layout.newline level), isBlank_newline layout level⟩

/-- What stands between a colon and the value. -/
def colonGap : Layout → Blanks
  | .compact => noBlanks
  | .pretty => ⟨[some ' '], by simp [Blank, isBlank]⟩

theorem ofChars_colon : Symbols.ofChars layout.colon = some ':' :: (colonGap layout).1 := by
  cases layout <;> rfl

def printedItem (level : Nat) (v : Json) : Padded :=
  ⟨lineBreak layout level, Symbols.ofChars (render layout level v), noBlanks⟩

def printedMember (level : Nat) (m : String × Json) : MemberText :=
  ⟨⟨lineBreak layout level, Symbols.ofChars (quoted m.1), noBlanks⟩,
    ⟨colonGap layout, Symbols.ofChars (render layout level m.2), noBlanks⟩⟩

theorem ofChars_renderItems (level : Nat) (vs : List Json) (last : Symbols) :
    Symbols.ofChars (renderItems layout level vs) ++ last
      = following (vs.map (printedItem layout level)) last := by
  induction vs with
  | nil => rfl
  | cons v vs ih =>
      rw [List.map_cons, following, ← ih, renderItems]
      simp [Symbols.ofChars, printedItem, lineBreak, noBlanks]

theorem ofChars_renderMembers (level : Nat) (ms : List (String × Json)) (last : Symbols) :
    Symbols.ofChars (renderMembers layout level ms) ++ last
      = following (ms.map fun m => (printedMember layout level m).toPadded) last := by
  induction ms with
  | nil => rfl
  | cons m ms ih =>
      obtain ⟨k, v⟩ := m
      have hcolon := ofChars_colon layout
      rw [Symbols.ofChars] at hcolon
      rw [List.map_cons, following, ← ih, renderMembers]
      simp [Symbols.ofChars, printedMember, MemberText.toPadded, lineBreak, noBlanks, hcolon]

theorem ofChars_render_items (level : Nat) (v : Json) (vs : List Json) :
    Symbols.ofChars (render layout level (.array (v :: vs)))
      = some '[' :: joined ((v :: vs).map (printedItem layout (level + 1)))
          ((lineBreak layout level).1 ++ [some ']']) := by
  rw [← List.append_nil (Symbols.ofChars _), ofChars_render_array, ofChars_renderItems]
  rfl

theorem ofChars_render_members (level : Nat) (m : String × Json) (ms : List (String × Json)) :
    Symbols.ofChars (render layout level (.object (m :: ms)))
      = some '{' :: joined ((m :: ms).map fun m => (printedMember layout (level + 1) m).toPadded)
          ((lineBreak layout level).1 ++ [some '}']) := by
  obtain ⟨k, v⟩ := m
  rw [← List.append_nil (Symbols.ofChars _), ofChars_render_object, ofChars_renderMembers,
    ofChars_colon]
  simp [joined, printedMember, MemberText.toPadded, lineBreak, noBlanks]

end Printed

end CallBridge.Json
