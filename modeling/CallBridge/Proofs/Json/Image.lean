import CallBridge.Proofs.Except
import CallBridge.Proofs.Json.RoundTrip
import CallBridge.Proofs.Keyed

/-!
# What reading gives

The numbers that a text is written with can be told without reading it as a value: they are the
runs of number characters outside its strings (`numerals`), also where a later member replaces
the one they stand in. Where each of them is the decimal text of an integer in range, a value that
is read holds integers only. Its objects are sorted and it nests no deeper than reading allows.
Main statement: `Json.readable_of_parse?`.
-/

namespace CallBridge

/-! ## The numbers of a text -/

namespace Scan

/-- Where in a text a scan stands: outside strings and numbers, in a number of which `run` was
passed, in a string, or after a backslash there. -/
inductive Place where
  | outside
  | number (run : Symbols)
  | string
  | escape
deriving DecidableEq

def startsNumeral (x : Symbol) : Bool := x = some '-' || isDigit x

def inNumeral (x : Symbol) : Bool :=
  startsNumeral x || x = some '+' || x = some '.' || x = some 'e' || x = some 'E'

/-- Where a symbol leads from outside. -/
def enter (x : Symbol) : Place :=
  if x = some '"' then .string else if startsNumeral x then .number [x] else .outside

/-- The numbers of a text, each as it is written. -/
def numerals : Place → Symbols → List Symbols
  | .number run, [] => [run]
  | _, [] => []
  | .outside, x :: rest => numerals (enter x) rest
  | .number run, x :: rest =>
      if inNumeral x then numerals (.number (run ++ [x])) rest
      else run :: numerals (enter x) rest
  | .string, x :: rest =>
      if x = some '"' then numerals .outside rest
      else if x = some '\\' then numerals .escape rest
      else numerals .string rest
  | .escape, _ :: rest => numerals .string rest

/-- Every number of the text is the decimal text of an integer in range, which `-0` is not. -/
def AllIntegers (s : Symbols) : Prop :=
  ∀ run ∈ numerals .outside s, ∃ i : Integer, run = Symbols.ofChars (Json.intText i.val)

theorem allIntegers_of_map {s : Symbols} (is : List Integer)
    (h : numerals .outside s = is.map fun i => Symbols.ofChars (Json.intText i.val)) :
    AllIntegers s := by
  intro run hrun
  rw [h] at hrun
  obtain ⟨i, -, rfl⟩ := List.mem_map.1 hrun
  exact ⟨i, rfl⟩

theorem AllIntegers.of_numerals {s rest : Symbols} (hs : AllIntegers s)
    (h : numerals .outside s = numerals .outside rest) : AllIntegers rest := by
  unfold AllIntegers at hs ⊢
  rwa [← h]

theorem numerals_outside (x : Symbol) (rest : Symbols) :
    numerals .outside (x :: rest) = numerals (enter x) rest := rfl

theorem enter_of_isBlank {x : Symbol} (hx : isBlank x = true) : enter x = .outside := by
  simp only [isBlank, Bool.or_eq_true, decide_eq_true_eq] at hx
  rcases hx with ((rfl | rfl) | rfl) | rfl <;> rfl

theorem numerals_skipBlanks (s : Symbols) :
    numerals .outside (skipBlanks s) = numerals .outside s := by
  unfold skipBlanks
  induction s with
  | nil => rfl
  | cons x rest ih =>
      by_cases hx : isBlank x = true
      · rw [List.dropWhile_cons_of_pos hx, ih, numerals_outside, enter_of_isBlank hx]
      · rw [List.dropWhile_cons_of_neg hx]

theorem numerals_of_skipBlanks {s rest : Symbols} {x : Symbol} (h : skipBlanks s = x :: rest) :
    numerals .outside s = numerals (enter x) rest := by
  rw [← numerals_skipBlanks, h, numerals_outside]

theorem numerals_of_mark {c : Char} {s rest : Symbols} (h : mark c s = .ok rest) :
    numerals .outside s = numerals (enter (some c)) rest := by
  rw [mark] at h
  split at h
  · cases h
  · next x rest' hblanks =>
      split at h
      · next hx =>
          obtain rfl := Except.ok.inj h
          rw [numerals_of_skipBlanks hblanks, hx]
      · cases h

theorem numerals_of_word {cs : List Char} {s rest : Symbols}
    (hcs : cs.all fun c => enter (some c) = .outside) (h : word cs s = .ok rest) :
    numerals .outside s = numerals .outside rest := by
  induction cs generalizing s with
  | nil =>
      obtain rfl := Except.ok.inj h
      rfl
  | cons c cs ih =>
      rw [List.all_cons, Bool.and_eq_true, decide_eq_true_eq] at hcs
      cases s with
      | nil => cases h
      | cons x s =>
          rw [word] at h
          split at h
          · next hx =>
              rw [numerals_outside, hx, hcs.1]
              exact ih hcs.2 h
          · cases h

theorem AllIntegers.of_word {cs : List Char} {s tail rest : Symbols} {x : Symbol}
    (hs : AllIntegers s) (hstart : skipBlanks s = x :: tail) (hx : enter x = .outside)
    (hcs : cs.all fun c => enter (some c) = .outside) (hword : word cs tail = .ok rest) :
    AllIntegers rest := by
  have hblanks := numerals_of_skipBlanks hstart
  rw [hx] at hblanks
  exact hs.of_numerals (hblanks.trans (numerals_of_word hcs hword))

/-! ### Strings -/

theorem numerals_string {x : Symbol} (hquote : x ≠ some '"') (hslash : x ≠ some '\\')
    (rest : Symbols) : numerals .string (x :: rest) = numerals .string rest := by
  rw [numerals, if_neg hquote, if_neg hslash]

theorem ne_of_hexValue {x : Symbol} {n : Nat} (h : hexValue x = some n) :
    x ≠ some '"' ∧ x ≠ some '\\' := by
  constructor <;>
  · rintro rfl
    revert h
    simp [hexValue, Text.hexDigit?]

theorem numerals_hex {a b c d : Symbol} {n : Nat} (h : hexValue4 a b c d = some n)
    (rest : Symbols) : numerals .string (a :: b :: c :: d :: rest) = numerals .string rest := by
  rw [hexValue4] at h
  split at h
  · next ha hb hc hd =>
      rw [numerals_string (ne_of_hexValue ha).1 (ne_of_hexValue ha).2,
        numerals_string (ne_of_hexValue hb).1 (ne_of_hexValue hb).2,
        numerals_string (ne_of_hexValue hc).1 (ne_of_hexValue hc).2,
        numerals_string (ne_of_hexValue hd).1 (ne_of_hexValue hd).2]
  · cases h

theorem numerals_escape (x : Symbol) (rest : Symbols) :
    numerals .string (some '\\' :: x :: rest) = numerals .string rest := rfl

theorem exists_of_consSymbol {x : Symbol} {r : Except Fault (Piece Symbols)} {p : Piece Symbols}
    (h : consSymbol x r = .ok p) : ∃ xs, r = .ok (xs, p.2) := by
  cases r with
  | error e => cases h
  | ok q =>
      obtain rfl := Except.ok.inj h
      exact ⟨q.1, rfl⟩

/-- A string that is read is passed over up to its closing quote. -/
theorem numerals_of_stringSymbols {s : Symbols} {p : Piece Symbols}
    (h : stringSymbols s = .ok p) : numerals .string s = numerals .outside p.2 := by
  -- One case for each way to go on after a symbol; all others are refusals.
  fun_induction stringSymbols s generalizing p with
  | case2 rest =>
      obtain rfl := Except.ok.inj h
      rfl
  | case7 a b c d n hn _ _ a' b' c' d' rest m hm _ ih =>
      obtain ⟨xs, hxs⟩ := exists_of_consSymbol h
      rw [numerals_escape, numerals_hex hn, numerals_escape, numerals_hex hm, ih hxs]
  | case12 a b c d rest n hn _ _ ih =>
      obtain ⟨xs, hxs⟩ := exists_of_consSymbol h
      rw [numerals_escape, numerals_hex hn, ih hxs]
  | case14 x rest _ c _ ih =>
      obtain ⟨xs, hxs⟩ := exists_of_consSymbol h
      rw [numerals_escape, ih hxs]
  | case17 c rest hquote hlast _ hescape _ ih =>
      obtain ⟨xs, hxs⟩ := exists_of_consSymbol h
      have hslash : c ≠ '\\' := by
        cases rest with
        | nil => exact hlast rfl
        | cons x rest => exact hescape x rest rfl
      rw [numerals_string (by simpa using hquote) (by simpa using hslash), ih hxs]
  | case18 rest ih =>
      obtain ⟨xs, hxs⟩ := exists_of_consSymbol h
      rw [numerals_string (by simp) (by simp), ih hxs]
  | _ => cases h

theorem numerals_of_stringRest {s rest : Symbols} {text : String}
    (h : stringRest s = .ok (text, rest)) : numerals .string s = numerals .outside rest := by
  rw [stringRest] at h
  cases hs : stringSymbols s with
  | error e =>
      rw [hs] at h
      cases h
  | ok p =>
      obtain ⟨symbols, rest'⟩ := p
      rw [hs] at h
      dsimp only [bind, Except.bind] at h
      split at h
      · obtain ⟨-, rfl⟩ := Prod.mk.inj (Except.ok.inj h)
        exact numerals_of_stringSymbols hs
      · cases h

/-! ### Numbers -/

theorem numerals_number (run s : Symbols) :
    numerals (.number run) s
      = (run ++ s.takeWhile inNumeral) :: numerals .outside (s.dropWhile inNumeral) := by
  induction s generalizing run with
  | nil => simp [numerals]
  | cons x rest ih =>
      rw [numerals]
      by_cases hx : inNumeral x = true
      · rw [if_pos hx, ih, List.takeWhile_cons_of_pos hx, List.dropWhile_cons_of_pos hx,
          List.append_assoc, List.singleton_append]
      · rw [if_neg hx, List.takeWhile_cons_of_neg hx, List.dropWhile_cons_of_neg hx,
          List.append_nil, numerals_outside]

theorem endsNumber_dropWhile (s : Symbols) : EndsNumber (s.dropWhile inNumeral) := by
  cases hs : s.dropWhile inNumeral with
  | nil => trivial
  | cons x rest =>
      have hx : inNumeral x = false := by
        have hhead := List.head?_dropWhile_not inNumeral s
        rw [hs] at hhead
        simpa using hhead
      simp only [inNumeral, startsNumeral, Bool.or_eq_false_iff, decide_eq_false_iff_not] at hx
      exact ⟨hx.1.1.1.1.2, hx.1.1.2, hx.1.2, hx.2⟩

/-- Where a number begins in a text of integers, one is read, up to the end of its run. -/
theorem number_of_allIntegers {x : Symbol} {rest : Symbols} (hx : startsNumeral x = true)
    (h : AllIntegers (x :: rest)) :
    ∃ i tail, number (x :: rest) = .ok (.int i, tail) ∧ AllIntegers tail := by
  have hquote : x ≠ some '"' := by
    rintro rfl
    cases hx
  have henter : enter x = .number [x] := by rw [enter, if_neg hquote, if_pos hx]
  have hruns := numerals_outside x rest
  rw [henter, numerals_number] at hruns
  unfold AllIntegers at h
  rw [hruns, List.forall_mem_cons] at h
  obtain ⟨⟨i, hi⟩, htail⟩ := h
  refine ⟨i, rest.dropWhile inNumeral, ?_, htail⟩
  have htext : x :: rest = Symbols.ofChars (Json.intText i.val) ++ rest.dropWhile inNumeral := by
    rw [← hi, List.append_assoc, List.takeWhile_append_dropWhile, List.singleton_append]
  rw [htext]
  exact number_intText i (endsNumber_dropWhile rest)

end Scan

/-! ## Values -/

namespace Json

open Scan

/-- What reading can give if `room` arrays and objects may be nested and numbers are integers. -/
structure Readable (room : Nat) (v : Json) : Prop where
  integral : v.Integral
  canonical : v.Canonical
  depth_le : v.depth ≤ room

theorem readable_array {room : Nat} {items : List Json} (h : ∀ v ∈ items, v.Readable room) :
    (Json.array items).Readable (room + 1) where
  integral := integralItems_iff.2 fun v hv => (h v hv).integral
  canonical := canonicalItems_iff.2 fun v hv => (h v hv).canonical
  depth_le := Nat.succ_le_succ (depthItems_le_iff.2 fun v hv => (h v hv).depth_le)

/-- Members are entered in order, so it does not matter in which order they stand. -/
theorem readable_ofMembers {room : Nat} {members : List (String × Json)}
    (h : ∀ m ∈ members, m.2.Readable room) : (ofMembers members).Readable (room + 1) := by
  have hkept : ∀ m ∈ Keyed.ofList members, m.2.Readable room :=
    fun m hm => h m (Keyed.mem_of_mem_ofList hm)
  exact {
    integral := integralMembers_iff.2 fun m hm => (hkept m hm).integral
    canonical := ⟨Keyed.sorted_ofList members,
      canonicalMembers_iff.2 fun m hm => (hkept m hm).canonical⟩
    depth_le := Nat.succ_le_succ (depthMembers_le_iff.2 fun m hm => (hkept m hm).depth_le) }

/-- On a text of integers the reader gives only readable values, and a text of integers remains. -/
def Reads (room : Nat) (reader : Symbols → Except Fault (Piece Json)) : Prop :=
  ∀ ⦃s v rest⦄, AllIntegers s → reader s = .ok (v, rest) → v.Readable room ∧ AllIntegers rest

section Nested

variable {room : Nat} {inner : Symbols → Except Fault (Piece Json)}

theorem Reads.elements (h : Reads room inner) {fuel : Nat} {s rest : Symbols} {vs : List Json}
    (hs : AllIntegers s) (hread : elements inner fuel s = .ok (vs, rest)) :
    (∀ v ∈ vs, v.Readable room) ∧ AllIntegers rest := by
  induction fuel generalizing s vs with
  | zero => cases hread
  | succ fuel ih =>
      rw [elements_succ] at hread
      obtain ⟨⟨v, s'⟩, hv, hread⟩ := bind_eq_ok_iff.1 hread
      obtain ⟨⟨vs', rest'⟩, hvs, hread⟩ := bind_eq_ok_iff.1 hread
      cases hread
      obtain ⟨hhead, hs'⟩ := h hs hv
      rw [elementsTail] at hvs
      split at hvs
      · next hcomma =>
          obtain ⟨htail, hrest⟩ := ih (hs'.of_numerals (numerals_of_skipBlanks hcomma)) hvs
          exact ⟨List.forall_mem_cons.2 ⟨hhead, htail⟩, hrest⟩
      · next hclose =>
          cases hvs
          exact ⟨List.forall_mem_singleton.2 hhead,
            hs'.of_numerals (numerals_of_skipBlanks hclose)⟩
      · cases hvs

theorem Reads.member (h : Reads room inner) {s rest : Symbols} {m : String × Json}
    (hs : AllIntegers s) (hread : member inner s = .ok (m, rest)) :
    m.2.Readable room ∧ AllIntegers rest := by
  unfold Json.member at hread
  obtain ⟨s₁, hopen, hread⟩ := bind_eq_ok_iff.1 hread
  obtain ⟨⟨key, s₂⟩, hkey, hread⟩ := bind_eq_ok_iff.1 hread
  obtain ⟨s₃, hcolon, hread⟩ := bind_eq_ok_iff.1 hread
  obtain ⟨⟨v, s₄⟩, hv, hread⟩ := bind_eq_ok_iff.1 hread
  cases hread
  have hs₂ : AllIntegers s₂ :=
    hs.of_numerals ((numerals_of_mark hopen).trans (numerals_of_stringRest hkey))
  exact h (hs₂.of_numerals (numerals_of_mark hcolon)) hv

theorem Reads.memberList (h : Reads room inner) {fuel : Nat} {s rest : Symbols}
    {ms : List (String × Json)} (hs : AllIntegers s)
    (hread : memberList inner fuel s = .ok (ms, rest)) :
    (∀ m ∈ ms, m.2.Readable room) ∧ AllIntegers rest := by
  induction fuel generalizing s ms with
  | zero => cases hread
  | succ fuel ih =>
      rw [memberList_succ] at hread
      obtain ⟨⟨m, s'⟩, hm, hread⟩ := bind_eq_ok_iff.1 hread
      obtain ⟨⟨ms', rest'⟩, hms, hread⟩ := bind_eq_ok_iff.1 hread
      cases hread
      obtain ⟨hhead, hs'⟩ := h.member hs hm
      rw [membersTail] at hms
      split at hms
      · next hcomma =>
          obtain ⟨htail, hrest⟩ := ih (hs'.of_numerals (numerals_of_skipBlanks hcomma)) hms
          exact ⟨List.forall_mem_cons.2 ⟨hhead, htail⟩, hrest⟩
      · next hclose =>
          cases hms
          exact ⟨List.forall_mem_singleton.2 hhead,
            hs'.of_numerals (numerals_of_skipBlanks hclose)⟩
      · cases hms

theorem Reads.arrayRest (h : Reads room inner) : Reads (room + 1) (arrayRest inner) := by
  intro s v rest hs hread
  rw [Json.arrayRest.eq_def] at hread
  split at hread
  · next hclose =>
      cases hread
      exact ⟨readable_array (by simp), hs.of_numerals (numerals_of_skipBlanks hclose)⟩
  · obtain ⟨⟨vs, rest'⟩, hvs, hread⟩ := bind_eq_ok_iff.1 hread
    cases hread
    obtain ⟨hitems, hrest⟩ := h.elements (hs.of_numerals (numerals_skipBlanks s).symm) hvs
    exact ⟨readable_array hitems, hrest⟩

theorem Reads.objectRest (h : Reads room inner) : Reads (room + 1) (objectRest inner) := by
  intro s v rest hs hread
  rw [Json.objectRest.eq_def] at hread
  split at hread
  · next hclose =>
      cases hread
      refine ⟨?_, hs.of_numerals (numerals_of_skipBlanks hclose)⟩
      show (ofMembers []).Readable (room + 1)
      exact readable_ofMembers (by simp)
  · obtain ⟨⟨ms, rest'⟩, hms, hread⟩ := bind_eq_ok_iff.1 hread
    cases hread
    obtain ⟨hmembers, hrest⟩ := h.memberList (hs.of_numerals (numerals_skipBlanks s).symm) hms
    exact ⟨readable_ofMembers hmembers, hrest⟩

end Nested

/-- All but leaves is left to the readers of arrays and objects. -/
theorem reads_valueWith {room : Nat} {inner : Option (Symbols → Except Fault (Piece Json))}
    (hinner : ∀ reader ∈ inner, Reads room (arrayRest reader) ∧ Reads room (objectRest reader)) :
    Reads room (valueWith inner) := by
  intro s v rest hs hread
  rw [valueWith.eq_def] at hread
  split at hread
  · next hstart =>
      obtain ⟨rest', hword, hread⟩ := bind_eq_ok_iff.1 hread
      cases hread
      exact ⟨⟨trivial, trivial, Nat.zero_le _⟩, hs.of_word hstart rfl rfl hword⟩
  · next hstart =>
      obtain ⟨rest', hword, hread⟩ := bind_eq_ok_iff.1 hread
      cases hread
      exact ⟨⟨trivial, trivial, Nat.zero_le _⟩, hs.of_word hstart rfl rfl hword⟩
  · next hstart =>
      obtain ⟨rest', hword, hread⟩ := bind_eq_ok_iff.1 hread
      cases hread
      exact ⟨⟨trivial, trivial, Nat.zero_le _⟩, hs.of_word hstart rfl rfl hword⟩
  · next hstart =>
      obtain ⟨⟨text, rest'⟩, htext, hread⟩ := bind_eq_ok_iff.1 hread
      cases hread
      exact ⟨⟨trivial, trivial, Nat.zero_le _⟩, hs.of_numerals
        ((numerals_of_skipBlanks hstart).trans (numerals_of_stringRest htext))⟩
  · next hstart =>
      split at hread
      · next reader =>
          exact (hinner reader rfl).1 (hs.of_numerals (numerals_of_skipBlanks hstart)) hread
      · cases hread
  · next hstart =>
      split at hread
      · next reader =>
          exact (hinner reader rfl).2 (hs.of_numerals (numerals_of_skipBlanks hstart)) hread
      · cases hread
  · have hblanks := hs.of_numerals (numerals_skipBlanks s).symm
    split at hread
    · cases hread
    · next x tail hstart =>
        split at hread
        · next hx =>
            rw [hstart] at hblanks hread
            obtain ⟨i, rest', hnumber, hrest⟩ := number_of_allIntegers hx hblanks
            rw [hnumber] at hread
            cases hread
            exact ⟨⟨trivial, trivial, Nat.zero_le _⟩, hrest⟩
        · cases hread

theorem reads_value (room : Nat) : Reads room (value room) := by
  induction room with
  | zero => exact reads_valueWith fun reader hreader => by cases hreader
  | succ room ih =>
      refine reads_valueWith fun reader hreader => ?_
      obtain rfl := Option.some.inj hreader
      exact ⟨ih.arrayRest, ih.objectRest⟩

/-- A text of integers is read as a value of integers that is sorted and not too deep. -/
theorem readable_of_parse? {text : String} {v : Json} (htext : AllIntegers (Symbols.ofText text))
    (hv : parse? text = some v) : v.Readable maxDepth := by
  rw [parse?, read] at hv
  cases hread : value maxDepth (Symbols.ofText text) with
  | error e =>
      rw [hread] at hv
      cases hv
  | ok p =>
      rw [hread, finish] at hv
      split at hv
      · obtain rfl := Option.some.inj hv
        exact (reads_value maxDepth htext hread).1
      · cases hv

end Json

end CallBridge
