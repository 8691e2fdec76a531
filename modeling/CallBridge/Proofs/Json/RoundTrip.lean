import CallBridge.Proofs.Json.Numeral
import CallBridge.Proofs.Json.Quoted

/-!
# Printed values read back

A value without doubles that nests at most `maxDepth` arrays and objects is read back from either
of its two layouts, with the members of its objects sorted; one that nests deeper is refused. Main
statements: `value_render` for a value inside a longer text, `parse?_print` for a whole text.
-/

namespace CallBridge.Json

open Scan

mutual

/-- Every number in the value is an integer. -/
def Integral : Json → Prop
  | .number (.float _) => False
  | .array items => IntegralItems items
  | .object members => IntegralMembers members
  | _ => True

def IntegralItems : List Json → Prop
  | [] => True
  | v :: rest => Integral v ∧ IntegralItems rest

def IntegralMembers : List (String × Json) → Prop
  | [] => True
  | (_, v) :: rest => Integral v ∧ IntegralMembers rest

end

mutual

/-- The value as reading leaves it: members sorted by key, the last one under each key. -/
def sorted : Json → Json
  | .array items => .array (sortedItems items)
  | .object members => ofMembers (sortedMembers members)
  | v => v

def sortedItems : List Json → List Json
  | [] => []
  | v :: rest => sorted v :: sortedItems rest

def sortedMembers : List (String × Json) → List (String × Json)
  | [] => []
  | (k, v) :: rest => (k, sorted v) :: sortedMembers rest

end

/-! ## Parts of a value -/

theorem integralItems_iff {items : List Json} :
    IntegralItems items ↔ ∀ v ∈ items, v.Integral := by
  induction items with
  | nil => simp [IntegralItems]
  | cons v rest ih => simp [IntegralItems, ih]

theorem integralMembers_iff {members : List (String × Json)} :
    IntegralMembers members ↔ ∀ m ∈ members, m.2.Integral := by
  induction members with
  | nil => simp [IntegralMembers]
  | cons m rest ih => simp [IntegralMembers, ih]

theorem canonicalItems_iff {items : List Json} :
    CanonicalItems items ↔ ∀ v ∈ items, v.Canonical := by
  induction items with
  | nil => simp [CanonicalItems]
  | cons v rest ih => simp [CanonicalItems, ih]

theorem canonicalMembers_iff {members : List (String × Json)} :
    CanonicalMembers members ↔ ∀ m ∈ members, m.2.Canonical := by
  induction members with
  | nil => simp [CanonicalMembers]
  | cons m rest ih => simp [CanonicalMembers, ih]

theorem depthItems_le_iff {d : Nat} {items : List Json} :
    depthItems items ≤ d ↔ ∀ v ∈ items, v.depth ≤ d := by
  induction items with
  | nil => simp [depthItems]
  | cons v rest ih => rw [depthItems, Nat.max_le, List.forall_mem_cons, ih]

theorem depthMembers_le_iff {d : Nat} {members : List (String × Json)} :
    depthMembers members ≤ d ↔ ∀ m ∈ members, m.2.depth ≤ d := by
  induction members with
  | nil => simp [depthMembers]
  | cons m rest ih => rw [depthMembers, Nat.max_le, List.forall_mem_cons, ih]

/-! ## Sorting what is sorted -/

mutual

theorem sorted_of_canonical : ∀ v : Json, v.Canonical → v.sorted = v
  | .null, _ => rfl
  | .bool _, _ => rfl
  | .number _, _ => rfl
  | .string _, _ => rfl
  | .array items, h => by
      rw [Canonical] at h
      rw [sorted, sortedItems_of_canonical items h]
  | .object members, h => by
      rw [Canonical] at h
      rw [sorted, sortedMembers_of_canonical members h.2, ofMembers, Keyed.ofList_of_sorted h.1]

theorem sortedItems_of_canonical :
    ∀ items : List Json, CanonicalItems items → sortedItems items = items
  | [], _ => rfl
  | v :: rest, h => by
      rw [CanonicalItems] at h
      rw [sortedItems, sorted_of_canonical v h.1, sortedItems_of_canonical rest h.2]

theorem sortedMembers_of_canonical :
    ∀ members : List (String × Json), CanonicalMembers members → sortedMembers members = members
  | [], _ => rfl
  | (k, v) :: rest, h => by
      rw [CanonicalMembers] at h
      rw [sortedMembers, sorted_of_canonical v h.1, sortedMembers_of_canonical rest h.2]

end

/-! ## Blanks and first characters -/

theorem ofChars_cons (c : Char) (cs : List Char) :
    Symbols.ofChars (c :: cs) = some c :: Symbols.ofChars cs := rfl

theorem skipBlanks_append {blanks : Symbols} (hblanks : ∀ x ∈ blanks, isBlank x = true)
    (s : Symbols) : skipBlanks (blanks ++ s) = skipBlanks s :=
  List.dropWhile_append_of_pos hblanks

theorem skipBlanks_cons {x : Symbol} (hx : isBlank x = false) (s : Symbols) :
    skipBlanks (x :: s) = x :: s :=
  List.dropWhile_cons_of_neg (by simp [hx])

theorem isBlank_newline (layout : Layout) (level : Nat) :
    ∀ x ∈ Symbols.ofChars (layout.newline level), isBlank x = true := by
  cases layout with
  | compact => simp [Layout.newline, Symbols.ofChars]
  | pretty =>
      simp only [Layout.newline, Symbols.ofChars, List.map_cons, List.map_replicate,
        List.mem_cons, List.mem_replicate]
      rintro x (rfl | ⟨-, rfl⟩)
      · decide
      · decide

/-- A reader of values passes over blanks in front. -/
theorem value_append_blanks (room : Nat) {blanks : Symbols}
    (hblanks : ∀ x ∈ blanks, isBlank x = true) (s : Symbols) :
    value room (blanks ++ s) = value room s := by
  cases room <;> simp only [value, valueWith, skipBlanks_append hblanks]

/-- A character that a printed value can begin with. -/
def Begins (c : Char) : Prop := isBlank (some c) = false ∧ c ≠ ']' ∧ c ≠ '}'

theorem begins_of_isDigit {c : Char} (hc : c.isDigit = true) : Begins c := by
  have hrange := Char.isDigit_iff_toNat.1 hc
  refine ⟨?_, ?_, ?_⟩
  · simp only [isBlank, Option.some.injEq, Bool.or_eq_false_iff, decide_eq_false_iff_not]
    refine ⟨⟨⟨?_, ?_⟩, ?_⟩, ?_⟩ <;>
    · rintro rfl
      revert hrange
      decide
  all_goals
    rintro rfl
    revert hrange
    decide

/-- The first character of a number is that of no other value. -/
theorem starts_number {c : Char} (hc : c = '-' ∨ isDigit (some c) = true) :
    (some c = some '-' || isDigit (some c)) = true ∧
      c ≠ 'n' ∧ c ≠ 't' ∧ c ≠ 'f' ∧ c ≠ '"' ∧ c ≠ '[' ∧ c ≠ '{' := by
  rcases hc with rfl | hc
  · decide
  · refine ⟨by simp [hc], ?_, ?_, ?_, ?_, ?_, ?_⟩ <;>
    · rintro rfl
      cases hc

theorem intText_head (i : Int) : ∃ c cs, intText i = c :: cs ∧ Begins c
    ∧ (c = '-' ∨ c.isDigit = true) := by
  cases i with
  | ofNat n =>
      cases hcs : Nat.toDigits 10 n with
      | nil => simp at hcs
      | cons c cs =>
          have hc : c.isDigit = true := isDigit_of_mem_toDigits (n := n) (by simp [hcs])
          exact ⟨c, cs, hcs, begins_of_isDigit hc, .inr hc⟩
  | negSucc n => exact ⟨'-', _, rfl, ⟨by decide, by decide, by decide⟩, .inl rfl⟩

theorem render_head (layout : Layout) (level : Nat) {v : Json} (hv : v.Integral) :
    ∃ c cs, render layout level v = c :: cs ∧ Begins c := by
  cases v with
  | null => exact ⟨_, _, rfl, by decide, by decide, by decide⟩
  | bool b => cases b <;> exact ⟨_, _, rfl, by decide, by decide, by decide⟩
  | number n =>
      cases n with
      | int i =>
          obtain ⟨c, cs, hcs, hc, -⟩ := intText_head i.val
          exact ⟨c, cs, by rw [render]; exact hcs, hc⟩
      | float x => exact absurd hv (by simp [Integral])
  | string s => exact ⟨'"', _, by rw [render]; rfl, by decide, by decide, by decide⟩
  | array items =>
      cases items with
      | nil => exact ⟨'[', _, by rw [render], by decide, by decide, by decide⟩
      | cons v rest =>
          exact ⟨'[', _, by rw [render]; rfl, by decide, by decide, by decide⟩
  | object members =>
      cases members with
      | nil => exact ⟨'{', _, by rw [render], by decide, by decide, by decide⟩
      | cons m rest =>
          obtain ⟨k, v⟩ := m
          exact ⟨'{', _, by rw [render]; rfl, by decide, by decide, by decide⟩

/-! ## Values without anything nested in them -/

section Leaves

variable (inner : Option (Symbols → Except Fault (Piece Json)))

theorem valueWith_bool (b : Bool) (layout : Layout) (level : Nat) (rest : Symbols) :
    valueWith inner (Symbols.ofChars (render layout level (.bool b)) ++ rest)
      = .ok (.bool b, rest) := by
  cases b <;> rfl

theorem valueWith_string (s : String) (rest : Symbols) :
    valueWith inner (Symbols.ofChars (quoted s) ++ rest) = .ok (.string s, rest) := by
  have htext : Symbols.ofChars (quoted s) ++ rest
      = some '"' :: (Symbols.ofChars (s.toList.flatMap escape) ++ some '"' :: rest) := by
    simp [quoted, Symbols.ofChars]
  have hread := stringRest_quoted s rest
  rw [htext, valueWith, skipBlanks_cons (by decide)]
  simp only [hread, bind, Except.bind]

theorem valueWith_int (i : Integer) {rest : Symbols} (hrest : EndsNumber rest) :
    valueWith inner (Symbols.ofChars (intText i.val) ++ rest)
      = .ok (.number (.int i), rest) := by
  have hread := number_intText i hrest
  obtain ⟨c, cs, hcs, hblank, hsort⟩ := intText_head i.val
  rw [hcs, ofChars_cons, List.cons_append] at hread ⊢
  obtain ⟨hstart, hother⟩ := starts_number (hsort.imp_right isDigit_of_isDigit)
  rw [valueWith, skipBlanks_cons hblank.1]
  split <;> simp_all [bind, Except.bind]

end Leaves

/-! ## Elements and members -/

/-- What may follow an element: a comma and further elements, or the closing bracket. -/
def elementsTail (inner : Symbols → Except Fault (Piece Json)) (room : Nat) (s : Symbols) :
    Except Fault (Piece (List Json)) :=
  match skipBlanks s with
  | some ',' :: rest => elements inner room rest
  | some ']' :: rest => .ok ([], rest)
  | other => .error (unexpected other)

theorem elements_succ (inner : Symbols → Except Fault (Piece Json)) (room : Nat) (s : Symbols) :
    elements inner (room + 1) s = (do
      let (v, s) ← inner s
      let (vs, rest) ← elementsTail inner room s
      .ok (v :: vs, rest)) := by
  rw [elements]
  cases inner s with
  | error e => rfl
  | ok p =>
      obtain ⟨v, s⟩ := p
      simp only [elementsTail, bind, Except.bind]
      generalize skipBlanks s = t
      split <;> simp_all

/-- What may follow a member: a comma and further members, or the closing brace. -/
def membersTail (inner : Symbols → Except Fault (Piece Json)) (room : Nat) (s : Symbols) :
    Except Fault (Piece (List (String × Json))) :=
  match skipBlanks s with
  | some ',' :: rest => memberList inner room rest
  | some '}' :: rest => .ok ([], rest)
  | other => .error (unexpected other)

theorem memberList_succ (inner : Symbols → Except Fault (Piece Json)) (room : Nat)
    (s : Symbols) :
    memberList inner (room + 1) s = (do
      let (m, s) ← member inner s
      let (ms, rest) ← membersTail inner room s
      .ok (m :: ms, rest)) := by
  rw [memberList]
  cases member inner s with
  | error e => rfl
  | ok p =>
      obtain ⟨m, s⟩ := p
      simp only [membersTail, bind, Except.bind]
      generalize skipBlanks s = t
      split <;> simp_all

theorem endsNumber_close (layout : Layout) (level : Nat) {close : Char}
    (hclose : close = ']' ∨ close = '}') (rest : Symbols) :
    EndsNumber (Symbols.ofChars (layout.newline level) ++ some close :: rest) := by
  cases layout with
  | compact => rcases hclose with rfl | rfl <;> exact ⟨by decide, by decide, by decide, by decide⟩
  | pretty => exact ⟨by decide, by decide, by decide, by decide⟩

theorem endsNumber_renderItems (layout : Layout) (level : Nat) (vs : List Json) {rest : Symbols}
    (hrest : EndsNumber rest) :
    EndsNumber (Symbols.ofChars (renderItems layout level vs) ++ rest) := by
  cases vs with
  | nil => exact hrest
  | cons v vs => rw [renderItems]; exact ⟨by decide, by decide, by decide, by decide⟩

theorem endsNumber_renderMembers (layout : Layout) (level : Nat) (ms : List (String × Json))
    {rest : Symbols} (hrest : EndsNumber rest) :
    EndsNumber (Symbols.ofChars (renderMembers layout level ms) ++ rest) := by
  cases ms with
  | nil => exact hrest
  | cons m ms => rw [renderMembers]; exact ⟨by decide, by decide, by decide, by decide⟩

/-- What reading gives for something of nesting depth `depth` that is allowed `room` levels. -/
def fitting {α : Type} (depth room : Nat) (a : α) (rest : Symbols) : Except Fault (Piece α) :=
  if depth ≤ room then .ok (a, rest) else .error .malformed

theorem fitting_of_le {α : Type} {depth room : Nat} (h : depth ≤ room) (a : α) (rest : Symbols) :
    fitting depth room a rest = .ok (a, rest) := if_pos h

theorem fitting_of_not_le {α : Type} {depth room : Nat} (h : ¬ depth ≤ room) (a : α)
    (rest : Symbols) : fitting depth room a rest = .error .malformed := if_neg h

/-- Two readings in a row fit where the deeper of the two does. -/
theorem fitting_bind {α β γ : Type} (d e room : Nat) (a : α) (b : β) (combine : α → β → γ)
    {next : Symbols → Except Fault (Piece β)} {tail rest : Symbols}
    (hnext : next tail = fitting e room b rest) :
    (do let (a, s) ← fitting d room a tail
        let (b, s) ← next s
        .ok (combine a b, s))
      = fitting (max d e) room (combine a b) rest := by
  by_cases hd : d ≤ room
  · rw [fitting_of_le hd]
    by_cases he : e ≤ room
    · rw [fitting_of_le he] at hnext
      rw [fitting_of_le (Nat.max_le.2 ⟨hd, he⟩)]
      simp only [bind, Except.bind, hnext]
    · rw [fitting_of_not_le he] at hnext
      rw [fitting_of_not_le (by omega)]
      simp only [bind, Except.bind, hnext]
  · rw [fitting_of_not_le hd, fitting_of_not_le (by omega)]
    rfl

theorem elements_of_tail {room fuel : Nat} {s tail rest : Symbols} {v : Json} {vs : List Json}
    (hv : value room s = fitting v.depth room v.sorted tail)
    (hvs : elementsTail (value room) fuel tail
      = fitting (depthItems vs) room (sortedItems vs) rest) :
    elements (value room) (fuel + 1) s
      = fitting (depthItems (v :: vs)) room (sortedItems (v :: vs)) rest := by
  rw [elements_succ, hv, depthItems, sortedItems]
  exact fitting_bind v.depth (depthItems vs) room v.sorted (sortedItems vs) List.cons hvs

/-- A printed key is passed over, and its value read. -/
theorem member_render {room : Nat} (layout : Layout) (k : String) {s tail : Symbols} {v : Json}
    (hv : value room s = fitting v.depth room v.sorted tail) :
    member (value room) (Symbols.ofChars (quoted k) ++ (Symbols.ofChars layout.colon ++ s))
      = fitting v.depth room (k, v.sorted) tail := by
  have hopen : mark '"' (Symbols.ofChars (quoted k) ++ (Symbols.ofChars layout.colon ++ s))
      = .ok (Symbols.ofChars (k.toList.flatMap escape)
          ++ some '"' :: (Symbols.ofChars layout.colon ++ s)) := by
    have htext : Symbols.ofChars (quoted k) ++ (Symbols.ofChars layout.colon ++ s)
        = some '"' :: (Symbols.ofChars (k.toList.flatMap escape)
          ++ some '"' :: (Symbols.ofChars layout.colon ++ s)) := by
      simp [quoted, Symbols.ofChars]
    rw [htext, mark, skipBlanks_cons (by decide)]
    simp
  have hcolon : ∃ blanks, (∀ x ∈ blanks, isBlank x = true)
      ∧ mark ':' (Symbols.ofChars layout.colon ++ s) = .ok (blanks ++ s) := by
    cases layout with
    | compact => exact ⟨[], by simp, rfl⟩
    | pretty => exact ⟨[some ' '], by decide, rfl⟩
  obtain ⟨blanks, hblanks, hmark⟩ := hcolon
  simp only [member, hopen, stringRest_quoted, hmark, value_append_blanks room hblanks, hv, bind,
    Except.bind]
  by_cases hdepth : v.depth ≤ room
  · simp only [fitting_of_le hdepth]
  · simp only [fitting_of_not_le hdepth]

theorem memberList_of_tail {room fuel : Nat} (layout : Layout) (k : String)
    {s tail rest : Symbols} {v : Json} {ms : List (String × Json)}
    (hv : value room s = fitting v.depth room v.sorted tail)
    (hms : membersTail (value room) fuel tail
      = fitting (depthMembers ms) room (sortedMembers ms) rest) :
    memberList (value room) (fuel + 1)
        (Symbols.ofChars (quoted k) ++ (Symbols.ofChars layout.colon ++ s))
      = fitting (depthMembers ((k, v) :: ms)) room (sortedMembers ((k, v) :: ms)) rest := by
  rw [memberList_succ, member_render layout k hv, depthMembers, sortedMembers]
  exact fitting_bind v.depth (depthMembers ms) room (k, v.sorted) (sortedMembers ms) List.cons hms

theorem memberList_append_blanks (inner : Symbols → Except Fault (Piece Json)) (fuel : Nat)
    {blanks : Symbols} (hblanks : ∀ x ∈ blanks, isBlank x = true) (s : Symbols) :
    memberList inner (fuel + 1) (blanks ++ s) = memberList inner (fuel + 1) s := by
  simp only [memberList, member, mark, skipBlanks_append hblanks]

/-! ## Arrays and objects -/

theorem value_succ_bracket (room : Nat) (s : Symbols) :
    value (room + 1) (some '[' :: s) = arrayRest (value room) s := rfl

theorem value_succ_brace (room : Nat) (s : Symbols) :
    value (room + 1) (some '{' :: s) = objectRest (value room) s := rfl

theorem arrayRest_of_elements {room d : Nat} {blanks s rest : Symbols} {vs : List Json}
    (hblanks : ∀ x ∈ blanks, isBlank x = true) (hs : ∃ c cs, s = some c :: cs ∧ Begins c)
    (hvs : elements (value room) s.length s = fitting d room vs rest) :
    arrayRest (value room) (blanks ++ s) = fitting (d + 1) (room + 1) (.array vs) rest := by
  obtain ⟨c, cs, rfl, hc⟩ := hs
  rw [arrayRest, skipBlanks_append hblanks, skipBlanks_cons hc.1]
  split
  · rename_i heq
    simp only [List.cons.injEq, Option.some.injEq] at heq
    exact absurd heq.1 hc.2.1
  · simp only [hvs, fitting, Nat.add_le_add_iff_right]
    by_cases hd : d ≤ room <;> simp [hd, bind, Except.bind]

theorem objectRest_of_members {room d : Nat} {blanks s rest : Symbols}
    {ms : List (String × Json)} (hblanks : ∀ x ∈ blanks, isBlank x = true)
    (hs : ∃ c cs, s = some c :: cs ∧ Begins c)
    (hms : memberList (value room) s.length s = fitting d room ms rest) :
    objectRest (value room) (blanks ++ s) = fitting (d + 1) (room + 1) (ofMembers ms) rest := by
  obtain ⟨c, cs, rfl, hc⟩ := hs
  rw [objectRest, skipBlanks_append hblanks, skipBlanks_cons hc.1]
  split
  · rename_i heq
    simp only [List.cons.injEq, Option.some.injEq] at heq
    exact absurd heq.1 hc.2.2
  · simp only [hms, fitting, Nat.add_le_add_iff_right]
    by_cases hd : d ≤ room <;> simp [hd, bind, Except.bind]

theorem length_le_renderItems (layout : Layout) (level : Nat) (vs : List Json) :
    vs.length ≤ (renderItems layout level vs).length := by
  induction vs with
  | nil => simp
  | cons v vs ih =>
      rw [renderItems]
      simp only [List.length_cons, List.length_append]
      omega

theorem length_le_renderMembers (layout : Layout) (level : Nat) (ms : List (String × Json)) :
    ms.length ≤ (renderMembers layout level ms).length := by
  induction ms with
  | nil => simp
  | cons m ms ih =>
      rw [renderMembers]
      simp only [List.length_cons, List.length_append]
      omega

/-- The length of an array's text is room enough for its elements, as each takes at least one
symbol. -/
theorem elements_fuel (layout : Layout) (level : Nat) (vs : List Json) {text : List Char}
    {c : Char} {cs : List Char} (htext : text = c :: cs) (rest : Symbols) :
    ∃ fuel, (Symbols.ofChars text ++ (Symbols.ofChars (renderItems layout level vs) ++ rest)).length
        = fuel + 1 ∧ vs.length ≤ fuel := by
  have hitems := length_le_renderItems layout level vs
  refine ⟨cs.length + ((renderItems layout level vs).length + rest.length), ?_, by omega⟩
  simp only [htext, Symbols.ofChars, List.length_append, List.length_map, List.length_cons]
  omega

/-- The same for an object, whose members begin with a quote. -/
theorem members_fuel (layout : Layout) (level : Nat) (k : String) (ms : List (String × Json))
    (text rest : Symbols) :
    ∃ fuel, (Symbols.ofChars (quoted k) ++ (text
        ++ (Symbols.ofChars (renderMembers layout level ms) ++ rest))).length = fuel + 1
      ∧ ms.length ≤ fuel := by
  have hmembers := length_le_renderMembers layout level ms
  refine ⟨(k.toList.flatMap escape ++ ['"']).length + (text.length
    + ((renderMembers layout level ms).length + rest.length)), ?_, by omega⟩
  simp only [quoted, Symbols.ofChars, List.length_append, List.length_map, List.length_cons,
    List.cons_append]
  omega

/-- The text of an array, cut where the reader cuts it. -/
theorem ofChars_render_array (layout : Layout) (level : Nat) (v : Json) (vs : List Json)
    (rest : Symbols) :
    Symbols.ofChars (render layout level (.array (v :: vs))) ++ rest
      = some '[' :: (Symbols.ofChars (layout.newline (level + 1))
          ++ (Symbols.ofChars (render layout (level + 1) v)
            ++ (Symbols.ofChars (renderItems layout (level + 1) vs)
              ++ (Symbols.ofChars (layout.newline level) ++ some ']' :: rest)))) := by
  rw [render]
  simp [Symbols.ofChars]

/-- The text of an object, cut where the reader cuts it. -/
theorem ofChars_render_object (layout : Layout) (level : Nat) (k : String) (v : Json)
    (ms : List (String × Json)) (rest : Symbols) :
    Symbols.ofChars (render layout level (.object ((k, v) :: ms))) ++ rest
      = some '{' :: (Symbols.ofChars (layout.newline (level + 1))
          ++ (Symbols.ofChars (quoted k) ++ (Symbols.ofChars layout.colon
            ++ (Symbols.ofChars (render layout (level + 1) v)
              ++ (Symbols.ofChars (renderMembers layout (level + 1) ms)
                ++ (Symbols.ofChars (layout.newline level) ++ some '}' :: rest)))))) := by
  rw [render]
  simp [Symbols.ofChars]

mutual

/-- A printed value is read back where enough levels of nesting are allowed, and refused where they
are not. -/
theorem value_render (layout : Layout) : ∀ (v : Json) (level room : Nat) (rest : Symbols),
    v.Integral → EndsNumber rest →
    value room (Symbols.ofChars (render layout level v) ++ rest)
      = fitting v.depth room v.sorted rest
  | .null, level, room, rest, _, _ => by
      cases room <;> rfl
  | .bool b, level, room, rest, _, _ => by
      cases room <;> simp only [value, valueWith_bool, fitting, depth, Nat.zero_le, if_true, sorted]
  | .number (.int i), level, room, rest, _, hrest => by
      cases room <;> simp only [value, render, numberText, valueWith_int _ i hrest, fitting, depth,
        Nat.zero_le, if_true, sorted]
  | .number (.float _), _, _, _, hv, _ => absurd hv (by simp [Integral])
  | .string s, level, room, rest, _, _ => by
      cases room <;> simp only [value, render, valueWith_string, fitting, depth, Nat.zero_le,
        if_true, sorted]
  | .array [], level, room, rest, _, _ => by
      cases room <;> rfl
  | .array (v :: vs), level, room, rest, hv, _ => by
      rw [Integral, IntegralItems] at hv
      rw [ofChars_render_array]
      cases room with
      | zero => rfl
      | succ room =>
          have hfollow := endsNumber_renderItems layout (level + 1) vs
            (endsNumber_close layout level (.inl rfl) rest)
          have hhead := value_render layout v (level + 1) room _ hv.1 hfollow
          obtain ⟨c, cs, hcs, hc⟩ := render_head layout (level + 1) hv.1
          rw [value_succ_bracket, depth, sorted]
          refine arrayRest_of_elements (isBlank_newline layout (level + 1))
            ⟨c, _, by rw [hcs, ofChars_cons, List.cons_append], hc⟩ ?_
          -- every element takes at least one symbol, so the length of the text is room enough
          obtain ⟨fuel, hlen, hfuel⟩ := elements_fuel layout (level + 1) vs hcs
            (Symbols.ofChars (layout.newline level) ++ some ']' :: rest)
          rw [hlen]
          exact elements_of_tail hhead
            (elementsTail_render layout vs (level + 1) level room fuel rest hv.2 hfuel)
  | .object [], level, room, rest, _, _ => by
      cases room <;> rfl
  | .object ((k, v) :: ms), level, room, rest, hv, _ => by
      rw [Integral, IntegralMembers] at hv
      rw [ofChars_render_object]
      cases room with
      | zero => rfl
      | succ room =>
          have hfollow := endsNumber_renderMembers layout (level + 1) ms
            (endsNumber_close layout level (.inr rfl) rest)
          have hhead := value_render layout v (level + 1) room _ hv.1 hfollow
          rw [value_succ_brace, depth, sorted]
          refine objectRest_of_members (isBlank_newline layout (level + 1))
            ⟨'"', _, rfl, by decide, by decide, by decide⟩ ?_
          obtain ⟨fuel, hlen, hfuel⟩ := members_fuel layout (level + 1) k ms
            (Symbols.ofChars layout.colon ++ Symbols.ofChars (render layout (level + 1) v))
            (Symbols.ofChars (layout.newline level) ++ some '}' :: rest)
          simp only [List.append_assoc] at hlen
          rw [hlen]
          exact memberList_of_tail layout k hhead
            (membersTail_render layout ms (level + 1) level room fuel rest hv.2 hfuel)

theorem elementsTail_render (layout : Layout) :
    ∀ (vs : List Json) (level outer room fuel : Nat) (rest : Symbols),
    IntegralItems vs → vs.length ≤ fuel →
    elementsTail (value room) fuel (Symbols.ofChars (renderItems layout level vs)
        ++ (Symbols.ofChars (layout.newline outer) ++ some ']' :: rest))
      = fitting (depthItems vs) room (sortedItems vs) rest
  | [], level, outer, room, fuel, rest, _, _ => by
      have hclose : skipBlanks (Symbols.ofChars (renderItems layout level [])
          ++ (Symbols.ofChars (layout.newline outer) ++ some ']' :: rest)) = some ']' :: rest := by
        rw [renderItems]
        exact (skipBlanks_append (isBlank_newline layout outer) _).trans
          (skipBlanks_cons (by decide) rest)
      rw [elementsTail, hclose, fitting_of_le (by simp [depthItems])]
      rfl
  | v :: vs, level, outer, room, 0, rest, _, hfuel => by
      simp at hfuel
  | v :: vs, level, outer, room, fuel + 1, rest, hvs, hfuel => by
      rw [IntegralItems] at hvs
      have hfollow := endsNumber_renderItems layout level vs
        (endsNumber_close layout outer (.inl rfl) rest)
      have hhead := value_render layout v level room _ hvs.1 hfollow
      rw [← value_append_blanks room (isBlank_newline layout level)] at hhead
      have htext : Symbols.ofChars (renderItems layout level (v :: vs))
            ++ (Symbols.ofChars (layout.newline outer) ++ some ']' :: rest)
          = some ',' :: (Symbols.ofChars (layout.newline level)
            ++ (Symbols.ofChars (render layout level v)
              ++ (Symbols.ofChars (renderItems layout level vs)
                ++ (Symbols.ofChars (layout.newline outer) ++ some ']' :: rest)))) := by
        rw [renderItems]
        simp [Symbols.ofChars]
      rw [htext, elementsTail, skipBlanks_cons (by decide)]
      exact elements_of_tail hhead
        (elementsTail_render layout vs level outer room fuel rest hvs.2
          (Nat.le_of_succ_le_succ hfuel))

theorem membersTail_render (layout : Layout) :
    ∀ (ms : List (String × Json)) (level outer room fuel : Nat) (rest : Symbols),
    IntegralMembers ms → ms.length ≤ fuel →
    membersTail (value room) fuel (Symbols.ofChars (renderMembers layout level ms)
        ++ (Symbols.ofChars (layout.newline outer) ++ some '}' :: rest))
      = fitting (depthMembers ms) room (sortedMembers ms) rest
  | [], level, outer, room, fuel, rest, _, _ => by
      have hclose : skipBlanks (Symbols.ofChars (renderMembers layout level [])
          ++ (Symbols.ofChars (layout.newline outer) ++ some '}' :: rest)) = some '}' :: rest := by
        rw [renderMembers]
        exact (skipBlanks_append (isBlank_newline layout outer) _).trans
          (skipBlanks_cons (by decide) rest)
      rw [membersTail, hclose, fitting_of_le (by simp [depthMembers])]
      rfl
  | m :: ms, level, outer, room, 0, rest, _, hfuel => by
      simp at hfuel
  | (k, v) :: ms, level, outer, room, fuel + 1, rest, hms, hfuel => by
      rw [IntegralMembers] at hms
      have hfollow := endsNumber_renderMembers layout level ms
        (endsNumber_close layout outer (.inr rfl) rest)
      have hhead := value_render layout v level room _ hms.1 hfollow
      have htext : Symbols.ofChars (renderMembers layout level ((k, v) :: ms))
            ++ (Symbols.ofChars (layout.newline outer) ++ some '}' :: rest)
          = some ',' :: (Symbols.ofChars (layout.newline level)
            ++ (Symbols.ofChars (quoted k) ++ (Symbols.ofChars layout.colon
              ++ (Symbols.ofChars (render layout level v)
                ++ (Symbols.ofChars (renderMembers layout level ms)
                  ++ (Symbols.ofChars (layout.newline outer) ++ some '}' :: rest)))))) := by
        rw [renderMembers]
        simp [Symbols.ofChars]
      rw [htext, membersTail, skipBlanks_cons (by decide)]
      refine (memberList_append_blanks _ fuel (isBlank_newline layout level) _).trans ?_
      exact memberList_of_tail layout k hhead
        (membersTail_render layout ms level outer room fuel rest hms.2
          (Nat.le_of_succ_le_succ hfuel))

end

/-! ## Whole texts -/

theorem read_render (layout : Layout) {v : Json} (hv : v.Integral) :
    read (Symbols.ofChars (render layout 0 v))
      = if v.depth ≤ maxDepth then .ok v.sorted else .error .malformed := by
  have hvalue := value_render layout v 0 maxDepth [] hv trivial
  rw [List.append_nil] at hvalue
  rw [read, hvalue]
  by_cases hdepth : v.depth ≤ maxDepth
  · rw [fitting_of_le hdepth, if_pos hdepth]
    rfl
  · rw [fitting_of_not_le hdepth, if_neg hdepth]
    rfl

/-- A printed value is read back if it is not nested too deep, and is no value otherwise. -/
theorem parse?_print (layout : Layout) {v : Json} (hv : v.Integral) :
    parse? (v.print layout) = if v.depth ≤ maxDepth then some v.sorted else none := by
  rw [parse?, print, Symbols.ofText, String.toList_ofList, read_render layout hv]
  by_cases hdepth : v.depth ≤ maxDepth
  · rw [if_pos hdepth, if_pos hdepth]
    rfl
  · rw [if_neg hdepth, if_neg hdepth]
    rfl

end CallBridge.Json
