import CallBridge.Config.Reader
import CallBridge.Proofs.Json.Grammar

/-!
# Values passed over

What is passed over is any text of a value, up to its end: the depth of its nesting and the size of
its numbers do not matter, nor do blanks. Main statement: `skipValue_of_isValue`.
-/

namespace CallBridge.Config

open Json Scan

/-- The reader passes over the text and the blanks before it, whatever comes next. -/
def Passes (one : Symbols → Except Fault Symbols) (s : Symbols) : Prop :=
  ∀ (b : Blanks) (rest : Symbols), EndsNumber rest → one (b.1 ++ (s ++ rest)) = .ok rest

/-! ## Lists -/

/-- What may follow an element: a comma and further elements, or the closing bracket. -/
def skipTail (one : Symbols → Except Fault Symbols) (close : Char) (room : Nat) (s : Symbols) :
    Except Fault Symbols :=
  match skipBlanks s with
  | some ',' :: rest => skipElements one close room rest
  | x :: rest => if x = some close then .ok rest else .error .malformed
  | [] => .error .ended

theorem skipElements_succ (one : Symbols → Except Fault Symbols) (close : Char) (room : Nat)
    (s : Symbols) :
    skipElements one close (room + 1) s = (one s >>= skipTail one close room) := rfl

/-- The brackets that end a list. -/
def Closes (close : Char) : Prop := close = ']' ∨ close = '}'

theorem endsNumber_closes {close : Char} (hclose : Closes close) (rest : Symbols) :
    EndsNumber (some close :: rest) := by
  rcases hclose with rfl | rfl <;> exact ⟨by decide, by decide, by decide, by decide⟩

theorem skipBlanks_closes {close : Char} (hclose : Closes close) (inner : Blanks)
    (rest : Symbols) : skipBlanks (inner.1 ++ some close :: rest) = some close :: rest := by
  rw [skipBlanks_blanks, skipBlanks_cons]
  rcases hclose with rfl | rfl <;> decide

/-- No number goes on after an item of a list. -/
theorem endsNumber_afterItem {close : Char} (hclose : Closes close) (b : Blanks)
    (items : List Padded) (inner : Blanks) (rest : Symbols) :
    EndsNumber (b.1 ++ following items (inner.1 ++ some close :: rest)) :=
  endsNumber_blanks b (endsNumber_following items
    (endsNumber_blanks inner (endsNumber_closes hclose rest)))

section Lists

variable {one : Symbols → Except Fault Symbols} {close : Char}

theorem skipTail_following (hclose : Closes close) (inner : Blanks) (rest : Symbols)
    {items : List Padded} (hitems : ∀ p ∈ items, Passes one p.body) (b : Blanks) {room : Nat}
    (hroom : items.length ≤ room) :
    skipTail one close room (b.1 ++ following items (inner.1 ++ some close :: rest))
      = .ok rest := by
  induction items generalizing b room with
  | nil =>
      rw [skipTail, skipBlanks_blanks, following, skipBlanks_closes hclose]
      rcases hclose with rfl | rfl <;> simp
  | cons p items ih =>
      cases room with
      | zero => cases hroom
      | succ room =>
          have hp := hitems p List.mem_cons_self p.before _
            (endsNumber_afterItem hclose p.after items inner rest)
          have hrest := ih (fun q hq => hitems q (List.mem_cons_of_mem p hq)) p.after
            (Nat.le_of_succ_le_succ hroom)
          rw [skipTail, skipBlanks_blanks, following, skipBlanks_cons (by decide)]
          show skipElements one close (room + 1) _ = _
          rw [skipElements_succ, hp]
          exact hrest

/-- A list is passed over from after its opening bracket. -/
theorem skipBracket_joined (hclose : Closes close) (inner : Blanks) (rest : Symbols)
    {items : List Padded} (hitems : ∀ p ∈ items, Passes one p.body)
    (hstart : ∀ p ∈ items, StartsItem p.body) :
    skipBracket one close (joined items (inner.1 ++ some close :: rest)) = .ok rest := by
  cases items with
  | nil =>
      rw [skipBracket, joined, skipBlanks_closes hclose]
      simp
  | cons p items =>
      obtain ⟨c, t, hc, hbegins⟩ := hstart p List.mem_cons_self
      have hne : some c ≠ some close := by
        rcases hclose with rfl | rfl
        · exact fun h => hbegins.2.1 (Option.some.inj h)
        · exact fun h => hbegins.2.2 (Option.some.inj h)
      have hp := hitems p List.mem_cons_self noBlanks _
        (endsNumber_afterItem hclose p.after items inner rest)
      have hlength := length_le_following items (inner.1 ++ some close :: rest)
      rw [hc, noBlanks_append, List.cons_append] at hp
      rw [skipBracket, joined, skipBlanks_blanks, hc, List.cons_append,
        skipBlanks_cons hbegins.1]
      show (if some c = some close then _ else skipElements one close (_ + 1) _) = _
      rw [if_neg hne, skipElements_succ, hp]
      refine skipTail_following hclose inner rest
        (fun q hq => hitems q (List.mem_cons_of_mem p hq)) p.after ?_
      simp only [List.length_append]
      omega

end Lists

/-! ## Values -/

theorem mark_blanks {c : Char} (hc : isBlank (some c) = false) (b : Blanks) (rest : Symbols) :
    mark c (b.1 ++ some c :: rest) = .ok rest := by
  rw [mark, skipBlanks_blanks, skipBlanks_cons hc]
  exact if_pos rfl

theorem skipMember_passes {inner : Symbols → Except Fault Symbols} {m : MemberText} {s : Symbols}
    (hkey : m.key.body = some '"' :: (s ++ [some '"'])) (hs : Passable s)
    (hvalue : Passes inner m.value.body) : Passes (skipMember inner) m.toPadded.body := by
  intro b rest hrest
  have htext : b.1 ++ (m.toPadded.body ++ rest)
      = b.1 ++ some '"' :: (s ++ some '"' ::
        (m.key.after.1 ++ some ':' :: (m.value.before.1 ++ (m.value.body ++ rest)))) := by
    simp [MemberText.toPadded, hkey]
  rw [htext, skipMember, mark_blanks (by decide)]
  simp only [bind, Except.bind, skipString_of_passable hs]
  rw [mark_blanks (by decide)]
  exact hvalue m.value.before rest hrest

theorem startsItem_member {m : MemberText} {s : Symbols} (hkey : m.key.body = some '"' :: s) :
    StartsItem m.toPadded.body := by
  rw [MemberText.toPadded, hkey]
  exact ⟨'"', _, rfl, by decide, by decide, by decide⟩

theorem skipValue_number {s : Symbols} (hs : IsNumber s) (room : Nat) :
    Passes (skipValue (room + 1)) s := by
  intro b rest hrest
  obtain ⟨l, hl⟩ := literal_of_isNumber hs hrest
  have hskip : skipNumber (s ++ rest) = .ok rest := by rw [skipNumber, hl]
  obtain ⟨c, t, rfl, hc⟩ := head_of_isNumber hs
  obtain ⟨hstart, hother⟩ := starts_number hc
  rw [skipValue, skipBlanks_blanks, List.cons_append, skipBlanks_cons (begins_number hc).1]
  split <;> simp_all

/-- A text is not empty, so there is room for one level. -/
theorem exists_room {s : Symbols} (hs : IsValue s) {room : Nat} (hroom : s.length ≤ room) :
    ∃ n, room = n + 1 := by
  obtain ⟨c, t, rfl, -⟩ := startsItem_of_isValue hs
  rw [List.length_cons] at hroom
  exact Nat.exists_eq_succ_of_ne_zero (by omega)

/-- Any text of a value is passed over. -/
theorem skipValue_of_isValue {s : Symbols} (hs : IsValue s) {room : Nat} (hroom : s.length ≤ room) :
    Passes (skipValue room) s := by
  obtain ⟨room, rfl⟩ := exists_room hs hroom
  -- one level of nesting takes one from the room, and what is nested is shorter by a bracket
  induction hs generalizing room with
  | null | true | false =>
      intro b rest _
      rw [skipValue, skipBlanks_blanks]
      rfl
  | number hs => exact skipValue_number hs room
  | string hs =>
      intro b rest _
      rw [skipValue, skipBlanks_blanks, List.cons_append, skipBlanks_cons (by decide),
        List.append_assoc]
      exact skipString_of_passable hs rest
  | array items inner hitems ih =>
      intro b rest _
      rw [skipValue, skipBlanks_blanks, List.cons_append, skipBlanks_cons (by decide),
        joined_append, List.append_assoc]
      refine skipBracket_joined (.inl rfl) inner rest (fun p hp => ?_)
        fun p hp => startsItem_of_isValue (hitems p hp)
      have hfits := Nat.le_trans (length_body_le_joined hp (inner.1 ++ [some ']']))
        (Nat.le_of_succ_le_succ hroom)
      obtain ⟨room, rfl⟩ := exists_room (hitems p hp) hfits
      exact ih p hp room hfits
  | object members inner hkeys hvalues ih =>
      intro b rest _
      rw [skipValue, skipBlanks_blanks, List.cons_append, skipBlanks_cons (by decide),
        joined_append, List.append_assoc]
      refine skipBracket_joined (.inr rfl) inner rest (fun p hp => ?_) fun p hp => ?_
      · obtain ⟨m, hm, rfl⟩ := List.mem_map.1 hp
        obtain ⟨s, hkey, hs⟩ := hkeys m hm
        have hmember := Nat.le_trans (length_body_le_joined hp (inner.1 ++ [some '}']))
          (Nat.le_of_succ_le_succ hroom)
        have hvalue : m.value.body.length ≤ m.toPadded.body.length := by
          simp only [MemberText.toPadded, List.length_append, List.length_cons]
          omega
        have hfits := Nat.le_trans hvalue hmember
        obtain ⟨room, rfl⟩ := exists_room (hvalues m hm) hfits
        exact skipMember_passes hkey hs (ih m hm room hfits)
      · obtain ⟨m, hm, rfl⟩ := List.mem_map.1 hp
        obtain ⟨s, hkey, -⟩ := hkeys m hm
        exact startsItem_member hkey

end CallBridge.Config
