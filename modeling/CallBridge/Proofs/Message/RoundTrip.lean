import CallBridge.Message.Codec
import CallBridge.Proofs.Argument.Exact
import CallBridge.Proofs.Json.RoundTrip

/-!
# Frames read back

Decoding the frame of a message gives the message back, up to two spellings that the wire cannot
tell apart (`Message.norm`); a frame that is nested too deep is refused as it stands. Main
statement: `Message.decode_encode`.
-/

namespace CallBridge

namespace Json

/-- A value as host code can hold it on both sides of the wire: sorted objects and no doubles. -/
def Plain (v : Json) : Prop := v.Integral ∧ v.Canonical

theorem parseNumber?_intText (i : Integer) :
    parseNumber? (String.ofList (intText i.val)) = some (.int i) := by
  have hread : Scan.number (Symbols.ofChars (intText i.val) ++ []) = .ok (.int i, []) :=
    Scan.number_intText i trivial
  rw [List.append_nil] at hread
  rw [parseNumber?, Symbols.ofText, String.toList_ofList, hread]

end Json

/-! ## Tokens -/

namespace CallId

/-- The text of a number token is that of an integer in range, or no number at all. -/
def Plain : CallId → Prop
  | .number s =>
      (∃ i : Integer, s = String.ofList (Json.intText i.val)) ∨ Json.parseNumber? s = none
  | .text _ => True

/-- The token as it comes back: a number token that spells no number has become a text. -/
def norm : CallId → CallId
  | .number s => if (Json.parseNumber? s).isSome then .number s else .text s
  | .text s => .text s

theorem ofJson?_toJson {id : CallId} (hid : id.Plain) : ofJson? id.toJson = some id.norm := by
  cases id with
  | text s => rfl
  | number s =>
      rcases hid with ⟨i, rfl⟩ | hnone
      · simp [toJson, norm, Json.parseNumber?_intText, ofJson?, Json.numberText]
      · simp [toJson, norm, hnone, ofJson?]

theorem integral_toJson {id : CallId} (hid : id.Plain) : id.toJson.Integral := by
  cases id with
  | text s => trivial
  | number s =>
      rcases hid with ⟨i, rfl⟩ | hnone
      · simp [toJson, Json.parseNumber?_intText, Json.Integral]
      · simp [toJson, hnone, Json.Integral]

/-- A token is no array and no object. -/
theorem toJson_cases (id : CallId) :
    (∃ n, id.toJson = .number n) ∨ ∃ s, id.toJson = .string s := by
  cases id with
  | text s => exact .inr ⟨s, rfl⟩
  | number s =>
      rw [toJson]
      split
      · exact .inl ⟨_, rfl⟩
      · exact .inr ⟨_, rfl⟩

theorem sorted_toJson (id : CallId) : id.toJson.sorted = id.toJson := by
  obtain ⟨n, hn⟩ | ⟨s, hs⟩ := id.toJson_cases
  · simp [hn, Json.sorted]
  · simp [hs, Json.sorted]

theorem depth_toJson (id : CallId) : id.toJson.depth = 0 := by
  obtain ⟨n, hn⟩ | ⟨s, hs⟩ := id.toJson_cases
  · rw [hn, Json.depth]
    all_goals simp
  · rw [hs, Json.depth]
    all_goals simp

end CallId

/-! ## Errors -/

namespace ReturnError

theorem fields_of_decode {code message : Json} {c : UInt32} {m : String}
    (hcode : (Argument.decode code : Except Mismatch UInt32) = .ok c)
    (hmessage : (Argument.decode message : Except Mismatch String) = .ok m) :
    ofJson?.fields code message = some ⟨c, m⟩ := by
  rw [ofJson?.fields, hcode, hmessage]
  rfl

/-- An error as it travels is sorted already, and is read back. -/
theorem ofJson?_sorted_toJson (e : ReturnError) : ofJson? e.toJson.sorted = some e := by
  obtain ⟨n, hn⟩ : ∃ n, Argument.encode e.code = Json.number n := ⟨_, rfl⟩
  have hsorted : Keyed.Sorted [("code", Json.number n), ("message", Json.string e.message)] := by
    have hkeys : ["code", "message"].Pairwise (· < ·) := by decide
    exact hkeys
  have hcode := Argument.decode_encode_self e.code
  rw [hn] at hcode
  simp only [toJson, hn, Json.sorted, Json.sortedMembers, Json.ofMembers,
    Keyed.ofList_of_sorted hsorted]
  exact fields_of_decode hcode rfl

theorem integral_toJson (e : ReturnError) : e.toJson.Integral :=
  ⟨trivial, trivial, trivial⟩

theorem depth_toJson (e : ReturnError) : e.toJson.depth = 1 := by
  obtain ⟨n, hn⟩ : ∃ n, Argument.encode e.code = Json.number n := ⟨_, rfl⟩
  simp [toJson, hn, Json.depth, Json.depthMembers]

end ReturnError

namespace Message

/-- Tokens and values that survive the wire. -/
def Plain : Message → Prop
  | .call c => c.id.Plain ∧ ∀ v ∈ c.args, v.Plain
  | .ret r => r.id.Plain ∧ ∀ v ∈ r.value, v.Plain

/-- The message as it comes back: a value of null counts as none. -/
def norm : Message → Message
  | .call c => .call { c with id := c.id.norm }
  | .ret r =>
      .ret { r with
        id := r.id.norm
        value := match r.value with
          | some .null => none
          | value => value }

theorem integral_toJson {m : Message} (hm : m.Plain) : m.toJson.Integral := by
  cases m with
  | call c =>
      have hargs : Json.IntegralItems c.args :=
        Json.integralItems_iff.2 fun v hv => (hm.2 v hv).1
      exact ⟨CallId.integral_toJson hm.1, trivial, hargs, trivial⟩
  | ret r =>
      obtain ⟨id, value, error⟩ := r
      have hid := CallId.integral_toJson hm.1
      cases value with
      | none =>
          cases error with
          | none => exact ⟨hid, trivial⟩
          | some e => exact ⟨hid, e.integral_toJson, trivial⟩
      | some v =>
          have hv : v.Integral := (hm.2 v rfl).1
          cases error with
          | none => exact ⟨hid, hv, trivial⟩
          | some e => exact ⟨hid, hv, e.integral_toJson, trivial⟩

theorem depth_call (c : Call) : (Message.call c).toJson.depth = Json.depthItems c.args + 2 := by
  simp [toJson, Json.depth, Json.depthMembers, CallId.depth_toJson]

theorem depth_ret (r : Return) {d : Nat} (hvalue : ∀ v, r.value = some v → v.depth ≤ d) :
    (Message.ret r).toJson.depth ≤ max d 1 + 1 := by
  obtain ⟨id, value, error⟩ := r
  rcases value with - | v <;> rcases error with - | e
  · simp [toJson, Json.depth, Json.depthMembers, CallId.depth_toJson]
  · simp only [toJson, Json.depth, Json.depthMembers, CallId.depth_toJson, e.depth_toJson,
      Option.map_some, Option.map_none, Option.toList_some, Option.toList_none, List.cons_append,
      List.nil_append]
    omega
  · have hv := hvalue v rfl
    simp only [toJson, Json.depth, Json.depthMembers, CallId.depth_toJson, Option.map_some,
      Option.map_none, Option.toList_some, Option.toList_none, List.append_nil]
    omega
  · have hv := hvalue v rfl
    simp only [toJson, Json.depth, Json.depthMembers, CallId.depth_toJson, e.depth_toJson,
      Option.map_some, Option.toList_some, List.cons_append, List.nil_append]
    omega

theorem ofJson?_sorted_call {c : Call} (hc : (Message.call c).Plain) :
    ofJson? (toJson (.call c)).sorted = some (norm (.call c)) := by
  have hargs : Json.sortedItems c.args = c.args :=
    Json.sortedItems_of_canonical _ (Json.canonicalItems_iff.2 fun v hv => (hc.2 v hv).2)
  simp only [toJson, Json.sorted, Json.sortedMembers, hargs, CallId.sorted_toJson, Json.ofMembers,
    Keyed.ofList, List.foldl_cons, List.foldl_nil]
  simp [ofJson?, Keyed.contains, callOfMembers?, Keyed.lookup_insert_self, Keyed.lookup_insert_ne,
    CallId.ofJson?_toJson hc.1, norm]

/-- What stands under each key of a return's frame. -/
theorem lookup_sorted_return (r : Return) :
    ∃ members, (toJson (.ret r)).sorted = .object members
      ∧ members.lookup "call" = none
      ∧ members.lookup "return" = some r.id.toJson
      ∧ members.lookup "value" = r.value.map Json.sorted
      ∧ members.lookup "error" = r.error.map fun e => e.toJson.sorted := by
  obtain ⟨id, value, error⟩ := r
  refine ⟨_, rfl, ?_⟩
  cases value <;> cases error <;>
    simp [Json.sortedMembers, CallId.sorted_toJson, Keyed.ofList, Keyed.lookup_insert_self,
      Keyed.lookup_insert_ne]

theorem ofJson?_sorted_return {r : Return} (hr : (Message.ret r).Plain) :
    ofJson? (toJson (.ret r)).sorted = some (norm (.ret r)) := by
  obtain ⟨members, hobject, hcall, hreturn, hvalue, herror⟩ := lookup_sorted_return r
  obtain ⟨id, value, error⟩ := r
  have hid : CallId.ofJson? id.toJson = some id.norm := CallId.ofJson?_toJson hr.1
  have hsorted : value.map Json.sorted = value := by
    cases value with
    | none => rfl
    | some v => rw [Option.map_some, v.sorted_of_canonical (hr.2 v rfl).2]
  rw [hsorted] at hvalue
  rw [hobject]
  simp only [ofJson?, Keyed.contains, hcall, Option.isSome_none, Bool.false_eq_true, if_false,
    returnOfMembers?, hreturn, Option.bind_some, hid, hvalue, herror, norm]
  cases error with
  | none =>
      rcases value with - | v
      · rfl
      · cases v <;> rfl
  | some e =>
      have he := e.ofJson?_sorted_toJson
      obtain ⟨fields, hfields⟩ : ∃ fields, e.toJson.sorted = .object fields := ⟨_, rfl⟩
      rw [hfields] at he
      simp only [Option.map_some, hfields, he]
      rcases value with - | v
      · rfl
      · cases v <;> rfl

theorem ofJson?_sorted_toJson {m : Message} (hm : m.Plain) :
    ofJson? m.toJson.sorted = some m.norm := by
  cases m with
  | call c => exact ofJson?_sorted_call hm
  | ret r => exact ofJson?_sorted_return hm

theorem decode_encode_of_le (layout : Json.Layout) {m : Message} (hm : m.Plain)
    (hdepth : m.toJson.depth ≤ Json.maxDepth) : decode (m.encode layout) = .ok m.norm := by
  have hparse := Json.parse?_print layout (integral_toJson hm)
  rw [if_pos hdepth] at hparse
  rw [decode, encode, hparse]
  simp only [classify, ofJson?_sorted_toJson hm]

theorem decode_encode_of_lt (layout : Json.Layout) {m : Message} (hm : m.Plain)
    (hdepth : Json.maxDepth < m.toJson.depth) :
    decode (m.encode layout) = .error (.invalidFormat (m.encode layout)) := by
  have hparse := Json.parse?_print layout (integral_toJson hm)
  rw [if_neg (Nat.not_le_of_lt hdepth)] at hparse
  rw [decode, encode, hparse]

/-- Only a number token that spells no number and a value of null change on the wire. -/
theorem norm_eq_self_iff (m : Message) :
    m.norm = m ↔ (∀ s, m.id = .number s → Json.parseNumber? s ≠ none)
      ∧ ∀ r, m = .ret r → r.value ≠ some .null := by
  have hid : ∀ id : CallId, id.norm = id ↔ ∀ s, id = .number s → Json.parseNumber? s ≠ none := by
    intro id
    cases id with
    | text s => simp [CallId.norm]
    | number s => cases hs : Json.parseNumber? s <;> simp [CallId.norm, hs]
  cases m with
  | call c =>
      obtain ⟨id, name, args⟩ := c
      simp [norm, Message.id, ← hid]
  | ret r =>
      obtain ⟨id, value, error⟩ := r
      rcases value with - | v
      · simp [norm, Message.id, ← hid]
      · cases v <;> simp [norm, Message.id, ← hid]

/-- **Frames read back.** A frame gives its message back, up to `norm`, if it nests at most 127
arrays and objects, and is refused as it stands if it nests more. -/
theorem decode_encode (layout : Json.Layout) (m : Message) (hm : m.Plain) :
    (m.toJson.depth ≤ 127 → decode (m.encode layout) = .ok m.norm)
      ∧ (127 < m.toJson.depth →
        decode (m.encode layout) = .error (.invalidFormat (m.encode layout)))
      ∧ (m.norm = m ↔ (∀ s, m.id = .number s → Json.parseNumber? s ≠ none)
        ∧ ∀ r, m = .ret r → r.value ≠ some .null) :=
  ⟨decode_encode_of_le layout hm, decode_encode_of_lt layout hm, norm_eq_self_iff m⟩

/-- Both spellings at once: a number token that is no number, and a value of null. -/
theorem decode_encode_word_null :
    (Message.ret ⟨.number "x", some .null, none⟩).Plain
      ∧ decode (encode .pretty (.ret ⟨.number "x", some .null, none⟩))
        = .ok (.ret ⟨.text "x", none, none⟩) := by
  have hread : Json.parseNumber? "x" = none := rfl
  have hplain : (Message.ret ⟨.number "x", some .null, none⟩).Plain :=
    ⟨.inr hread, by rintro v ⟨⟩; exact ⟨trivial, trivial⟩⟩
  have hdepth : (toJson (.ret ⟨.number "x", some .null, none⟩)).depth ≤ 127 := by
    simp [toJson, CallId.toJson, hread, Json.depth, Json.depthMembers]
  have hnorm : norm (.ret ⟨.number "x", some .null, none⟩) = .ret ⟨.text "x", none, none⟩ := by
    simp [norm, CallId.norm, hread]
  refine ⟨hplain, ?_⟩
  rw [← hnorm]
  exact (decode_encode .pretty _ hplain).1 hdepth

end Message

end CallBridge
