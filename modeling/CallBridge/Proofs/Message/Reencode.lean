import CallBridge.Proofs.Json.Image
import CallBridge.Proofs.Message.Grammar
import CallBridge.Proofs.Message.RoundTrip

/-!
# Frames written anew

A frame may be laid out and spelled in many ways, say nothing of members that are not asked for, and
give an error as an array. If all its numbers are integers in range, the message that it is read as
has lost nothing that the wire cannot carry: its own frames, in both layouts, are read as just this
message. So a frame written anew stays as it is, and tells its message from all others. Main
statement: `Message.reencode_faithful`.
-/

namespace CallBridge

open Keyed (Holds)

/-! ## What is read is fit to be written -/

namespace Json

variable {room : Nat}

theorem Readable.item {items : List Json} {v : Json} (h : (Json.array items).Readable (room + 1))
    (hv : v ∈ items) : v.Readable room where
  integral := integralItems_iff.1 h.integral v hv
  canonical := canonicalItems_iff.1 h.canonical v hv
  depth_le := depthItems_le_iff.1 (Nat.le_of_succ_le_succ h.depth_le) v hv

theorem Readable.member_of_holds {members : List (String × Json)} {key : String} {v : Json}
    (h : (Json.object members).Readable (room + 1)) (hv : Holds members key v) :
    v.Readable room := by
  have hmem : (key, v) ∈ members := Keyed.mem_of_lookup (Keyed.lookup_eq_some_iff.2 hv)
  exact {
    integral := integralMembers_iff.1 h.integral _ hmem
    canonical := canonicalMembers_iff.1 h.canonical.2 _ hmem
    depth_le := depthMembers_le_iff.1 (Nat.le_of_succ_le_succ h.depth_le) _ hmem }

theorem Readable.plain {v : Json} (h : v.Readable room) : v.Plain := ⟨h.integral, h.canonical⟩

end Json

namespace CallId.Shape

variable {token : Json} {id : CallId}

/-- A number token that is read is the text of an integer in range, so it stays a number token. -/
theorem plain (h : CallId.Shape token id) (htoken : token.Integral) : id.Plain := by
  cases h with
  | text s => trivial
  | number n =>
      cases n with
      | int i => exact .inl ⟨i, rfl⟩
      | float x => exact htoken.elim

theorem norm_eq (h : CallId.Shape token id) (htoken : token.Integral) : id.norm = id := by
  cases h with
  | text s => rfl
  | number n =>
      cases n with
      | int i =>
          have hread : Json.parseNumber? (String.ofList (Json.numberText (.int i)))
              = some (.int i) := Json.parseNumber?_intText i
          rw [norm, hread]
          rfl
      | float x => exact htoken.elim

end CallId.Shape

namespace Message

/-- A message whose frames are read as this very message. -/
structure Faithful (m : Message) : Prop where
  plain : m.Plain
  norm_eq : m.norm = m
  depth_le : m.toJson.depth ≤ Json.maxDepth

theorem Faithful.decode_eq {m : Message} (h : m.Faithful) (layout : Json.Layout) :
    decode (m.encode layout) = .ok m := by
  rw [decode_encode_of_le layout h.plain h.depth_le, h.norm_eq]

section Parts

variable {id : CallId}

/-- Arguments may nest two levels less than the frame, which puts them in an array in an object. -/
theorem faithful_call {name : String} {args : List Json} (hid : id.Plain) (hnorm : id.norm = id)
    (hargs : ∀ v ∈ args, v.Readable 125) : (Message.call ⟨id, name, args⟩).Faithful where
  plain := ⟨hid, fun v hv => (hargs v hv).plain⟩
  norm_eq := by rw [norm, hnorm]
  depth_le := by
    rw [depth_call]
    exact Nat.add_le_add_right (Json.depthItems_le_iff.2 fun v hv => (hargs v hv).depth_le) 2

theorem faithful_ret {value : Option Json} {error : Option ReturnError} (hid : id.Plain)
    (hnorm : id.norm = id) (hvalue : ∀ v, value = some v → v.Readable 126 ∧ v ≠ .null) :
    (Message.ret ⟨id, value, error⟩).Faithful where
  plain := ⟨hid, fun v hv => (hvalue v hv).1.plain⟩
  norm_eq := by
    rw [norm, hnorm]
    split
    · next hnull => exact absurd rfl (hvalue .null hnull).2
    · rfl
  depth_le := depth_ret _ fun v hv => (hvalue v hv).1.depth_le

end Parts

/-- A message that is read from a value of integers loses nothing when it is written. -/
theorem Shape.faithful {v : Json} {m : Message} (h : Shape v m) (hv : v.Readable Json.maxDepth) :
    m.Faithful := by
  cases h with
  | @call members token id name args hcall hid hname hargs =>
      have htoken := (hv.member_of_holds hcall).integral
      refine faithful_call (hid.plain htoken) (hid.norm_eq htoken) fun v hmem => ?_
      cases hargs with
      | absent => cases hmem
      | array hargs => exact (hv.member_of_holds hargs).item hmem
  | @ret members token id value error hcall hreturn hid hvalue herror =>
      have htoken := (hv.member_of_holds hreturn).integral
      refine faithful_ret (hid.plain htoken) (hid.norm_eq htoken) fun v hsome => ?_
      cases hvalue with
      | absent | null => cases hsome
      | present hkey hnull heq =>
          cases hsome
          subst heq
          exact ⟨hv.member_of_holds hkey, hnull⟩

theorem faithful_of_decode {frame : String} {m : Message}
    (hframe : Scan.AllIntegers (Symbols.ofText frame)) (hm : decode frame = .ok m) :
    m.Faithful := by
  obtain ⟨v, hparse, hshape⟩ := exists_shape hm
  exact hshape.faithful (Json.readable_of_parse? hframe hparse)

/-! ## Writing anew -/

/-- The frame that is written for the message of a frame. -/
def reencode (layout : Json.Layout) (frame : String) : Except CodecError String :=
  (decode frame).map (encode layout)

theorem reencode_eq_ok_iff {layout : Json.Layout} {f g : String} :
    reencode layout f = .ok g ↔ ∃ m, decode f = .ok m ∧ m.encode layout = g := by
  unfold reencode
  cases decode f with
  | error e => simp [Except.map]
  | ok m => simp [Except.map]

/-- **Frames written anew.** Let all numbers of a frame be integers in range. If it is a message,
both frames of this message are read as the message. So a frame written anew is not changed by
writing it anew once more, and of two such frames the messages are the same just if they are written
as the same text. -/
theorem reencode_faithful (f : String) (hf : Scan.AllIntegers (Symbols.ofText f)) :
    (∀ m, decode f = .ok m → ∀ layout, decode (m.encode layout) = .ok m)
      ∧ (∀ layout g, reencode layout f = .ok g → reencode layout g = .ok g)
      ∧ ∀ f', Scan.AllIntegers (Symbols.ofText f') →
        ∀ m m', decode f = .ok m → decode f' = .ok m' →
          ∀ layout, m = m' ↔ m.encode layout = m'.encode layout := by
  refine ⟨?_, ?_, ?_⟩
  · intro m hm layout
    exact (faithful_of_decode hf hm).decode_eq layout
  · intro layout g hg
    obtain ⟨m, hm, rfl⟩ := reencode_eq_ok_iff.1 hg
    exact reencode_eq_ok_iff.2 ⟨m, (faithful_of_decode hf hm).decode_eq layout, rfl⟩
  · intro f' hf' m m' hm hm' layout
    constructor
    · rintro rfl
      rfl
    · intro htext
      have hread := (faithful_of_decode hf hm).decode_eq layout
      rw [htext, (faithful_of_decode hf' hm').decode_eq layout] at hread
      exact (Except.ok.inj hread).symm

/-- Two spellings of one message: the first has blanks, a null, an error as an array and a member
that counts for nothing, the second an escape and members that are not asked for. -/
theorem reencode_faithful_two_spellings :
    let f := "\x7b \"return\" : 7,\n\"error\":[3, \"x\"], \"value\":null, \"return\": -7 \x7d"
    let f' := "\x7b\"error\":\x7b\"message\":\"\\u0078\",\"code\":3,\"\":[0]\x7d,\"return\":-7\x7d"
    let text := "\x7b\"return\":-7,\"error\":\x7b\"code\":3,\"message\":\"x\"\x7d\x7d"
    Scan.AllIntegers (Symbols.ofText f) ∧ Scan.AllIntegers (Symbols.ofText f')
      ∧ reencode .compact text = .ok text
      ∧ ∃ m, decode f = .ok m ∧ decode f' = .ok m ∧ m.encode .compact = text
        ∧ decode (m.encode .pretty) = .ok m := by
  intro f f' text
  have hf : Scan.AllIntegers (Symbols.ofText f) :=
    Scan.allIntegers_of_map [⟨7, by decide, by decide⟩, ⟨3, by decide, by decide⟩,
      ⟨-7, by decide, by decide⟩] (by decide +kernel)
  have hf' : Scan.AllIntegers (Symbols.ofText f') :=
    Scan.allIntegers_of_map [⟨3, by decide, by decide⟩, ⟨0, by decide, by decide⟩,
      ⟨-7, by decide, by decide⟩] (by decide +kernel)
  have htext : (decode f).toOption.map (encode .compact) = some text := by decide +kernel
  have htext' : (decode f').toOption.map (encode .compact) = some text := by decide +kernel
  clear_value f f' text
  have hmessage : ∀ g, (decode g).toOption.map (encode .compact) = some text →
      ∃ m, decode g = .ok m ∧ m.encode .compact = text := by
    intro g hg
    obtain ⟨m, hm, hmtext⟩ := Option.map_eq_some_iff.1 hg
    cases hdecode : decode g with
    | error e =>
        rw [hdecode] at hm
        cases hm
    | ok m' =>
        rw [hdecode] at hm
        cases hm
        exact ⟨m, rfl, hmtext⟩
  obtain ⟨m, hm, hmtext⟩ := hmessage f htext
  obtain ⟨m', hm', hmtext'⟩ := hmessage f' htext'
  obtain ⟨hread, hagain, hsame⟩ := reencode_faithful f hf
  have heq : m = m' := (hsame f' hf' m m' hm hm' .compact).2 (hmtext.trans hmtext'.symm)
  subst heq
  exact ⟨hf, hf', hagain .compact text (reencode_eq_ok_iff.2 ⟨m, hm, hmtext⟩), m, hm, hm', hmtext,
    hread m hm .pretty⟩

end Message

end CallBridge
