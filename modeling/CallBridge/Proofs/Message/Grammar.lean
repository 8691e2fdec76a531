import CallBridge.Message.Codec
import CallBridge.Proofs.Argument.Exact
import Mathlib.Data.List.Basic

/-!
# The grammar of messages

`Shape v m` says that the value `v` is the message `m` on the wire, member by member and without
reading anything in order. An object with a `call` member is a call or nothing; all other objects
are returns or nothing. Main statement: `Message.classify_shape`, a value is classified as the
message whose shape it has, and is refused with its compact text where it has none.
-/

namespace CallBridge

/-! ## Members -/

namespace Keyed

variable {α : Type} {key : String} {value : α} {entries : List (String × α)}

/-- `value` stands under `key`. Of several entries under one key, which a sorted list does not have,
the first counts. -/
def Holds (entries : List (String × α)) (key : String) (value : α) : Prop :=
  ∃ before after, entries = before ++ (key, value) :: after ∧ key ∉ keys before

theorem lookup_eq_some_iff : entries.lookup key = some value ↔ Holds entries key value := by
  rw [List.lookup_eq_some_iff]
  constructor
  · rintro ⟨before, after, rfl, hbefore⟩
    refine ⟨before, after, rfl, fun hmem => ?_⟩
    obtain ⟨p, hp, hkey⟩ := List.mem_map.1 hmem
    have hne := hbefore p hp
    simp [hkey] at hne
  · rintro ⟨before, after, rfl, hbefore⟩
    refine ⟨before, after, rfl, fun p hp => ?_⟩
    have hne : key ≠ p.1 := fun heq => hbefore (List.mem_map.2 ⟨p, hp, heq.symm⟩)
    simpa using hne

theorem lookup_eq_none_iff : entries.lookup key = none ↔ key ∉ keys entries := by
  rw [List.lookup_eq_none_iff]
  constructor
  · intro hentries hmem
    obtain ⟨p, hp, hkey⟩ := List.mem_map.1 hmem
    have hne := hentries p hp
    simp [hkey] at hne
  · intro hkey p hp
    have hne : key ≠ p.1 := fun heq => hkey (List.mem_map.2 ⟨p, hp, heq.symm⟩)
    simpa using hne

theorem contains_eq_true_iff : contains key entries = true ↔ key ∈ keys entries := by
  rw [contains, Option.isSome_iff_ne_none, ne_eq, lookup_eq_none_iff, not_not]

theorem Holds.mem_keys (hholds : Holds entries key value) : key ∈ keys entries := by
  obtain ⟨before, after, rfl, -⟩ := hholds
  exact List.mem_map.2 ⟨(key, value), by simp, rfl⟩

end Keyed

open Keyed (Holds keys)

/-! ## Shapes -/

/-- A token is a text, or a number known by its canonical text. -/
inductive CallId.Shape : Json → CallId → Prop
  | text (s : String) : Shape (.string s) (.text s)
  | number (n : Number) : Shape (.number n) (.number (String.ofList (Json.numberText n)))

/-- An error is an object with a code and a message, and maybe more, or an array of just these two.
The code is an integer of 32 bits without a sign. -/
inductive ReturnError.Shape : Json → ReturnError → Prop
  | object {members : List (String × Json)} {i : Integer} {code : UInt32} {message : String}
      (hcode : Holds members "code" (.number (.int i))) (hval : i.val = code.toNat)
      (hmessage : Holds members "message" (.string message)) :
      Shape (.object members) ⟨code, message⟩
  | array {i : Integer} {code : UInt32} {message : String} (hval : i.val = code.toNat) :
      Shape (.array [.number (.int i), .string message]) ⟨code, message⟩

namespace Message

/-- The arguments of a call are an array; there are none if the member is absent. A null is
neither. -/
inductive ArgsShape (members : List (String × Json)) : List Json → Prop
  | absent (hargs : "args" ∉ keys members) : ArgsShape members []
  | array {args : List Json} (hargs : Holds members "args" (.array args)) : ArgsShape members args

/-- A member that may be absent, and counts as absent if it is null. -/
inductive OptionalShape {α : Type} (shape : Json → α → Prop) (members : List (String × Json))
    (key : String) : Option α → Prop
  | absent (hkey : key ∉ keys members) : OptionalShape shape members key none
  | null (hkey : Holds members key .null) : OptionalShape shape members key none
  | present {v : Json} {a : α} (hkey : Holds members key v) (hv : v ≠ .null) (ha : shape v a) :
      OptionalShape shape members key (some a)

/-- The value is the message on the wire. -/
inductive Shape : Json → Message → Prop
  | call {members : List (String × Json)} {token : Json} {id : CallId} {name : String}
      {args : List Json} (hcall : Holds members "call" token) (hid : CallId.Shape token id)
      (hname : Holds members "name" (.string name)) (hargs : ArgsShape members args) :
      Shape (.object members) (.call ⟨id, name, args⟩)
  | ret {members : List (String × Json)} {token : Json} {id : CallId} {value : Option Json}
      {error : Option ReturnError} (hcall : "call" ∉ keys members)
      (hreturn : Holds members "return" token) (hid : CallId.Shape token id)
      (hvalue : OptionalShape Eq members "value" value)
      (herror : OptionalShape ReturnError.Shape members "error" error) :
      Shape (.object members) (.ret ⟨id, value, error⟩)

end Message

/-! ## Tokens and errors -/

theorem CallId.ofJson?_eq_some_iff {v : Json} {id : CallId} :
    ofJson? v = some id ↔ CallId.Shape v id := by
  constructor
  · intro hv
    cases v with
    | number n =>
        obtain rfl := Option.some.inj hv
        exact .number n
    | string s =>
        obtain rfl := Option.some.inj hv
        exact .text s
    | null | bool | array | object => cases hv
  · intro hv
    cases hv <;> rfl

namespace ReturnError

/-- A code is an integer from 0 up to, but not including, `2 ^ 32`. -/
theorem decode_code_eq_ok_iff {v : Json} {code : UInt32} :
    (Argument.decode v : Except Mismatch UInt32) = .ok code ↔
      ∃ i : Integer, v = .number (.int i) ∧ i.val = code.toNat := by
  rw [Argument.Exact.decode_iff]
  constructor
  · rintro rfl
    exact ⟨_, rfl, rfl⟩
  · rintro ⟨i, rfl, hval⟩
    exact Argument.encodeInt_inj hval

theorem decode_message_eq_ok_iff {v : Json} {message : String} :
    (Argument.decode v : Except Mismatch String) = .ok message ↔ v = .string message :=
  Argument.Exact.decode_iff

theorem fields_eq_some_iff {code message : Json} {e : ReturnError} :
    ofJson?.fields code message = some e ↔
      (∃ i : Integer, code = .number (.int i) ∧ i.val = e.code.toNat) ∧
        message = .string e.message := by
  rw [← decode_code_eq_ok_iff, ← decode_message_eq_ok_iff, ofJson?.fields]
  cases hcode : (Argument.decode code : Except Mismatch UInt32) with
  | error m => simp [Except.toOption]
  | ok c =>
      cases hmessage : (Argument.decode message : Except Mismatch String) with
      | error m => simp [Except.toOption]
      | ok t =>
          obtain ⟨code', message'⟩ := e
          simp [Except.toOption]

theorem ofJson?_eq_some_iff {v : Json} {e : ReturnError} :
    ofJson? v = some e ↔ ReturnError.Shape v e := by
  constructor
  · intro hv
    rw [ofJson?.eq_def] at hv
    split at hv
    · next members =>
        obtain ⟨code, hcode, hv⟩ := Option.bind_eq_some_iff.1 hv
        obtain ⟨message, hmessage, hv⟩ := Option.bind_eq_some_iff.1 hv
        obtain ⟨⟨i, rfl, hval⟩, rfl⟩ := fields_eq_some_iff.1 hv
        exact .object (Keyed.lookup_eq_some_iff.1 hcode) hval (Keyed.lookup_eq_some_iff.1 hmessage)
    · next code message =>
        obtain ⟨⟨i, rfl, hval⟩, rfl⟩ := fields_eq_some_iff.1 hv
        exact .array hval
    · cases hv
  · intro hv
    cases hv with
    | @object members i code message hcode hval hmessage =>
        rw [ofJson?, Keyed.lookup_eq_some_iff.2 hcode, Keyed.lookup_eq_some_iff.2 hmessage]
        exact fields_eq_some_iff.2 ⟨⟨i, rfl, hval⟩, rfl⟩
    | @array i code message hval => exact fields_eq_some_iff.2 ⟨⟨i, rfl, hval⟩, rfl⟩

end ReturnError

/-! ## Messages -/

namespace Message

variable {members : List (String × Json)}

theorem token_eq_some_iff {key : String} {id : CallId} :
    (members.lookup key).bind CallId.ofJson? = some id ↔
      ∃ token, Holds members key token ∧ CallId.Shape token id := by
  simp only [Option.bind_eq_some_iff, Keyed.lookup_eq_some_iff, CallId.ofJson?_eq_some_iff]

theorem callOfMembers?_eq_some_iff {c : Call} :
    callOfMembers? members = some c ↔ Shape (.object members) (.call c) := by
  obtain ⟨id, name, args⟩ := c
  constructor
  · intro hc
    obtain ⟨id', hid, hc⟩ := Option.bind_eq_some_iff.1 hc
    obtain ⟨token, hcall, hshape⟩ := token_eq_some_iff.1 hid
    dsimp only at hc
    split at hc
    · next s hname =>
        have hholds := Keyed.lookup_eq_some_iff.1 hname
        rw [Option.bind_eq_bind, Option.bind_some] at hc
        split at hc
        · next hargs =>
            cases hc
            exact .call hcall hshape hholds (.absent (Keyed.lookup_eq_none_iff.1 hargs))
        · next items hargs =>
            cases hc
            exact .call hcall hshape hholds (.array (Keyed.lookup_eq_some_iff.1 hargs))
        · cases hc
    · cases hc
  · rintro (@⟨_, token, _, _, _, hcall, hid, hname, hargs⟩)
    rw [callOfMembers?, token_eq_some_iff.2 ⟨token, hcall, hid⟩, Keyed.lookup_eq_some_iff.2 hname]
    cases hargs with
    | absent hargs => rw [Keyed.lookup_eq_none_iff.2 hargs]; rfl
    | array hargs => rw [Keyed.lookup_eq_some_iff.2 hargs]; rfl

/-- An optional member as it is read: `read` sees neither an absent member nor a null. -/
def optional? {α : Type} (read : Json → Option α) (members : List (String × Json)) (key : String) :
    Option (Option α) :=
  match members.lookup key with
  | none => some none
  | some .null => some none
  | some v => (read v).map some

theorem optional?_eq_some_iff {α : Type} {shape : Json → α → Prop} {read : Json → Option α}
    (hread : ∀ v a, read v = some a ↔ shape v a) {key : String} {o : Option α} :
    optional? read members key = some o ↔ OptionalShape shape members key o := by
  constructor
  · intro ho
    rw [optional?] at ho
    split at ho
    · next hfind =>
        cases ho
        exact .absent (Keyed.lookup_eq_none_iff.1 hfind)
    · next hfind =>
        cases ho
        exact .null (Keyed.lookup_eq_some_iff.1 hfind)
    · next v hnull hfind =>
        obtain ⟨a, ha, rfl⟩ := Option.map_eq_some_iff.1 ho
        exact .present (Keyed.lookup_eq_some_iff.1 hfind) hnull ((hread v a).1 ha)
  · intro ho
    rw [optional?]
    cases ho with
    | absent hkey => rw [Keyed.lookup_eq_none_iff.2 hkey]
    | null hkey => rw [Keyed.lookup_eq_some_iff.2 hkey]
    | @present v a hkey hv ha =>
        rw [Keyed.lookup_eq_some_iff.2 hkey]
        have hsome : (read v).map some = some (some a) := by rw [(hread v a).2 ha]; rfl
        cases v with
        | null => exact absurd rfl hv
        | bool | number | string | array | object => exact hsome

theorem returnOfMembers?_eq (members : List (String × Json)) :
    returnOfMembers? members =
      ((members.lookup "return").bind CallId.ofJson?).bind fun id =>
        (optional? some members "value").bind fun value =>
          (optional? ReturnError.ofJson? members "error").bind fun error =>
            some ⟨id, value, error⟩ := by
  unfold returnOfMembers? optional?
  generalize members.lookup "value" = value
  generalize members.lookup "error" = error
  rw [Option.bind_eq_bind]
  congr 1
  funext id
  -- Both members are absent, null, or something else.
  rcases value with _ | v
  · rcases error with _ | e
    · rfl
    · cases e <;> rfl
  · rcases error with _ | e
    · cases v <;> rfl
    · cases v <;> cases e <;> rfl

theorem returnOfMembers?_eq_some_iff {r : Return} (hcall : "call" ∉ keys members) :
    returnOfMembers? members = some r ↔ Shape (.object members) (.ret r) := by
  obtain ⟨id, value, error⟩ := r
  rw [returnOfMembers?_eq]
  have hvalue : ∀ o, optional? some members "value" = some o ↔
      OptionalShape Eq members "value" o :=
    fun _ => optional?_eq_some_iff fun _ _ => Option.some_inj
  have herror : ∀ o, optional? ReturnError.ofJson? members "error" = some o ↔
      OptionalShape ReturnError.Shape members "error" o :=
    fun _ => optional?_eq_some_iff fun _ _ => ReturnError.ofJson?_eq_some_iff
  constructor
  · intro hr
    obtain ⟨id', hid, hr⟩ := Option.bind_eq_some_iff.1 hr
    obtain ⟨value', hvalue', hr⟩ := Option.bind_eq_some_iff.1 hr
    obtain ⟨error', herror', hr⟩ := Option.bind_eq_some_iff.1 hr
    cases hr
    obtain ⟨token, hreturn, hshape⟩ := token_eq_some_iff.1 hid
    exact .ret hcall hreturn hshape ((hvalue _).1 hvalue') ((herror _).1 herror')
  · rintro (_ | @⟨_, token, _, _, _, _, hreturn, hid, hvalue', herror'⟩)
    rw [token_eq_some_iff.2 ⟨token, hreturn, hid⟩, (hvalue _).2 hvalue', (herror _).2 herror']
    rfl

theorem ofJson?_eq_some_iff {v : Json} {m : Message} : ofJson? v = some m ↔ Shape v m := by
  cases v with
  | object members =>
      rw [ofJson?]
      by_cases hcall : "call" ∈ keys members
      · rw [if_pos (Keyed.contains_eq_true_iff.2 hcall)]
        constructor
        · intro hm
          obtain ⟨c, hc, rfl⟩ := Option.map_eq_some_iff.1 hm
          exact callOfMembers?_eq_some_iff.1 hc
        · intro hm
          cases m with
          | call c => rw [callOfMembers?_eq_some_iff.2 hm]; rfl
          | ret r =>
              -- A shape of a return has no `call` member.
              obtain _ | hnone := hm
              exact absurd hcall hnone
      · rw [if_neg fun h => hcall (Keyed.contains_eq_true_iff.1 h)]
        constructor
        · intro hm
          obtain ⟨r, hr, rfl⟩ := Option.map_eq_some_iff.1 hm
          exact (returnOfMembers?_eq_some_iff hcall).1 hr
        · intro hm
          cases m with
          | ret r => rw [(returnOfMembers?_eq_some_iff hcall).2 hm]; rfl
          | call c =>
              obtain ⟨hholds⟩ := hm
              exact absurd hholds.mem_keys hcall
  | null | bool | number | string | array =>
      constructor
      · intro hm
        cases hm
      · intro hm
        cases hm

/-- The value that a frame is read as has the shape of its message. -/
theorem exists_shape {frame : String} {m : Message} (hframe : decode frame = .ok m) :
    ∃ v, Json.parse? frame = some v ∧ Shape v m := by
  unfold decode at hframe
  split at hframe
  · cases hframe
  · next v hparse =>
      split at hframe
      · next hclassify =>
          obtain rfl := Except.ok.inj hframe
          unfold classify at hclassify
          split at hclassify
          · next hv =>
              obtain rfl := Except.ok.inj hclassify
              exact ⟨v, hparse, ofJson?_eq_some_iff.1 hv⟩
          · cases hclassify
      · cases hframe

/-- A value is classified as the message whose shape it has. Where it has the shape of none, as an
object with a bad `call` member never has, even with all the members of a return, it is refused with
its own compact text. -/
theorem classify_shape (v : Json) :
    (∀ m, classify v = .ok m ↔ Shape v m) ∧
      ∀ raw, classify v = .error raw ↔ (∀ m, ¬ Shape v m) ∧ raw = v.compact := by
  rw [classify]
  cases hv : ofJson? v with
  | some m =>
      have hshape : Shape v m := ofJson?_eq_some_iff.1 hv
      constructor
      · intro m'
        rw [← ofJson?_eq_some_iff, hv]
        constructor
        · intro hm
          rw [Except.ok.inj hm]
        · intro hm
          rw [Option.some.inj hm]
      · intro raw
        constructor
        · intro hraw
          cases hraw
        · rintro ⟨hnone, -⟩
          exact absurd hshape (hnone m)
  | none =>
      have hnone : ∀ m, ¬ Shape v m := by
        intro m hm
        rw [← ofJson?_eq_some_iff, hv] at hm
        cases hm
      constructor
      · intro m
        constructor
        · intro hm
          cases hm
        · intro hm
          exact absurd hm (hnone m)
      · intro raw
        constructor
        · intro hraw
          exact ⟨hnone, (Except.error.inj hraw).symm⟩
        · rintro ⟨-, rfl⟩
          rfl

example : ofJson? (.object [("call", .null), ("return", .string "1")]) = none := rfl

end Message

end CallBridge
