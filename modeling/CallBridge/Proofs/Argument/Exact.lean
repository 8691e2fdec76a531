import CallBridge.Argument.Basic
import CallBridge.Proofs.Except
import CallBridge.Proofs.Json.RoundTrip

/-!
# Types that are read as they are written

An argument type is exact if it reads its own values back and takes nothing else: what it takes is
the image of what it writes. Integer types of a range are exact, and so are lists, pairs and maps
of exact types. An optional type is exact if nothing in it is written as null, which stands for
the missing value. Main statement: `arguments_exact`.
-/

namespace CallBridge.Argument

variable {α β : Type} [Argument α] [Argument β]

/-- A value is read from its own JSON and from no other. -/
class Exact (α : Type) [Argument α] : Prop where
  decode_iff : ∀ {v : Json} {a : α}, decode v = .ok a ↔ v = encode a

theorem decode_encode_self [Exact α] (a : α) : decode (encode a) = .ok a := Exact.decode_iff.2 rfl

/-! ## Integers -/

theorem decodeInt_eq_ok_iff {low high : Int} {expected : String} {v : Json} {i : Int} :
    decodeInt low high expected v = .ok i ↔
      ∃ n : Integer, v = .number (.int n) ∧ n.val = i ∧ low ≤ i ∧ i < high := by
  constructor
  · intro h
    rw [decodeInt.eq_def] at h
    split at h
    · next n =>
        split at h
        · next hrange =>
            obtain rfl := Except.ok.inj h
            exact ⟨n, rfl, rfl, hrange⟩
        · cases h
    · cases h
  · rintro ⟨n, rfl, rfl, hrange⟩
    exact if_pos hrange

theorem encodeInt_inj {m n : Integer} (h : m.val = n.val) : encodeInt m = encodeInt n := by
  obtain ⟨i, _, _⟩ := m
  obtain ⟨j, _, _⟩ := n
  obtain rfl : i = j := h
  rfl

/-- A type whose values are the integers of a range is exact. -/
theorem exact_of_range {low high : Int} {expected : String} (of : Int → α) (val : α → Int)
    (hdecode : ∀ v : Json, decode v = (decodeInt low high expected v).map of)
    (hencode : ∀ a, ∃ n : Integer, encode a = encodeInt n ∧ n.val = val a)
    (hof : ∀ i, low ≤ i → i < high → val (of i) = i)
    (hrange : ∀ a, low ≤ val a ∧ val a < high ∧ of (val a) = a) : Exact α where
  decode_iff := by
    intro v a
    rw [hdecode]
    constructor
    · intro h
      cases hi : decodeInt low high expected v with
      | error m =>
          rw [hi] at h
          cases h
      | ok i =>
          rw [hi] at h
          obtain rfl := Except.ok.inj h
          obtain ⟨n, rfl, rfl, hlow, hhigh⟩ := decodeInt_eq_ok_iff.1 hi
          obtain ⟨n', hn', hval⟩ := hencode (of n.val)
          rw [hn']
          exact encodeInt_inj (hval.trans (hof n.val hlow hhigh)).symm
    · rintro rfl
      obtain ⟨n, hn, hval⟩ := hencode a
      obtain ⟨hlow, hhigh, ha⟩ := hrange a
      rw [hn, encodeInt, decodeInt_eq_ok_iff.2 ⟨n, rfl, hval, hlow, hhigh⟩]
      exact congrArg Except.ok ha

instance : Exact Int64 :=
  exact_of_range Int64.ofInt Int64.toInt (fun _ => rfl) (fun _ => ⟨_, rfl, rfl⟩)
    (fun _ hlow hhigh => Int64.toInt_ofInt_of_le (by omega) (by omega))
    fun x => ⟨x.le_toInt, x.toInt_lt, Int64.ofInt_toInt x⟩

instance : Exact Int8 :=
  exact_of_range Int8.ofInt Int8.toInt (fun _ => rfl) (fun _ => ⟨_, rfl, rfl⟩)
    (fun _ hlow hhigh => Int8.toInt_ofInt_of_le (by omega) (by omega))
    fun x => ⟨x.le_toInt, x.toInt_lt, Int8.ofInt_toInt x⟩

instance : Exact UInt8 :=
  exact_of_range (fun i => UInt8.ofNat i.toNat) (fun x => x.toNat) (fun _ => rfl)
    (fun _ => ⟨_, rfl, rfl⟩)
    (fun i hlow hhigh => by
      rw [UInt8.toNat_ofNat_of_lt' (by rw [UInt8.size]; omega)]
      omega)
    fun x => ⟨by omega, by have := x.toNat_lt; omega, by simp⟩

instance : Exact UInt32 :=
  exact_of_range (fun i => UInt32.ofNat i.toNat) (fun x => x.toNat) (fun _ => rfl)
    (fun _ => ⟨_, rfl, rfl⟩)
    (fun i hlow hhigh => by
      rw [UInt32.toNat_ofNat_of_lt' (by rw [UInt32.size]; omega)]
      omega)
    fun x => ⟨by omega, by have := x.toNat_lt; omega, by simp⟩

instance : Exact UInt64 :=
  exact_of_range (fun i => UInt64.ofNat i.toNat) (fun x => x.toNat) (fun _ => rfl)
    (fun _ => ⟨_, rfl, rfl⟩)
    (fun i hlow hhigh => by
      rw [UInt64.toNat_ofNat_of_lt' (by rw [UInt64.size]; omega)]
      omega)
    fun x => ⟨by omega, by have := x.toNat_lt; omega, by simp⟩

/-! ## Other scalars -/

instance : Exact Bool where
  decode_iff := by
    intro v b
    cases v <;> simp [decode, encode]

instance : Exact String where
  decode_iff := by
    intro v s
    cases v <;> simp [decode, encode]

instance : Exact Unit where
  decode_iff := by
    intro v u
    cases v <;> simp [decode, encode]

instance : Exact Json where
  decode_iff := by
    intro v w
    simp [decode, encode]

/-- A character is a text of length one. -/
instance : Exact Char where
  decode_iff := by
    intro v c
    cases v with
    | string s =>
        have hs : s = String.singleton c ↔ s.toList = [c] := by
          rw [← String.toList_inj, String.toList_singleton]
        simp only [decode, encode, Json.string.injEq, hs]
        split <;> simp_all
    | _ => simp [decode, encode]

/-! ## Compound types -/

/-- An optional value is exact where null is free to stand for a missing one. -/
theorem Exact.option [Exact α] (hnull : ∀ a : α, encode a ≠ .null) : Exact (Option α) where
  decode_iff := by
    intro v o
    by_cases hv : v = .null
    · subst hv
      cases o with
      | none => simp [decode, encode]
      | some a => simp [decode, encode, (hnull a).symm]
    · have hdecode : (decode v : Except Mismatch (Option α)) = (decode v).map some := by
        cases v <;> first | rfl | exact absurd rfl hv
      rw [hdecode, map_eq_ok_iff]
      cases o with
      | none => simp [encode, hv]
      | some a => simp [encode, Exact.decode_iff]

instance : Exact (Option Int64) := Exact.option fun _ => Json.noConfusion

instance : Exact (Option String) := Exact.option fun _ => Json.noConfusion

instance [Exact α] : Exact (List α) where
  decode_iff := by
    intro v as
    cases v with
    | array items =>
        simp only [decode, encode, Json.array.injEq]
        exact mapM_eq_ok_iff fun _ _ => Exact.decode_iff
    | _ => simp [decode, encode]

/-- A pair is written as two elements, and read from neither fewer nor more. -/
instance [Exact α] [Exact β] : Exact (α × β) where
  decode_iff := by
    intro v p
    obtain ⟨a, b⟩ := p
    show decodePair v = _ ↔ v = .array [encode a, encode b]
    constructor
    · intro h
      rw [decodePair.eq_def] at h
      split at h
      · cases h
      · obtain ⟨a', ha, h⟩ := bind_eq_ok_iff.1 h
        split at h
        · cases h
        · obtain ⟨b', hb, h⟩ := bind_eq_ok_iff.1 h
          split at h
          · next hmore =>
              obtain ⟨rfl, rfl⟩ := Prod.mk.inj (Except.ok.inj h)
              rw [Exact.decode_iff.1 ha, Exact.decode_iff.1 hb, List.isEmpty_iff.1 hmore]
          · cases h
      · cases h
    · rintro rfl
      simp [decodePair, decode_encode_self, bind, Except.bind]

theorem decode_member_iff [Exact α] (m : String × Json) (e : String × α) :
    (do return (m.1, ← decode m.2)) = (.ok e : Except Mismatch (String × α)) ↔
      m = (e.1, encode e.2) := by
  obtain ⟨key, v⟩ := m
  obtain ⟨key', a⟩ := e
  rw [bind_eq_ok_iff, Prod.mk.injEq]
  constructor
  · rintro ⟨a', ha', h⟩
    obtain ⟨rfl, rfl⟩ := Prod.mk.inj (Except.ok.inj h)
    exact ⟨rfl, Exact.decode_iff.1 ha'⟩
  · rintro ⟨rfl, rfl⟩
    exact ⟨a, decode_encode_self a, rfl⟩

instance [Exact α] : Exact (TextMap α) where
  decode_iff := by
    intro v m
    obtain ⟨entries⟩ := m
    cases v with
    | object members =>
        simp only [decode, encode, Json.object.injEq]
        rw [bind_eq_ok_iff]
        constructor
        · rintro ⟨entries', hentries, h⟩
          obtain rfl := TextMap.mk.inj (Except.ok.inj h)
          exact (mapM_eq_ok_iff decode_member_iff).1 hentries
        · intro h
          exact ⟨entries, (mapM_eq_ok_iff decode_member_iff).2 h, rfl⟩
    | _ => simp [decode, encode]

/-- The maps that are in key order are written as the objects that are. -/
theorem canonical_encode_iff {m : TextMap Int64} :
    (encode m).Canonical ↔ Keyed.Sorted m.entries := by
  have hkeys : Keyed.keys (m.entries.map fun e => (e.1, encode e.2)) = Keyed.keys m.entries := by
    simp [Keyed.keys, Function.comp_def]
  have hvalues : Json.CanonicalMembers (m.entries.map fun e => (e.1, encode e.2)) := by
    rw [Json.canonicalMembers_iff]
    intro q hq
    obtain ⟨e, -, rfl⟩ := List.mem_map.1 hq
    exact trivial
  show (Json.object (m.entries.map fun e => (e.1, encode e.2))).Canonical ↔ _
  rw [Json.Canonical, Keyed.Sorted, hkeys]
  exact and_iff_left hvalues

/-! ## Arguments and results -/

/-- Arguments of the type are the results of it: a result is read back wherever it stands among
arguments, and an argument that is read comes back as the result that it was, a missing one as
null. -/
structure RoundTrips (α : Type) [Argument α] : Prop where
  get_of_toReply : ∀ x : α, ∃ j, toReply x = .ok (some j) ∧
    ∀ (args : List Json) (k : Nat), args[k]? = some j → get α args k = .ok x
  toReply_of_get : ∀ (args : List Json) (k : Nat) (x : α), get α args k = .ok x →
    toReply x = .ok (some (args.getD k .null))
  get_iff : ∀ (args : List Json) (k : Nat), (∃ x, get α args k = .ok x) ↔
    ∃ x : α, toReply x = .ok (some (args.getD k .null))

theorem readAt_eq_ok_iff {γ : Type} {read : Json → Except Mismatch γ} {args : List Json} {k : Nat}
    {c : γ} : readAt read args k = .ok c ↔ read (args.getD k .null) = .ok c := by
  rw [readAt.eq_def]
  split
  · next c' hc' => rw [hc', Except.ok.injEq, Except.ok.injEq]
  · next m hm =>
      rw [hm]
      exact ⟨nofun, nofun⟩

theorem get_eq_ok_iff [Exact α] {args : List Json} {k : Nat} {x : α} :
    get α args k = .ok x ↔ args.getD k .null = encode x :=
  readAt_eq_ok_iff.trans Exact.decode_iff

/-- What can be read can always be written. -/
theorem toReply_eq_ok (x : α) : toReply x = .ok (some (encode x)) := rfl

theorem roundTrips [Exact α] : RoundTrips α where
  get_of_toReply x := by
    refine ⟨encode x, toReply_eq_ok x, fun args k hk => ?_⟩
    rw [get_eq_ok_iff, List.getD_eq_getElem?_getD, hk]
    rfl
  toReply_of_get args k x hx := by
    rw [get_eq_ok_iff.1 hx, toReply_eq_ok]
  get_iff args k := by
    refine exists_congr fun x => ?_
    rw [get_eq_ok_iff, toReply_eq_ok, Except.ok.injEq, Option.some.injEq, eq_comm]

/-- The type takes the integers of its range, and nothing else. -/
def TakesIntegers (α : Type) [Argument α] (low high : Int) : Prop :=
  ∀ (args : List Json) (k : Nat), (∃ x, get α args k = .ok x) ↔
    ∃ n : Integer, args.getD k .null = .number (.int n) ∧ low ≤ n.val ∧ n.val < high

theorem takesIntegers {low high : Int} {expected : String} {of : Int → α}
    (hdecode : ∀ v : Json, decode v = (decodeInt low high expected v).map of) :
    TakesIntegers α low high := by
  intro args k
  simp only [get, readAt_eq_ok_iff, hdecode, map_eq_ok_iff, decodeInt_eq_ok_iff]
  constructor
  · rintro ⟨_, _, ⟨n, hn, rfl, hrange⟩, rfl⟩
    exact ⟨n, hn, hrange⟩
  · rintro ⟨n, hn, hrange⟩
    exact ⟨_, n.val, ⟨n, hn, rfl, hrange⟩, rfl⟩

/-- Reading an argument and writing a result are inverse to each other for every one of the types
here, so that each takes exactly what it writes. An integer type takes no double and no integer out
of its range, a pair takes no array of another length, and maps in key order are objects in key
order. -/
theorem arguments_exact :
    (RoundTrips Int64 ∧ RoundTrips Int8 ∧ RoundTrips UInt8 ∧ RoundTrips UInt32 ∧
      RoundTrips UInt64) ∧
    (RoundTrips Bool ∧ RoundTrips Char ∧ RoundTrips String ∧ RoundTrips Unit ∧ RoundTrips Json) ∧
    (RoundTrips (Option Int64) ∧ RoundTrips (List Int64) ∧ RoundTrips (List (Option String)) ∧
      RoundTrips (Int64 × String) ∧ RoundTrips (TextMap Int64)) ∧
    (TakesIntegers Int64 (-9223372036854775808) 9223372036854775808 ∧
      TakesIntegers Int8 (-128) 128 ∧ TakesIntegers UInt8 0 256 ∧
      TakesIntegers UInt32 0 4294967296 ∧ TakesIntegers UInt64 0 18446744073709551616) ∧
    (∀ (args : List Json) (k : Nat) (p : Int64 × String), get (Int64 × String) args k = .ok p →
      ∃ a b, args.getD k .null = .array [a, b]) ∧
    ∀ m : TextMap Int64, Keyed.Sorted m.entries ↔ (encode m).Canonical := by
  refine ⟨⟨roundTrips, roundTrips, roundTrips, roundTrips, roundTrips⟩,
    ⟨roundTrips, roundTrips, roundTrips, roundTrips, roundTrips⟩,
    ⟨roundTrips, roundTrips, roundTrips, roundTrips, roundTrips⟩, ?integers, ?pair, ?map⟩
  case integers =>
    exact ⟨takesIntegers fun _ => rfl, takesIntegers fun _ => rfl, takesIntegers fun _ => rfl,
      takesIntegers fun _ => rfl, takesIntegers fun _ => rfl⟩
  case pair =>
    intro args k p hp
    exact ⟨encode p.1, encode p.2, get_eq_ok_iff.1 hp⟩
  case map =>
    intro m
    exact canonical_encode_iff.symm

end CallBridge.Argument
