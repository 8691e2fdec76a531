import CallBridge.Error
import CallBridge.Mismatch

/-!
# Typed arguments and results

An `Argument` type reads its values from JSON and writes them back. Reading is strict: an integer
type takes no doubles, not even whole ones, and nothing out of its range; a pair takes exactly two
elements. Writing an argument never fails; the value of a return may be of any type that is
`Writable`, and then it can.
-/

namespace CallBridge

/-- A type whose values are written as JSON. A value may refuse to be written. -/
class Writable (α : Type) where
  write : α → Except DocumentError Json

class Argument (α : Type) where
  decode : Json → Except Mismatch α
  encode : α → Json

instance {α : Type} [Argument α] : Writable α := ⟨fun a => .ok (Argument.encode a)⟩

namespace Argument

/-- The error of an argument that does not fit. -/
def misfit (index : Nat) (m : Mismatch) : BridgeError :=
  .invalidArguments ("argument " ++ toString index ++ ": " ++ m.message)

/-- Reads the argument at position `index`; a missing one counts as null. -/
def readAt {α : Type} (read : Json → Except Mismatch α) (args : List Json) (index : Nat) :
    Except BridgeError α :=
  match read (args.getD index .null) with
  | .ok a => .ok a
  | .error m => .error (misfit index m)

def get (α : Type) [Argument α] (args : List Json) (index : Nat) : Except BridgeError α :=
  readAt decode args index

/-- A result as the value of a return. -/
def toReply {α : Type} [Writable α] (a : α) : Reply :=
  match Writable.write a with
  | .ok v => .ok (some v)
  | .error e => .error (.ofDocument e)

/-- The result of a function that may fail with something that has a text. -/
def resultToReply {α ε : Type} [Writable α] [ToString ε] : Except ε α → Reply
  | .ok a => toReply a
  | .error e => .error (.handler (toString e))

/-! ## Integers -/

/-- An integer of the range `low ≤ i < high`. -/
def decodeInt (low high : Int) (expected : String) : Json → Except Mismatch Int
  | .number (.int i) =>
      if low ≤ i.val ∧ i.val < high then .ok i.val
      else .error (.wrongValue (.integer i.val) expected)
  | v => .error (.wrongType (.ofJson v) expected)

def encodeInt (i : Integer) : Json := .number (.int i)

instance : Argument Int64 where
  decode v := (decodeInt (-9223372036854775808) 9223372036854775808 "i64" v).map Int64.ofInt
  encode x := encodeInt ⟨x.toInt, by have := x.le_toInt; omega, by have := x.toInt_lt; omega⟩

instance : Argument Int8 where
  decode v := (decodeInt (-128) 128 "i8" v).map Int8.ofInt
  encode x := encodeInt ⟨x.toInt, by have := x.le_toInt; omega, by have := x.toInt_lt; omega⟩

instance : Argument UInt8 where
  decode v := (decodeInt 0 256 "u8" v).map fun i => UInt8.ofNat i.toNat
  encode x := encodeInt ⟨x.toNat, by omega, by have := x.toNat_lt; omega⟩

instance : Argument UInt32 where
  decode v := (decodeInt 0 4294967296 "u32" v).map fun i => UInt32.ofNat i.toNat
  encode x := encodeInt ⟨x.toNat, by omega, by have := x.toNat_lt; omega⟩

instance : Argument UInt64 where
  decode v := (decodeInt 0 18446744073709551616 "u64" v).map fun i => UInt64.ofNat i.toNat
  encode x := encodeInt (.ofUInt64 x)

/-! ## Other scalars -/

/-- The double nearest to an integer. -/
def floatOfInt (i : Int) : Float :=
  let size := i.natAbs.toUInt64.toFloat
  if i < 0 then -size else size

instance : Argument Float where
  decode
    | .number (.float x) => .ok x
    | .number (.int i) => .ok (floatOfInt i.val)
    | v => .error (.wrongType (.ofJson v) "f64")
  encode x := if x.isNaN || x.isInf then .null else .float x

instance : Argument Bool where
  decode
    | .bool b => .ok b
    | v => .error (.wrongType (.ofJson v) "a boolean")
  encode := .bool

instance : Argument Char where
  decode
    | .string s =>
        match s.toList with
        | [c] => .ok c
        | _ => .error (.wrongValue (.text s) "a character")
    | v => .error (.wrongType (.ofJson v) "a character")
  encode c := .string (String.singleton c)

instance : Argument String where
  decode
    | .string s => .ok s
    | v => .error (.wrongType (.ofJson v) "a string")
  encode := .string

instance : Argument Unit where
  decode
    | .null => .ok ()
    | v => .error (.wrongType (.ofJson v) "unit")
  encode _ := .null

instance : Argument Json where
  decode := .ok
  encode := id

/-! ## Compound types -/

instance {α : Type} [Argument α] : Argument (Option α) where
  decode
    | .null => .ok none
    | v => (decode v).map some
  encode
    | none => .null
    | some a => encode a

instance {α : Type} [Argument α] : Argument (List α) where
  decode
    | .array items => items.mapM decode
    | v => .error (.wrongType (.ofJson v) "a sequence")
  encode as := .array (as.map encode)

def pairSize : String := "a tuple of size 2"

/-- Elements are judged in order, so a wrong element counts before a wrong length. -/
def decodePair {α β : Type} [Argument α] [Argument β] : Json → Except Mismatch (α × β)
  | .array [] => .error (.wrongLength 0 pairSize)
  | .array (a :: rest) => do
      let a ← decode a
      match rest with
      | [] => .error (.wrongLength 1 pairSize)
      | b :: more => do
          let b ← decode b
          if more.isEmpty then .ok (a, b)
          else .error (.wrongLength (more.length + 2) "fewer elements in array")
  | v => .error (.wrongType (.ofJson v) pairSize)

instance {α β : Type} [Argument α] [Argument β] : Argument (α × β) where
  decode := decodePair
  encode p := .array [encode p.1, encode p.2]

/-- A map from texts; its entries are in key order. -/
structure TextMap (α : Type) where
  entries : List (String × α)

instance {α : Type} [Argument α] : Argument (TextMap α) where
  decode
    | .object members => do
        let entries ← members.mapM fun m => return (m.1, ← decode m.2)
        .ok ⟨entries⟩
    | v => .error (.wrongType (.ofJson v) "a map")
  encode m := .object (m.entries.map fun e => (e.1, encode e.2))

/-- One of two names, given as a text or as the only key of an object whose value is null. -/
def decodeVariant {α : Type} (first second : String × α) : Json → Except Mismatch α
  | .string s => named s
  | .object [(key, v)] => do
      let a ← named key
      let _ : Unit ← decode v
      .ok a
  | .object _ => .error (.wrongValue .map "map with a single key")
  | v => .error (.wrongType (.ofJson v) "string or map")
where
  named (s : String) : Except Mismatch α :=
    if s = first.1 then .ok first.2
    else if s = second.1 then .ok second.2
    else .error (.unknownVariant s first.1 second.1)

end Argument

end CallBridge
