import CallBridge.Keyed

/-!
# JSON values

A number is an integer of 64 bits or a double; a double never stands for an integer literal that
fits. The members of an object that was read are sorted by key (`Canonical`); an object that is
only written, such as a frame, may list its members in another order.
-/

namespace CallBridge

/-- An integer from `-2 ^ 63` up to, but not including, `2 ^ 64`. -/
structure Integer where
  val : Int
  lower : -9223372036854775808 ≤ val
  upper : val < 18446744073709551616
deriving DecidableEq

namespace Integer

def ofInt? (i : Int) : Option Integer :=
  if h : -9223372036854775808 ≤ i ∧ i < 18446744073709551616 then some ⟨i, h.1, h.2⟩ else none

def ofUInt64 (n : UInt64) : Integer := ⟨n.toNat, by omega, by have := n.toNat_lt; omega⟩

theorem ofInt?_val (i : Integer) : ofInt? i.val = some i := by
  simp [ofInt?, i.lower, i.upper]

end Integer

inductive Number where
  | int (i : Integer)
  | float (x : Float)
deriving BEq

inductive Json where
  | null
  | bool (b : Bool)
  | number (n : Number)
  | string (s : String)
  | array (items : List Json)
  | object (members : List (String × Json))
deriving BEq, Inhabited

namespace Json

def int? (i : Int) : Option Json := (Integer.ofInt? i).map fun n => .number (.int n)

def float (x : Float) : Json := .number (.float x)

/-- An object from members in any order; of several under one key the last counts. -/
def ofMembers (members : List (String × Json)) : Json := .object (Keyed.ofList members)

mutual

/-- How many arrays and objects are nested in each other. -/
def depth : Json → Nat
  | .array items => depthItems items + 1
  | .object members => depthMembers members + 1
  | _ => 0

def depthItems : List Json → Nat
  | [] => 0
  | v :: rest => max (depth v) (depthItems rest)

def depthMembers : List (String × Json) → Nat
  | [] => 0
  | (_, v) :: rest => max (depth v) (depthMembers rest)

end

mutual

/-- The members of every object are sorted by key. -/
def Canonical : Json → Prop
  | .array items => CanonicalItems items
  | .object members => Keyed.Sorted members ∧ CanonicalMembers members
  | _ => True

def CanonicalItems : List Json → Prop
  | [] => True
  | v :: rest => Canonical v ∧ CanonicalItems rest

def CanonicalMembers : List (String × Json) → Prop
  | [] => True
  | (_, v) :: rest => Canonical v ∧ CanonicalMembers rest

end

end Json

end CallBridge
