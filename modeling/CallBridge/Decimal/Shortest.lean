/-!
# Shortest decimal digits of a double

A positive finite double stands for all reals that round to it. Among the decimals in that
interval the printer wants one with the fewest digits, and of those the one nearest to the double
itself; of two equally near ones the even one. Everything is exact arithmetic on natural numbers:
for one digit, two digits, and so on, the two neighbours of the double on that decimal grid are
tried.
-/

namespace CallBridge.Decimal

/-- The double `mantissa * 2 ^ exponent`. It is `narrow` when the next double below is only half
as far away as the next one above. -/
structure Binary where
  mantissa : Nat
  exponent : Int
  narrow : Bool

/-- Takes the bits of a positive finite double apart. -/
def Binary.ofBits (bits : Nat) : Binary :=
  let fraction := bits % Nat.pow 2 52
  let biased : Nat := bits / Nat.pow 2 52
  if biased = 0 then ⟨fraction, -1074, false⟩
  else ⟨Nat.pow 2 52 + fraction, (biased : Int) - 1075, fraction == 0 && 1 < biased⟩

/-- Factors that bring quarters of the double's last place and units of `10 ^ grid` to one
measure. -/
def Binary.measures (b : Binary) (grid : Int) : Nat × Nat :=
  let two := b.exponent - 2
  (Nat.pow 2 two.toNat * Nat.pow 10 (-grid).toNat, Nat.pow 10 grid.toNat * Nat.pow 2 (-two).toNat)

/-- `count * 10 ^ grid` rounds to the double. -/
def Binary.covers (b : Binary) (grid : Int) (count : Nat) : Bool :=
  let (quarter, unit) := b.measures grid
  let low := (4 * b.mantissa - (if b.narrow then 1 else 2)) * quarter
  let high := (4 * b.mantissa + 2) * quarter
  if b.mantissa % 2 = 0 then low ≤ count * unit && count * unit ≤ high
  else low < count * unit && count * unit < high

/-- The multiple of `10 ^ grid` nearest to the double, if one of the two neighbours covers it. -/
def Binary.onGrid? (b : Binary) (grid : Int) : Option Nat :=
  let (quarter, unit) := b.measures grid
  let value := 4 * b.mantissa * quarter
  let below := value / unit
  match b.covers grid below, b.covers grid (below + 1) with
  | true, true =>
      let middle := (2 * below + 1) * unit
      if 2 * value < middle then some below
      else if middle < 2 * value then some (below + 1)
      else some (below + below % 2)
  | true, false => some below
  | false, true => some (below + 1)
  | false, false => none

/-- The greatest `x` such that `10 ^ x` is at most the double. -/
def Binary.magnitude (b : Binary) : Int :=
  let guess := ((b.mantissa.log2 + b.exponent) * 30103) / 100000
  let (quarter, unit) := b.measures (guess + 1)
  if unit ≤ 4 * b.mantissa * quarter then guess + 1 else guess

/-- A decimal `0.d₁d₂… * 10 ^ (exponent + 1)`: its digits, and the exponent of the first one. -/
structure Digits where
  digits : List Char
  exponent : Int

def Digits.ofCount (count : Nat) (grid : Int) : Digits :=
  let all := Nat.toDigits 10 count
  ⟨(all.reverse.dropWhile (· = '0')).reverse, grid + all.length - 1⟩

/-- Seventeen digits always suffice. -/
def Binary.shortest (b : Binary) : Digits :=
  let x := b.magnitude
  match (List.range 17).findSome? fun n : Nat => (b.onGrid? (x - n)).map fun c => (c, x - n) with
  | some (count, grid) => Digits.ofCount count grid
  | none => ⟨['0'], 0⟩

end CallBridge.Decimal
