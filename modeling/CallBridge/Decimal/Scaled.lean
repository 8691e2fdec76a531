/-!
# Doubles from digits and a power of ten

The value of a decimal text is taken as a 64-bit significand, converted to the nearest double, and
one multiplication or division by a power of ten. This is what the format prescribes; it is not
always the double nearest to the text.
-/

namespace CallBridge.Decimal

/-- Significands stay below this. -/
def significandBound : Nat := UInt64.size

/-- Appends digits to a significand as long as it stays below the bound: the significand, and the
digits that did not fit. -/
def accumulate (significand : Nat) : List Nat → Nat × List Nat
  | [] => (significand, [])
  | d :: rest =>
      if significand * 10 + d < significandBound then accumulate (significand * 10 + d) rest
      else (significand, d :: rest)

/-- The double nearest to `10 ^ n`. -/
def powerOfTen (n : Nat) : Float := Float.ofScientific 1 false n

/-- The largest power of ten among the doubles. -/
def topPower : Nat := 308

/-- Divides by `10 ^ n`, in several steps when that is no double. -/
def divideDown (x : Float) (n : Nat) : Float :=
  if n ≤ topPower then x / powerOfTen n
  else if x == 0 then x
  else divideDown (x / powerOfTen topPower) (n - topPower)
termination_by n
decreasing_by simp only [topPower] at *; omega

/-- The double `significand * 10 ^ exponent`; none if it is too large. -/
def scale? (significand : Nat) (exponent : Int) : Option Float :=
  let x := significand.toUInt64.toFloat
  match exponent with
  | .ofNat n =>
      if n ≤ topPower then
        let y := x * powerOfTen n
        if y.isInf then none else some y
      else if x == 0 then some x
      else none
  | .negSucc n => some (divideDown x (n + 1))

end CallBridge.Decimal
