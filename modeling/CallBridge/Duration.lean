/-!
# Spans of time

A span has whole seconds and nanoseconds below one second. Timeouts are counted in milliseconds.
-/

namespace CallBridge

structure Duration where
  secs : UInt64
  nanos : Nat
  nanos_lt : nanos < 1000000000 := by omega

namespace Duration

/-- Whole milliseconds, rounded down. Their number needs more than 64 bits. -/
def toMillis (d : Duration) : BitVec 128 :=
  d.secs.toBitVec.setWidth 128 * 1000#128 + BitVec.ofNat 128 (d.nanos / 1000000)

/-- The nanoseconds of a count of milliseconds that are left beside its whole seconds. -/
def nanosLeft (ms : UInt64) : UInt32 := (ms % 1000).toUInt32 * 1000000

theorem toNat_nanosLeft (ms : UInt64) : (nanosLeft ms).toNat = ms.toNat % 1000 * 1000000 := by
  simp only [nanosLeft, UInt32.toNat_mul, UInt64.toNat_toUInt32, UInt64.toNat_mod,
    UInt64.reduceToNat, UInt32.reduceToNat]
  omega

def ofMillis (ms : UInt64) : Duration where
  secs := ms / 1000
  nanos := (nanosLeft ms).toNat
  nanos_lt := by
    rw [toNat_nanosLeft]
    omega

/-- Milliseconds capped at the largest 64-bit count. -/
def toMillisCapped (d : Duration) : UInt64 :=
  UInt64.ofNat (min d.toMillis.toNat (UInt64.size - 1))

/-- A span of milliseconds in messages: `0ns`, `50ms`, `1s`, `61.001s`. -/
def describeMillis (ms : Nat) : String :=
  if ms = 0 then "0ns"
  else if ms < 1000 then toString ms ++ "ms"
  else
    let part := Nat.toDigits 10 (ms % 1000)
    let places := List.replicate (3 - part.length) '0' ++ part
    let kept := (places.reverse.dropWhile (· = '0')).reverse
    let fraction := if kept.isEmpty then "" else "." ++ String.ofList kept
    toString (ms / 1000) ++ fraction ++ "s"

end Duration

end CallBridge
