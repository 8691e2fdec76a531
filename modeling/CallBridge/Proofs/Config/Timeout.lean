import CallBridge.Proofs.Config.Setting
import Mathlib.Algebra.Group.Nat.Defs
import Mathlib.Order.Bounds.Defs

/-!
# Timeouts in milliseconds

A timeout is given as a span of nanoseconds and kept as a 64-bit count of milliseconds, the greatest
one that fits (`Duration.isGreatest_toMillisCapped`). The two conversions belong together: a count
is at most the one kept of a span exactly when so many milliseconds are no longer than the span
(`Duration.ofMillis_le_iff`). The order of the results and the way back come from this. Main
statement: `Config.timeout_rounds_down`.
-/

namespace CallBridge

namespace Duration

/-! ## Lengths and their order -/

/-- The length of a span in nanoseconds. -/
def toNanos (d : Duration) : Nat := d.secs.toNat * 1000000000 + d.nanos

/-- Spans are compared by their seconds, and by their nanoseconds if these agree. -/
instance : LE Duration where
  le d e := d.secs < e.secs ∨ d.secs = e.secs ∧ d.nanos ≤ e.nanos

/-- As the nanoseconds of a span never make up a second, the longer span is the greater one. -/
theorem le_iff_toNanos_le {d e : Duration} : d ≤ e ↔ d.toNanos ≤ e.toNanos := by
  have hd := d.nanos_lt
  have he := e.nanos_lt
  change (d.secs < e.secs ∨ d.secs = e.secs ∧ d.nanos ≤ e.nanos) ↔ _
  rw [UInt64.lt_iff_toNat_lt, ← UInt64.toNat_inj, toNanos, toNanos]
  omega

/-! ## Words that hold their numbers -/

theorem toNat_secs_wide (d : Duration) : (d.secs.toBitVec.setWidth 128).toNat = d.secs.toNat := by
  have hlt := d.secs.toNat_lt
  rw [BitVec.toNat_setWidth, UInt64.toNat_toBitVec]
  exact Nat.mod_eq_of_lt (by omega)

theorem secs_mul_fits (d : Duration) :
    (d.secs.toBitVec.setWidth 128).umulOverflow 1000#128 = false := by
  have hlt := d.secs.toNat_lt
  rw [BitVec.umulOverflow, toNat_secs_wide, decide_eq_false_iff_not, BitVec.toNat_ofNat]
  omega

theorem toNat_secs_mul (d : Duration) :
    (d.secs.toBitVec.setWidth 128 * 1000#128).toNat = d.secs.toNat * 1000 := by
  rw [BitVec.toNat_mul_of_not_umulOverflow (by simp [secs_mul_fits]), toNat_secs_wide]
  rfl

theorem millis_add_fits (d : Duration) :
    (d.secs.toBitVec.setWidth 128 * 1000#128).uaddOverflow (.ofNat 128 (d.nanos / 1000000))
      = false := by
  have hlt := d.secs.toNat_lt
  have hnanos := d.nanos_lt
  rw [BitVec.uaddOverflow, toNat_secs_mul, decide_eq_false_iff_not, BitVec.toNat_ofNat]
  omega

theorem toNat_toMillis (d : Duration) :
    d.toMillis.toNat = d.secs.toNat * 1000 + d.nanos / 1000000 := by
  have hnanos := d.nanos_lt
  rw [toMillis, BitVec.toNat_add_of_not_uaddOverflow (by simp [millis_add_fits]), toNat_secs_mul,
    BitVec.toNat_ofNat, Nat.mod_eq_of_lt (by omega)]

theorem nanosLeft_fits (ms : UInt64) :
    (ms % 1000).toUInt32.toBitVec.umulOverflow 1000000#32 = false := by
  have hmillis : (ms % 1000).toNat = ms.toNat % 1000 := UInt64.toNat_mod ms 1000
  rw [BitVec.umulOverflow, decide_eq_false_iff_not, UInt32.toNat_toBitVec, UInt64.toNat_toUInt32,
    hmillis, BitVec.toNat_ofNat]
  omega

theorem toNat_secs_ofMillis (ms : UInt64) : (ofMillis ms).secs.toNat = ms.toNat / 1000 :=
  UInt64.toNat_div ms 1000

/-! ## The two conversions -/

theorem toNat_toMillisCapped (d : Duration) :
    d.toMillisCapped.toNat = min (d.toNanos / 1000000) (2 ^ 64 - 1) := by
  have hmillis : d.toMillis.toNat = d.toNanos / 1000000 := by
    rw [toNat_toMillis, toNanos]
    omega
  have hfits : min (d.toNanos / 1000000) (UInt64.size - 1) < UInt64.size := by
    rw [UInt64.size]
    omega
  rw [toMillisCapped, hmillis, UInt64.toNat_ofNat_of_lt' hfits]
  rfl

theorem toNanos_ofMillis (ms : UInt64) : (ofMillis ms).toNanos = ms.toNat * 1000000 := by
  have hnanos : (ofMillis ms).nanos = ms.toNat % 1000 * 1000000 := toNat_nanosLeft ms
  rw [toNanos, toNat_secs_ofMillis, hnanos]
  omega

theorem le_toNat_toMillisCapped_iff {k : Nat} {d : Duration} :
    k ≤ d.toMillisCapped.toNat ↔ k * 1000000 ≤ d.toNanos ∧ k ≤ 2 ^ 64 - 1 := by
  rw [toNat_toMillisCapped, Nat.le_min, Nat.le_div_iff_mul_le (by decide)]

/-- A count is at most the one kept of a span iff so many milliseconds are no longer than it. The
cap leaves no count out, since all counts have 64 bits. -/
theorem ofMillis_le_iff {ms : UInt64} {d : Duration} :
    ofMillis ms ≤ d ↔ ms ≤ d.toMillisCapped := by
  have hcap : ms.toNat ≤ 2 ^ 64 - 1 := Nat.le_pred_of_lt ms.toNat_lt
  rw [le_iff_toNanos_le, toNanos_ofMillis, UInt64.le_iff_toNat_le, le_toNat_toMillisCapped_iff]
  exact (and_iff_left hcap).symm

theorem ofMillis_le_ofMillis_iff {ms ms' : UInt64} :
    ofMillis ms ≤ ofMillis ms' ↔ ms ≤ ms' := by
  rw [le_iff_toNanos_le, toNanos_ofMillis, toNanos_ofMillis, UInt64.le_iff_toNat_le]
  omega

theorem toMillisCapped_ofMillis (ms : UInt64) : (ofMillis ms).toMillisCapped = ms := by
  apply UInt64.le_antisymm
  · exact ofMillis_le_ofMillis_iff.1 (ofMillis_le_iff.2 (UInt64.le_refl _))
  · exact ofMillis_le_iff.1 (ofMillis_le_ofMillis_iff.2 (UInt64.le_refl _))

/-- The count kept of a span is the greatest one that the span and 64 bits leave room for. -/
theorem isGreatest_toMillisCapped (d : Duration) :
    IsGreatest {k : Nat | k * 1000000 ≤ d.toNanos ∧ k ≤ 2 ^ 64 - 1} d.toMillisCapped.toNat := by
  constructor
  · exact le_toNat_toMillisCapped_iff.1 (Nat.le_refl _)
  · intro k hk
    exact le_toNat_toMillisCapped_iff.2 hk

theorem toMillisCapped_le_of_le {d e : Duration} (h : d ≤ e) :
    d.toMillisCapped ≤ e.toMillisCapped := by
  -- What is kept of `d` fits into `d`, and so into `e`.
  have hkept : ofMillis d.toMillisCapped ≤ d := ofMillis_le_iff.2 (UInt64.le_refl _)
  apply ofMillis_le_iff.1
  exact le_iff_toNanos_le.2 (Nat.le_trans (le_iff_toNanos_le.1 hkept) (le_iff_toNanos_le.1 h))

end Duration

namespace Config

/-- **Timeouts are rounded down to whole milliseconds, up to a cap.** Of a span `d`, a configuration
keeps the greatest number of whole milliseconds that exceeds neither `d` nor `2 ^ 64 - 1`, and gives
it back as a span of that length with less than a second of nanoseconds. No other field changes. On
the way no product and no sum leaves its word, of 128 bits for the milliseconds of `d` and of 32
bits for the nanoseconds that are given back, and seconds and nanoseconds are the exact quotients
and remainders. A longer span never gives a shorter timeout. Every count is kept as it is, so
setting the timeout that a configuration has changes nothing. -/
theorem timeout_rounds_down (c : Config) (d : Duration) :
    (∃ ms t, (c.withTimeout d).timeoutMs = some ms ∧
      IsGreatest {k : Nat | k * 1000000 ≤ d.toNanos ∧ k ≤ 2 ^ 64 - 1} ms.toNat ∧
      (c.withTimeout d).timeout = some t ∧ t.toNanos = ms.toNat * 1000000 ∧
      t.nanos < 1000000000) ∧
    (∀ f, f ≠ .callTimeout → (c.withTimeout d).setting f = c.setting f) ∧
    ((d.secs.toBitVec.setWidth 128).umulOverflow 1000#128 = false ∧
      (d.secs.toBitVec.setWidth 128 * 1000#128).uaddOverflow (.ofNat 128 (d.nanos / 1000000))
        = false ∧
      d.toMillis.toNat = d.secs.toNat * 1000 + d.nanos / 1000000) ∧
    (∀ ms, (ms % 1000).toUInt32.toBitVec.umulOverflow 1000000#32 = false ∧
      (Duration.ofMillis ms).secs.toNat = ms.toNat / 1000 ∧
      (Duration.ofMillis ms).nanos = ms.toNat % 1000 * 1000000) ∧
    (∀ e t u, d ≤ e → (c.withTimeout d).timeout = some t → (c.withTimeout e).timeout = some u →
      t ≤ u) ∧
    (∀ ms, (c.withTimeout (.ofMillis ms)).timeoutMs = some ms) ∧
    ∀ t, c.timeout = some t → c.withTimeout t = c := by
  refine ⟨⟨d.toMillisCapped, .ofMillis d.toMillisCapped, rfl, d.isGreatest_toMillisCapped, rfl,
      Duration.toNanos_ofMillis _, Duration.nanos_lt _⟩, ?_,
    ⟨d.secs_mul_fits, d.millis_add_fits, d.toNat_toMillis⟩, ?_, ?_, ?_, ?_⟩
  · intro f hf
    exact setting_put_other c (x := .callTimeout (some d.toMillisCapped)) hf.symm
  · intro ms
    exact ⟨Duration.nanosLeft_fits ms, Duration.toNat_secs_ofMillis ms, Duration.toNat_nanosLeft ms⟩
  · rintro e t u hle ⟨⟩ ⟨⟩
    exact Duration.ofMillis_le_ofMillis_iff.2 (Duration.toMillisCapped_le_of_le hle)
  · intro ms
    rw [withTimeout, Duration.toMillisCapped_ofMillis]
  · intro t ht
    obtain ⟨ms, hms, rfl⟩ := Option.map_eq_some_iff.1 ht
    rw [withTimeout, Duration.toMillisCapped_ofMillis, ← hms]

/-- Two seconds and nearly a millisecond, and the first span past the cap. The configuration has a
timeout of its own and another field that is not the default. -/
theorem timeout_rounds_down_past_cap :
    let c : Config := { timeoutMs := some 250, logLevel := "debug" }
    let d : Duration := { secs := 2, nanos := 999999 }
    let e : Duration := { secs := 18446744073709551, nanos := 616000000 }
    d ≤ e ∧ Field.logLevel ≠ .callTimeout ∧ c.timeout = some (.ofMillis 250) ∧
      (c.withTimeout d).timeout = some (.ofMillis 2000) ∧
      (c.withTimeout e).timeout = some (.ofMillis 18446744073709551615) ∧
      Duration.ofMillis 2000 ≤ .ofMillis 18446744073709551615 ∧
      (c.withTimeout d).setting .logLevel = .logLevel "debug" ∧
      c.withTimeout (.ofMillis 250) = c := by
  intro c d e
  have hle : d ≤ e := .inl (by decide)
  have hd : (c.withTimeout d).timeout = some (.ofMillis 2000) :=
    congrArg (some ∘ Duration.ofMillis) (show d.toMillisCapped = 2000 by decide +kernel)
  have he : (c.withTimeout e).timeout = some (.ofMillis 18446744073709551615) :=
    congrArg (some ∘ Duration.ofMillis)
      (show e.toMillisCapped = 18446744073709551615 by decide +kernel)
  obtain ⟨-, hother, -, -, hmono, -, hback⟩ := timeout_rounds_down c d
  exact ⟨hle, by decide, rfl, hd, he, hmono e _ _ hle hd he, hother .logLevel (by decide),
    hback _ rfl⟩

end Config

end CallBridge
