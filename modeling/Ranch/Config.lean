import Mathlib.Data.BitVec

/-!
# Timeouts read from the configuration file

`NewPlatformServerFromConfig` reads `shutdownTimeout` and `restBridgeTimeout` from the JSON file
as counts of minutes: a count not above zero becomes the default, 5 minutes for shutdown and 1 for
the REST bridges, and the count is then multiplied by `time.Minute`. A `time.Duration` is a signed
64-bit count of nanoseconds, so the product wraps once the count passes `maxMinutes`.
-/

namespace Ranch

/-- `time.Duration`: a signed 64-bit count of nanoseconds. -/
abbrev Duration := BitVec 64

/-- `time.Minute`. -/
def minute : Duration := 60000000000#64

/-- The timeouts of `PlatformServerConfig`, as decoded from the file. -/
structure PlatformServerConfig where
  shutdownTimeout : Duration
  restBridgeTimeout : Duration
  deriving DecidableEq, Repr

/-- One timeout: `if t <= 0 { t = default }`, then `t = t * time.Minute`. -/
def minutesOrDefault (default t : Duration) : Duration :=
  (if t.sle 0 then default else t) * minute

/-- The timeouts `NewPlatformServerFromConfig` stores for a file it could read and decode. -/
def newPlatformServerFromConfig (config : PlatformServerConfig) : PlatformServerConfig where
  shutdownTimeout := minutesOrDefault 5 config.shutdownTimeout
  restBridgeTimeout := minutesOrDefault 1 config.restBridgeTimeout

/-- The most minutes a `time.Duration` holds: `(2^63 - 1) / (60 * 10^9)`, rounded down. -/
def maxMinutes : Int := 153722867

/-! ## The stored count -/

theorem minutesOrDefault_toInt (default t : Duration) :
    (minutesOrDefault default t).toInt =
      ((if t.toInt ≤ 0 then default.toInt else t.toInt) * 60000000000).bmod (2 ^ 64) := by
  have hminute : minute.toInt = 60000000000 := by decide
  unfold minutesOrDefault
  by_cases h : t.toInt ≤ 0
  · rw [if_pos (by simpa [BitVec.sle] using h), if_pos h, BitVec.toInt_mul, hminute]
  · rw [if_neg (by simpa [BitVec.sle] using h), if_neg h, BitVec.toInt_mul, hminute]

/-- A count of nanoseconds in the signed 64-bit range is stored as it is. -/
theorem bmod_of_fits {z : Int} (h0 : 0 ≤ z) (h : z < 2 ^ 63) : z.bmod (2 ^ 64) = z := by
  have hmod : z % ((2 ^ 64 : Nat) : Int) = z := Int.emod_eq_of_lt h0 (by omega)
  rw [Int.bmod_pos _ _ (by rw [hmod]; omega), hmod]

theorem bmod_lt_two_pow_63 (z : Int) : z.bmod (2 ^ 64) < 2 ^ 63 :=
  lt_of_lt_of_le (Int.bmod_lt (by decide)) (by decide)

/-- A count of minutes up to `maxMinutes` is stored exactly. -/
theorem minutesOrDefault_of_fits {default t : Duration} {m : Int}
    (hm : m = if t.toInt ≤ 0 then default.toInt else t.toInt) (h0 : 0 < m) (h : m ≤ maxMinutes) :
    (minutesOrDefault default t).toInt = m * 60000000000 := by
  rw [minutesOrDefault_toInt, ← hm, bmod_of_fits (by omega) (by unfold maxMinutes at h; omega)]

/-- A count of minutes above `maxMinutes` wraps. -/
theorem minutesOrDefault_ne_of_gt {default t : Duration} (h : maxMinutes < t.toInt) :
    (minutesOrDefault default t).toInt ≠ t.toInt * 60000000000 := by
  have hpos : ¬t.toInt ≤ 0 := by unfold maxMinutes at h; omega
  rw [minutesOrDefault_toInt, if_neg hpos]
  have := bmod_lt_two_pow_63 (t.toInt * 60000000000)
  unfold maxMinutes at h
  omega

/-- One timeout, for a default that fits: the default when the count is not above zero, the count
of minutes up to `maxMinutes`, and never the count of minutes above it. -/
theorem minutesOrDefault_spec {default : Duration} (hd : 0 < default.toInt)
    (hdm : default.toInt ≤ maxMinutes) (t : Duration) :
    (t.toInt ≤ 0 → (minutesOrDefault default t).toInt = default.toInt * 60000000000) ∧
    (0 < t.toInt → t.toInt ≤ maxMinutes →
      (minutesOrDefault default t).toInt = t.toInt * 60000000000) ∧
    (maxMinutes < t.toInt → (minutesOrDefault default t).toInt ≠ t.toInt * 60000000000) :=
  ⟨fun h => minutesOrDefault_of_fits (if_pos h).symm hd hdm,
    fun h0 h => minutesOrDefault_of_fits (if_neg (by omega)).symm h0 h, minutesOrDefault_ne_of_gt⟩

/-! ## The stored timeouts -/

/-- Each stored timeout is its default, 5 minutes or 1, when the file's count is not above zero,
that many minutes when the count is at most `maxMinutes`, and never that many minutes above it,
where the product wraps. -/
theorem config_timeouts_in_minutes (config : PlatformServerConfig) :
    let stored := newPlatformServerFromConfig config
    (config.shutdownTimeout.toInt ≤ 0 → stored.shutdownTimeout.toInt = 5 * 60000000000) ∧
    (0 < config.shutdownTimeout.toInt → config.shutdownTimeout.toInt ≤ maxMinutes →
      stored.shutdownTimeout.toInt = config.shutdownTimeout.toInt * 60000000000) ∧
    (maxMinutes < config.shutdownTimeout.toInt →
      stored.shutdownTimeout.toInt ≠ config.shutdownTimeout.toInt * 60000000000) ∧
    (config.restBridgeTimeout.toInt ≤ 0 → stored.restBridgeTimeout.toInt = 60000000000) ∧
    (0 < config.restBridgeTimeout.toInt → config.restBridgeTimeout.toInt ≤ maxMinutes →
      stored.restBridgeTimeout.toInt = config.restBridgeTimeout.toInt * 60000000000) ∧
    (maxMinutes < config.restBridgeTimeout.toInt →
      stored.restBridgeTimeout.toInt ≠ config.restBridgeTimeout.toInt * 60000000000) := by
  obtain ⟨s₁, s₂, s₃⟩ :=
    minutesOrDefault_spec (by decide : 0 < (5 : Duration).toInt) (by decide) config.shutdownTimeout
  obtain ⟨r₁, r₂, r₃⟩ := minutesOrDefault_spec (by decide : 0 < (1 : Duration).toInt) (by decide)
    config.restBridgeTimeout
  exact ⟨fun h => (s₁ h).trans (by decide), s₂, s₃, fun h => (r₁ h).trans (by decide), r₂, r₃⟩

/-- One minute past the limit, both timeouts wrap to about minus 292 years. -/
example :
    newPlatformServerFromConfig ⟨153722868#64, 153722868#64⟩ =
      ⟨BitVec.ofInt 64 (-9223371993709551616), BitVec.ofInt 64 (-9223371993709551616)⟩ := by
  decide

end Ranch
