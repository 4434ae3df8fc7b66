import DashboardCheck.Http.Backoff
import DashboardCheck.Proofs.Config.Loaded
import Mathlib.Algebra.Group.Nat.Defs

/-!
# How long the waits are

From attempt to attempt the wait never gets shorter, and it stays between its bounds. The factor
stops at the largest number of 32 bits, and the product at the longest time. Neither is ever seen of
a valid configuration: its longest wait comes first, so its waits are those of exact arithmetic.
-/
namespace DashboardCheck

/-- A product is never longer than the longest time. -/
theorem Duration.scale_le (d : Duration) (factor : Nat) :
    (d.scale factor).nanos ≤ longest.nanos :=
  Nat.min_le_right _ _

theorem Duration.scale_mono (d : Duration) {m n : Nat} (h : m ≤ n) :
    (d.scale m).nanos ≤ (d.scale n).nanos := by
  have hproduct : d.nanos * m ≤ d.nanos * n := Nat.mul_le_mul_left _ h
  simp only [scale]
  omega

namespace Http.RetryPolicy

/-- The factor is a power of two, or the largest number of 32 bits if that is smaller. -/
theorem factor_eq (attempt : Nat) : factor attempt = min (2 ^ (attempt - 1)) Number.max32 := by
  rw [factor]
  split_ifs with h
  · have hpow : 2 ^ (attempt - 1) ≤ 2 ^ 31 := Nat.pow_le_pow_right (by decide) (by omega)
    exact (Nat.min_eq_left (Nat.le_trans hpow (by decide))).symm
  · have hpow : 2 ^ 32 ≤ 2 ^ (attempt - 1) := Nat.pow_le_pow_right (by decide) (by omega)
    exact (Nat.min_eq_right (Nat.le_trans (by decide) hpow)).symm

theorem factor_le (attempt : Nat) : factor attempt ≤ Number.max32 := by
  rw [factor_eq]
  exact Nat.min_le_right _ _

theorem factor_mono {a b : Nat} (h : a ≤ b) : factor a ≤ factor b := by
  have hpow : 2 ^ (a - 1) ≤ 2 ^ (b - 1) := Nat.pow_le_pow_right (by decide) (by omega)
  rw [factor_eq, factor_eq]
  omega

variable (p : RetryPolicy)

theorem backoff_nanos (attempt : Nat) :
    (p.backoff attempt).nanos =
      min (max (p.multiplier.scale (factor attempt)).nanos p.minWait.nanos) p.maxWait.nanos := rfl

theorem backoff_le (attempt : Nat) : (p.backoff attempt).nanos ≤ p.maxWait.nanos :=
  Nat.min_le_right _ _

theorem le_backoff (h : p.minWait.nanos ≤ p.maxWait.nanos) (attempt : Nat) :
    p.minWait.nanos ≤ (p.backoff attempt).nanos := by
  rw [backoff_nanos]
  omega

theorem backoff_mono {a b : Nat} (h : a ≤ b) :
    (p.backoff a).nanos ≤ (p.backoff b).nanos := by
  have hscale := Duration.scale_mono p.multiplier (factor_mono h)
  rw [backoff_nanos, backoff_nanos]
  omega

/-- A product with the factor is the one with the power, unless both are past what 32 bits hold. -/
theorem mul_factor (m attempt : Nat) :
    m * factor attempt = m * 2 ^ (attempt - 1) ∨
      Number.max32 ≤ m * factor attempt ∧ Number.max32 ≤ m * 2 ^ (attempt - 1) := by
  rw [factor_eq]
  rcases Nat.le_total (2 ^ (attempt - 1)) Number.max32 with hsmall | hlarge
  · rw [Nat.min_eq_left hsmall]
    exact .inl rfl
  · rw [Nat.min_eq_right hlarge]
    rcases Nat.eq_zero_or_pos m with rfl | hm
    · exact .inl (by rw [Nat.zero_mul, Nat.zero_mul])
    · exact .inr ⟨Nat.le_mul_of_pos_left _ hm,
        Nat.le_trans hlarge (Nat.le_mul_of_pos_left _ hm)⟩

/-- Where a product stops is not seen if the upper bound comes first. -/
theorem clamp_min {low high stop : Nat} (h : high ≤ stop) (n : Nat) :
    min (max (min n stop) low) high = min (max n low) high := by
  omega

/-- If 32 bits hold the longest wait, the waits are those of exact arithmetic: whatever stops
growing is past the longest wait by then. -/
theorem backoff_ofConfig {c : Config.Retry} (h : c.maxWaitSecs ≤ Number.max32) (attempt : Nat) :
    (ofConfig c).backoff attempt =
      .ofSecs (min (max (c.multiplierSecs * 2 ^ (attempt - 1)) c.minWaitSecs) c.maxWaitSecs) := by
  have hlongest : c.maxWaitSecs * Duration.second ≤ Duration.longest.nanos :=
    Nat.le_trans (Nat.mul_le_mul_right _ h) (by decide)
  have hclamp : min (max (c.multiplierSecs * factor attempt) c.minWaitSecs) c.maxWaitSecs =
      min (max (c.multiplierSecs * 2 ^ (attempt - 1)) c.minWaitSecs) c.maxWaitSecs := by
    have hfactor := mul_factor c.multiplierSecs attempt
    omega
  have hproduct : c.multiplierSecs * Duration.second * factor attempt =
      c.multiplierSecs * factor attempt * Duration.second := Nat.mul_right_comm _ _ _
  rw [← hclamp, Duration.ofSecs, ← Nat.mul_min_mul_right, ← Nat.mul_max_mul_right, ← hproduct,
    ← clamp_min hlongest]
  rfl

/-- Waits never get shorter and stay between the bounds, and nothing overflows on the way, whatever
the multiplier. The waits of a valid configuration are exact: the multiplier times the power of two,
but at least the shortest and at most the longest wait. -/
theorem backoff_exact :
    (∀ (p : RetryPolicy) (a b : Nat), a ≤ b →
      (p.backoff a).nanos ≤ (p.backoff b).nanos ∧ (p.backoff b).nanos ≤ p.maxWait.nanos ∧
      (p.minWait.nanos ≤ p.maxWait.nanos → p.minWait.nanos ≤ (p.backoff a).nanos)) ∧
    (∀ (p : RetryPolicy) (attempt : Nat), factor attempt ≤ Number.max32 ∧
      (p.multiplier.scale (factor attempt)).nanos ≤ Duration.longest.nanos ∧
      (p.maxWait.nanos ≤ Duration.longest.nanos →
        (p.backoff attempt).nanos ≤ Duration.longest.nanos)) ∧
    ∀ c : Config, c.validate = .ok () → ∀ attempt,
      (ofConfig c.retry).backoff attempt =
        .ofSecs (min (max (c.retry.multiplierSecs * 2 ^ (attempt - 1)) c.retry.minWaitSecs)
          c.retry.maxWaitSecs) := by
  refine ⟨fun p a b h => ⟨p.backoff_mono h, p.backoff_le b, fun hbounds => p.le_backoff hbounds a⟩,
    fun p attempt => ⟨factor_le attempt, Duration.scale_le _ _, ?_⟩, fun c hvalid attempt => ?_⟩
  · exact Nat.le_trans (p.backoff_le attempt)
  · have hlongest : c.retry.maxWaitSecs ≤ Number.max32 :=
      Nat.le_trans (Config.isValid_of_validate hvalid).longest (by decide)
    exact backoff_ofConfig hlongest attempt

/-- The largest multiplier with the longest waits. -/
def steepest : Config :=
  { Config.default with
    retry := ⟨Config.maxRetryAttempts, Number.max64, 0, Config.maxRetryWaitSecs⟩ }

/-- By default the fourth wait is eight seconds. With the largest multiplier each wait is the
longest one, also where neither the power nor the product would fit. -/
theorem backoff_exact_steepest :
    (Config.default.validate = .ok () ∧ (ofConfig Config.default.retry).backoff 4 = .ofSecs 8) ∧
      steepest.validate = .ok () ∧ (ofConfig steepest.retry).backoff 99 = .ofSecs 600 := by
  have hdefault : Config.default.validate = .ok () := by decide +kernel
  have hsteepest : steepest.validate = .ok () := by decide +kernel
  obtain ⟨-, -, hexact⟩ := backoff_exact
  exact ⟨⟨hdefault, (hexact _ hdefault 4).trans (by decide)⟩, hsteepest,
    (hexact _ hsteepest 99).trans (by decide)⟩

end Http.RetryPolicy

end DashboardCheck
