import DashboardCheck.Config.Basic
import DashboardCheck.Duration

/-!
How long to wait before a request is sent again: the wait doubles with each attempt and is kept
between two bounds.
-/
namespace DashboardCheck.Http

/-- How often and when a request is sent again. -/
structure RetryPolicy where
  /-- At least one; the first attempt counts. -/
  maxAttempts : Nat
  multiplier : Duration
  minWait : Duration
  maxWait : Duration
  deriving DecidableEq, Repr

namespace RetryPolicy

def ofConfig (c : Config.Retry) : RetryPolicy :=
  ⟨max c.maxAttempts 1, .ofSecs c.multiplierSecs, .ofSecs c.minWaitSecs, .ofSecs c.maxWaitSecs⟩

def immediate (maxAttempts : Nat) : RetryPolicy :=
  ⟨max maxAttempts 1, ⟨0⟩, ⟨0⟩, ⟨0⟩⟩

/-- The factor of an attempt, counted from 1: a power of two as long as 32 bits hold it. -/
def factor (attempt : Nat) : Nat :=
  if attempt - 1 < 32 then Nat.pow 2 (attempt - 1) else Number.max32

/-- The wait after a failed attempt, counted from 1. -/
def backoff (p : RetryPolicy) (attempt : Nat) : Duration :=
  ((p.multiplier.scale (factor attempt)).max p.minWait).min p.maxWait

end RetryPolicy

end DashboardCheck.Http
