import DashboardCheck.Number.Numeral

/-!
Lengths of time in whole nanoseconds. There is a longest one, at which multiplication stops.
-/
namespace DashboardCheck

/-- A length of time. -/
structure Duration where
  nanos : Nat
  deriving DecidableEq, Repr

namespace Duration

def second : Nat := 1000000000

def ofSecs (n : Nat) : Duration := ⟨n * second⟩

def ofMillis (n : Nat) : Duration := ⟨n * 1000000⟩

def secs (d : Duration) : Nat := d.nanos / second

def millis (d : Duration) : Nat := d.nanos / 1000000

def subsecNanos (d : Duration) : Nat := d.nanos % second

/-- The longest time: its seconds still fit into 64 bits. -/
def longest : Duration := ⟨Number.max64 * second + (second - 1)⟩

/-- So many times as long, or the longest time. -/
def scale (d : Duration) (factor : Nat) : Duration := ⟨min (d.nanos * factor) longest.nanos⟩

def max (a b : Duration) : Duration := ⟨Nat.max a.nanos b.nanos⟩

def min (a b : Duration) : Duration := ⟨Nat.min a.nanos b.nanos⟩

end Duration

end DashboardCheck
