/-!
# Waits

Virtual time is counted in milliseconds since the start. How much of it passes in a wait is left
open; all that is known of waits is that one that is asked to be longer ends no earlier. The
program's own waits last as long as asked for, but never more than thirty years.
-/
namespace WifiScan

/-- How long waits last. -/
class Wait where
  /-- How much time passes in a wait of so many milliseconds. -/
  length : UInt64 → Nat
  mono {first second : UInt64} (order : first ≤ second) : length first ≤ length second

namespace Wait

/-- When a wait ends that starts at a time. -/
def finish [Wait] (now : Nat) (ms : UInt64) : Nat := now + length ms

/-- Thirty years of 365 days. -/
def longestMs : Nat := 30 * 365 * 24 * 60 * 60 * 1000

instance upToThirtyYears : Wait where
  length ms := min ms.toNat longestMs
  mono {first second} order := by
    have order := UInt64.le_iff_toNat_le.1 order
    omega

end Wait

end WifiScan
