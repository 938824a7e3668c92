/-!
# Clocks

A clock that is moved by hand. It counts microseconds modulo 2^64, and a step forward may wrap
around.
-/
namespace WifiScan

structure ManualClock where
  nowUs : UInt64
  deriving DecidableEq, Repr

namespace ManualClock

def set (_ : ManualClock) (us : UInt64) : ManualClock := ⟨us⟩

def advance (c : ManualClock) (us : UInt64) : ManualClock := ⟨c.nowUs + us⟩

end ManualClock

end WifiScan
