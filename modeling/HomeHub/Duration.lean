/-!
Spans of time, in nanoseconds.
-/

namespace HomeHub

structure Duration where
  nanos : Nat
  deriving DecidableEq, Repr

namespace Duration

def nanosPerMilli : Nat := 1000000

def nanosPerSecond : Nat := 1000 * nanosPerMilli

def longest : Nat := UInt64.size * nanosPerSecond - 1

def ofMillis (ms : Nat) : Duration :=
  ⟨ms * nanosPerMilli⟩

def toMillis (d : Duration) : Nat :=
  d.nanos / nanosPerMilli

def times (d : Duration) (n : Nat) : Duration :=
  ⟨min (d.nanos * n) longest⟩

def atMost (d limit : Duration) : Duration :=
  ⟨min d.nanos limit.nanos⟩

end Duration

end HomeHub
