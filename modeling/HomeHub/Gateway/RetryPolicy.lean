import HomeHub.Duration

/-!
How long to wait after failed observations, and when to give up.
-/

namespace HomeHub.Gateway

structure RetryPolicy where
  initialBackoff : Duration := .ofMillis 500
  maxBackoff : Duration := .ofMillis 30000
  maxAttempts : UInt32 := 10
  deriving DecidableEq, Repr

namespace RetryPolicy

def mostDoublings : Nat := 31

def backoff (policy : RetryPolicy) (failures : Nat) : Duration :=
  let factor := Nat.pow 2 (min (failures - 1) mostDoublings)
  (policy.initialBackoff.times factor).atMost policy.maxBackoff

end RetryPolicy

end HomeHub.Gateway
