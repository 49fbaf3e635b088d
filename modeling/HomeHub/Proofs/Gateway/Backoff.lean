import HomeHub.Proofs.Gateway.Config

/-!
The delays between observations: they double up to the longest one, and numbers do not run out
before that.
-/

namespace HomeHub.Gateway

open Duration (nanosPerMilli)

namespace RetryPolicy

def doublings (failures : Nat) : Nat :=
  min (failures - 1) mostDoublings

def delayMs (initial longest failures : Nat) : Nat :=
  min (initial * 2 ^ doublings failures) longest

structure Schedule (policy : RetryPolicy) (initial longest : Nat) (delay : Nat → Nat) : Prop where
  backoff : ∀ n, policy.backoff n = .ofMillis (delay n)
  inRange : ∀ n, (Duration.ofMillis (delay n)).nanos ≤ Duration.longest
  factor : ∀ n, ((1 : UInt32) <<< UInt32.ofNat (doublings n)).toNat = 2 ^ doublings n
  atLeast : ∀ n, initial ≤ delay n
  atMost : ∀ n, delay n ≤ longest
  increasing : ∀ n m, n ≤ m → delay n ≤ delay m
  doubles : ∀ n, delay (n + 1) ≤ 2 * delay n
  exact : ∀ n, n ≤ 32 ∨ longest ≤ initial * 2 ^ 31 ∨ initial = 0 →
    delay n = min (initial * 2 ^ (n - 1)) longest
  stays : ∀ n, ¬ (n ≤ 32 ∨ longest ≤ initial * 2 ^ 31 ∨ initial = 0) → delay n = initial * 2 ^ 31

variable {initial longest : Nat}

theorem doublings_le (n : Nat) : doublings n ≤ 31 := by
  apply Nat.min_le_right

theorem doublings_mono {n m : Nat} (h : n ≤ m) : doublings n ≤ doublings m := by
  unfold doublings
  omega

theorem doublings_succ_le (n : Nat) : doublings (n + 1) ≤ doublings n + 1 := by
  unfold doublings
  omega

theorem doublings_of_le {n : Nat} (h : n ≤ 32) : doublings n = n - 1 := by
  unfold doublings mostDoublings
  omega

theorem doublings_of_lt {n : Nat} (h : 32 < n) : doublings n = 31 := by
  unfold doublings mostDoublings
  omega

theorem toNat_shiftLeft_doublings (n : Nat)
    : ((1 : UInt32) <<< UInt32.ofNat (doublings n)).toNat = 2 ^ doublings n := by
  have hwords : ∀ e < 32, ((1 : UInt32) <<< UInt32.ofNat e).toNat = 2 ^ e := by
    decide
  exact hwords _ (Nat.lt_succ_of_le (doublings_le n))

theorem delayMs_mono {n m : Nat} (h : n ≤ m)
    : delayMs initial longest n ≤ delayMs initial longest m := by
  have hpow : 2 ^ doublings n ≤ 2 ^ doublings m :=
    Nat.pow_le_pow_right Nat.two_pos (doublings_mono h)
  have hmul := Nat.mul_le_mul_left initial hpow
  unfold delayMs
  omega

theorem delayMs_succ_le (n : Nat)
    : delayMs initial longest (n + 1) ≤ 2 * delayMs initial longest n := by
  have hpow : 2 ^ doublings (n + 1) ≤ 2 ^ (doublings n + 1) :=
    Nat.pow_le_pow_right Nat.two_pos (doublings_succ_le n)
  have hmul : initial * 2 ^ doublings (n + 1) ≤ 2 * (initial * 2 ^ doublings n) := by
    calc
      _ ≤ initial * 2 ^ (doublings n + 1) := Nat.mul_le_mul_left initial hpow
      _ = 2 * (initial * 2 ^ doublings n) := by rw [Nat.pow_succ']; exact Nat.mul_left_comm ..
  unfold delayMs
  omega

theorem le_delayMs (h : initial ≤ longest) (n : Nat) : initial ≤ delayMs initial longest n := by
  apply Nat.le_min.2
  exact ⟨Nat.le_mul_of_pos_right initial (Nat.two_pow_pos _), h⟩

theorem delayMs_eq_min {n : Nat} (h : n ≤ 32 ∨ longest ≤ initial * 2 ^ 31 ∨ initial = 0)
    : delayMs initial longest n = min (initial * 2 ^ (n - 1)) longest := by
  unfold delayMs
  by_cases hn : n ≤ 32
  . rw [doublings_of_le hn]
  . rw [doublings_of_lt (Nat.lt_of_not_le hn)]
    rcases h with h | h | rfl
    . contradiction
    -- Where the doublings end, the longest delay has been met already.
    . have hpow : 2 ^ 31 ≤ 2 ^ (n - 1) := Nat.pow_le_pow_right Nat.two_pos (by omega)
      have hmul := Nat.mul_le_mul_left initial hpow
      rw [Nat.min_eq_right h]
      rw [Nat.min_eq_right (Nat.le_trans h hmul)]
    . simp

theorem delayMs_eq_mul {n : Nat} (h : ¬ (n ≤ 32 ∨ longest ≤ initial * 2 ^ 31 ∨ initial = 0))
    : delayMs initial longest n = initial * 2 ^ 31 := by
  simp only [not_or, Nat.not_le] at h
  unfold delayMs
  rw [doublings_of_lt h.1]
  exact Nat.min_eq_left (Nat.le_of_lt h.2.1)

theorem backoff_ofMillis (hlongest : (Duration.ofMillis longest).nanos ≤ Duration.longest)
    (maxAttempts : UInt32) (n : Nat)
    : RetryPolicy.backoff ⟨.ofMillis initial, .ofMillis longest, maxAttempts⟩ n
        =
      .ofMillis (delayMs initial longest n) := by
  unfold backoff Duration.atMost Duration.times
  rw [Duration.mk.injEq]
  calc
    -- The longest delay is met before the longest span is, which nobody sees.
    _ = min (initial * nanosPerMilli * 2 ^ doublings n) (longest * nanosPerMilli) := by
      rw [Nat.min_assoc]
      rw [Nat.min_eq_right hlongest]
      rfl
    _ = min (initial * 2 ^ doublings n * nanosPerMilli) (longest * nanosPerMilli) := by
      rw [Nat.mul_right_comm]
    _ = delayMs initial longest n * nanosPerMilli := Nat.mul_min_mul_right ..

theorem nanos_ofMillis_le (ms : UInt64)
    : (Duration.ofMillis ms.toNat).nanos ≤ Duration.longest := by
  have hms : ms.toNat < UInt64.size := ms.toNat_lt_size
  unfold Duration.ofMillis Duration.longest Duration.nanosPerSecond nanosPerMilli
  dsimp only
  omega

end RetryPolicy

open RetryPolicy

theorem ObserveConfig.schedule_retryPolicy {config : ObserveConfig}
    (h : config.initialBackoffMs ≤ config.maxBackoffMs)
    : Schedule config.retryPolicy config.initialBackoffMs.toNat config.maxBackoffMs.toNat
        (delayMs config.initialBackoffMs.toNat config.maxBackoffMs.toNat) := by
  have hlongest := nanos_ofMillis_le config.maxBackoffMs
  have hatMost : ∀ n, delayMs config.initialBackoffMs.toNat config.maxBackoffMs.toNat n
      ≤ config.maxBackoffMs.toNat := fun _ => Nat.min_le_right ..
  constructor
  . exact backoff_ofMillis hlongest config.maxAttempts
  . intro n
    exact Nat.le_trans (Nat.mul_le_mul_right nanosPerMilli (hatMost n)) hlongest
  . exact toNat_shiftLeft_doublings
  . exact le_delayMs h
  . exact hatMost
  . exact fun n m => delayMs_mono
  . exact delayMs_succ_le
  . exact fun n => delayMs_eq_min
  . exact fun n => delayMs_eq_mul

namespace Config

theorem backoffMs_le_of_ofYaml {v : Yaml} {config : Config} (h : ofYaml v = .ok config)
    : config.observe.initialBackoffMs ≤ config.observe.maxBackoffMs := by
  rw [ofYaml_eq_readSection] at h
  unfold readSection at h
  split at h
  . obtain ⟨rfl, hfine⟩ := (checks_validate.eq_ok_iff _ _).1 h
    exact (fine_iff.1 hfine).2.2
  . contradiction

theorem exists_schedule {v : Yaml} {config : Config} (h : ofYaml v = .ok config)
    : ∃ delay, Schedule config.observe.retryPolicy config.observe.initialBackoffMs.toNat
        config.observe.maxBackoffMs.toNat delay := by
  exact ⟨_, ObserveConfig.schedule_retryPolicy (backoffMs_le_of_ofYaml h)⟩

def widestRange : Config where
  host := "gw"
  observe := { initialBackoffMs := 1, maxBackoffMs := 18446744073709551615 }

def widestRangeYaml : Yaml :=
  .map [(.str "host", .str "gw"), (.str "observe", .map [
    (.str "initial_backoff_ms", .int 1), (.str "max_backoff_ms", .int 18446744073709551615)])]

theorem backoff_forty_of_widestRange
    : ofYaml widestRangeYaml = .ok widestRange
        ∧ widestRange.observe.retryPolicy.backoff 40 = .ofMillis (2 ^ 31) := by
  have hwidest : ofYaml widestRangeYaml = .ok widestRange := rfl
  obtain ⟨delay, h⟩ := exists_schedule hwidest
  refine ⟨hwidest, ?_⟩
  rw [h.backoff]
  rw [h.stays 40 (by decide)]
  rfl

end Config

end HomeHub.Gateway
