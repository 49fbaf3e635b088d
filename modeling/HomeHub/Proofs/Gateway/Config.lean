import HomeHub.Gateway.Config
import HomeHub.Proofs.Configuration

/-!
The section of the gateway: which documents are accepted, and as which configuration.
-/

namespace HomeHub.Gateway

namespace ObserveConfig

def names : List String :=
  ["initial_backoff_ms", "max_backoff_ms", "max_attempts"]

structure Written (v : Yaml) (config : ObserveConfig) : Prop where
  record : v.IsRecord names
  initialBackoffMs : v.Gives "initial_backoff_ms" (some 500) (fun x n => x = .int n.toNat)
    config.initialBackoffMs
  maxBackoffMs : v.Gives "max_backoff_ms" (some 30000) (fun x n => x = .int n.toNat)
    config.maxBackoffMs
  maxAttempts : v.Gives "max_attempts" (some 10) (fun x n => x = .int n.toNat) config.maxAttempts

/-- Whatever is left out counts as well, for a backoff that is written may not suit a default. -/
structure Acceptable (v : Yaml) : Prop where
  record : v.IsRecord names
  initialBackoffMs : ∀ x, v.Given "initial_backoff_ms" x → ∃ n : UInt64, x = .int n.toNat
  maxBackoffMs : ∀ x, v.Given "max_backoff_ms" x → ∃ n : UInt64, x = .int n.toNat
  maxAttempts : ∀ x, v.Given "max_attempts" x → ∃ n : UInt32, x = .int n.toNat ∧ n ≠ 0
  backoff : ∀ initial longest : UInt64,
    v.Gives "initial_backoff_ms" (some 500) (fun x n => x = .int n.toNat) initial →
    v.Gives "max_backoff_ms" (some 30000) (fun x n => x = .int n.toNat) longest →
    initial ≤ longest

open Yaml.Decode in
theorem reads_layout : Reads (Yaml.Decode.record "ObserveConfig" layout) Written := by
  have htakes : Takes layout _ := takes_seq (takes_seq (takes_map
    (takes_withDefault reads_uint64 "initial_backoff_ms" 500) ObserveConfig.mk)
    (takes_withDefault reads_uint64 "max_backoff_ms" 30000))
    (takes_withDefault reads_uint32 "max_attempts" 10)
  intro v hv config
  rw [reads_record htakes "ObserveConfig" v hv]
  constructor
  . rintro ⟨hrecord, _, ⟨_, ⟨initial, hinitial, rfl⟩, longest, hlongest, rfl⟩,
      attempts, hattempts, rfl⟩
    exact ⟨hrecord, hinitial, hlongest, hattempts⟩
  . intro h
    exact ⟨h.record, _, ⟨_, ⟨_, h.initialBackoffMs, rfl⟩, _, h.maxBackoffMs, rfl⟩,
      _, h.maxAttempts, rfl⟩

theorem exists_written_iff {v : Yaml} (hv : v.Plain)
    : (∃ config, Written v config
          ∧ config.maxAttempts ≠ 0 ∧ config.initialBackoffMs ≤ config.maxBackoffMs)
        ↔
      Acceptable v := by
  have hunique : ∀ {n m : UInt64} (x : Yaml), x = .int n.toNat → x = .int m.toNat → n = m := by
    intro n m x hn hm
    rw [hn, Yaml.int.injEq, Int.natCast_inj] at hm
    exact UInt64.toNat_inj.1 hm
  constructor
  . intro ⟨config, h, hsome, hbackoff⟩
    refine ⟨h.record, ?_, ?_, ?_, ?_⟩
    . exact fun x hx => ⟨_, h.initialBackoffMs.of_given hv hx⟩
    . exact fun x hx => ⟨_, h.maxBackoffMs.of_given hv hx⟩
    . exact fun x hx => ⟨_, h.maxAttempts.of_given hv hx, hsome⟩
    . intro initial longest hinitial hlongest
      rw [hinitial.unique hv hunique h.initialBackoffMs]
      rw [hlongest.unique hv hunique h.maxBackoffMs]
      exact hbackoff
  . intro h
    obtain ⟨initial, hinitial⟩ := Yaml.exists_gives 500 h.initialBackoffMs
    obtain ⟨longest, hlongest⟩ := Yaml.exists_gives 30000 h.maxBackoffMs
    obtain ⟨attempts, hattempts, hsome⟩ := Yaml.exists_gives_and 10 (by decide) h.maxAttempts
    exact ⟨⟨initial, longest, attempts⟩, ⟨h.record, hinitial, hlongest, hattempts⟩, hsome,
      h.backoff initial longest hinitial hlongest⟩

end ObserveConfig

namespace Config

def names : List String :=
  ["host", "allow_tradfri_groups", "observe"]

structure Written (v : Yaml) (config : Config) : Prop where
  record : v.IsRecord names
  host : v.Gives "host" none (fun x s => x = .str s) config.host
  allowGroups : v.Gives "allow_tradfri_groups" (some true) (fun x b => x = .bool b)
    config.allowGroups
  observe : v.Gives "observe" (some {}) ObserveConfig.Written config.observe

inductive Wrong (config : Config) : String → String → Prop where
  | host (hblank : Text.isBlankText config.host = true) : Wrong config "host" "must not be empty"
  | maxAttempts (hhost : Text.isBlankText config.host = false)
    (hnone : config.observe.maxAttempts = 0) :
    Wrong config "observe.max_attempts" "must be at least 1"
  | backoff (hhost : Text.isBlankText config.host = false)
    (hsome : config.observe.maxAttempts ≠ 0)
    (hlonger : config.observe.maxBackoffMs < config.observe.initialBackoffMs) :
    Wrong config "observe.initial_backoff_ms" "must not exceed observe.max_backoff_ms"

structure Acceptable (v : Yaml) : Prop where
  record : v.IsRecord names
  host : ∃ s, v.Given "host" (.str s) ∧ Text.isBlankText s = false
  allowGroups : ∀ x, v.Given "allow_tradfri_groups" x → ∃ b, x = .bool b
  observe : ∀ x, v.Given "observe" x → ObserveConfig.Acceptable x

open Yaml.Decode in
theorem reads_layout : Reads (Yaml.Decode.record "TradfriConfig" layout) Written := by
  have htakes : Takes layout _ := takes_seq (takes_seq (takes_map
    (takes_required reads_string "host") Config.mk)
    (takes_withDefault reads_boolean "allow_tradfri_groups" true))
    (takes_withDefault ObserveConfig.reads_layout "observe" {})
  intro v hv config
  rw [reads_record htakes "TradfriConfig" v hv]
  constructor
  . rintro ⟨hrecord, _, ⟨_, ⟨host, hhost, rfl⟩, groups, hgroups, rfl⟩, observe, hobserve, rfl⟩
    exact ⟨hrecord, hhost, hgroups, hobserve⟩
  . intro h
    exact ⟨h.record, _, ⟨_, ⟨_, h.host, rfl⟩, _, h.allowGroups, rfl⟩, _, h.observe, rfl⟩

theorem fine_iff {config : Config}
    : (∀ key reason, ¬ config.Wrong key reason)
        ↔
      Text.isBlankText config.host = false ∧ config.observe.maxAttempts ≠ 0
        ∧ config.observe.initialBackoffMs ≤ config.observe.maxBackoffMs := by
  constructor
  . intro hfine
    have hhost : Text.isBlankText config.host = false := by
      rw [← Bool.not_eq_true]
      exact fun hblank => hfine _ _ (.host hblank)
    have hsome : config.observe.maxAttempts ≠ 0 := fun hnone => hfine _ _ (.maxAttempts hhost hnone)
    refine ⟨hhost, hsome, ?_⟩
    rw [← UInt64.not_lt]
    exact fun hlonger => hfine _ _ (.backoff hhost hsome hlonger)
  . rintro ⟨hhost, hsome, hbackoff⟩ key reason h
    cases h with
    | host hblank => simp [hhost] at hblank
    | maxAttempts _ hnone => exact hsome hnone
    | backoff _ _ hlonger => exact UInt64.not_lt.2 hbackoff hlonger

theorem checks_validate : Checks validate Wrong := by
  constructor
  . intro config key reason h
    unfold validate
    cases h with
    | host hblank => rw [if_pos hblank]
    | maxAttempts hhost hnone => rw [if_neg (by simp [hhost]), if_pos hnone]
    | backoff hhost hsome hlonger => rw [if_neg (by simp [hhost]), if_neg hsome, if_pos hlonger]
  . intro config hfine
    obtain ⟨hhost, hsome, hbackoff⟩ := fine_iff.1 hfine
    unfold validate
    rw [if_neg (by simp [hhost]), if_neg hsome, if_neg (UInt64.not_lt.2 hbackoff)]

theorem exists_written_iff {v : Yaml} (hv : v.Plain)
    : (∃ config, Written v config ∧ ∀ key reason, ¬ config.Wrong key reason) ↔ Acceptable v := by
  simp only [fine_iff]
  constructor
  . intro ⟨config, h, hhost, hsome, hbackoff⟩
    refine ⟨h.record, ?_, ?_, ?_⟩
    . rcases h.host with ⟨x, hx, rfl⟩ | ⟨_, hdefault⟩
      . exact ⟨config.host, hx, hhost⟩
      . contradiction
    . exact fun x hx => ⟨_, h.allowGroups.of_given hv hx⟩
    . intro x hx
      rw [← ObserveConfig.exists_written_iff (hx.plain hv)]
      exact ⟨config.observe, h.observe.of_given hv hx, hsome, hbackoff⟩
  . intro h
    obtain ⟨host, hhost, hnotBlank⟩ := h.host
    obtain ⟨groups, hgroups⟩ := Yaml.exists_gives true h.allowGroups
    have hwritten : ∀ x, v.Given "observe" x → ∃ config, ObserveConfig.Written x config
        ∧ config.maxAttempts ≠ 0 ∧ config.initialBackoffMs ≤ config.maxBackoffMs := by
      intro x hx
      exact (ObserveConfig.exists_written_iff (hx.plain hv)).2 (h.observe x hx)
    obtain ⟨observe, hobserve, hfine⟩ := Yaml.exists_gives_and {} (by decide) hwritten
    exact ⟨⟨host, groups, observe⟩, ⟨h.record, .inl ⟨_, hhost, rfl⟩, hgroups, hobserve⟩,
      hnotBlank, hfine⟩

theorem ofYaml_eq_readSection
    : ofYaml = readSection "tradfri" (Yaml.Decode.record "TradfriConfig" layout) validate := by
  funext v
  unfold ofYaml readSection
  cases Yaml.Decode.record "TradfriConfig" layout v with
  | error e => rfl
  | ok config => rfl

theorem section_ofYaml {v : Yaml} (hv : v.Plain)
    : SectionSpec "tradfri" ofYaml Acceptable Written Wrong v := by
  rw [ofYaml_eq_readSection]
  exact section_readSection reads_layout checks_validate "tradfri" hv (exists_written_iff hv)

end Config

end HomeHub.Gateway
