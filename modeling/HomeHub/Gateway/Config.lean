import HomeHub.Configuration
import HomeHub.Gateway.RetryPolicy
import HomeHub.Text.Blank

/-!
The configuration section of the gateway.
-/

namespace HomeHub.Gateway

structure ObserveConfig where
  initialBackoffMs : UInt64 := 500
  maxBackoffMs : UInt64 := 30000
  maxAttempts : UInt32 := 10
  deriving DecidableEq, Repr

def ObserveConfig.retryPolicy (config : ObserveConfig) : RetryPolicy where
  initialBackoff := .ofMillis config.initialBackoffMs.toNat
  maxBackoff := .ofMillis config.maxBackoffMs.toNat
  maxAttempts := config.maxAttempts

structure Config where
  host : String
  allowGroups : Bool := true
  observe : ObserveConfig := {}
  deriving DecidableEq, Repr

open Yaml.Decode in
def ObserveConfig.layout : Decoding.Layout Yaml ObserveConfig :=
  ObserveConfig.mk <$> .withDefault "initial_backoff_ms" 500 uint64
    <*> .withDefault "max_backoff_ms" 30000 uint64
    <*> .withDefault "max_attempts" 10 uint32

namespace Config

open Yaml.Decode in
def layout : Decoding.Layout Yaml Config :=
  Config.mk <$> .required "host" string
    <*> .withDefault "allow_tradfri_groups" true boolean
    <*> .withDefault "observe" {} (record "ObserveConfig" ObserveConfig.layout)

def validate (config : Config) : Except ConfigError Config :=
  if Text.isBlankText config.host then .error (.invalidValue "host" "must not be empty")
  else if config.observe.maxAttempts = 0 then
    .error (.invalidValue "observe.max_attempts" "must be at least 1")
  else if config.observe.maxBackoffMs < config.observe.initialBackoffMs then
    .error (.invalidValue "observe.initial_backoff_ms" "must not exceed observe.max_backoff_ms")
  else .ok config

def ofYaml (v : Yaml) : Except ConfigError Config := do
  match Yaml.Decode.record "TradfriConfig" layout v with
  | .ok config => config.validate
  | .error e => throw (.parse "tradfri" e)

end Config

end HomeHub.Gateway
