import HomeHub.Bridge.Filter
import HomeHub.Configuration
import HomeHub.Table

/-!
The configuration section of the bridge.
-/

namespace HomeHub.Bridge

structure EntityConfig where
  name : Option String := none
  deriving DecidableEq, Repr

def defaultTcpPort : UInt16 := 51827

structure Config where
  tcpPort : UInt16 := defaultTcpPort
  filter : Filter := {}
  entities : Table EntityId EntityConfig := ∅

open Yaml.Decode in
def EntityConfig.layout : Decoding.Layout Yaml EntityConfig :=
  EntityConfig.mk <$> .withDefault "name" none (option string)

open Yaml.Decode in
def Filter.layout : Decoding.Layout Yaml Filter :=
  Filter.mk <$> .withDefault "include_domains" [] (list string)
    <*> .withDefault "include_entities" [] (list entityId)
    <*> .withDefault "exclude_domains" [] (list string)
    <*> .withDefault "exclude_entities" [] (list entityId)

namespace Config

def entitiesOf (entries : List (EntityId × EntityConfig)) : Table EntityId EntityConfig :=
  entries.foldl (fun table (id, config) => table.insert id config) ∅

open Yaml.Decode in
def layout : Decoding.Layout Yaml Config :=
  Config.mk <$> .withDefault "port" defaultTcpPort uint16
    <*> .withDefault "filter" {} (record "EntityFilter" Filter.layout)
    <*> .withDefault "entity_config" ∅ fun v =>
      (entries entityId (record "EntityConfig" EntityConfig.layout) v).map entitiesOf

def validate (config : Config) : Except ConfigError Config :=
  if config.tcpPort = 0 then .error (.invalidValue "port" "must be between 1 and 65535")
  else .ok config

def ofYaml (v : Yaml) : Except ConfigError Config := do
  match Yaml.Decode.record "HomeKitConfig" layout v with
  | .ok config => config.validate
  | .error e => throw (.parse "homekit" e)

def name? (config : Config) (id : EntityId) : Option String :=
  (config.entities.find? id).bind (·.name)

end Config

end HomeHub.Bridge
