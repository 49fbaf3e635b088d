import HomeHub.Bridge.Config
import HomeHub.Proofs.Configuration
import HomeHub.Proofs.Table

/-!
The section of the bridge: which documents are accepted, and as which configuration.
-/

namespace HomeHub.Bridge

namespace EntityConfig

structure Written (v : Yaml) (config : EntityConfig) : Prop where
  record : v.IsRecord ["name"]
  name : v.Gives "name" (some none) (Yaml.IsOption fun x s => x = .str s) config.name

structure Acceptable (v : Yaml) : Prop where
  record : v.IsRecord ["name"]
  name : ∀ x, v.Given "name" x → x = .null ∨ ∃ s, x = .str s

open Yaml.Decode in
theorem reads_layout : Reads (Yaml.Decode.record "EntityConfig" layout) Written := by
  have htakes : Takes layout _ :=
    takes_map (takes_withDefault (reads_option reads_string) "name" none) EntityConfig.mk
  intro v hv config
  rw [reads_record htakes "EntityConfig" v hv]
  constructor
  . rintro ⟨hrecord, name, hname, rfl⟩
    exact ⟨hrecord, hname⟩
  . intro h
    exact ⟨h.record, _, h.name, rfl⟩

theorem exists_written_iff {v : Yaml} (hv : v.Plain)
    : (∃ config, Written v config) ↔ Acceptable v := by
  constructor
  . intro ⟨config, h⟩
    refine ⟨h.record, ?_⟩
    intro x hx
    exact Yaml.exists_isOption_iff.1 ⟨config.name, h.name.of_given hv hx⟩
  . intro h
    have hoption : ∀ x, v.Given "name" x → ∃ name, x.IsOption (fun x s => x = .str s) name :=
      fun x hx => Yaml.exists_isOption_iff.2 (h.name x hx)
    obtain ⟨name, hname⟩ := Yaml.exists_gives none hoption
    exact ⟨⟨name⟩, h.record, hname⟩

end EntityConfig

namespace Filter

def names : List String :=
  ["include_domains", "include_entities", "exclude_domains", "exclude_entities"]

structure Written (v : Yaml) (filter : Filter) : Prop where
  record : v.IsRecord names
  includeDomains : v.Gives "include_domains" (some []) (Yaml.IsList fun x s => x = .str s)
    filter.includeDomains
  includeEntities : v.Gives "include_entities" (some [])
    (Yaml.IsList fun x id => x = .str id.text) filter.includeEntities
  excludeDomains : v.Gives "exclude_domains" (some []) (Yaml.IsList fun x s => x = .str s)
    filter.excludeDomains
  excludeEntities : v.Gives "exclude_entities" (some [])
    (Yaml.IsList fun x id => x = .str id.text) filter.excludeEntities

structure Acceptable (v : Yaml) : Prop where
  record : v.IsRecord names
  domains : ∀ name ∈ ["include_domains", "exclude_domains"], ∀ x, v.Given name x →
    ∃ items, x.IsSequence items ∧ ∀ item ∈ items, ∃ s, item = .str s
  entities : ∀ name ∈ ["include_entities", "exclude_entities"], ∀ x, v.Given name x →
    ∃ items, x.IsSequence items ∧ ∀ item ∈ items, ∃ id : EntityId, item = .str id.text

open Yaml.Decode in
theorem reads_layout : Reads (Yaml.Decode.record "EntityFilter" layout) Written := by
  have hdomains := reads_list reads_string
  have hentities := reads_list reads_entityId
  have htakes : Takes layout _ := takes_seq (takes_seq (takes_seq (takes_map
    (takes_withDefault hdomains "include_domains" []) Filter.mk)
    (takes_withDefault hentities "include_entities" []))
    (takes_withDefault hdomains "exclude_domains" []))
    (takes_withDefault hentities "exclude_entities" [])
  intro v hv filter
  rw [reads_record htakes "EntityFilter" v hv]
  constructor
  . rintro ⟨hrecord, _, ⟨_, ⟨_, ⟨a, ha, rfl⟩, b, hb, rfl⟩, c, hc, rfl⟩, d, hd, rfl⟩
    exact ⟨hrecord, ha, hb, hc, hd⟩
  . intro h
    exact ⟨h.record, _, ⟨_, ⟨_, ⟨_, h.includeDomains, rfl⟩, _, h.includeEntities, rfl⟩,
      _, h.excludeDomains, rfl⟩, _, h.excludeEntities, rfl⟩

theorem exists_written_iff {v : Yaml} (hv : v.Plain)
    : (∃ filter, Written v filter) ↔ Acceptable v := by
  constructor
  . intro ⟨filter, h⟩
    refine ⟨h.record, ?_, ?_⟩
    . intro name hname x hx
      simp only [List.mem_cons, List.not_mem_nil, or_false] at hname
      rcases hname with rfl | rfl
      . exact Yaml.exists_isList_iff.1 ⟨_, h.includeDomains.of_given hv hx⟩
      . exact Yaml.exists_isList_iff.1 ⟨_, h.excludeDomains.of_given hv hx⟩
    . intro name hname x hx
      simp only [List.mem_cons, List.not_mem_nil, or_false] at hname
      rcases hname with rfl | rfl
      . exact Yaml.exists_isList_iff.1 ⟨_, h.includeEntities.of_given hv hx⟩
      . exact Yaml.exists_isList_iff.1 ⟨_, h.excludeEntities.of_given hv hx⟩
  . intro h
    have hdomains := fun name hname => Yaml.exists_gives [] fun x hx =>
      Yaml.exists_isList_iff.2 (h.domains name hname x hx)
    have hentities := fun name hname => Yaml.exists_gives [] fun x hx =>
      Yaml.exists_isList_iff.2 (h.entities name hname x hx)
    obtain ⟨a, ha⟩ := hdomains "include_domains" (by simp)
    obtain ⟨b, hb⟩ := hentities "include_entities" (by simp)
    obtain ⟨c, hc⟩ := hdomains "exclude_domains" (by simp)
    obtain ⟨d, hd⟩ := hentities "exclude_entities" (by simp)
    exact ⟨⟨a, b, c, d⟩, h.record, ha, hb, hc, hd⟩

end Filter

namespace Config

def names : List String :=
  ["port", "filter", "entity_config"]

def EntitiesWritten (v : Yaml) (entities : Table EntityId EntityConfig) : Prop :=
  v.IsEntries (fun key id => key = .str id.text) EntityConfig.Written entities.entries

structure Written (v : Yaml) (config : Config) : Prop where
  record : v.IsRecord names
  tcpPort : v.Gives "port" (some 51827) (fun x n => x = .int n.toNat) config.tcpPort
  filter : v.Gives "filter" (some {}) Filter.Written config.filter
  entities : v.Gives "entity_config" (some ∅) EntitiesWritten config.entities

inductive Wrong (config : Config) : String → String → Prop where
  | port (hzero : config.tcpPort = 0) : Wrong config "port" "must be between 1 and 65535"

structure Acceptable (v : Yaml) : Prop where
  record : v.IsRecord names
  tcpPort : ∀ x, v.Given "port" x → ∃ n : UInt16, x = .int n.toNat ∧ n ≠ 0
  filter : ∀ x, v.Given "filter" x → Filter.Acceptable x
  entities : ∀ x, v.Given "entity_config" x → ∃ entries, x.IsMapping entries
    ∧ ∀ entry ∈ entries, (∃ id : EntityId, entry.1 = .str id.text)
      ∧ EntityConfig.Acceptable entry.2

theorem entries_entitiesOf {l : List (EntityId × EntityConfig)} (h : (l.map Prod.fst).Nodup)
    : (entitiesOf l).entries = l := by
  have hkeys : ((∅ : Table EntityId EntityConfig).keys ++ l.map Prod.fst).Nodup := h
  calc (entitiesOf l).entries
    _ = [] ++ l.map id := Table.entries_foldl_insert id hkeys
    _ = l := by simp

open Yaml.Decode in
theorem reads_entities
    : Reads
        (fun v => (entries entityId (record "EntityConfig" EntityConfig.layout) v).map entitiesOf)
        EntitiesWritten := by
  intro v hv entities
  have hreads := reads_entries reads_entityId EntityConfig.reads_layout v hv
  simp only [map_eq_ok_iff, hreads]
  constructor
  . rintro ⟨l, hl, rfl⟩
    unfold EntitiesWritten
    rw [entries_entitiesOf (hl.nodup hv)]
    exact hl
  . intro h
    refine ⟨entities.entries, h, ?_⟩
    apply Table.ext
    exact entries_entitiesOf entities.distinct

open Yaml.Decode in
theorem reads_layout : Reads (Yaml.Decode.record "HomeKitConfig" layout) Written := by
  have htakes : Takes layout _ := takes_seq (takes_seq (takes_map
    (takes_withDefault reads_uint16 "port" defaultTcpPort) Config.mk)
    (takes_withDefault Filter.reads_layout "filter" {}))
    (takes_withDefault reads_entities "entity_config" ∅)
  intro v hv config
  rw [reads_record htakes "HomeKitConfig" v hv]
  constructor
  . rintro ⟨hrecord, _, ⟨_, ⟨tcpPort, htcpPort, rfl⟩, filter, hfilter, rfl⟩,
      entities, hentities, rfl⟩
    exact ⟨hrecord, htcpPort, hfilter, hentities⟩
  . intro h
    exact ⟨h.record, _, ⟨_, ⟨_, h.tcpPort, rfl⟩, _, h.filter, rfl⟩, _, h.entities, rfl⟩

theorem fine_iff {config : Config}
    : (∀ key reason, ¬ config.Wrong key reason) ↔ config.tcpPort ≠ 0 := by
  constructor
  . intro hfine hzero
    exact hfine _ _ (.port hzero)
  . intro hport key reason h
    cases h with
    | port hzero => exact hport hzero

theorem checks_validate : Checks validate Wrong := by
  constructor
  . intro config key reason h
    unfold validate
    cases h with
    | port hzero => rw [if_pos hzero]
  . intro config hfine
    unfold validate
    rw [if_neg (fine_iff.1 hfine)]

theorem entities_iff {v : Yaml} (hv : v.Plain)
    : (∃ entities, EntitiesWritten v entities)
        ↔
      ∃ entries, v.IsMapping entries ∧ ∀ entry ∈ entries,
        (∃ id : EntityId, entry.1 = .str id.text) ∧ EntityConfig.Acceptable entry.2 := by
  have hentries : (∃ entities, EntitiesWritten v entities)
      ↔ ∃ l, v.IsEntries (fun key id => key = .str (EntityId.text id)) EntityConfig.Written l := by
    constructor
    . intro ⟨entities, h⟩
      exact ⟨entities.entries, h⟩
    . intro ⟨l, hl⟩
      exact ⟨⟨l, hl.nodup hv⟩, hl⟩
  rw [hentries, Yaml.exists_isEntries_iff]
  constructor
  . intro ⟨entries, hmapping, h⟩
    refine ⟨entries, hmapping, ?_⟩
    intro entry hentry
    obtain ⟨hkey, hvalue⟩ := h entry hentry
    exact ⟨hkey, (EntityConfig.exists_written_iff ((hv.entries hmapping).values _ hentry)).1 hvalue⟩
  . intro ⟨entries, hmapping, h⟩
    refine ⟨entries, hmapping, ?_⟩
    intro entry hentry
    obtain ⟨hkey, hvalue⟩ := h entry hentry
    exact ⟨hkey, (EntityConfig.exists_written_iff ((hv.entries hmapping).values _ hentry)).2 hvalue⟩

theorem exists_written_iff {v : Yaml} (hv : v.Plain)
    : (∃ config, Written v config ∧ ∀ key reason, ¬ config.Wrong key reason) ↔ Acceptable v := by
  simp only [fine_iff]
  constructor
  . intro ⟨config, h, hport⟩
    refine ⟨h.record, ?_, ?_, ?_⟩
    . exact fun x hx => ⟨_, h.tcpPort.of_given hv hx, hport⟩
    . intro x hx
      rw [← Filter.exists_written_iff (hx.plain hv)]
      exact ⟨config.filter, h.filter.of_given hv hx⟩
    . intro x hx
      exact (entities_iff (hx.plain hv)).1 ⟨config.entities, h.entities.of_given hv hx⟩
  . intro h
    obtain ⟨tcpPort, htcpPort, hport⟩ :=
      Yaml.exists_gives_and defaultTcpPort (by decide) h.tcpPort
    obtain ⟨filter, hfilter⟩ := Yaml.exists_gives {} fun x hx =>
      (Filter.exists_written_iff (hx.plain hv)).2 (h.filter x hx)
    obtain ⟨entities, hentities⟩ := Yaml.exists_gives ∅ fun x hx =>
      (entities_iff (hx.plain hv)).2 (h.entities x hx)
    exact ⟨⟨tcpPort, filter, entities⟩, ⟨h.record, htcpPort, hfilter, hentities⟩, hport⟩

theorem ofYaml_eq_readSection
    : ofYaml = readSection "homekit" (Yaml.Decode.record "HomeKitConfig" layout) validate := by
  funext v
  unfold ofYaml readSection
  cases Yaml.Decode.record "HomeKitConfig" layout v with
  | error e => rfl
  | ok config => rfl

theorem section_ofYaml {v : Yaml} (hv : v.Plain)
    : SectionSpec "homekit" ofYaml Acceptable Written Wrong v := by
  rw [ofYaml_eq_readSection]
  exact section_readSection reads_layout checks_validate "homekit" hv (exists_written_iff hv)

end Config

end HomeHub.Bridge
