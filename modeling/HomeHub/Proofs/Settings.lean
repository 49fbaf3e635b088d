import HomeHub.Proofs.Bridge.Config
import HomeHub.Proofs.Gateway.Config
import HomeHub.Settings

/-!
The sections of the configuration file, each told by the documents that are accepted for it.
-/

namespace HomeHub.Settings

theorem sectionSpec_gateway_bridge {v : Yaml} (hv : v.Plain)
    : SectionSpec gatewayKey Gateway.Config.ofYaml Gateway.Config.Acceptable Gateway.Config.Written
          Gateway.Config.Wrong v
        ∧
      SectionSpec bridgeKey Bridge.Config.ofYaml Bridge.Config.Acceptable Bridge.Config.Written
          Bridge.Config.Wrong v := by
  constructor
  . exact Gateway.Config.section_ofYaml hv
  . exact Bridge.Config.section_ofYaml hv

def initialBackoff (ms : Int) : Yaml :=
  .map [(.str "host", .str "gw"), (.str "observe", .map [(.str "initial_backoff_ms", .int ms)])]

theorem plain_initialBackoff (ms : Int) : (initialBackoff ms).Plain := by
  have hobserve : (Yaml.map [(.str "initial_backoff_ms", .int ms)]).Plain := by
    apply Yaml.Plain.map
    . simp [Yaml.Plain.str]
    . simp [Yaml.Plain.int]
    . simp
  apply Yaml.Plain.map
  . simp [Yaml.Plain.str]
  . simp [Yaml.Plain.str, hobserve]
  . simp

theorem acceptable_initialBackoff_bound
    : (initialBackoff 30000).Plain ∧ Gateway.Config.Acceptable (initialBackoff 30000)
        ∧ ¬ Bridge.Config.Acceptable (initialBackoff 30000)
        ∧ (initialBackoff 30001).Plain ∧ ¬ Gateway.Config.Acceptable (initialBackoff 30001) := by
  have hplain := plain_initialBackoff 30000
  have hplain' := plain_initialBackoff 30001
  refine ⟨hplain, ?_, ?_, hplain', ?_⟩
  . rw [← (sectionSpec_gateway_bridge hplain).1.accepted]
    exact ⟨_, rfl⟩
  . rw [← (sectionSpec_gateway_bridge hplain).2.accepted]
    rintro ⟨config, h⟩
    cases h
  . rw [← (sectionSpec_gateway_bridge hplain').1.accepted]
    rintro ⟨config, h⟩
    cases h

end HomeHub.Settings
