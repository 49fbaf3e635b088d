import HomeHub.Yaml.Tag

/-!
The tokens of a YAML text.
-/

namespace HomeHub.Yaml

inductive Token where
  | versionDirective (major minor : Nat)
  | tagDirective (handle : String) (replacement : Spelling)
  | documentStart
  | documentEnd
  | blockSequenceStart
  | blockMappingStart
  | blockEnd
  | flowSequenceStart
  | flowSequenceEnd
  | flowMappingStart
  | flowMappingEnd
  | blockEntry
  | flowEntry
  | key
  | value
  | alias (name : String)
  | anchor (name : String)
  | tag (handle : String) (suffix : Spelling)
  | scalar (text : String) (plain : Bool)
  deriving DecidableEq, Repr, Inhabited

end HomeHub.Yaml
