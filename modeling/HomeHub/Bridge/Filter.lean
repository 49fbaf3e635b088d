import HomeHub.EntityId.Basic

/-!
Which entities a bridge exposes.
-/

namespace HomeHub.Bridge

structure Filter where
  includeDomains : List String := []
  includeEntities : List EntityId := []
  excludeDomains : List String := []
  excludeEntities : List EntityId := []
  deriving DecidableEq

def Filter.exposes (filter : Filter) (id : EntityId) : Bool :=
  -- Rules for entities win over rules for domains, and inclusion wins over exclusion.
  if id ∈ filter.includeEntities then true
  else if id ∈ filter.excludeEntities then false
  else if filter.includeDomains ≠ [] then id.domain ∈ filter.includeDomains
  -- Where only entities are included nothing else is exposed.
  else if filter.includeEntities ≠ [] ∧ filter.excludeDomains = [] then false
  else id.domain ∉ filter.excludeDomains

end HomeHub.Bridge
