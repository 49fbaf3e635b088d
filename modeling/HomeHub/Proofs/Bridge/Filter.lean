import HomeHub.Bridge.Filter
import HomeHub.Proofs.EntityId.RoundTrip
import Mathlib.Tactic.Tauto

/-!
What an edit of a filter does: which entities are exposed after it that were not before, and which
are exposed no more. A filter counts by what its lists contain, not by how they are written.
-/

namespace HomeHub.Bridge.Filter

inductive Edit where
  | includeDomain (domain : String)
  | includeEntity (id : EntityId)
  | excludeDomain (domain : String)
  | excludeEntity (id : EntityId)

def edit (filter : Filter) : Edit → Filter
  | .includeDomain domain => { filter with includeDomains := filter.includeDomains ++ [domain] }
  | .includeEntity id => { filter with includeEntities := filter.includeEntities ++ [id] }
  | .excludeDomain domain => { filter with excludeDomains := filter.excludeDomains ++ [domain] }
  | .excludeEntity id => { filter with excludeEntities := filter.excludeEntities ++ [id] }

def Reveals (filter : Filter) (edit : Edit) (id : EntityId) : Prop :=
  filter.exposes id = false ∧ (filter.edit edit).exposes id = true

def Conceals (filter : Filter) (edit : Edit) (id : EntityId) : Prop :=
  filter.exposes id = true ∧ (filter.edit edit).exposes id = false

def Admits (filter : Filter) (domain : String) : Prop :=
  if filter.includeDomains = [] then
    (filter.includeEntities = [] ∨ filter.excludeDomains ≠ []) ∧ domain ∉ filter.excludeDomains
  else domain ∈ filter.includeDomains

structure Alike (filter other : Filter) : Prop where
  includeDomains (domain : String) : domain ∈ filter.includeDomains ↔ domain ∈ other.includeDomains
  includeEntities (id : EntityId) : id ∈ filter.includeEntities ↔ id ∈ other.includeEntities
  excludeDomains (domain : String) : domain ∈ filter.excludeDomains ↔ domain ∈ other.excludeDomains
  excludeEntities (id : EntityId) : id ∈ filter.excludeEntities ↔ id ∈ other.excludeEntities

variable (filter : Filter)

theorem exposes_iff (id : EntityId)
    : filter.exposes id = true
        ↔
      id ∈ filter.includeEntities
        ∨ id ∉ filter.excludeEntities ∧ filter.Admits id.domain := by
  unfold exposes Admits
  by_cases hinclude : id ∈ filter.includeEntities
  . simp [hinclude]
  . by_cases hexclude : id ∈ filter.excludeEntities
    . simp [hinclude, hexclude]
    . by_cases hdomains : filter.includeDomains = []
      . by_cases honly : filter.includeEntities ≠ [] ∧ filter.excludeDomains = []
        . simp [hdomains, honly]
        . have hsome : filter.includeEntities = [] ∨ filter.excludeDomains ≠ [] := by
            rw [not_and_or, not_not] at honly
            exact honly
          simp [hinclude, hexclude, hdomains, honly, hsome]
      . simp [hinclude, hexclude, hdomains]

/-! ### Verdicts after an edit -/

theorem exposes_excludeEntity_iff (e id : EntityId)
    : (filter.edit (.excludeEntity e)).exposes id = true
        ↔
      filter.exposes id = true ∧ (id = e → e ∈ filter.includeEntities) := by
  have hadmits : (filter.edit (.excludeEntity e)).Admits id.domain ↔ filter.Admits id.domain := by
    rfl
  rw [exposes_iff, exposes_iff, hadmits]
  simp only [edit, List.mem_append, List.mem_singleton]
  by_cases h : id = e
  . subst h
    tauto
  . simp [h]

theorem exposes_includeEntity_iff (e id : EntityId)
    : (filter.edit (.includeEntity e)).exposes id = true
        ↔
      id = e
        ∨ filter.exposes id = true
          ∧ ¬ (filter.includeEntities = [] ∧ filter.includeDomains = []
            ∧ filter.excludeDomains = []) := by
  rw [exposes_iff, exposes_iff]
  unfold Admits
  simp only [edit, List.mem_append, List.mem_singleton]
  by_cases hsame : id = e
  . simp [hsame]
  . by_cases hdomains : filter.includeDomains = []
    . by_cases hentities : filter.includeEntities = []
      . simp [hsame, hdomains, hentities]
        tauto
      . simp [hsame, hdomains, hentities]
    . simp [hsame, hdomains]

theorem exposes_includeDomain_iff (h : filter.includeDomains ≠ []) (d : String) (id : EntityId)
    : (filter.edit (.includeDomain d)).exposes id = true
        ↔
      filter.exposes id = true ∨ id.domain = d ∧ id ∉ filter.excludeEntities := by
  rw [exposes_iff, exposes_iff]
  unfold Admits
  simp only [edit, List.append_eq_nil_iff, h, false_and, if_false, List.mem_append,
    List.mem_singleton]
  tauto

theorem exposes_excludeDomain_iff (d : String) (id : EntityId)
    : (filter.edit (.excludeDomain d)).exposes id = true
        ↔
      (filter.exposes id = true
          ∨ filter.excludeDomains = [] ∧ filter.includeDomains = [] ∧ filter.includeEntities ≠ []
            ∧ id ∉ filter.excludeEntities)
        ∧ (id.domain = d → id ∈ filter.includeEntities ∨ filter.includeDomains ≠ []) := by
  rw [exposes_iff, exposes_iff]
  unfold Admits
  by_cases hdomains : filter.includeDomains = []
  . by_cases hexcluded : filter.excludeDomains = []
    . simp [edit, hdomains, hexcluded]
      tauto
    . simp [edit, hdomains, hexcluded]
      tauto
  . simp [edit, hdomains]

/-! ### What an edit changes -/

theorem not_reveals_excludeEntity (e id : EntityId) : ¬ filter.Reveals (.excludeEntity e) id := by
  unfold Reveals
  rw [← Bool.not_eq_true, exposes_excludeEntity_iff]
  tauto

theorem conceals_excludeEntity_iff (e id : EntityId)
    : filter.Conceals (.excludeEntity e) id
        ↔
      filter.exposes id = true ∧ id = e ∧ e ∉ filter.includeEntities := by
  unfold Conceals
  rw [← Bool.not_eq_true, exposes_excludeEntity_iff]
  tauto

theorem reveals_includeEntity_iff (e id : EntityId)
    : filter.Reveals (.includeEntity e) id ↔ filter.exposes id = false ∧ id = e := by
  unfold Reveals
  rw [← Bool.not_eq_true, exposes_includeEntity_iff]
  tauto

theorem conceals_includeEntity_iff (e id : EntityId)
    : filter.Conceals (.includeEntity e) id
        ↔
      filter.exposes id = true ∧ id ≠ e
        ∧ filter.includeEntities = [] ∧ filter.includeDomains = []
        ∧ filter.excludeDomains = [] := by
  unfold Conceals
  rw [← Bool.not_eq_true, exposes_includeEntity_iff]
  tauto

theorem not_conceals_includeDomain (h : filter.includeDomains ≠ []) (d : String) (id : EntityId)
    : ¬ filter.Conceals (.includeDomain d) id := by
  unfold Conceals
  rw [← Bool.not_eq_true, filter.exposes_includeDomain_iff h]
  tauto

theorem reveals_includeDomain_iff (h : filter.includeDomains ≠ []) (d : String) (id : EntityId)
    : filter.Reveals (.includeDomain d) id
        ↔
      filter.exposes id = false ∧ id.domain = d ∧ id ∉ filter.excludeEntities := by
  unfold Reveals
  rw [← Bool.not_eq_true, filter.exposes_includeDomain_iff h]
  tauto

theorem conceals_excludeDomain_iff (d : String) (id : EntityId)
    : filter.Conceals (.excludeDomain d) id
        ↔
      filter.exposes id = true ∧ id.domain = d ∧ id ∉ filter.includeEntities
        ∧ filter.includeDomains = [] := by
  unfold Conceals
  rw [← Bool.not_eq_true, exposes_excludeDomain_iff]
  tauto

theorem reveals_excludeDomain_iff (d : String) (id : EntityId)
    : filter.Reveals (.excludeDomain d) id
        ↔
      filter.exposes id = false ∧ id.domain ≠ d ∧ id ∉ filter.excludeEntities
        ∧ filter.excludeDomains = [] ∧ filter.includeDomains = []
        ∧ filter.includeEntities ≠ [] := by
  have hincluded := filter.exposes_iff id
  unfold Reveals
  rw [← Bool.not_eq_true, exposes_excludeDomain_iff]
  tauto

theorem eq_nil_iff_of_mem_iff {α : Type} {l other : List α} (h : ∀ a, a ∈ l ↔ a ∈ other)
    : l = [] ↔ other = [] := by
  simp only [List.eq_nil_iff_forall_not_mem, h]

theorem Alike.exposes_eq {filter other : Filter} (h : filter.Alike other) (id : EntityId)
    : filter.exposes id = other.exposes id := by
  rw [Bool.eq_iff_iff, exposes_iff, exposes_iff]
  unfold Admits
  rw [h.includeEntities, h.excludeEntities, h.includeDomains, h.excludeDomains]
  simp only [eq_nil_iff_of_mem_iff h.includeDomains, eq_nil_iff_of_mem_iff h.includeEntities, ne_eq,
    eq_nil_iff_of_mem_iff h.excludeDomains]

theorem reveals_conceals_edit_iff (filter : Filter) (e : EntityId) (d : String) (id : EntityId)
    : (¬ filter.Reveals (.excludeEntity e) id
        ∧ (filter.Conceals (.excludeEntity e) id
          ↔ filter.exposes id = true ∧ id = e ∧ e ∉ filter.includeEntities))
      ∧ ((filter.edit (.includeEntity e)).exposes e = true
        ∧ (filter.Reveals (.includeEntity e) id ↔ filter.exposes id = false ∧ id = e)
        ∧ (filter.Conceals (.includeEntity e) id
          ↔ filter.exposes id = true ∧ id ≠ e
            ∧ filter.includeEntities = [] ∧ filter.includeDomains = []
            ∧ filter.excludeDomains = []))
      ∧ (filter.includeDomains ≠ [] →
        ¬ filter.Conceals (.includeDomain d) id
        ∧ (filter.Reveals (.includeDomain d) id
          ↔ filter.exposes id = false ∧ id.domain = d ∧ id ∉ filter.excludeEntities))
      ∧ ((filter.Conceals (.excludeDomain d) id
          ↔ filter.exposes id = true ∧ id.domain = d ∧ id ∉ filter.includeEntities
            ∧ filter.includeDomains = [])
        ∧ (filter.Reveals (.excludeDomain d) id
          ↔ filter.exposes id = false ∧ id.domain ≠ d ∧ id ∉ filter.excludeEntities
            ∧ filter.excludeDomains = [] ∧ filter.includeDomains = []
            ∧ filter.includeEntities ≠ []))
      ∧ ∀ other, filter.Alike other → filter.exposes id = other.exposes id := by
  refine ⟨⟨?_, ?_⟩, ⟨?_, ?_, ?_⟩, ?_, ⟨?_, ?_⟩, ?_⟩
  . exact filter.not_reveals_excludeEntity e id
  . exact filter.conceals_excludeEntity_iff e id
  . rw [exposes_includeEntity_iff]
    exact .inl rfl
  . exact filter.reveals_includeEntity_iff e id
  . exact filter.conceals_includeEntity_iff e id
  . intro h
    exact ⟨filter.not_conceals_includeDomain h d id, filter.reveals_includeDomain_iff h d id⟩
  . exact filter.conceals_excludeDomain_iff d id
  . exact filter.reveals_excludeDomain_iff d id
  . intro other h
    exact h.exposes_eq id

def door : EntityId :=
  .ofLiteral "lock" "door"

def fan : EntityId :=
  .ofLiteral "fan" "fan"

theorem reveals_by_excluding_other_domain
    : Reveals { includeEntities := [door] } (.excludeDomain "lock") fan
        ∧ ¬ Conceals { includeDomains := ["lock"] } (.includeDomain "fan") door := by
  obtain ⟨_, _, _, ⟨_, hreveals⟩, _⟩ :=
    reveals_conceals_edit_iff { includeEntities := [door] } door "lock" fan
  obtain ⟨_, _, hincluded, _⟩ :=
    reveals_conceals_edit_iff { includeDomains := ["lock"] } door "fan" door
  constructor
  . rw [hreveals]
    decide
  . exact (hincluded (by decide)).1

end HomeHub.Bridge.Filter
