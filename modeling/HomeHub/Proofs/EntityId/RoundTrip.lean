import HomeHub.EntityId.Basic

/-!
Entity ids read back as they were written, so different ids have different texts.
-/

namespace HomeHub

namespace Slug

theorem isSlugChar_of_isWord {s : String} {c : Char} (h : isWord s = true) (hc : c ∈ s.toList)
    : isSlugChar c = true := by
  simp only [isWord, Bool.and_eq_true, List.all_eq_true] at h
  exact h.1.1 c hc

theorem dot_notMem_of_isWord {s : String} (h : isWord s = true) : '.' ∉ s.toList := by
  intro hc
  have := isSlugChar_of_isWord h hc
  exact absurd this (by decide)

end Slug

namespace EntityId

def ofLiteral (domain objectId : String)
    (h : domain ≠ "" ∧ objectId ≠ "" ∧ Slug.isWord domain = true
      ∧ Slug.hasDoubled domain.toList = false ∧ Slug.isWord objectId = true := by decide) :
    EntityId :=
  ⟨domain, objectId, h.1, h.2.1, h.2.2.1, h.2.2.2.1, h.2.2.2.2⟩

theorem ofParts_domain_objectId (id : EntityId) : ofParts id.domain id.objectId = .ok id := by
  unfold ofParts
  rw [dif_neg id.domain_ne]
  rw [dif_neg id.objectId_ne]
  rw [dif_pos ⟨id.domain_single, id.domain_word⟩]
  rw [dif_pos id.objectId_word]

theorem parts_of_ofParts {domain objectId : String} {id : EntityId}
    (h : ofParts domain objectId = .ok id)
    : id.domain = domain ∧ id.objectId = objectId := by
  unfold ofParts at h
  split at h
  . contradiction
  . split at h
    . contradiction
    . split at h
      . split at h
        . cases h
          exact ⟨rfl, rfl⟩
        . contradiction
      . contradiction

theorem parse_joined {domain objectId : String} (hdomain : '.' ∉ domain.toList)
    (hobject : '.' ∉ objectId.toList)
    : parse (domain ++ "." ++ objectId) = ofParts domain objectId := by
  have htext : (domain ++ "." ++ objectId).toList = domain.toList ++ '.' :: objectId.toList := by
    simp
  -- The dot between the parts is the first one, and the only one.
  have hne : ∀ c ∈ domain.toList, (c != '.') = true := by
    intro c hc
    rw [bne_iff_ne]
    intro h
    exact hdomain (h ▸ hc)
  unfold parse
  dsimp only
  rw [htext]
  rw [if_pos]
  . rw [List.takeWhile_append_of_pos hne]
    rw [List.dropWhile_append_of_pos hne]
    simp
  . rw [List.count_append]
    rw [List.count_eq_zero.2 hdomain]
    simp [List.count_eq_zero.2 hobject]

theorem parse_text (id : EntityId) : parse id.text = .ok id := by
  have hdomain := Slug.dot_notMem_of_isWord id.domain_word
  have hobject := Slug.dot_notMem_of_isWord id.objectId_word
  unfold text
  rw [parse_joined hdomain hobject]
  exact ofParts_domain_objectId id

theorem text_injective {a b : EntityId} (h : a.text = b.text) : a = b := by
  have ha := parse_text a
  rw [h, parse_text b] at ha
  cases ha
  rfl

@[simp]
theorem text_inj {a b : EntityId} : a.text = b.text ↔ a = b := by
  constructor
  . exact text_injective
  . intro h
    rw [h]

end EntityId

end HomeHub
