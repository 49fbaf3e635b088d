import HomeHub.EntityId.Basic
import Mathlib.Order.Compare

/-!
The order of entity ids: by domain, and by object id within a domain. It is a total one.
-/

namespace HomeHub.EntityId

theorem compare_eq_compareLex
    : (compare : EntityId → EntityId → Ordering)
        =
      compareLex (compareOn domain) (compareOn objectId) := by
  rfl

instance : Std.TransOrd EntityId := by
  unfold Std.TransOrd
  rw [compare_eq_compareLex]
  infer_instance

theorem eq_of_compare {a b : EntityId} (h : compare a b = .eq) : a = b := by
  rw [compare_eq_compareLex] at h
  rw [compareLex_eq_eq] at h
  have hdomain : a.domain = b.domain := Std.LawfulEqCmp.eq_of_compare h.1
  have hobject : a.objectId = b.objectId := Std.LawfulEqCmp.eq_of_compare h.2
  cases a
  cases b
  cases hdomain
  cases hobject
  rfl

instance : Std.LawfulEqOrd EntityId where
  eq_of_compare := eq_of_compare

theorem compare_lt_of_isLE {a b : EntityId} (h : (compare a b).isLE = true) (hne : a ≠ b)
    : compare a b = .lt := by
  cases hcompare : compare a b with
  | lt => rfl
  | eq => exact absurd (eq_of_compare hcompare) hne
  | gt =>
    rw [hcompare] at h
    contradiction

theorem isLE_total (a b : EntityId)
    : ((compare a b).isLE || (compare b a).isLE) = true := by
  have hswap : compare b a = (compare a b).swap := Std.OrientedCmp.eq_swap
  rw [hswap]
  cases compare a b with
  | gt => rfl
  | _ => rfl

theorem not_compare_lt {a b : EntityId} (h : compare a b = .lt) : compare b a ≠ .lt := by
  have hswap : compare b a = (compare a b).swap := Std.OrientedCmp.eq_swap
  rw [hswap, h]
  decide

theorem nodup_of_ascending {ids : List EntityId} (h : ids.Pairwise (compare · · = .lt))
    : ids.Nodup := by
  apply h.imp
  intro a b hlt heq
  have hself : compare a a = .eq := Std.ReflCmp.compare_self
  rw [← heq, hself] at hlt
  contradiction

theorem eq_of_ascending {ids others : List EntityId} (h : ids.Pairwise (compare · · = .lt))
    (hothers : others.Pairwise (compare · · = .lt))
    (hmem : ∀ entityId, entityId ∈ ids ↔ entityId ∈ others)
    : ids = others := by
  have hperm : ids.Perm others :=
    (List.perm_ext_iff_of_nodup (nodup_of_ascending h) (nodup_of_ascending hothers)).2 hmem
  apply hperm.eq_of_pairwise _ h hothers
  intro a b _ _ hab hba
  exact absurd hba (not_compare_lt hab)

end HomeHub.EntityId
