import Mathlib.Data.List.DropRight

/-!
Streaks: elements in a row that all satisfy a predicate, at the end of a list or anywhere in it.
-/

namespace HomeHub.Gateway

variable {α : Type} (p : α → Bool)

def streak (l : List α) : Nat :=
  (l.rtakeWhile p).length

def HasStreak (n : Nat) (l : List α) : Prop :=
  ∃ part, part <:+: l ∧ part.length = n ∧ ∀ a ∈ part, p a = true

theorem streak_concat (l : List α) (a : α)
    : streak p (l ++ [a]) = if p a then streak p l + 1 else 0 := by
  unfold streak
  rw [List.rtakeWhile_concat]
  split
  . simp
  . rfl

theorem length_le_streak {part l : List α} (hsuffix : part <:+ l) (h : ∀ a ∈ part, p a = true)
    : part.length ≤ streak p l := by
  obtain ⟨before, rfl⟩ := hsuffix
  unfold streak List.rtakeWhile
  rw [List.reverse_append]
  rw [List.takeWhile_append_of_pos (by simpa using h)]
  simp

theorem hasStreak_of_le_streak {n : Nat} {l : List α} (h : n ≤ streak p l) : HasStreak p n l := by
  unfold streak at h
  have hdrop := List.drop_suffix ((l.rtakeWhile p).length - n) (l.rtakeWhile p)
  refine ⟨_, (hdrop.trans (List.rtakeWhile_suffix p l)).isInfix, ?_, ?_⟩
  . rw [List.length_drop]
    omega
  . intro a ha
    exact List.mem_rtakeWhile_imp (List.mem_of_mem_drop ha)

theorem hasStreak_append {n : Nat} {l : List α} (h : HasStreak p n l) (more : List α)
    : HasStreak p n (l ++ more) := by
  obtain ⟨part, hpart, hlength, hp⟩ := h
  exact ⟨part, hpart.trans (List.prefix_append l more).isInfix, hlength, hp⟩

theorem hasStreak_concat {n : Nat} {l : List α} {a : α}
    : HasStreak p n (l ++ [a]) ↔ HasStreak p n l ∨ n ≤ streak p (l ++ [a]) := by
  constructor
  . intro ⟨part, hpart, hlength, hp⟩
    rw [List.infix_concat_iff] at hpart
    cases hpart with
    -- A part that reaches the end belongs to the streak there.
    | inl hsuffix =>
      right
      rw [← hlength]
      exact length_le_streak p hsuffix hp
    | inr hinfix => exact .inl ⟨part, hinfix, hlength, hp⟩
  . intro h
    cases h with
    | inl h => exact hasStreak_append p h [a]
    | inr h => exact hasStreak_of_le_streak p h

end HomeHub.Gateway
