import HomeHub.EntityId.Generate
import HomeHub.Proofs.EntityId.RoundTrip
import HomeHub.Proofs.Text.Slug
import Mathlib.Data.Finset.Card
import Mathlib.Data.Nat.Find

/-!
A generated id is the first of its candidates that is not taken. The candidates are valid and
pairwise different, so there is one as long as fewer ids are taken than there are candidates.
-/

namespace HomeHub.EntityId

variable {domain : String} {isTaken : EntityId → Bool} {id : EntityId}

theorem of_search {base : String} {left suffix : Nat}
    (h : generate.search domain isTaken base left suffix = .ok id)
    : id.domain = domain ∧ isTaken id = false := by
  induction left generalizing suffix with
  | zero => cases h
  | succ left ih =>
    unfold generate.search at h
    cases hparts : ofParts domain (base ++ "_" ++ toString suffix) with
    | error e =>
      rw [hparts] at h
      cases h
    | ok candidate =>
      rw [hparts] at h
      dsimp only [bind, Except.bind, pure, Except.pure] at h
      split at h
      . exact ih h
      . next hfree =>
        cases h
        exact ⟨(parts_of_ofParts hparts).1, by simpa using hfree⟩

theorem of_generate {name : String} (h : generate domain name isTaken = .ok id)
    : id.domain = domain ∧ isTaken id = false := by
  unfold generate at h
  dsimp only at h
  cases hparts : ofParts domain (baseFor domain name) with
  | error e =>
    rw [hparts] at h
    cases h
  | ok first =>
    rw [hparts] at h
    dsimp only [bind, Except.bind, pure, Except.pure] at h
    split at h
    . exact of_search h
    . next hfree =>
      cases h
      exact ⟨(parts_of_ofParts hparts).1, by simpa using hfree⟩

/-! ### Candidates -/

def objectIdAt (base : String) : Nat → String
  | 0 => base
  | n + 1 => base ++ "_" ++ toString (n + 2)

theorem toString_injective {m n : Nat} (h : toString m = toString n) : m = n := by
  rw [Nat.toString_eq_repr, Nat.toString_eq_repr, ← String.toList_inj, Nat.toList_repr,
    Nat.toList_repr] at h
  rw [← Nat.ofDigitChars_ten_toDigits (n := m)]
  rw [h]
  rw [Nat.ofDigitChars_ten_toDigits]

theorem objectIdAt_injective (base : String) : Function.Injective (objectIdAt base) := by
  have hne : ∀ n, base ≠ objectIdAt base (n + 1) := by
    intro n h
    have hlength := congrArg String.length h
    simp only [objectIdAt, String.length_append] at hlength
    have hone : "_".length = 1 := by rfl
    omega
  intro m n h
  match m, n with
  | 0, 0 => rfl
  | 0, n + 1 => exact absurd h (hne n)
  | m + 1, 0 => exact absurd h.symm (hne m)
  | m + 1, n + 1 =>
    have hnumber : toString (m + 2) = toString (n + 2) := by
      simpa only [objectIdAt, ← String.toList_inj, String.toList_append,
        List.append_cancel_left_eq] using h
    have := toString_injective hnumber
    omega

structure IsDomain (domain : String) : Prop where
  ne : domain ≠ ""
  single : Slug.hasDoubled domain.toList = false
  word : Slug.isWord domain = true

theorem isDomain_domain (id : EntityId) : IsDomain id.domain := by
  exact ⟨id.domain_ne, id.domain_single, id.domain_word⟩

theorem baseFor_ne (hdomain : IsDomain domain) (name : String) : baseFor domain name ≠ "" := by
  unfold baseFor
  dsimp only
  split
  . exact hdomain.ne
  . assumption

theorem isWord_baseFor (hdomain : IsDomain domain) (name : String)
    : Slug.isWord (baseFor domain name) = true := by
  unfold baseFor
  dsimp only
  split
  . exact hdomain.word
  . apply Slug.isWord_ofName

theorem objectIdAt_ne {base : String} (hne : base ≠ "") (n : Nat) : objectIdAt base n ≠ "" := by
  cases n with
  | zero => exact hne
  | succ n =>
    intro h
    have hlength := congrArg String.length h
    simp [objectIdAt, String.length_append] at hlength

theorem isWord_objectIdAt {base : String} (hword : Slug.isWord base = true) (hne : base ≠ "")
    (n : Nat)
    : Slug.isWord (objectIdAt base n) = true := by
  cases n with
  | zero => exact hword
  | succ n => exact Slug.isWord_append_number hword hne (n + 2)

def candidate (hdomain : IsDomain domain) (name : String) (n : Nat) : EntityId where
  domain := domain
  objectId := objectIdAt (baseFor domain name) n
  domain_ne := hdomain.ne
  objectId_ne := objectIdAt_ne (baseFor_ne hdomain name) n
  domain_word := hdomain.word
  domain_single := hdomain.single
  objectId_word := isWord_objectIdAt (isWord_baseFor hdomain name) (baseFor_ne hdomain name) n

theorem ofParts_candidate (hdomain : IsDomain domain) (name : String) (n : Nat)
    : ofParts domain (objectIdAt (baseFor domain name) n) = .ok (candidate hdomain name n) := by
  apply ofParts_domain_objectId (candidate hdomain name n)

theorem text_candidate_injective (hdomain : IsDomain domain) (name : String)
    : Function.Injective fun n => (candidate hdomain name n).text := by
  intro m n h
  apply objectIdAt_injective (baseFor domain name)
  have hsame := text_injective h
  exact congrArg EntityId.objectId hsame

theorem search_of_first (hdomain : IsDomain domain) {name : String} {left n m : Nat}
    (htaken : ∀ k < m, isTaken (candidate hdomain name (k + 1)) = true)
    (hfree : isTaken (candidate hdomain name (m + 1)) = false) (hn : n ≤ m) (hm : m < n + left)
    : generate.search domain isTaken (baseFor domain name) left (n + 2)
        =
      .ok (candidate hdomain name (m + 1)) := by
  induction left generalizing n with
  | zero => omega
  | succ left ih =>
    have hparts := ofParts_candidate hdomain name (n + 1)
    unfold objectIdAt at hparts
    unfold generate.search
    rw [hparts]
    dsimp only [bind, Except.bind, pure, Except.pure]
    by_cases hlast : n = m
    . subst hlast
      rw [if_neg (by simp [hfree])]
    . rw [if_pos (htaken n (by omega))]
      exact ih (by omega) (by omega)

theorem generate_of_first (hdomain : IsDomain domain) {name : String} {n : Nat}
    (hn : n < lastSuffix) (htaken : ∀ k < n, isTaken (candidate hdomain name k) = true)
    (hfree : isTaken (candidate hdomain name n) = false)
    : generate domain name isTaken = .ok (candidate hdomain name n) := by
  have hparts := ofParts_candidate hdomain name 0
  unfold objectIdAt at hparts
  unfold generate
  dsimp only
  rw [hparts]
  dsimp only [bind, Except.bind, pure, Except.pure]
  cases n with
  | zero => rw [if_neg (by simp [hfree])]
  | succ m =>
    rw [if_pos (htaken 0 (by omega))]
    apply search_of_first hdomain (n := 0) _ hfree
    . omega
    . omega
    . intro k hk
      exact htaken (k + 1) (by omega)

theorem exists_free_candidate (hdomain : IsDomain domain) (name : String) {used : Finset String}
    (hcard : used.card < lastSuffix)
    : ∃ n < lastSuffix, (candidate hdomain name n).text ∉ used := by
  have hlt : used.card
      < ((Finset.range lastSuffix).image fun n => (candidate hdomain name n).text).card := by
    rw [Finset.card_image_of_injective _ (text_candidate_injective hdomain name)]
    rw [Finset.card_range]
    exact hcard
  obtain ⟨text, htext, hfree⟩ := Finset.exists_mem_notMem_of_card_lt_card hlt
  obtain ⟨n, hn, rfl⟩ := Finset.mem_image.1 htext
  exact ⟨n, Finset.mem_range.1 hn, hfree⟩

theorem exists_first_free (hdomain : IsDomain domain) (name : String) {used : Finset String}
    (hcard : used.card < lastSuffix) (hused : ∀ id, isTaken id = true → id.text ∈ used)
    : ∃ n < lastSuffix, isTaken (candidate hdomain name n) = false
        ∧ ∀ k < n, isTaken (candidate hdomain name k) = true := by
  obtain ⟨m, hm, hunused⟩ := exists_free_candidate hdomain name hcard
  have hfree : isTaken (candidate hdomain name m) = false := by
    cases htaken : isTaken (candidate hdomain name m) with
    | false => rfl
    | true => exact absurd (hused _ htaken) hunused
  have hexists : ∃ n, isTaken (candidate hdomain name n) = false := ⟨m, hfree⟩
  refine ⟨Nat.find hexists, ?_, Nat.find_spec hexists, ?_⟩
  . exact Nat.lt_of_le_of_lt (Nat.find_min' hexists hfree) hm
  . intro k hk
    simpa using Nat.find_min hexists hk

theorem exists_generate (hdomain : IsDomain domain) (name : String) {used : Finset String}
    (hcard : used.card < lastSuffix) (hused : ∀ id, isTaken id = true → id.text ∈ used)
    : ∃ n, generate domain name isTaken = .ok (candidate hdomain name n) := by
  obtain ⟨n, hn, hfree, htaken⟩ := exists_first_free hdomain name hcard hused
  exact ⟨n, generate_of_first hdomain hn htaken hfree⟩

end HomeHub.EntityId
