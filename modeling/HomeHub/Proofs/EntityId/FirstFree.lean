import HomeHub.Proofs.EntityId.Grammar
import Mathlib.Data.Set.Card

/-!
Generated ids: the first candidate that is free, as long as fewer ids are taken than there are
suffixes. Where the domain is at fault, that is what is told, whatever the name.
-/

namespace HomeHub.EntityId

variable {domain : String} {isTaken : EntityId → Bool}

theorem exists_used (h : {id | isTaken id = true}.encard < (lastSuffix : ℕ))
    : ∃ used : Finset String, used.card < lastSuffix
        ∧ ∀ id, isTaken id = true → id.text ∈ used := by
  have hfinite : {id | isTaken id = true}.Finite := by
    rw [← Set.encard_lt_top_iff]
    exact lt_of_lt_of_le h le_top
  rw [hfinite.encard_eq_coe_toFinset_card, Nat.cast_lt] at h
  refine ⟨hfinite.toFinset.image text, lt_of_le_of_lt Finset.card_image_le h, ?_⟩
  intro id hid
  apply Finset.mem_image_of_mem
  simpa using hid

def domainError (domain : String) : Error :=
  if domain = "" then .emptyDomain else .invalidDomainChars

theorem ofParts_of_not_domainWord (h : ¬ Slug.DomainWord domain) {objectId : String}
    (hobject : domain ≠ "" → objectId ≠ "")
    : ofParts domain objectId = .error (domainError domain) := by
  have hjudged := judged_ofParts domain objectId
  unfold domainError
  cases hresult : ofParts domain objectId with
  | ok id =>
    rw [hresult] at hjudged
    cases hjudged with
    | accepted _ _ _ hd _ => exact absurd hd h
  | error e =>
    rw [hresult] at hjudged
    cases hjudged with
    | emptyDomain hd => rw [if_pos hd]
    | emptyObjectId hd ho => exact absurd ho (hobject hd)
    | invalidDomainChars hd _ _ => rw [if_neg hd]
    | invalidObjectIdChars hd _ _ => exact absurd hd h

theorem generate_of_not_domainWord (h : ¬ Slug.DomainWord domain) (name : String)
    : generate domain name isTaken = .error (domainError domain) := by
  have hbase : domain ≠ "" → baseFor domain name ≠ "" := by
    intro hne
    unfold baseFor
    dsimp only
    split
    . exact hne
    . assumption
  unfold generate
  dsimp only
  rw [ofParts_of_not_domainWord h hbase]
  rfl

theorem text_candidate (hdomain : IsDomain domain) (name : String) (n : Nat)
    : (candidate hdomain name n).text
        =
      domain ++ "." ++
        if n = 0 then baseFor domain name
        else baseFor domain name ++ "_" ++ toString (n + 1) := by
  cases n with
  | zero => rfl
  | succ n => rfl

theorem generate_first_free (domain name : String) (isTaken : EntityId → Bool)
    : let base := if Slug.ofName name = "" then domain else Slug.ofName name
      (Slug.DomainWord domain → {id | isTaken id = true}.encard < 2 ^ 31 - 1 →
        ∃ candidates : Nat → EntityId, Function.Injective candidates
          ∧ (∀ n, (candidates n).text
            = domain ++ "." ++ if n = 0 then base else base ++ "_" ++ toString (n + 1))
          ∧ ∃ n, n + 1 < 2 ^ 31 ∧ generate domain name isTaken = .ok (candidates n)
            ∧ isTaken (candidates n) = false ∧ ∀ k < n, isTaken (candidates k) = true)
      ∧ (¬ Slug.DomainWord domain →
        ∃ e, generate domain name isTaken = .error e
          ∧ (∀ objectId, Slug.Word objectId → ofParts domain objectId = .error e)
          ∧ (e = .emptyDomain ∨ e = .invalidDomainChars)) := by
  intro base
  constructor
  . intro hword hfew
    have hdomain := isDomain_iff.2 hword
    have hbound : {id | isTaken id = true}.encard < (lastSuffix : ℕ) := by
      exact_mod_cast hfew
    obtain ⟨used, hcard, hused⟩ := exists_used hbound
    obtain ⟨n, hn, hfree, htaken⟩ := exists_first_free hdomain name hcard hused
    refine ⟨candidate hdomain name, ?_, ?_, n, ?_, ?_, hfree, htaken⟩
    . intro m n h
      exact text_candidate_injective hdomain name (congrArg text h)
    . exact text_candidate hdomain name
    . unfold lastSuffix at hn
      omega
    . exact generate_of_first hdomain hn htaken hfree
  . intro hword
    refine ⟨domainError domain, generate_of_not_domainWord hword name, ?_, ?_⟩
    . intro objectId hobject
      exact ofParts_of_not_domainWord hword fun _ => hobject.ne
    . unfold domainError
      split
      . exact .inl rfl
      . exact .inr rfl

def twoTaken (id : EntityId) : Bool :=
  id.text == "light.desk" || id.text == "light.desk_2"

theorem generate_third_of_two_taken
    : Slug.DomainWord "light" ∧ {id | twoTaken id = true}.encard < 2 ^ 31 - 1
      ∧ ∃ id, generate "light" "Desk" twoTaken = .ok id ∧ id.text = "light.desk_3" := by
  have hword : Slug.DomainWord "light" := isDomain_iff.1 ⟨by decide, by decide, by decide⟩
  have hfew : {id | twoTaken id = true}.encard < 2 ^ 31 - 1 := by
    have hsub : text '' {id | twoTaken id = true} ⊆ {"light.desk", "light.desk_2"} := by
      rintro _ ⟨id, hid, rfl⟩
      simpa [twoTaken] using hid
    have hpair := Set.encard_le_encard hsub
    rw [Function.Injective.encard_image fun _ _ => text_injective] at hpair
    rw [Set.encard_pair (by decide)] at hpair
    exact lt_of_le_of_lt hpair (by exact_mod_cast (by decide : 2 < 2 ^ 31 - 1))
  obtain ⟨candidates, _, htext, n, _, hgenerate, hfree, htaken⟩ :=
    (generate_first_free "light" "Desk" twoTaken).1 hword hfew
  have hbase : Slug.ofName "Desk" = "desk" := by decide
  simp only [hbase] at htext
  have hthird : twoTaken (candidates 2) = false := by
    unfold twoTaken
    rw [htext 2]
    decide
  have hn : n = 2 := by
    match n with
    | 0 =>
      unfold twoTaken at hfree
      rw [htext 0] at hfree
      exact absurd hfree (by decide)
    | 1 =>
      unfold twoTaken at hfree
      rw [htext 1] at hfree
      exact absurd hfree (by decide)
    | 2 => rfl
    | n + 3 =>
      have := htaken 2 (by omega)
      rw [hthird] at this
      contradiction
  refine ⟨hword, hfew, candidates n, hgenerate, ?_⟩
  rw [hn, htext 2]
  decide

end HomeHub.EntityId
