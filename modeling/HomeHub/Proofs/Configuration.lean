import HomeHub.Configuration
import HomeHub.Proofs.Yaml.Decode

/-!
Sections of the configuration. A section is read first and checked afterwards, so it is told by what
is written there, and by what is wrong with that.
-/

namespace HomeHub

open Yaml (Decoder)
open Yaml.Decode (Reads)

variable {α : Type} {decode : Decoder α} {validate : α → Except ConfigError α}
  {written : Yaml → α → Prop} {wrong : α → String → String → Prop}

structure Checks (validate : α → Except ConfigError α) (wrong : α → String → String → Prop) :
    Prop where
  of_wrong : ∀ {a key reason}, wrong a key reason → validate a = .error (.invalidValue key reason)
  of_fine : ∀ {a}, (∀ key reason, ¬ wrong a key reason) → validate a = .ok a

/--
A section is accepted if and only if it is of a form, and then as what is written there. Where
nothing can be written in that way it is not parsed, and else the value is named that is wrong.
-/
structure SectionSpec (domain : String) (ofYaml : Yaml → Except ConfigError α) (form : Yaml → Prop)
    (written : Yaml → α → Prop) (wrong : α → String → String → Prop) (v : Yaml) : Prop where
  accepted : (∃ a, ofYaml v = .ok a) ↔ form v
  fields : ∀ a, ofYaml v = .ok a → written v a
  unparsed : (∃ e, ofYaml v = .error (.parse domain e)) ↔ ∀ a, ¬ written v a
  invalid : ∀ key reason,
    ofYaml v = .error (.invalidValue key reason) ↔ ∃ a, written v a ∧ wrong a key reason

def readSection (domain : String) (decode : Decoder α) (validate : α → Except ConfigError α)
    (v : Yaml) : Except ConfigError α :=
  match decode v with
  | .ok a => validate a
  | .error e => .error (.parse domain e)

namespace Checks

theorem cases (h : Checks validate wrong) (a : α)
    : (∀ key reason, ¬ wrong a key reason) ∧ validate a = .ok a
        ∨ ∃ key reason, wrong a key reason ∧ validate a = .error (.invalidValue key reason) := by
  by_cases hwrong : ∃ key reason, wrong a key reason
  . obtain ⟨key, reason, hwrong⟩ := hwrong
    exact .inr ⟨key, reason, hwrong, h.of_wrong hwrong⟩
  . have hfine : ∀ key reason, ¬ wrong a key reason := by
      intro key reason h
      exact hwrong ⟨key, reason, h⟩
    exact .inl ⟨hfine, h.of_fine hfine⟩

theorem eq_ok_iff (h : Checks validate wrong) (a b : α)
    : validate a = .ok b ↔ a = b ∧ ∀ key reason, ¬ wrong a key reason := by
  rcases h.cases a with ⟨hfine, hvalidate⟩ | ⟨key, reason, hwrong, hvalidate⟩
  . simp [hvalidate, hfine]
  . simp only [hvalidate, reduceCtorEq, false_iff, not_and]
    intro _ hfine
    exact hfine key reason hwrong

theorem eq_invalidValue_iff (h : Checks validate wrong) (a : α) (key reason : String)
    : validate a = .error (.invalidValue key reason) ↔ wrong a key reason := by
  refine ⟨?_, h.of_wrong⟩
  rcases h.cases a with ⟨hfine, hvalidate⟩ | ⟨key', reason', hwrong, hvalidate⟩
  . simp [hvalidate]
  . rw [hvalidate]
    intro hsame
    cases hsame
    exact hwrong

theorem ne_parse (h : Checks validate wrong) (a : α) (domain : String) (e : Decoding.Error)
    : validate a ≠ .error (.parse domain e) := by
  rcases h.cases a with ⟨_, hvalidate⟩ | ⟨_, _, _, hvalidate⟩
  . simp [hvalidate]
  . simp [hvalidate]

end Checks

theorem readSection_eq_ok_iff (hreads : Reads decode written) (hchecks : Checks validate wrong)
    (domain : String) {v : Yaml} (hv : v.Plain) (a : α)
    : readSection domain decode validate v = .ok a
        ↔
      written v a ∧ ∀ key reason, ¬ wrong a key reason := by
  unfold readSection
  rw [← hreads v hv]
  cases decode v with
  | error e => simp
  | ok b =>
    dsimp only
    rw [hchecks.eq_ok_iff, Except.ok.injEq]
    constructor
    . rintro ⟨rfl, h⟩
      exact ⟨rfl, h⟩
    . rintro ⟨rfl, h⟩
      exact ⟨rfl, h⟩

theorem section_readSection (hreads : Reads decode written) (hchecks : Checks validate wrong)
    {form : Yaml → Prop} (domain : String) {v : Yaml} (hv : v.Plain)
    (hform : (∃ a, written v a ∧ ∀ key reason, ¬ wrong a key reason) ↔ form v)
    : SectionSpec domain (readSection domain decode validate) form written wrong v := by
  constructor
  . simp only [readSection_eq_ok_iff hreads hchecks domain hv]
    exact hform
  . intro a h
    exact ((readSection_eq_ok_iff hreads hchecks domain hv a).1 h).1
  . simp only [readSection, ← hreads v hv]
    cases decode v with
    | error e => simp
    | ok a => simp [hchecks.ne_parse a domain]
  . intro key reason
    simp only [readSection, ← hreads v hv]
    cases decode v with
    | error e => simp
    | ok a => simp [hchecks.eq_invalidValue_iff]

end HomeHub
