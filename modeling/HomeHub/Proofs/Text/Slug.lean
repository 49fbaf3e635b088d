import HomeHub.Text.Slug

/-!
The slug of a name is a word, and stays one with a number behind it.
-/

namespace HomeHub.Slug

theorem toLower_of_isAlphanum {c : Char} (h : c.isAlphanum = true)
    : c.toLower.isLower = true ∨ c.toLower.isDigit = true := by
  have hcases : (c.isUpper || c.isLower || c.isDigit) = true := h
  rw [Bool.or_eq_true, Bool.or_eq_true] at hcases
  unfold Char.toLower
  split
  . next hupper =>
    left
    have hA : 'A'.val.toNat = 65 := rfl
    have hZ : 'Z'.val.toNat = 90 := rfl
    have ha : 'a'.val.toNat = 97 := rfl
    have hz : 'z'.val.toNat = 122 := rfl
    have hgap : ('a'.val - 'A'.val).toNat = 32 := rfl
    simp only [UInt32.le_iff_toNat_le, ge_iff_le] at hupper
    change (decide ('a'.val ≤ c.val + _) && decide (c.val + _ ≤ 'z'.val)) = true
    simp only [Bool.and_eq_true, decide_eq_true_eq, UInt32.le_iff_toNat_le, UInt32.toNat_add]
    omega
  . next hupper =>
    rcases hcases with (hcase | hcase) | hcase
    . exact absurd (of_decide_eq_true hcase) hupper
    . exact .inl hcase
    . exact .inr hcase

theorem isSlugChar_toLower {c : Char} (h : c.isAlphanum = true) : isSlugChar c.toLower = true := by
  unfold isSlugChar
  cases toLower_of_isAlphanum h with
  | inl hlower => simp [hlower]
  | inr hdigit => simp [hdigit]

theorem toLower_ne_underscore {c : Char} (h : c.isAlphanum = true) : c.toLower ≠ '_' := by
  intro hsame
  have hcases := toLower_of_isAlphanum h
  rw [hsame] at hcases
  exact absurd hcases (by decide)

/-- Of what has been written, last character first: the text so far begins like a word. -/
structure Begun (written : List Char) : Prop where
  chars : ∀ c ∈ written, isSlugChar c = true
  first : written.getLast? ≠ some '_'

theorem begun_nil : Begun [] := by
  constructor
  . simp
  . simp

theorem Begun.cons {written : List Char} (h : Begun written) {c : Char}
    (hc : isSlugChar c = true) (hfirst : written = [] → c ≠ '_')
    : Begun (c :: written) := by
  constructor
  . intro d hd
    cases hd with
    | head => exact hc
    | tail _ hd => exact h.chars d hd
  . cases written with
    | nil => simpa using hfirst rfl
    | cons d rest =>
      rw [List.getLast?_cons_cons]
      exact h.first

theorem Begun.isWord {written : List Char} (h : Begun written)
    : isWord (String.ofList (written.dropWhile (· == '_')).reverse) = true := by
  have hsuffix : written.dropWhile (· == '_') <:+ written := List.dropWhile_suffix _
  simp only [Slug.isWord, String.toList_ofList, Bool.and_eq_true, List.all_eq_true, bne_iff_ne,
    List.head?_reverse, List.getLast?_reverse]
  refine ⟨⟨?_, ?_⟩, ?_⟩
  . intro c hc
    apply h.chars
    apply hsuffix.subset
    simpa using hc
  . intro hlast
    apply h.first
    obtain ⟨dropped, hwritten⟩ := hsuffix
    rw [← hwritten]
    rw [List.getLast?_append]
    rw [hlast]
    rfl
  . intro hhead
    have hdropped := List.head?_dropWhile_not (· == '_') written
    rw [hhead] at hdropped
    simp at hdropped

theorem isWord_go {cs written : List Char} (h : Begun written)
    : isWord (String.ofList (ofName.go cs written)) = true := by
  induction cs generalizing written with
  | nil => exact h.isWord
  | cons c cs ih =>
    unfold ofName.go
    split
    . next halnum =>
      apply ih
      apply h.cons (isSlugChar_toLower halnum)
      intro _
      exact toLower_ne_underscore halnum
    . split
      . exact ih h
      . next hinner =>
        apply ih
        apply h.cons (by decide)
        intro hnil
        simp [hnil] at hinner

theorem isWord_ofName (name : String) : isWord (ofName name) = true := by
  apply isWord_go
  exact begun_nil

theorem isDigit_of_mem_toString {n : Nat} {c : Char} (h : c ∈ (toString n).toList)
    : c.isDigit = true := by
  rw [Nat.toString_eq_repr, Nat.toList_repr] at h
  exact Nat.isDigit_of_mem_toDigits (by decide) (by decide) h

theorem isWord_append_number {base : String} (hbase : isWord base = true) (hne : base ≠ "")
    (n : Nat)
    : isWord (base ++ "_" ++ toString n) = true := by
  have hdigits : (toString n).toList ≠ [] := by
    rw [Nat.toString_eq_repr, Nat.toList_repr]
    exact Nat.toDigits_ne_nil
  simp only [isWord, Bool.and_eq_true, List.all_eq_true, bne_iff_ne] at hbase
  obtain ⟨⟨hchars, hfirst⟩, _⟩ := hbase
  simp only [isWord, Bool.and_eq_true, List.all_eq_true, bne_iff_ne, String.toList_append]
  refine ⟨⟨?_, ?_⟩, ?_⟩
  . intro c hc
    rw [List.mem_append, List.mem_append] at hc
    rcases hc with (hc | hc) | hc
    . exact hchars c hc
    . rw [List.mem_singleton.1 hc]
      decide
    . unfold isSlugChar
      simp [isDigit_of_mem_toString hc]
  . cases hcs : base.toList with
    | nil => exact absurd (String.toList_eq_nil_iff.1 hcs) hne
    | cons c cs =>
      rw [hcs] at hfirst
      simpa using hfirst
  . intro hlast
    rw [List.getLast?_append, List.getLast?_eq_some_getLast hdigits] at hlast
    have hdigit := isDigit_of_mem_toString (List.getLast_mem hdigits)
    simp only [Option.some_or, Option.some.injEq] at hlast
    rw [hlast] at hdigit
    exact absurd hdigit (by decide)

end HomeHub.Slug
