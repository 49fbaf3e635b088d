import HomeHub.Proofs.EntityId.Grammar
import Mathlib.Data.List.SplitBy
import Mathlib.Data.List.TakeWhile

/-!
What the slug of a name is: the runs of letters and digits in the name, in lower case, with single
underscores between them. So it is empty or a word without doubled underscores, and these texts are
slugs of themselves.
-/

namespace HomeHub.Slug

def runs (cs : List Char) : List (List Char) :=
  (cs.splitBy fun c d => c.isAlphanum == d.isAlphanum).filter (·.all Char.isAlphanum)

def words (name : String) : List String :=
  (runs name.toList).map fun run => String.ofList (run.map Char.toLower)

def AllOf (alphanum : Bool) (cs : List Char) : Prop :=
  ∀ c ∈ cs, c.isAlphanum = alphanum

def Stops (alphanum : Bool) (cs : List Char) : Prop :=
  ∀ c ∈ cs.head?, c.isAlphanum = !alphanum

variable {alphanum : Bool} {before cs gap rest run written : List Char} {c : Char}

/-! ### Runs -/

theorem splitBy_of_allOf (h : AllOf alphanum cs) (hne : cs ≠ [])
    : cs.splitBy (fun c d => c.isAlphanum == d.isAlphanum) = [cs] := by
  apply List.splitBy_of_isChain hne
  apply List.Pairwise.isChain
  rw [List.pairwise_iff_forall_sublist]
  intro a b hsub
  simp [h a (hsub.subset (by simp)), h b (hsub.subset (by simp))]

theorem runs_append (h : ∀ c ∈ before.getLast?, ∀ d ∈ rest.head?, c.isAlphanum ≠ d.isAlphanum)
    : runs (before ++ rest) = runs before ++ runs rest := by
  unfold runs
  rw [List.splitBy_append]
  . rw [List.filter_append]
  . intro c hc d hd
    simpa using h c hc d hd

theorem runs_append_of_allOf (h : AllOf alphanum before) (hstops : Stops alphanum rest)
    : runs (before ++ rest) = runs before ++ runs rest := by
  apply runs_append
  intro c hc d hd
  rw [h c (List.mem_of_getLast? hc), hstops d hd]
  simp

theorem runs_of_run (h : AllOf true run) (hne : run ≠ []) : runs run = [run] := by
  unfold runs
  rw [splitBy_of_allOf h hne]
  rw [List.filter_cons_of_pos (by simpa [AllOf] using h), List.filter_nil]

theorem runs_of_gap (h : AllOf false gap) : runs gap = [] := by
  cases gap with
  | nil => rfl
  | cons c cs =>
    unfold runs
    rw [splitBy_of_allOf h (by simp)]
    rw [List.filter_cons_of_neg (by simp [h c (by simp)]), List.filter_nil]

theorem allOf_takeWhile (alphanum : Bool) (cs : List Char)
    : AllOf alphanum (cs.takeWhile (·.isAlphanum == alphanum)) := by
  intro c hc
  simpa using List.mem_takeWhile_imp hc

theorem stops_dropWhile (alphanum : Bool) (cs : List Char)
    : Stops alphanum (cs.dropWhile (·.isAlphanum == alphanum)) := by
  intro c hc
  have hfirst := List.head?_dropWhile_not (·.isAlphanum == alphanum) cs
  rw [hc] at hfirst
  rw [Bool.eq_not]
  simpa using hfirst

theorem runs_cons_separator (hc : c.isAlphanum = false) (cs : List Char)
    : runs (c :: cs) = runs cs := by
  -- The separator belongs to the gap at the front of what follows.
  have hgap := allOf_takeWhile false cs
  have hstops := stops_dropWhile false cs
  have hlonger : AllOf false (c :: cs.takeWhile (·.isAlphanum == false)) := by
    intro d hd
    cases hd with
    | head => exact hc
    | tail _ hd => exact hgap d hd
  rw [← List.takeWhile_append_dropWhile (p := (·.isAlphanum == false)) (l := cs)]
  rw [← List.cons_append]
  rw [runs_append_of_allOf hlonger hstops, runs_append_of_allOf hgap hstops]
  rw [runs_of_gap hlonger, runs_of_gap hgap]

theorem runs_append_separator (hc : c.isAlphanum = false) (before rest : List Char)
    : runs (before ++ c :: rest) = runs before ++ runs rest := by
  induction before using List.reverseRecOn generalizing c rest with
  | nil => exact runs_cons_separator hc rest
  | append_singleton before d ih =>
    cases hd : d.isAlphanum with
    | true =>
      rw [runs_append (by simp [hc, hd]), runs_cons_separator hc]
    | false =>
      have hend : runs (before ++ [d]) = runs before := by simpa [runs] using ih hd []
      rw [hend, List.append_assoc]
      rw [List.singleton_append, ih hd, runs_cons_separator hc]

@[elab_as_elim]
theorem induction_runs {motive : List Char → Prop} (cs : List Char) (nil : motive [])
    (separator : ∀ c cs, c.isAlphanum = false → motive cs → motive (c :: cs))
    (run : ∀ run rest, run ≠ [] → AllOf true run → Stops true rest → motive rest →
      motive (run ++ rest))
    : motive cs := by
  induction hlength : cs.length using Nat.strong_induction_on generalizing cs with
  | h length ih =>
    cases cs with
    | nil => exact nil
    | cons c cs =>
      cases hc : c.isAlphanum with
      | false => exact separator c cs hc (ih cs.length (by simp [← hlength]) cs rfl)
      | true =>
        rw [← List.takeWhile_append_dropWhile (p := (·.isAlphanum == true)) (l := c :: cs)]
        have hle := (List.dropWhile_suffix (l := cs) (·.isAlphanum == true)).length_le
        apply run
        . simp [hc]
        . apply allOf_takeWhile
        . apply stops_dropWhile
        . refine ih _ ?_ _ rfl
          rw [List.dropWhile_cons_of_pos (by simp [hc]), ← hlength, List.length_cons]
          omega

/-! ### Writing a slug -/

def joined (runs : List (List Char)) : List Char :=
  ['_'].intercalate (runs.map (·.map Char.toLower))

def Rests (written : List Char) : Prop :=
  written = [] ∨ written.head? = some '_'

theorem joined_cons {runs : List (List Char)} (h : runs ≠ []) (run : List Char)
    : joined (run :: runs) = run.map Char.toLower ++ '_' :: joined runs := by
  unfold joined
  rw [List.map_cons]
  rw [List.intercalate_cons_of_ne_nil (by simpa using h)]
  simp

theorem go_cons_run (hc : c.isAlphanum = true) (cs written : List Char)
    : ofName.go (c :: cs) written = ofName.go cs (c.toLower :: written) := by
  rw [ofName.go]
  exact if_pos hc

theorem go_cons_separator (hc : c.isAlphanum = false) (cs written : List Char)
    : ofName.go (c :: cs) written
        =
      if written.isEmpty || written.head? == some '_' then ofName.go cs written
      else ofName.go cs ('_' :: written) := by
  rw [ofName.go]
  exact if_neg (by simp [hc])

theorem go_cons_of_rests (hc : c.isAlphanum = false) (h : Rests written) (cs : List Char)
    : ofName.go (c :: cs) written = ofName.go cs written := by
  rw [go_cons_separator hc]
  apply if_pos
  cases h with
  | inl hnil => simp [hnil]
  | inr hhead => simp [hhead]

theorem go_append_run (h : AllOf true run) (rest written : List Char)
    : ofName.go (run ++ rest) written
        =
      ofName.go rest ((run.map Char.toLower).reverse ++ written) := by
  induction run generalizing written with
  | nil => rfl
  | cons c cs ih =>
    rw [List.cons_append, go_cons_run (h c (by simp))]
    rw [ih fun d hd => h d (List.mem_cons_of_mem _ hd)]
    simp

theorem go_nil_of_not_rests (h : ¬ Rests written) : ofName.go [] written = written.reverse := by
  rw [ofName.go]
  cases written with
  | nil => rfl
  | cons c cs => rw [List.dropWhile_cons_of_neg (by simpa [Rests] using h)]

theorem go_of_stops (hstops : Stops true rest) (h : ¬ Rests written)
    : ofName.go rest written = ofName.go rest ('_' :: written) := by
  cases rest with
  | nil => simp [ofName.go]
  | cons c cs =>
    have hc : c.isAlphanum = false := hstops c rfl
    have hahead : Rests ('_' :: written) := .inr rfl
    rw [go_cons_of_rests hc hahead]
    rw [go_cons_separator hc, if_neg (by simpa [Rests] using h)]

theorem not_rests_append (h : AllOf true run) (hne : run ≠ [])
    : ¬ Rests ((run.map Char.toLower).reverse ++ written) := by
  have hlast : run.getLast hne ∈ run := List.getLast_mem hne
  have hhead : ((run.map Char.toLower).reverse ++ written).head?
      = some (run.getLast hne).toLower := by
    rw [List.head?_append, List.head?_reverse, List.getLast?_map]
    rw [List.getLast?_eq_some_getLast hne]
    rfl
  unfold Rests
  rw [hhead]
  simp [hne, toLower_ne_underscore (h _ hlast)]

theorem go_of_rests (h : Rests written)
    : ofName.go cs written
        =
      if runs cs = [] then ofName.go [] written else written.reverse ++ joined (runs cs) := by
  induction cs using induction_runs generalizing written with
  | nil => rfl
  | separator c cs hc ih =>
    rw [go_cons_of_rests hc h, runs_cons_separator hc]
    exact ih h
  | run run rest hne hrun hstops ih =>
    have hwritten : ¬ Rests ((run.map Char.toLower).reverse ++ written) :=
      not_rests_append hrun hne
    have hahead : Rests ('_' :: ((run.map Char.toLower).reverse ++ written)) := .inr rfl
    rw [runs_append_of_allOf hrun hstops, runs_of_run hrun hne]
    rw [if_neg (by simp), List.singleton_append]
    rw [go_append_run hrun, go_of_stops hstops hwritten, ih hahead]
    by_cases hruns : runs rest = []
    . rw [if_pos hruns, hruns]
      rw [← go_of_stops (by simp [Stops]) hwritten, go_nil_of_not_rests hwritten]
      simp [joined]
    . rw [if_neg hruns, joined_cons hruns]
      simp

theorem toList_ofName (name : String) : (ofName name).toList = joined (runs name.toList) := by
  unfold ofName
  rw [String.toList_ofList, go_of_rests (.inl rfl)]
  split
  . next hnil =>
    rw [hnil]
    rfl
  . simp

theorem ofName_eq_intercalate (name : String) : ofName name = "_".intercalate (words name) := by
  rw [← String.toList_inj, toList_ofName, String.toList_intercalate]
  unfold joined words
  simp [Function.comp_def]

/-! ### The form of a slug -/

theorem hasDoubled_cons_of_ne (hc : c ≠ '_') (cs : List Char)
    : hasDoubled (c :: cs) = hasDoubled cs := by
  apply hasDoubled.eq_2
  intro tail h
  exact absurd h hc

theorem hasDoubled_underscore (h : cs.head? ≠ some '_')
    : hasDoubled ('_' :: cs) = hasDoubled cs := by
  apply hasDoubled.eq_2
  intro tail _ htail
  simp [htail] at h

theorem hasDoubled_append (h : ∀ c ∈ before, c ≠ '_') (rest : List Char)
    : hasDoubled (before ++ rest) = hasDoubled rest := by
  induction before with
  | nil => rfl
  | cons c before ih =>
    rw [List.cons_append, hasDoubled_cons_of_ne (h c (by simp))]
    exact ih fun d hd => h d (List.mem_cons_of_mem _ hd)

theorem ne_underscore_of_mem_lower (h : AllOf true run) (hc : c ∈ run.map Char.toLower)
    : c ≠ '_' := by
  obtain ⟨d, hd, rfl⟩ := List.mem_map.1 hc
  exact toLower_ne_underscore (h d hd)

theorem of_mem_runs (h : run ∈ runs cs) : run ≠ [] ∧ AllOf true run := by
  unfold runs at h
  rw [List.mem_filter, List.all_eq_true] at h
  exact ⟨List.ne_nil_of_mem_splitBy h.1, h.2⟩

theorem head?_joined {rs : List (List Char)} (h : ∀ run ∈ rs, run ≠ [] ∧ AllOf true run)
    : (joined rs).head? ≠ some '_' := by
  cases rs with
  | nil => simp [joined]
  | cons run others =>
    obtain ⟨hne, hrun⟩ := h run (by simp)
    obtain ⟨c, cs, rfl⟩ := List.exists_cons_of_ne_nil hne
    have hc := toLower_ne_underscore (hrun c (by simp))
    cases others with
    | nil => simpa [joined] using hc
    | cons other others =>
      rw [joined_cons (by simp)]
      simpa using hc

theorem hasDoubled_joined {rs : List (List Char)} (h : ∀ run ∈ rs, run ≠ [] ∧ AllOf true run)
    : hasDoubled (joined rs) = false := by
  induction rs with
  | nil => rfl
  | cons run others ih =>
    have hrun : ∀ c ∈ run.map Char.toLower, c ≠ '_' := by
      intro c hc
      exact ne_underscore_of_mem_lower (h run (by simp)).2 hc
    have hothers : ∀ other ∈ others, other ≠ [] ∧ AllOf true other := by
      intro other hother
      exact h other (List.mem_cons_of_mem _ hother)
    cases others with
    | nil => simpa [joined, hasDoubled] using hasDoubled_append hrun []
    | cons other others =>
      rw [joined_cons (by simp), hasDoubled_append hrun]
      rw [hasDoubled_underscore (head?_joined hothers)]
      exact ih hothers

theorem ofName_eq_empty_or_word (name : String)
    : ofName name = "" ∨ Word (ofName name) ∧ ¬ ['_', '_'] <:+: (ofName name).toList := by
  by_cases hempty : ofName name = ""
  . exact .inl hempty
  . refine .inr ⟨word_iff.2 ⟨hempty, isWord_ofName name⟩, ?_⟩
    rw [← hasDoubled_iff, toList_ofName, hasDoubled_joined fun run => of_mem_runs]
    decide

/-! ### Slugs of slugs -/

theorem alphanum_of_isSlugChar (h : isSlugChar c = true) (hc : c ≠ '_')
    : c.isAlphanum = true ∧ c.toLower = c := by
  constructor
  . have halphanum : c.isAlphanum = (c.isUpper || c.isLower || c.isDigit) := by rfl
    have hcases : (c.isLower || c.isDigit) = true := by
      simpa [isSlugChar, hc] using h
    rw [halphanum, Bool.or_assoc, hcases, Bool.or_true]
  . unfold Char.toLower
    apply dif_neg
    intro hupper
    have hle : ∀ a b : Char, a ≤ b ↔ a.toNat ≤ b.toNat := fun a b => UInt32.le_iff_toNat_le
    have hupper : 'A' ≤ c ∧ c ≤ 'Z' := hupper
    have hcases : 'a' ≤ c ∧ c ≤ 'z' ∨ '0' ≤ c ∧ c ≤ '9' := by
      simpa [hc] using isSlugChar_iff.1 h
    simp only [hle, Char.reduceToNat] at hupper hcases
    omega

theorem go_of_slug (hchars : ∀ c ∈ cs, isSlugChar c = true) (hsingle : hasDoubled cs = false)
    (hfirst : Rests written → cs.head? ≠ some '_')
    : ofName.go cs written = ofName.go [] (cs.reverse ++ written) := by
  induction cs generalizing written with
  | nil => rfl
  | cons c cs ih =>
    have hrest : ∀ d ∈ cs, isSlugChar d = true := by
      intro d hd
      exact hchars d (List.mem_cons_of_mem _ hd)
    have hreverse : (c :: cs).reverse ++ written = cs.reverse ++ c :: written := by simp
    rw [hreverse]
    by_cases hc : c = '_'
    . subst hc
      have hwritten : ¬ Rests written := fun h => hfirst h rfl
      have hnext : cs.head? ≠ some '_' := by
        intro h
        obtain ⟨tail, rfl⟩ := List.head?_eq_some_iff.1 h
        contradiction
      rw [hasDoubled_underscore hnext] at hsingle
      rw [go_cons_separator (by decide), if_neg (by simpa [Rests] using hwritten)]
      exact ih hrest hsingle fun _ => hnext
    . obtain ⟨halnum, hlower⟩ := alphanum_of_isSlugChar (hchars c (by simp)) hc
      rw [hasDoubled_cons_of_ne hc] at hsingle
      rw [go_cons_run halnum, hlower]
      apply ih hrest hsingle
      intro h
      simp [Rests, hc] at h

theorem ofName_of_word {s : String} (h : Word s) (hsingle : ¬ ['_', '_'] <:+: s.toList)
    : ofName s = s := by
  have hchars : ∀ c ∈ s.toList, isSlugChar c = true := by
    intro c hc
    exact isSlugChar_iff.2 (h.chars c hc)
  have hnone : hasDoubled s.toList = false := by
    rw [← Bool.not_eq_true, hasDoubled_iff]
    exact hsingle
  have hlast : s.toList.reverse.head? ≠ some '_' := by
    rw [List.head?_reverse]
    exact fun hlast => h.last (singleton_suffix_iff.2 hlast)
  rw [← String.toList_inj]
  unfold ofName
  rw [String.toList_ofList, go_of_slug hchars hnone, List.append_nil]
  . rw [go_nil_of_not_rests]
    . simp
    . simpa [Rests, h.ne] using hlast
  . exact fun _ hfirst => h.first (singleton_prefix_iff.2 hfirst)

theorem ofName_eq_self_iff {s : String}
    : ofName s = s ↔ s = "" ∨ Word s ∧ ¬ ['_', '_'] <:+: s.toList := by
  constructor
  . intro h
    rw [← h]
    exact ofName_eq_empty_or_word s
  . intro h
    cases h with
    | inl hempty =>
      rw [hempty]
      rfl
    | inr hword => exact ofName_of_word hword.1 hword.2

theorem words_append_separator (hc : c.isAlphanum = false) (a b : String)
    : words (a ++ c.toString ++ b) = words a ++ words b := by
  unfold words
  rw [← List.map_append, ← runs_append_separator hc]
  simp [String.toList_append]

theorem joined_eq_nil_iff {rs : List (List Char)} (h : ∀ run ∈ rs, run ≠ [] ∧ AllOf true run)
    : joined rs = [] ↔ rs = [] := by
  cases rs with
  | nil => simp [joined]
  | cons run others =>
    have hne := (h run (by simp)).1
    cases others with
    | nil => simpa [joined] using hne
    | cons other others => simp [joined_cons]

theorem ofName_eq_empty_iff {name : String} : ofName name = "" ↔ words name = [] := by
  rw [← String.toList_eq_nil_iff, toList_ofName]
  rw [joined_eq_nil_iff fun run => of_mem_runs]
  unfold words
  rw [List.map_eq_nil_iff]

theorem ofName_append_separator (hc : c.isAlphanum = false) (a b : String)
    : ofName (a ++ c.toString ++ b) = "_".intercalate ([ofName a, ofName b].filter (· ≠ "")) := by
  rw [ofName_eq_intercalate, words_append_separator hc]
  by_cases ha : words a = []
  . rw [ha, List.nil_append, ← ofName_eq_intercalate]
    by_cases hb : words b = []
    . simp [ofName_eq_empty_iff.2 ha, ofName_eq_empty_iff.2 hb]
    . simp [ofName_eq_empty_iff.2 ha, mt ofName_eq_empty_iff.1 hb]
  . by_cases hb : words b = []
    . rw [hb, List.append_nil, ← ofName_eq_intercalate]
      simp [ofName_eq_empty_iff.2 hb, mt ofName_eq_empty_iff.1 ha]
    . rw [String.intercalate_append_of_ne_nil ha hb]
      rw [← ofName_eq_intercalate, ← ofName_eq_intercalate]
      simp [mt ofName_eq_empty_iff.1 ha, mt ofName_eq_empty_iff.1 hb]

theorem ofName_spec
    : (∀ name, ofName name = "_".intercalate (words name))
      ∧ (∀ name, ofName name = ""
        ∨ Word (ofName name) ∧ ¬ ['_', '_'] <:+: (ofName name).toList)
      ∧ (∀ name, ofName (ofName name) = ofName name)
      ∧ (∀ s, ofName s = s ↔ s = "" ∨ Word s ∧ ¬ ['_', '_'] <:+: s.toList)
      ∧ (∀ (a b : String) (c : Char), c.isAlphanum = false →
        ofName (a ++ c.toString ++ b)
          = "_".intercalate ([ofName a, ofName b].filter (· ≠ ""))) := by
  refine ⟨ofName_eq_intercalate, ofName_eq_empty_or_word, ?_, fun s => ofName_eq_self_iff, ?_⟩
  . intro name
    exact ofName_eq_self_iff.2 (ofName_eq_empty_or_word name)
  . intro a b c hc
    exact ofName_append_separator hc a b

theorem ofName_of_accented_name
    : ('é').isAlphanum = false
      ∧ ofName "  Living Room -- Lamp é--- " = "living_room_lamp" := by
  have hc : ('é').isAlphanum = false := by decide
  have happend := ofName_spec.2.2.2.2 "  Living Room -- Lamp " "--- " 'é' hc
  have hlamp : ofName "  Living Room -- Lamp " = "living_room_lamp" := by decide
  have hnone : ofName "--- " = "" := by decide
  rw [hlamp, hnone] at happend
  exact ⟨hc, happend⟩

end HomeHub.Slug
