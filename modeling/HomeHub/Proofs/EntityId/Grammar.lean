import HomeHub.Proofs.EntityId.Generate
import HomeHub.Proofs.Json.Quoted
import HomeHub.Proofs.State.RoundTrip

/-!
The grammar of entity ids: two words around a dot. A text is an id if and only if it has this form,
and it is then the text of the id.
-/

namespace HomeHub

namespace Slug

structure Word (s : String) : Prop where
  ne : s ≠ ""
  chars : ∀ c ∈ s.toList, 'a' ≤ c ∧ c ≤ 'z' ∨ '0' ≤ c ∧ c ≤ '9' ∨ c = '_'
  first : ¬ ['_'] <+: s.toList
  last : ¬ ['_'] <:+ s.toList

structure DomainWord (s : String) : Prop extends Word s where
  single : ¬ ['_', '_'] <:+: s.toList

theorem isSlugChar_iff {c : Char}
    : isSlugChar c = true ↔ 'a' ≤ c ∧ c ≤ 'z' ∨ '0' ≤ c ∧ c ≤ '9' ∨ c = '_' := by
  have hlower : c.isLower = (decide ('a' ≤ c) && decide (c ≤ 'z')) := by rfl
  have hdigit : c.isDigit = (decide ('0' ≤ c) && decide (c ≤ '9')) := by rfl
  simp only [isSlugChar, hlower, hdigit, Bool.or_eq_true, Bool.and_eq_true, decide_eq_true_eq,
    beq_iff_eq, or_assoc]

theorem singleton_prefix_iff {c : Char} {cs : List Char} : [c] <+: cs ↔ cs.head? = some c := by
  cases cs with
  | nil => simp
  | cons d ds =>
    rw [List.cons_prefix_cons]
    simp [eq_comm]

theorem singleton_suffix_iff {c : Char} {cs : List Char} : [c] <:+ cs ↔ cs.getLast? = some c := by
  rw [← List.reverse_prefix]
  rw [List.reverse_singleton, singleton_prefix_iff]
  rw [List.head?_reverse]

theorem word_iff {s : String} : Word s ↔ s ≠ "" ∧ isWord s = true := by
  unfold isWord
  simp only [Bool.and_eq_true, List.all_eq_true, isSlugChar_iff, bne_iff_ne]
  constructor
  . intro h
    refine ⟨h.ne, ⟨h.chars, ?_⟩, ?_⟩
    . exact fun hfirst => h.first (singleton_prefix_iff.2 hfirst)
    . exact fun hlast => h.last (singleton_suffix_iff.2 hlast)
  . intro ⟨hne, ⟨hchars, hfirst⟩, hlast⟩
    refine ⟨hne, hchars, ?_, ?_⟩
    . exact fun h => hfirst (singleton_prefix_iff.1 h)
    . exact fun h => hlast (singleton_suffix_iff.1 h)

theorem hasDoubled_iff {cs : List Char} : hasDoubled cs = true ↔ ['_', '_'] <:+: cs := by
  fun_induction hasDoubled cs with
  | case1 rest => simpa using (List.prefix_append ['_', '_'] rest).isInfix
  | case2 c cs hsingle ih =>
    rw [ih]
    rw [List.infix_cons_iff]
    constructor
    . exact .inr
    . intro h
      cases h with
      | inl hprefix =>
        obtain ⟨rest, hrest⟩ := hprefix
        cases hrest
        exact absurd rfl (hsingle _ rfl)
      | inr hinfix => exact hinfix
  | case3 => simp

end Slug

namespace EntityId

variable {d o s : String} {id : EntityId}

theorem isDomain_iff : IsDomain d ↔ Slug.DomainWord d := by
  constructor
  . intro h
    refine ⟨Slug.word_iff.2 ⟨h.ne, h.word⟩, ?_⟩
    rw [← Slug.hasDoubled_iff]
    simp [h.single]
  . intro h
    have hsingle := h.single
    rw [← Slug.hasDoubled_iff, Bool.not_eq_true] at hsingle
    exact ⟨h.ne, hsingle, (Slug.word_iff.1 h.toWord).2⟩

/--
What comes of two texts as the parts of an id. A part that is empty is told before one that is
malformed, and the domain before the object id.
-/
inductive Judged (d o : String) : Except Error EntityId → Prop where
  | emptyDomain (hd : d = "") : Judged d o (.error .emptyDomain)
  | emptyObjectId (hd : d ≠ "") (ho : o = "") : Judged d o (.error .emptyObjectId)
  | invalidDomainChars (hd : d ≠ "") (ho : o ≠ "") (h : ¬ Slug.DomainWord d) :
    Judged d o (.error .invalidDomainChars)
  | invalidObjectIdChars (hd : Slug.DomainWord d) (ho : o ≠ "") (h : ¬ Slug.Word o) :
    Judged d o (.error .invalidObjectIdChars)
  | accepted (id : EntityId) (hdomain : id.domain = d) (hobject : id.objectId = o)
    (hd : Slug.DomainWord d) (ho : Slug.Word o) : Judged d o (.ok id)

theorem judged_ofParts (d o : String) : Judged d o (ofParts d o) := by
  unfold ofParts
  split
  . next hd => exact .emptyDomain hd
  next hd =>
  split
  . next ho => exact .emptyObjectId hd ho
  next ho =>
  split
  . next h =>
    have hdomain := isDomain_iff.1 ⟨hd, h.1, h.2⟩
    split
    . next h' => exact .accepted _ rfl rfl hdomain (Slug.word_iff.2 ⟨ho, h'⟩)
    . next h' => exact .invalidObjectIdChars hdomain ho fun hword => h' (Slug.word_iff.1 hword).2
  . next h =>
    apply Judged.invalidDomainChars hd ho
    intro hdomain
    have := isDomain_iff.2 hdomain
    exact h ⟨this.single, this.word⟩

theorem parse_of_count_ne (h : s.toList.count '.' ≠ 1) : parse s = .error .invalidFormat := by
  unfold parse
  exact if_neg h

theorem exists_joined (h : s.toList.count '.' = 1)
    : ∃ d o, s = d ++ "." ++ o ∧ '.' ∉ d.toList ∧ '.' ∉ o.toList := by
  have hmem : '.' ∈ s.toList := List.count_pos_iff.1 (by omega)
  obtain ⟨before, after, hs, hbefore⟩ := List.eq_append_cons_of_mem hmem
  have hafter : '.' ∉ after := by
    rw [hs, List.count_append, List.count_eq_zero.2 hbefore, List.count_cons_self] at h
    exact List.count_eq_zero.1 (by omega)
  refine ⟨String.ofList before, String.ofList after, ?_, by simpa, by simpa⟩
  rw [← String.toList_inj]
  simp [hs]

theorem text_of_parse (h : parse s = .ok id) : id.text = s := by
  by_cases hcount : s.toList.count '.' = 1
  . obtain ⟨d, o, rfl, hd, ho⟩ := exists_joined hcount
    rw [parse_joined hd ho] at h
    obtain ⟨rfl, rfl⟩ := parts_of_ofParts h
    rfl
  . rw [parse_of_count_ne hcount] at h
    contradiction

theorem parse_eq_ok_iff : parse s = .ok id ↔ s = id.text := by
  constructor
  . exact fun h => (text_of_parse h).symm
  . intro h
    rw [h]
    exact parse_text id

theorem entityId_eq_ok_iff {v : Json} : Json.Decode.entityId v = .ok id ↔ v = .str id.text := by
  constructor
  . intro h
    cases v with
    | str s =>
      unfold Json.Decode.entityId at h
      rw [Json.Decode.string_str] at h
      dsimp only [bind, Except.bind] at h
      cases hparse : parse s with
      | error e =>
        rw [hparse] at h
        contradiction
      | ok found =>
        rw [hparse] at h
        cases h
        rw [parse_eq_ok_iff.1 hparse]
    | _ => contradiction
  . intro h
    rw [h]
    exact Json.Decode.entityId_text id

theorem count_text (id : EntityId) : id.text.toList.count '.' = 1 := by
  have hdomain := Slug.dot_notMem_of_isWord id.domain_word
  have hobject := Slug.dot_notMem_of_isWord id.objectId_word
  unfold text
  simp [List.count_eq_zero.2 hdomain, List.count_eq_zero.2 hobject]

theorem parse_spec
    : (∀ s, (∃ id, parse s = .ok id) ↔ ∃ d o, s = d ++ "." ++ o ∧ s.toList.count '.' = 1
        ∧ Slug.DomainWord d ∧ Slug.Word o)
      ∧ (∀ s id, parse s = .ok id → id.text = s)
      ∧ (∀ id : EntityId, parse id.text = .ok id
        ∧ Json.read? (Json.compact (.str id.text)) = some (.str id.text)
        ∧ ∀ v, Json.Decode.entityId v = .ok id ↔ v = .str id.text)
      ∧ (∀ d o, '.' ∉ d.toList → '.' ∉ o.toList → parse (d ++ "." ++ o) = ofParts d o)
      ∧ (∀ d o, Judged d o (ofParts d o))
      ∧ (∀ s, s.toList.count '.' ≠ 1 → parse s = .error .invalidFormat) := by
  refine ⟨?_, ?_, ?_, ?_, judged_ofParts, ?_⟩
  . intro s
    constructor
    . intro ⟨id, h⟩
      rw [parse_eq_ok_iff] at h
      subst h
      exact ⟨id.domain, id.objectId, rfl, count_text id, isDomain_iff.1 (isDomain_domain id),
        Slug.word_iff.2 ⟨id.objectId_ne, id.objectId_word⟩⟩
    . intro ⟨d, o, hs, _, hd, ho⟩
      have hdomain := isDomain_iff.2 hd
      have hobject := Slug.word_iff.1 ho
      refine ⟨⟨d, o, hdomain.ne, ho.ne, hdomain.word, hdomain.single, hobject.2⟩, ?_⟩
      rw [parse_eq_ok_iff]
      exact hs
  . intro s id
    exact text_of_parse
  . intro id
    exact ⟨parse_text id, Json.read?_compact_str id.text, fun v => entityId_eq_ok_iff⟩
  . intro d o
    exact parse_joined
  . intro s
    exact parse_of_count_ne

end EntityId

end HomeHub
