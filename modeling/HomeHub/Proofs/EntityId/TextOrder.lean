import HomeHub.Proofs.EntityId.Grammar

/-!
The order of entity ids is the order of their texts, byte by byte. The dot between the two parts
comes before all characters that a domain has, so a domain that another one begins with is the
smaller one in the texts as well.
-/

namespace HomeHub

namespace Text

def bytes (s : String) : List UInt8 :=
  s.toUTF8.data.toList

/-- The order of texts byte by byte; a text comes before all that it is the beginning of. -/
def compareBytes (s t : String) : Ordering :=
  List.compareLex compare (bytes s) (bytes t)

def IsAscii (s : String) : Prop :=
  ∀ c ∈ s.toList, c.toNat < 128

variable {s t : String}

theorem compareOfLessAndEq_eq_compareLex (l m : List Char)
    : compareOfLessAndEq l m = List.compareLex compare l m := by
  induction l generalizing m with
  | nil =>
    cases m with
    | nil => rfl
    | cons d m => rfl
  | cons c l ih =>
    cases m with
    | nil => rfl
    | cons d m =>
      have hchar : compare c d = compareOfLessAndEq c d := by rfl
      rw [List.compareLex_cons_cons, ← ih, hchar]
      unfold compareOfLessAndEq
      simp only [List.cons_lt_cons_iff, List.cons.injEq]
      by_cases hlt : c < d
      . simp [hlt]
      . by_cases heq : c = d
        . simp [heq]
        . simp [hlt, heq]

theorem compare_eq_compareLex (s t : String)
    : compare s t = List.compareLex compare s.toList t.toList := by
  rw [← compareOfLessAndEq_eq_compareLex]
  have hstring : compare s t = compareOfLessAndEq s t := by rfl
  rw [hstring]
  unfold compareOfLessAndEq
  simp only [String.lt_iff, ← String.toList_inj]

theorem bytes_eq_flatMap (s : String) : bytes s = s.toList.flatMap String.utf8EncodeChar := by
  unfold bytes String.toUTF8
  rw [← String.ofList_toList (s := s), String.toByteArray_ofList, String.toList_ofList]
  exact List.toList_data_toByteArray

theorem utf8EncodeChar_of_lt {c : Char} (h : c.toNat < 128)
    : String.utf8EncodeChar c = [c.val.toUInt8] := by
  apply String.utf8EncodeChar_eq_singleton
  rw [Char.utf8Size_eq_one_iff, UInt32.le_iff_toNat_le]
  exact Nat.le_of_lt_succ h

theorem bytes_of_isAscii (h : IsAscii s) : bytes s = s.toList.map (·.val.toUInt8) := by
  rw [bytes_eq_flatMap, List.map_eq_flatMap]
  apply List.flatMap_congr
  intro c hc
  exact utf8EncodeChar_of_lt (h c hc)

theorem toNat_toUInt8 {c : Char} (h : c.toNat < 128) : c.val.toUInt8.toNat = c.toNat := by
  rw [UInt32.toNat_toUInt8]
  exact Nat.mod_eq_of_lt (Nat.lt_trans h (by decide))

theorem compare_toUInt8 {c d : Char} (hc : c.toNat < 128) (hd : d.toNat < 128)
    : compare c.val.toUInt8 d.val.toUInt8 = compare c d := by
  have hbytes : compare c.val.toUInt8 d.val.toUInt8
      = compareOfLessAndEq c.val.toUInt8 d.val.toUInt8 := by rfl
  have hchars : compare c d = compareOfLessAndEq c d := by rfl
  have hlt : c < d ↔ c.toNat < d.toNat := UInt32.lt_iff_toNat_lt
  rw [hbytes, hchars]
  unfold compareOfLessAndEq
  simp only [UInt8.lt_iff_toNat_lt, ← UInt8.toNat_inj, toNat_toUInt8 hc, toNat_toUInt8 hd, hlt,
    Char.toNat_inj]

theorem compareLex_map {α β : Type} {cmp : α → α → Ordering} {cmp' : β → β → Ordering} {f : α → β}
    {l m : List α} (h : ∀ a ∈ l, ∀ b ∈ m, cmp' (f a) (f b) = cmp a b)
    : List.compareLex cmp' (l.map f) (m.map f) = List.compareLex cmp l m := by
  induction l generalizing m with
  | nil =>
    cases m with
    | nil => rfl
    | cons b m => rfl
  | cons a l ih =>
    cases m with
    | nil => rfl
    | cons b m =>
      rw [List.map_cons, List.map_cons, List.compareLex_cons_cons, List.compareLex_cons_cons]
      rw [h a (by simp) b (by simp)]
      rw [ih fun c hc d hd => h c (List.mem_cons_of_mem _ hc) d (List.mem_cons_of_mem _ hd)]

theorem compareBytes_of_isAscii (hs : IsAscii s) (ht : IsAscii t)
    : compareBytes s t = compare s t := by
  unfold compareBytes
  rw [bytes_of_isAscii hs, bytes_of_isAscii ht, compare_eq_compareLex]
  apply compareLex_map
  intro c hc d hd
  exact compare_toUInt8 (hs c hc) (ht d hd)

theorem compareLex_append_cons {α : Type} {cmp : α → α → Ordering} [Std.ReflCmp cmp]
    [Std.OrientedCmp cmp] {separator : α} {l m : List α} (hl : ∀ a ∈ l, cmp separator a = .lt)
    (hm : ∀ b ∈ m, cmp separator b = .lt) (l' m' : List α)
    : List.compareLex cmp (l ++ separator :: l') (m ++ separator :: m')
        =
      (List.compareLex cmp l m).then (List.compareLex cmp l' m') := by
  induction l generalizing m with
  -- Where one list ends, its separator is less than what the other has there.
  | nil =>
    cases m with
    | nil => simp [List.compareLex_cons_cons, Std.ReflCmp.compare_self]
    | cons b m => simp [List.compareLex_cons_cons, hm b, List.compareLex_nil_cons]
  | cons a l ih =>
    cases m with
    | nil =>
      have hgt : cmp a separator = .gt := Std.OrientedCmp.gt_of_lt (hl a (by simp))
      simp [List.compareLex_cons_cons, hgt, List.compareLex_cons_nil]
    | cons b m =>
      rw [List.cons_append, List.cons_append, List.compareLex_cons_cons, List.compareLex_cons_cons]
      rw [ih (fun c hc => hl c (List.mem_cons_of_mem _ hc))
        (fun d hd => hm d (List.mem_cons_of_mem _ hd))]
      rw [Ordering.then_assoc]

end Text

namespace EntityId

theorem bounds_of_isSlugChar {c : Char} (h : Slug.isSlugChar c = true)
    : '.' < c ∧ c.toNat < 128 := by
  have hle : ∀ a b : Char, a ≤ b ↔ a.toNat ≤ b.toNat := fun a b => UInt32.le_iff_toNat_le
  have hlt : ∀ a b : Char, a < b ↔ a.toNat < b.toNat := fun a b => UInt32.lt_iff_toNat_lt
  rw [Slug.isSlugChar_iff] at h
  simp only [hle, hlt, Char.reduceToNat, ← Char.toNat_inj] at h ⊢
  omega

theorem isAscii_of_isWord {s : String} (h : Slug.isWord s = true) : Text.IsAscii s := by
  intro c hc
  exact (bounds_of_isSlugChar (Slug.isSlugChar_of_isWord h hc)).2

theorem isAscii_text (id : EntityId) : Text.IsAscii id.text := by
  intro c hc
  unfold text at hc
  simp only [String.toList_append, List.mem_append] at hc
  rcases hc with (hdomain | hdot) | hobject
  . exact isAscii_of_isWord id.domain_word c hdomain
  . rw [List.mem_singleton.1 hdot]
    decide
  . exact isAscii_of_isWord id.objectId_word c hobject

theorem compare_dot {s : String} (h : Slug.isWord s = true)
    : ∀ c ∈ s.toList, compare '.' c = .lt := by
  intro c hc
  have hlt := (bounds_of_isSlugChar (Slug.isSlugChar_of_isWord h hc)).1
  exact if_pos hlt

theorem compare_eq_compareBytes_parts (a b : EntityId)
    : compare a b
        =
      (Text.compareBytes a.domain b.domain).then (Text.compareBytes a.objectId b.objectId) := by
  have hdomain := Text.compareBytes_of_isAscii (isAscii_of_isWord a.domain_word)
    (isAscii_of_isWord b.domain_word)
  have hobject := Text.compareBytes_of_isAscii (isAscii_of_isWord a.objectId_word)
    (isAscii_of_isWord b.objectId_word)
  rw [hdomain, hobject]
  rfl

theorem compare_eq_compareBytes_text (a b : EntityId)
    : compare a b = Text.compareBytes a.text b.text := by
  have htext : ∀ id : EntityId,
      id.text.toList = id.domain.toList ++ '.' :: id.objectId.toList := by
    intro id
    simp [text]
  rw [Text.compareBytes_of_isAscii a.isAscii_text b.isAscii_text]
  rw [Text.compare_eq_compareLex, htext, htext]
  rw [Text.compareLex_append_cons (compare_dot a.domain_word) (compare_dot b.domain_word)]
  rw [← Text.compare_eq_compareLex, ← Text.compare_eq_compareLex]
  rfl

end EntityId

end HomeHub
