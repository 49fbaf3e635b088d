import HomeHub.Table

/-!
Tables told by their entries: a key is found with a value if and only if the two are an entry.
-/

namespace HomeHub.Table

variable {κ ν : Type}

theorem ext {s t : Table κ ν} (h : s.entries = t.entries) : s = t := by
  cases s
  cases t
  cases h
  rfl

variable [DecidableEq κ]

theorem mem_of_lookup {key : κ} {value : ν} {entries : List (κ × ν)}
    (h : lookup key entries = some value)
    : (key, value) ∈ entries := by
  induction entries with
  | nil => cases h
  | cons entry rest ih =>
    obtain ⟨k, v⟩ := entry
    unfold lookup at h
    split at h
    . next hk =>
      cases h
      rw [hk]
      simp
    . exact List.mem_cons_of_mem _ (ih h)

theorem lookup_of_mem {key : κ} {value : ν} {entries : List (κ × ν)}
    (hdistinct : (entries.map Prod.fst).Nodup) (h : (key, value) ∈ entries)
    : lookup key entries = some value := by
  induction entries with
  | nil => cases h
  | cons entry rest ih =>
    obtain ⟨k, v⟩ := entry
    simp only [List.map_cons, List.nodup_cons] at hdistinct
    unfold lookup
    cases h with
    | head => simp
    | tail _ h =>
      -- The key stands further behind, so it cannot stand here.
      have hk : k ≠ key := by
        intro hk
        apply hdistinct.1
        rw [hk]
        exact List.mem_map_of_mem h
      rw [if_neg hk]
      exact ih hdistinct.2 h

theorem find?_eq_some_iff {t : Table κ ν} {key : κ} {value : ν}
    : t.find? key = some value ↔ (key, value) ∈ t.entries := by
  constructor
  . exact mem_of_lookup
  . exact lookup_of_mem t.distinct

theorem mem_values_iff {t : Table κ ν} {value : ν}
    : value ∈ t.values ↔ ∃ key, t.find? key = some value := by
  simp only [values, List.mem_map, find?_eq_some_iff, Prod.exists, exists_eq_right]

theorem isSome_find?_iff {t : Table κ ν} {key : κ}
    : (t.find? key).isSome = true ↔ key ∈ t.keys := by
  simp only [Option.isSome_iff_exists, find?_eq_some_iff, keys, List.mem_map, Prod.exists,
    exists_and_right, exists_eq_right]

theorem mem_keys_insert {t : Table κ ν} {key other : κ} {value : ν}
    : other ∈ (t.insert key value).keys ↔ other = key ∨ other ∈ t.keys := by
  apply mem_keys_put

theorem put_lookup {key : κ} {value : ν} {entries : List (κ × ν)}
    (h : lookup key entries = some value)
    : put key value entries = entries := by
  induction entries with
  | nil => cases h
  | cons entry rest ih =>
    obtain ⟨k, v⟩ := entry
    unfold lookup at h
    unfold put
    split at h
    . next hk =>
      cases h
      rw [if_pos hk]
      rw [hk]
    . next hk =>
      rw [if_neg hk]
      rw [ih h]

theorem insert_find? {t : Table κ ν} {key : κ} {value : ν} (h : t.find? key = some value)
    : t.insert key value = t := by
  apply ext
  exact put_lookup h

theorem put_of_notMem {key : κ} {entries : List (κ × ν)} (h : key ∉ entries.map Prod.fst)
    (value : ν)
    : put key value entries = entries ++ [(key, value)] := by
  induction entries with
  | nil => rfl
  | cons entry rest ih =>
    obtain ⟨k, v⟩ := entry
    simp only [List.map_cons, List.mem_cons, not_or] at h
    unfold put
    rw [if_neg (Ne.symm h.1)]
    rw [ih h.2]
    rfl

theorem entries_insert {t : Table κ ν} {key : κ} (h : key ∉ t.keys) (value : ν)
    : (t.insert key value).entries = t.entries ++ [(key, value)] := by
  apply put_of_notMem h

theorem entries_foldl_insert {α : Type} (f : α → ν) {entries : List (κ × α)} {t : Table κ ν}
    (h : (t.keys ++ entries.map Prod.fst).Nodup)
    : (entries.foldl (fun t (key, a) => t.insert key (f a)) t).entries
        =
      t.entries ++ entries.map fun (key, a) => (key, f a) := by
  induction entries generalizing t with
  | nil => simp
  | cons entry rest ih =>
    obtain ⟨key, a⟩ := entry
    have hnew : key ∉ t.keys := by
      intro hkey
      exact (List.nodup_append.1 h).2.2 key hkey key (by simp) rfl
    have hentries := entries_insert hnew (f a)
    rw [List.foldl_cons]
    rw [ih]
    . rw [hentries]
      simp
    . unfold keys at h ⊢
      rw [hentries]
      simpa using h

theorem lookup_map (f : ν → ν) (key : κ) (entries : List (κ × ν))
    : lookup key (entries.map fun (k, v) => (k, f v)) = (lookup key entries).map f := by
  induction entries with
  | nil => rfl
  | cons entry rest ih =>
    obtain ⟨k, v⟩ := entry
    simp only [List.map_cons, lookup]
    split
    . rfl
    . exact ih

end HomeHub.Table
