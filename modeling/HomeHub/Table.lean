/-!
Tables: finite maps as lists of entries, in the order in which the keys first came in.
-/

namespace HomeHub

structure Table (κ ν : Type) where
  entries : List (κ × ν)
  distinct : (entries.map Prod.fst).Nodup

namespace Table

variable {κ ν : Type} [DecidableEq κ]

instance : EmptyCollection (Table κ ν) := ⟨⟨[], by simp⟩⟩

instance : Inhabited (Table κ ν) := ⟨∅⟩

def keys (t : Table κ ν) : List κ :=
  t.entries.map Prod.fst

def values (t : Table κ ν) : List ν :=
  t.entries.map Prod.snd

def lookup (key : κ) : List (κ × ν) → Option ν
  | [] => none
  | (k, v) :: rest => if k = key then some v else lookup key rest

def find? (t : Table κ ν) (key : κ) : Option ν :=
  lookup key t.entries

def contains (t : Table κ ν) (key : κ) : Bool :=
  (t.find? key).isSome

def put (key : κ) (value : ν) : List (κ × ν) → List (κ × ν)
  | [] => [(key, value)]
  | (k, v) :: rest => if k = key then (key, value) :: rest else (k, v) :: put key value rest

theorem lookup_put (key other : κ) (value : ν) (entries : List (κ × ν)) :
    lookup other (put key value entries) =
      if key = other then some value else lookup other entries := by
  induction entries with
  | nil => simp [put, lookup]
  | cons entry rest ih =>
    rcases entry with ⟨k, v⟩
    by_cases h : k = key
    · subst h
      by_cases h' : k = other <;> simp [put, lookup, h']
    · by_cases h' : k = other
      · subst h'
        simp [put, lookup, h, Ne.symm h]
      · simp [put, lookup, h, h', ih]

theorem mem_keys_put {key k : κ} {value : ν} {entries : List (κ × ν)} :
    k ∈ (put key value entries).map Prod.fst ↔ k = key ∨ k ∈ entries.map Prod.fst := by
  induction entries with
  | nil => simp [put]
  | cons entry rest ih =>
    rcases entry with ⟨l, v⟩
    by_cases h : l = key
    · subst h; simp [put]
    · simp only [put, h, if_false, List.map_cons, List.mem_cons, ih]
      constructor <;> rintro (h | h | h) <;> simp [h]

theorem nodup_put {key : κ} {value : ν} {entries : List (κ × ν)}
    (h : (entries.map Prod.fst).Nodup) : ((put key value entries).map Prod.fst).Nodup := by
  induction entries with
  | nil => simp [put]
  | cons entry rest ih =>
    rcases entry with ⟨k, v⟩
    simp only [List.map_cons, List.nodup_cons] at h
    by_cases hk : k = key
    · subst hk; simpa [put] using h
    · simp only [put, hk, if_false, List.map_cons, List.nodup_cons]
      exact ⟨fun hm => (mem_keys_put.1 hm).elim hk h.1, ih h.2⟩

def insert (t : Table κ ν) (key : κ) (value : ν) : Table κ ν :=
  ⟨put key value t.entries, nodup_put t.distinct⟩

theorem find?_insert (t : Table κ ν) (key other : κ) (value : ν) :
    (t.insert key value).find? other = if key = other then some value else t.find? other :=
  lookup_put key other value t.entries

def modify (t : Table κ ν) (key : κ) (f : ν → ν) : Table κ ν :=
  match t.find? key with
  | some value => t.insert key (f value)
  | none => t

theorem find?_modify (t : Table κ ν) (key other : κ) (f : ν → ν) :
    (t.modify key f).find? other =
      if key = other then (t.find? other).map f else t.find? other := by
  unfold modify
  split
  · next value h =>
    rw [find?_insert]
    split
    · next hk => subst hk; simp [h]
    · rfl
  · next h =>
    split
    · next hk => subst hk; simp [h]
    · rfl

def erase (t : Table κ ν) (key : κ) : Table κ ν :=
  ⟨t.entries.filter (·.1 ≠ key), t.distinct.sublist (List.Sublist.map _ List.filter_sublist)⟩

def size (t : Table κ ν) : Nat :=
  t.entries.length

end Table

end HomeHub
