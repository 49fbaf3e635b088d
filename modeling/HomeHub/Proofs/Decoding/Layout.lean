import HomeHub.Decoding.Layout

/-!
How layouts read, field by field; with these equations a record that is fine is read by `simp`.
-/

namespace HomeHub.Decoding

@[simp]
theorem mapError_ok {ε ε' α : Type} (f : ε → ε') (a : α) : (Except.ok a).mapError f = .ok a := by
  rfl

theorem mapError_eq_ok_iff {ε ε' α : Type} {x : Except ε α} {f : ε → ε'} {a : α}
    : x.mapError f = .ok a ↔ x = .ok a := by
  cases x with
  | error e =>
    constructor
    . intro h
      contradiction
    . intro h
      contradiction
  | ok b => simp

namespace Source

variable {K V : Type} (named : K → String → Bool)

@[simp]
theorem field?_ofMembers (members : List (K × V)) (name : String) (index : Nat)
    : (ofMembers named members).field? name index = ofMembers.go named name members 0 := by
  rfl

@[simp]
theorem mayOmit_ofMembers (members : List (K × V)) : (ofMembers named members).mayOmit = true := by
  rfl

@[simp]
theorem go_nil (name : String) (place : Nat)
    : ofMembers.go named name ([] : List (K × V)) place = none := by
  rfl

@[simp]
theorem go_cons (name : String) (key : K) (value : V) (members : List (K × V)) (place : Nat)
    : ofMembers.go named name ((key, value) :: members) place
        =
      if named key name then some (place, value)
      else ofMembers.go named name members (place + 1) := by
  rfl

@[simp]
theorem field?_ofItems (items : List V) (expected name : String) (index : Nat)
    : (ofItems items expected).field? name index = items[index]?.map (index, ·) := by
  rfl

end Source

namespace Layout

variable {V α β : Type}

@[simp]
theorem both_ok (f : α → β) (a : α) : both (.ok f) (.ok a) = .ok (f a) := by
  rfl

@[simp]
theorem read_map (f : α → β) (x : Layout V α) (source : Source V) (index : Nat)
    : (f <$> x).read source index = both (.ok f) (x.read source index) := by
  rfl

@[simp]
theorem read_seq (f : Layout V (α → β)) (x : Layout V α) (source : Source V) (index : Nat)
    : (f <*> x).read source index
        =
      both (f.read source index) (x.read source (index + f.names.length)) := by
  rfl

@[simp]
theorem names_map (f : α → β) (x : Layout V α) : (f <$> x).names = x.names := by
  rfl

@[simp]
theorem names_required (name : String) (decode : V → Except Error α)
    : (required name decode).names = [name] := by
  rfl

@[simp]
theorem read_required (name : String) (decode : V → Except Error α) (source : Source V)
    (index : Nat)
    : (required name decode).read source index
        =
      match source.field? name index with
      | some (place, value) => (decode value).mapError (Fault.mk place)
      | none => .error (source.absent name index) := by
  rfl

@[simp]
theorem read_optional (name : String) (decode : V → Except Error (Option α)) (source : Source V)
    (index : Nat)
    : (optional name decode).read source index
        =
      match source.field? name index with
      | some (place, value) => (decode value).mapError (Fault.mk place)
      | none => if source.mayOmit then .ok none else .error (source.absent name index) := by
  rfl

@[simp]
theorem read_withDefault (name : String) (default : α) (decode : V → Except Error α)
    (source : Source V) (index : Nat)
    : (withDefault name default decode).read source index
        =
      match source.field? name index with
      | some (place, value) => (decode value).mapError (Fault.mk place)
      | none => .ok default := by
  rfl

theorem both_eq_ok_iff {f : Except Fault (α → β)} {x : Except Fault α} {b : β}
    : both f x = .ok b ↔ ∃ g, f = .ok g ∧ ∃ a, x = .ok a ∧ g a = b := by
  cases f with
  | error e =>
    cases x with
    | error e' => simp [both]
    | ok a => simp [both]
  | ok g =>
    cases x with
    | error e => simp [both]
    | ok a => simp

theorem run_eq_ok_iff {layout : Layout V α} {source : Source V} {fault : Option Fault} {a : α}
    : layout.run source fault = .ok a ↔ fault = none ∧ layout.read source 0 = .ok a := by
  unfold run
  rw [mapError_eq_ok_iff]
  rw [both_eq_ok_iff]
  cases layout.read source 0 with
  | error e => simp [Except.map]
  | ok b =>
    cases fault with
    | none => simp [Except.map]
    | some f => simp

theorem run_of_read {layout : Layout V α} {source : Source V} {a : α}
    (h : layout.read source 0 = .ok a)
    : layout.run source none = .ok a := by
  exact run_eq_ok_iff.2 ⟨rfl, h⟩

end Layout

end HomeHub.Decoding
