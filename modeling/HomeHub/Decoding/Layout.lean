import HomeHub.Decoding.Error

/-!
Records read field by field. A layout lists the fields of a record in the order of their
declaration; a source hands them out by name or by position. Of several faults the one met first
in reading order is reported.
-/

namespace HomeHub.Decoding

structure Fault where
  place : Nat
  error : Error

structure Source (V : Type) where
  field? (name : String) (index : Nat) : Option (Nat × V)
  absent (name : String) (index : Nat) : Fault
  mayOmit : Bool

def Source.ofMembers {K V : Type} (named : K → String → Bool) (members : List (K × V)) :
    Source V where
  field? name _ := go name members 0
  absent name index := ⟨members.length + index, .missingField name⟩
  mayOmit := true
where
  go (name : String) : List (K × V) → Nat → Option (Nat × V)
    | [], _ => none
    | (key, value) :: rest, place =>
      if named key name then some (place, value) else go name rest (place + 1)

def Source.ofItems {V : Type} (items : List V) (expected : String) : Source V where
  field? _ index := items[index]?.map (index, ·)
  absent _ index := ⟨index, .wrongLength index expected⟩
  mayOmit := false

structure Layout (V α : Type) where
  names : List String
  read (source : Source V) (index : Nat) : Except Fault α

namespace Layout

variable {V α β : Type}

def both (f : Except Fault (α → β)) (x : Except Fault α) : Except Fault β :=
  match f, x with
  | .ok f, .ok x => .ok (f x)
  | .ok _, .error e => .error e
  | .error e, .ok _ => .error e
  | .error e, .error e' => .error (if e.place ≤ e'.place then e else e')

instance : Applicative (Layout V) where
  pure a := ⟨[], fun _ _ => .ok a⟩
  seq f x :=
    ⟨f.names ++ (x ()).names,
      fun source index =>
        both (f.read source index) ((x ()).read source (index + f.names.length))⟩

def field (name : String) (decode : V → Except Error α)
    (ifAbsent : Source V → Nat → Except Fault α) : Layout V α where
  names := [name]
  read source index :=
    match source.field? name index with
    | some (place, value) => (decode value).mapError (Fault.mk place)
    | none => ifAbsent source index

def required (name : String) (decode : V → Except Error α) : Layout V α :=
  field name decode fun source index => .error (source.absent name index)

def optional (name : String) (decode : V → Except Error (Option α)) : Layout V (Option α) :=
  field name decode fun source index =>
    if source.mayOmit then .ok none else .error (source.absent name index)

def withDefault (name : String) (default : α) (decode : V → Except Error α) : Layout V α :=
  field name decode fun _ _ => .ok default

def run (layout : Layout V α) (source : Source V) (fault : Option Fault) : Except Error α :=
  let whole : Except Fault Unit := match fault with
    | some f => .error f
    | none => .ok ()
  (both ((layout.read source 0).map fun a _ => a) whole).mapError Fault.error

end Layout

end HomeHub.Decoding
