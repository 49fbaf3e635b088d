import HomeHub.EntityId.Basic

/-!
Ids for new entities: the slug of the display name, with a numeric suffix where that id is taken.
-/

namespace HomeHub.EntityId

def baseFor (domain name : String) : String :=
  let slug := Slug.ofName name
  if slug = "" then domain else slug

/-- Suffixes are positive 32-bit numbers. -/
def lastSuffix : Nat := 2147483647

def generate (domain name : String) (isTaken : EntityId → Bool) : Except Error EntityId := do
  let base := baseFor domain name
  let first ← ofParts domain base
  if isTaken first then search base (lastSuffix - 1) 2 else return first
where
  search (base : String) : Nat → Nat → Except Error EntityId
    | 0, _ => .error .noFreeSuffix
    | left + 1, suffix => do
      let candidate ← ofParts domain (base ++ "_" ++ toString suffix)
      if isTaken candidate then search base left (suffix + 1) else return candidate

end HomeHub.EntityId
