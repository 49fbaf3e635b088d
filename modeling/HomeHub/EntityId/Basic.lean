import HomeHub.Text.Slug

/-!
Entity ids such as `switch.kitchen`: a domain and an object id joined by a dot.
-/

namespace HomeHub

structure EntityId where
  domain : String
  objectId : String
  domain_ne : domain ≠ ""
  objectId_ne : objectId ≠ ""
  domain_word : Slug.isWord domain = true
  domain_single : Slug.hasDoubled domain.toList = false
  objectId_word : Slug.isWord objectId = true
  deriving DecidableEq

namespace EntityId

inductive Error where
  | invalidFormat
  | emptyDomain
  | emptyObjectId
  | invalidDomainChars
  | invalidObjectIdChars
  | noFreeSuffix
  deriving DecidableEq, Repr

def Error.message : Error → String
  | .invalidFormat => "entity_id must contain exactly one '.' separator"
  | .emptyDomain => "domain cannot be empty"
  | .emptyObjectId => "object_id cannot be empty"
  | .invalidDomainChars => "domain contains invalid characters"
  | .invalidObjectIdChars => "object_id contains invalid characters"
  | .noFreeSuffix => "no free suffix left"

def ofParts (domain objectId : String) : Except Error EntityId :=
  -- An empty part is reported before a malformed one, and the domain before the object id.
  if hd : domain = "" then .error .emptyDomain
  else if ho : objectId = "" then .error .emptyObjectId
  else if h : Slug.hasDoubled domain.toList = false ∧ Slug.isWord domain = true then
    if h' : Slug.isWord objectId = true then .ok ⟨domain, objectId, hd, ho, h.2, h.1, h'⟩
    else .error .invalidObjectIdChars
  else .error .invalidDomainChars

def text (id : EntityId) : String :=
  id.domain ++ "." ++ id.objectId

def parse (s : String) : Except Error EntityId :=
  let cs := s.toList
  if cs.count '.' = 1 then
    ofParts (String.ofList (cs.takeWhile (· != '.'))) (String.ofList (cs.dropWhile (· != '.')).tail)
  else .error .invalidFormat

instance : Ord EntityId where
  compare a b := (compare a.domain b.domain).then (compare a.objectId b.objectId)

end EntityId

end HomeHub
