/-!
Slugs: the lower-case words that entity ids are made of, and how a display name is turned into one.
-/

namespace HomeHub.Slug

def isSlugChar (c : Char) : Bool :=
  c.isLower || c.isDigit || c == '_'

def isWord (s : String) : Bool :=
  s.toList.all isSlugChar && s.toList.head? != some '_' && s.toList.getLast? != some '_'

def hasDoubled : List Char → Bool
  | '_' :: '_' :: _ => true
  | _ :: cs => hasDoubled cs
  | [] => false

def ofName (name : String) : String :=
  String.ofList (go name.toList [])
where
  /-- The second list is what has been written so far, last character first. -/
  go : List Char → List Char → List Char
    | [], written => (written.dropWhile (· == '_')).reverse
    | c :: cs, written =>
      if c.isAlphanum then go cs (c.toLower :: written)
      else if written.isEmpty || written.head? == some '_' then go cs written
      else go cs ('_' :: written)

end HomeHub.Slug
