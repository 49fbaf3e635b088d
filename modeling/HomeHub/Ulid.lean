/-!
ULIDs: 128-bit ids written with 26 digits of base 32.
-/

namespace HomeHub.Ulid

def alphabet : List Char :=
  "0123456789ABCDEFGHJKMNPQRSTVWXYZ".toList

def digit (n : Nat) : Char :=
  alphabet.getD (n % 32) '0'

def digits : Nat → Nat → List Char
  | 0, _ => []
  | width + 1, n => digits width (n / 32) ++ [digit n]

def length : Nat := 26

def text (n : Nat) : String :=
  String.ofList (digits length n)

def isUlid (s : String) : Bool :=
  s.length == length && s.toList.all alphabet.contains

end HomeHub.Ulid
