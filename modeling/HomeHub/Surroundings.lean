import HomeHub.Timestamp.Basic
import HomeHub.Ulid

/-!
What a hub takes from its surroundings: the time, and ids that nobody has used.
-/

namespace HomeHub

/-- The readings of the clock and the generated ids, in the order in which they are asked for. -/
structure Surroundings where
  clock : Nat → Timestamp
  ids : Nat → String

/-- A clock that never shows a time twice, and ULIDs in ascending order. -/
def Surroundings.simulated : Surroundings where
  clock := Timestamp.reading
  ids := Ulid.text

end HomeHub
