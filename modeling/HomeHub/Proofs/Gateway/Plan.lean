import HomeHub.Gateway.Lamp

/-!
What a light is told when it is turned on: at most three changes, one a stage, each of them told by
the options that ask for it and by what the light is able to do.
-/

namespace HomeHub.Gateway

open Light (TurnOnParams)

namespace LightAction

end LightAction

namespace Lamp

/-! ### The stages one by one -/

variable (s : Snapshot) (params : TurnOnParams)

variable {s params} {action : LightAction}

end Lamp

end HomeHub.Gateway
