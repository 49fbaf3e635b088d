import HomeHub.Proofs.Gateway.Discovery
import HomeHub.Proofs.Light.Add

/-!
Setting up a gateway is all or nothing: if one exchange fails, its error is the result and the
lights are as before; otherwise all that has been found is added, unless the ids are exhausted.
-/

namespace HomeHub.Light.Component

variable {κ : Type}

end HomeHub.Light.Component

namespace HomeHub.Gateway

open Light (Component Registered View)

variable {κ : Type}

namespace Fleet

variable {γ : Type}

end Fleet

def threeDevices (commands : List Command) : Except Error Response :=
  match commands.getLast? with
  | some .listDevices => .ok (.deviceIds [1, 2, 3])
  | some (.getDevice id) =>
    let lightControl := if id = 1 then some { lights := [{}] } else if id = 2 then some {} else none
    .ok (.device { id, name := "Device " ++ toString id, lightControl })
  | some .listGroups => .ok (.groupIds [9])
  | some (.getGroup id) => .ok (.group { id, name := "Hall" })
  | _ => .error (.gateway "out of order")

example
    : (setUp (oracle threeDevices) { host := "gateway" } id Fleet.view { gateway := [] } {}
        .simulated).result.map (·.map (·.text))
        =
      .ok ["light.device_1", "light.hall"] := by
  rfl

end HomeHub.Gateway
