import HomeHub.Bridge.Characteristic

/-!
Accessories: what a HomeKit client sees of an entity.
-/

namespace HomeHub.Bridge

def manufacturer : String := "Home Assistant"

def switchCategory : String := "SWITCH"

structure Accessory where
  displayName : String
  entityId : EntityId
  category : String
  aid : Nat
  services : List Service

namespace Accessory

def service? (accessory : Accessory) (name : String) : Option Service :=
  accessory.services.find? (·.name == name)

def characteristic? (accessory : Accessory) (name : String) : Option Characteristic :=
  accessory.services.findSome? (·.characteristic? name)

def attach (accessory : Accessory) (service : String) : Except Error Accessory :=
  (Service.load service).map fun s => { accessory with services := accessory.services ++ [s] }

def replaceIn (c : Characteristic) : List Characteristic → List Characteristic
  | [] => []
  | d :: rest => if d.name = c.name then c :: rest else d :: replaceIn c rest

def replaceAmong (c : Characteristic) : List Service → List Service
  | [] => []
  | s :: rest =>
    if (s.characteristic? c.name).isSome then
      { s with characteristics := replaceIn c s.characteristics } :: rest
    else s :: replaceAmong c rest

def store (accessory : Accessory) (name : String) (value : Json) : Except Error Accessory :=
  match accessory.characteristic? name with
  | none => .error (.unknownCharacteristic accessory.aid name)
  | some c =>
    (c.store value).map fun c => { accessory with services := replaceAmong c accessory.services }

def new (displayName : String) (entityId : EntityId) (category : String) (aid : Nat) :
    Except Error Accessory := do
  let bare : Accessory := { displayName, entityId, category, aid, services := [] }
  let named ← (← bare.attach informationService).store nameName (.str displayName)
  let made ← named.store manufacturerName (.str manufacturer)
  let modelled ← made.store modelName (.str category)
  modelled.store serialNumberName (.str entityId.text)

end Accessory

end HomeHub.Bridge
