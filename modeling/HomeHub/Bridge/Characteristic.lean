import HomeHub.Json.Compact
import HomeHub.Service.Registry

/-!
Characteristics: the single values that a HomeKit client sees, and the services that group them.
-/

namespace HomeHub.Bridge

inductive Error where
  | service (error : ServiceError)
  | unknownAccessory (aid : Nat)
  | unknownService (name : String)
  | unknownCharacteristic (aid : Nat) (characteristic : String)
  | invalidValue (characteristic : String) (value : Json)
  | unknownType (name : String)

def Error.message : Error → String
  | .service error => error.message
  | .unknownAccessory aid => "no accessory with aid " ++ toString aid
  | .unknownService name => "unknown HomeKit service '" ++ name ++ "'"
  | .unknownCharacteristic aid characteristic =>
    "accessory " ++ toString aid ++ " has no characteristic '" ++ characteristic ++ "'"
  | .invalidValue characteristic value =>
    "invalid value " ++ value.compact ++ " for characteristic '" ++ characteristic ++ "'"
  | .unknownType name => "no accessory type registered as '" ++ name ++ "'"

inductive Format where
  | bool
  | string
  deriving DecidableEq, Repr

namespace Format

def accepts : Format → Json → Bool
  | .bool, .bool _ => true
  | .string, .str _ => true
  | _, _ => false

def initial : Format → Json
  | .bool => .bool false
  | .string => .str ""

end Format

structure Characteristic where
  name : String
  format : Format
  value : Json

namespace Characteristic

def new (name : String) (format : Format) : Characteristic :=
  { name, format, value := format.initial }

def store (c : Characteristic) (value : Json) : Except Error Characteristic :=
  if c.format.accepts value then .ok { c with value } else .error (.invalidValue c.name value)

end Characteristic

/-! ### Names -/

def onName : String := "On"

def nameName : String := "Name"

def manufacturerName : String := "Manufacturer"

def modelName : String := "Model"

def serialNumberName : String := "SerialNumber"

def informationService : String := "AccessoryInformation"

def switchService : String := "Switch"

def characteristicsOf? (service : String) : Option (List String) :=
  if service = informationService then
    some [nameName, manufacturerName, modelName, serialNumberName]
  else if service = switchService then some [onName]
  else none

def formatOf? (characteristic : String) : Option Format :=
  if characteristic = onName then some .bool
  else if characteristic ∈ [nameName, manufacturerName, modelName, serialNumberName] then
    some .string
  else none

structure Service where
  name : String
  characteristics : List Characteristic

namespace Service

def load (name : String) : Except Error Service :=
  match characteristicsOf? name with
  | none => .error (.unknownService name)
  | some names =>
    .ok
      { name
        characteristics := names.map fun c => Characteristic.new c ((formatOf? c).getD .string) }

def characteristic? (service : Service) (name : String) : Option Characteristic :=
  service.characteristics.find? (·.name == name)

end Service

end HomeHub.Bridge
