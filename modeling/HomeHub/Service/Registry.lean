import HomeHub.Service.Call
import HomeHub.Table

/-!
Services and the handlers registered for them.
-/

namespace HomeHub

inductive ServiceError where
  | notFound (domain service : String)
  | callFailed (text : String)
  | invalidData (text : String)
  deriving DecidableEq, Repr

def ServiceError.message : ServiceError → String
  | .notFound domain service => "service not found: " ++ ServiceCall.serviceId domain service
  | .callFailed text => "service call failed: " ++ text
  | .invalidData text => "invalid service data: " ++ text

structure Registry (η : Type) where
  handlers : Table String η := ∅

namespace Registry

variable {η : Type}

def register (registry : Registry η) (domain service : String) (handler : η) : Registry η :=
  { handlers := registry.handlers.insert (ServiceCall.serviceId domain service) handler }

def find? (registry : Registry η) (domain service : String) : Option η :=
  registry.handlers.find? (ServiceCall.serviceId domain service)

def call {m : Type → Type} [Monad m] (registry : Registry η)
    (run : η → ServiceCall → m (Except ServiceError Unit)) (domain service : String) (data : Json)
    (context : Context) : m (Except ServiceError Unit) :=
  match registry.find? domain service with
  | some handler => run handler ⟨domain, service, data, context⟩
  | none => pure (.error (.notFound domain service))

end Registry

end HomeHub
