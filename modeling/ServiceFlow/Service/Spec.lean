import ServiceFlow.Bus.Error

/-!
# What to deploy

A service is deployed under its name, with the type of its engines and their number. A deployment is
refused when its name has no place where it is asked for, when its engine type is not known, and when
it would have no engine.
-/

namespace ServiceFlow

/-- Why something is not deployed or removed. -/
inductive DeployError where
  | wrongName (cause : NameError)
  | notContained (name parent : Name)
  | unknownContainer (container : Name)
  | unknownService (service : Name)
  | unknownEngineType (engineType : String)
  | invalidPoolSize (service : Name)
  | bus (cause : BusError)
deriving DecidableEq, Repr

/-- The wording of each cause. -/
def DeployError.message : DeployError → String
  | .wrongName cause => cause.message
  | .notContained name parent =>
    "'" ++ name.text ++ "' is not contained by '" ++ parent.text ++ "'"
  | .unknownContainer container => "container '" ++ container.text ++ "' is not deployed"
  | .unknownService service => "service '" ++ service.text ++ "' is not deployed"
  | .unknownEngineType engineType => s!"unknown engine type '{engineType}'"
  | .invalidPoolSize service =>
    "pool size for '" ++ service.text ++ "' must be greater than zero"
  | .bus cause => cause.message

/-- A service to deploy. -/
structure ServiceSpec where
  name : Name
  engineType : String
  poolSize : UInt64
  description : String
deriving DecidableEq

/-- The name is that of a service, and there is an engine at least. -/
def ServiceSpec.validate (s : ServiceSpec) : Except DeployError Unit :=
  if s.name.kind ≠ .service then .error (.wrongName (.wrongKind s.name.text .service))
  else if s.poolSize = 0 then .error (.invalidPoolSize s.name)
  else .ok ()

end ServiceFlow
