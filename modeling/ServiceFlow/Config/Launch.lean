import ServiceFlow.Config.Basic
import ServiceFlow.Dpe.Control

/-!
# Deploying a configuration

A configuration is carried out in a fixed order: the DPE is started, it takes its front-end if one is
given, and the containers and then the services are deployed as they are listed.

* `Config.launch` does all of it over a bus, and stops at the first step that fails.
-/

namespace ServiceFlow

/-- Why a configuration is not carried out. -/
inductive LaunchError where
  | name (cause : NameError)
  | bus (cause : BusError)
  | control (cause : ControlError)
  | deploy (cause : DeployError)

/-- The wording of each cause. -/
def LaunchError.message : LaunchError → String
  | .name cause => cause.message
  | .bus cause => cause.message
  | .control cause => cause.message
  | .deploy cause => cause.message

/-- A DPE that takes control requests on a subscription. -/
structure RunningDpe (E : Type) where
  dpe : Dpe E
  subscription : Nat

namespace Dpe

variable {E : Type}

/-- Deploys containers in turn, as far as they can be. -/
def deployAll (d : Dpe E) (x : Exchange) :
    List (Name × ContainerSection) → Dpe E × Exchange × Except DeployError Unit
  | [] => (d, x, .ok ())
  | (name, s) :: rest =>
    match d.deploy x name s.description with
    | (d, x, .ok ()) => d.deployAll x rest
    | r => r

/-- Deploys services in turn, as far as they can be. -/
def deployServices [EngineModel E] (d : Dpe E) (x : Exchange) :
    List ServiceSpec → Dpe E × Exchange × Except DeployError Unit
  | [] => (d, x, .ok ())
  | spec :: rest =>
    match d.deployService x spec with
    | (d, x, .ok _) => d.deployServices x rest
    | (d, x, .error e) => (d, x, .error e)

/-- Takes the front-end, if one is given. -/
def takeFrontEnd [EngineModel E] (d : Dpe E) (x : Exchange) :
    Option Name → Dpe E × Exchange × Except ControlError Unit
  | none => (d, x, .ok ())
  | some frontEnd =>
    match d.apply x (.setFrontEnd frontEnd) with
    | (d, x, .ok _) => (d, x, .ok ())
    | (d, x, .error e) => (d, x, .error e)

end Dpe

namespace Config

variable {E : Type}

/-- Deploys the containers and the services of a configuration on its DPE. -/
def deployOn [EngineModel E] (c : Config) (cores : UInt64) (d : Dpe E) (x : Exchange) :
    Dpe E × Exchange × Except LaunchError Unit :=
  match c.containerNames with
  | .error e => (d, x, .error (.name e))
  | .ok containers =>
    match d.deployAll x containers with
    | (d, x, .error e) => (d, x, .error (.deploy e))
    | (d, x, .ok ()) =>
      match c.specs cores with
      | .error e => (d, x, .error (.name e))
      | .ok specs =>
        match d.deployServices x specs with
        | (d, x, .ok ()) => (d, x, .ok ())
        | (d, x, .error e) => (d, x, .error (.deploy e))

/-- Lets a started DPE take its front-end and deploys what the configuration lists. -/
def furnish [EngineModel E] (c : Config) (cores : UInt64) (d : Dpe E) (x : Exchange) :
    Dpe E × Exchange × Except LaunchError Unit :=
  match c.frontEnd with
  | .error e => (d, x, .error (.name e))
  | .ok frontEnd =>
    match d.takeFrontEnd x frontEnd with
    | (d, x, .error e) => (d, x, .error (.control e))
    | (d, x, .ok ()) => c.deployOn cores d x

/-- Starts the DPE of a configuration, on a machine of so many cores, with the engine types of a
registry. -/
def launch [EngineModel E] (c : Config) (r : EngineRegistry E) (cores : UInt64) (x : Exchange) :
    Exchange × Except LaunchError (RunningDpe E) :=
  match do Dpe.new (← c.dpeName) ⟨r, c.settings cores⟩ with
  | .error e => (x, .error (.name e))
  | .ok d =>
    match d.start x with
    | (x, .error e) => (x, .error (.bus e))
    | (x, .ok subscription) =>
      match c.furnish cores d x with
      | (_, x, .error e) => (x, .error e)
      | (d, x, .ok ()) => (x, .ok ⟨d, subscription⟩)

end Config

end ServiceFlow
