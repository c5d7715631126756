import ServiceFlow.Composition.Compiled
import ServiceFlow.Config.Basic

/-!
# Checking configurations

A configuration is checked before anything is deployed, and every problem is found rather than the
first. The checks, in order: the front-end has the name of a DPE; the default pool is not empty; the
names of the DPE, the containers and the services are well-formed; no container and no service is given
twice; no pool is empty; every engine type is known; the composition of the request compiles.

* `Config.problems` are the problems in the order of the configuration, of which a valid one has none.
* A container whose name is ill-formed hides the problems of its services, and a DPE those of its
  containers.
-/

namespace ServiceFlow

/-- What is wrong with a configuration. A pool that belongs to no service is the DPE's. -/
inductive ConfigProblem where
  | invalidName (cause : NameError)
  | duplicateContainer (container : Name)
  | duplicateService (service : Name)
  | invalidPoolSize (service : Option Name)
  | unknownEngineType (service : Name) (engineType : String) (available : List String)
  | invalidComposition (cause : CompositionError)
deriving DecidableEq, Repr

/-- The wording of each problem. -/
def ConfigProblem.message : ConfigProblem → String
  | .invalidName cause => "invalid name in config: " ++ cause.message
  | .duplicateContainer container => "duplicate container '" ++ container.text ++ "'"
  | .duplicateService service => "duplicate service '" ++ service.text ++ "'"
  | .invalidPoolSize service =>
    "'" ++ (service.map Name.text).getD "dpe" ++ "': pool_size must be greater than zero"
  | .unknownEngineType service engineType available =>
    "service '" ++ service.text ++ "' uses unknown engine type '" ++ engineType ++
      "' (available: " ++ ", ".intercalate available ++ ")"
  | .invalidComposition cause => "invalid request composition: " ++ cause.message

variable {E : Type}

/-- What is wrong with a service of this name, the names before it seen already. -/
def ServiceSection.problems (r : EngineRegistry E) (seen : List Name) (name : Name)
    (s : ServiceSection) : List ConfigProblem :=
  (if name ∈ seen then [.duplicateService name] else []) ++
  (if s.poolSize = some 0 then [.invalidPoolSize (some name)] else []) ++
  (if r.contains s.engineType then [] else [.unknownEngineType name s.engineType r.types])

/-- The services seen after those of a container, and what is wrong with these. -/
def servicesProblems (r : EngineRegistry E) (container : Name) (seen : List Name) :
    List ServiceSection → List Name × List ConfigProblem
  | [] => (seen, [])
  | s :: rest =>
    match container.makeService s.engine with
    | .error e =>
      let (seen, problems) := servicesProblems r container seen rest
      (seen, .invalidName e :: problems)
    | .ok name =>
      let own := s.problems r seen name
      let (seen, problems) := servicesProblems r container (name :: seen) rest
      (seen, own ++ problems)

/-- What is wrong with containers, the containers and services before them seen already. -/
def containersProblems (r : EngineRegistry E) (dpe : Name) (seen services : List Name) :
    List ContainerSection → List ConfigProblem
  | [] => []
  | c :: rest =>
    match dpe.makeContainer c.name with
    | .error e => .invalidName e :: containersProblems r dpe seen services rest
    | .ok name =>
      let own := if name ∈ seen then [.duplicateContainer name] else []
      let (services, problems) := servicesProblems r name services c.services
      own ++ problems ++ containersProblems r dpe (name :: seen) services rest

/-- Compiles a composition for the first service it enters, which reads every clause. -/
def Composition.check (text : String) : Except CompositionError Unit := do
  match ← Composition.entryServices text with
  | [] => return ()
  | entry :: _ =>
    let _ ← Composition.compile text entry
    return ()

namespace Config

/-- What is wrong with the name of the front-end. -/
def frontEndProblems (c : Config) : List ConfigProblem :=
  match c.frontEnd with
  | .error e => [.invalidName e]
  | .ok _ => []

/-- What is wrong with the name of the DPE, or else with what is deployed there. -/
def deploymentProblems (c : Config) (r : EngineRegistry E) : List ConfigProblem :=
  match c.dpeName with
  | .error e => [.invalidName e]
  | .ok dpe => containersProblems r dpe [] [] c.containers

/-- What is wrong with the request. -/
def requestProblems (c : Config) : List ConfigProblem :=
  match c.request with
  | none => []
  | some request =>
    match Composition.check request.composition with
    | .error e => [.invalidComposition e]
    | .ok () => []

/-- Every problem, in the order of the configuration. -/
def problems (c : Config) (r : EngineRegistry E) : List ConfigProblem :=
  c.frontEndProblems ++ (if c.dpe.poolSize = some 0 then [.invalidPoolSize none] else []) ++
    c.deploymentProblems r ++ c.requestProblems

/-- A configuration without problems. -/
def validate (c : Config) (r : EngineRegistry E) : Except (List ConfigProblem) Unit :=
  match c.problems r with
  | [] => .ok ()
  | problems => .error problems

end Config

end ServiceFlow
