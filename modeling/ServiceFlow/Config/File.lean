import ServiceFlow.Config.Check
import ServiceFlow.Toml.Reader
import ServiceFlow.Yaml.Reader

/-!
# Configuration files

A configuration is read from a file in TOML, if the name of the file ends so, or else in YAML.

* `Config.load` takes the content of a file, none if the file cannot be read.
* `Config.loadValid` also refuses a configuration with problems.
-/

namespace ServiceFlow

/-- The format of a file. -/
inductive FileFormat where
  | yaml
  | toml
deriving DecidableEq, Repr

/-- Why there is no configuration. -/
inductive ConfigError where
  | unreadable (path : String)
  | malformed (format : FileFormat)
  | invalid (problems : List ConfigProblem)
deriving DecidableEq, Repr

/-- The wording of each cause. -/
def ConfigError.message : ConfigError → String
  | .unreadable path => s!"failed to read config file '{path}'"
  | .malformed .yaml => "failed to parse YAML config"
  | .malformed .toml => "failed to parse TOML config"
  | .invalid problems =>
    "configuration validation failed:\n" ++
      "\n".intercalate (problems.map ConfigProblem.message)

/-- What stands in the name of a file after its last dot, if something stands before it. -/
def extension? (path : String) : Option (List Char) :=
  let file := path.toList.reverse.takeWhile (· != '/')
  match Text.splitFirst? '.' file with
  | some (ending, _ :: _) => some ending.reverse
  | _ => none

/-- The format of the file at a path; the case of letters does not count. -/
def FileFormat.ofPath (path : String) : FileFormat :=
  if (extension? path).map (List.map Char.toLower) = some "toml".toList then .toml else .yaml

/-- YAML: an empty text stands for an empty list or table. -/
def Reading.yaml : Reading := ⟨.never, true, fun _ => false⟩

/-- TOML: tables may be given as lists, and a choice as the only key of a table beside an empty list or
table. -/
def Reading.toml : Reading :=
  ⟨.leading, false, fun
    | .list [] | .table [] => true
    | _ => false⟩

namespace Config

/-- Reads a configuration from a text. -/
def parse? (format : FileFormat) (content : String) : Option Config :=
  match format with
  | .yaml => do ofTree? .yaml (← Yaml.parse? content)
  | .toml => do ofTree? .toml (← Toml.parse? content)

/-- Reads a configuration from the content of the file at a path, none if it cannot be read. -/
def load (path : String) (content : Option String) : Except ConfigError Config :=
  match content with
  | none => .error (.unreadable path)
  | some text =>
    let format := FileFormat.ofPath path
    match parse? format text with
    | none => .error (.malformed format)
    | some c => .ok c

/-- Reads a configuration and refuses one with problems. -/
def loadValid {E : Type} (r : EngineRegistry E) (path : String) (content : Option String) :
    Except ConfigError Config := do
  let c ← load path content
  match c.validate r with
  | .ok () => return c
  | .error problems => throw (.invalid problems)

end Config

end ServiceFlow
