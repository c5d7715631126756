import ServiceFlow.Name.Basic
import ServiceFlow.Text.Integer
import ServiceFlow.Text.Split

/-!
# Names as text

A name is written `host[%port]_lang[:container[:engine]]`, where the port is left out if it is the
default of the language. Hosts hold ASCII letters, digits, `-` and `.`; containers and engines hold
these and `_`; none may be empty.

* `Name.text` writes a name and `Name.parse` reads one; the port may be written with a sign and
  leading zeros, and also when it is the default.
* `Name.parseKind` reads a name of one level.
* `Name.makeDpe`, `Name.makeContainer` and `Name.makeService` build a name from its components under
  the same rules.

The faults of a text are looked for in a fixed order: too many parts, the language, the port, the
host, the container, the engine.
-/

namespace ServiceFlow

/-- A component that may be ill-formed. -/
inductive NamePart where
  | host
  | container
  | engine
deriving DecidableEq, Repr

/-- Why a text, or a list of components, is no name. -/
inductive NameError where
  | empty
  | missingLang (name : String)
  | unknownLang (lang : String)
  | invalidPort (name port : String)
  | invalidComponent (name : String) (part : NamePart) (value : String)
  | tooManyParts (name : String)
  | wrongKind (name : String) (expected : NameKind)
deriving DecidableEq, Repr

/-- The word for a component. -/
def NamePart.text : NamePart → String
  | .host => "host"
  | .container => "container"
  | .engine => "engine"

/-- A character of a host. -/
def hostChar (c : Char) : Bool := c.isAlphanum || c == '-' || c == '.'

/-- The characters that a component may hold. -/
def NamePart.allows : NamePart → Char → Bool
  | .host, c => hostChar c
  | _, c => hostChar c || c == '_'

/-- The word for a level. -/
def NameKind.text : NameKind → String
  | .dpe => "DPE"
  | .container => "container"
  | .service => "service"

/-- The wording of each fault. -/
def NameError.message : NameError → String
  | .empty => "canonical name is empty"
  | .missingLang name => s!"'{name}' is missing the '_lang' suffix of the DPE part"
  | .unknownLang lang => s!"'{lang}' is not a supported language (expected java, cpp or python)"
  | .invalidPort name port => s!"'{name}' has an invalid port '{port}'"
  | .invalidComponent name part value =>
    "'" ++ name ++ "' has an invalid " ++ part.text ++ " component '" ++ value ++ "'"
  | .tooManyParts name => s!"'{name}' has more than three ':'-separated parts"
  | .wrongKind name expected => "'" ++ name ++ "' is not a " ++ expected.text ++ " name"

namespace Name

/-! ## Writing -/

/-- The port as written after the host: nothing for the default of the language. -/
def portText (port : UInt16) (lang : Lang) : String :=
  if port = lang.defaultPort then "" else "%" ++ toString port.toNat

/-- The part of a name after the DPE. -/
def placeText : Place → String
  | .dpe => ""
  | .container c => ":" ++ c
  | .service c e => ":" ++ c ++ ":" ++ e

/-- The canonical text of a name. -/
def text (n : Name) : String :=
  n.host ++ portText n.port n.lang ++ "_" ++ n.lang.text ++ placeText n.place

/-! ## Components -/

/-- A component is not empty and holds its own characters only. -/
def validPart (part : NamePart) (value : String) : Bool :=
  !value.isEmpty && value.toList.all part.allows

/-- Fails with the name as written when a component is ill-formed. -/
def checkPart (name : String) (part : NamePart) (value : String) : Except NameError Unit :=
  if validPart part value then .ok () else .error (.invalidComponent name part value)

/-- Every component of the name is well-formed, and its port is not zero. -/
def Valid (n : Name) : Prop :=
  validPart .host n.host = true ∧ n.port ≠ 0 ∧
  (∀ c, n.containerPart? = some c → validPart .container c = true) ∧
  (∀ e, n.enginePart? = some e → validPart .engine e = true)

instance (n : Name) : Decidable n.Valid :=
  inferInstanceAs (Decidable
    (validPart .host n.host = true ∧ n.port ≠ 0 ∧
      (∀ c ∈ n.containerPart?, validPart .container c = true) ∧
      (∀ e ∈ n.enginePart?, validPart .engine e = true)))

/-! ## Building -/

/-- The name of a DPE, on the default port of its language unless one is given. -/
def makeDpe (host : String) (port : Option UInt16) (lang : Lang) : Except NameError Name := do
  let name : Name := ⟨host, port.getD lang.defaultPort, lang, .dpe⟩
  checkPart name.text .host host
  if name.port = 0 then throw (.invalidPort name.text "0")
  return name

/-- The name of a container on the DPE that `base` lives on. -/
def makeContainer (base : Name) (container : String) : Except NameError Name := do
  let name : Name := { base with place := .container container }
  checkPart name.text .container container
  return name

/-- The name of a service in the container `base`. -/
def makeService (base : Name) (engine : String) : Except NameError Name :=
  match base.place with
  | .container c => do
    let name : Name := { base with place := .service c engine }
    checkPart name.text .engine engine
    return name
  | _ => .error (.wrongKind base.text .container)

/-! ## Reading -/

/-- A written port: a number from 1 to 65535. -/
def readPort (name : String) (digits : List Char) : Except NameError UInt16 :=
  match Text.readNat 65535 digits with
  | .ok 0 => .error (.invalidPort name (String.ofList digits))
  | .ok n => .ok (UInt16.ofNat n)
  | .error _ => .error (.invalidPort name (String.ofList digits))

/-- The DPE part of `name`: host, port and language, the host not yet checked. -/
def readDpe (name : String) (part : List Char) : Except NameError (String × UInt16 × Lang) :=
  match Text.splitFirst? '_' part with
  | none => .error (.missingLang name)
  | some (hostPort, word) =>
    match Lang.ofText? (String.ofList word) with
    | none => .error (.unknownLang (String.ofList word))
    | some lang =>
      match Text.splitFirst? '%' hostPort with
      | none => .ok (String.ofList hostPort, lang.defaultPort, lang)
      | some (host, digits) => do
        let port ← readPort name digits
        return (String.ofList host, port, lang)

/-- Reads a name of any level. -/
def parse (s : String) : Except NameError Name :=
  if s.isEmpty then .error .empty
  else
    match Text.splitAll ':' s.toList with
    | [d] => do
      let (host, port, lang) ← readDpe s d
      checkPart s .host host
      return ⟨host, port, lang, .dpe⟩
    | [d, c] => do
      let (host, port, lang) ← readDpe s d
      checkPart s .host host
      checkPart s .container (String.ofList c)
      return ⟨host, port, lang, .container (String.ofList c)⟩
    | [d, c, e] => do
      let (host, port, lang) ← readDpe s d
      checkPart s .host host
      checkPart s .container (String.ofList c)
      checkPart s .engine (String.ofList e)
      return ⟨host, port, lang, .service (String.ofList c) (String.ofList e)⟩
    | _ => .error (.tooManyParts s)

/-- Reads a name and requires it to be of one level. -/
def parseKind (kind : NameKind) (s : String) : Except NameError Name := do
  let name ← parse s
  if name.kind = kind then return name else throw (.wrongKind s kind)

/-- Reads the name of a service. -/
def parseService (s : String) : Except NameError Name := parseKind .service s

end Name

instance : ToString Name := ⟨Name.text⟩

end ServiceFlow
