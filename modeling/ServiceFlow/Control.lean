import ServiceFlow.Name.Text
import ServiceFlow.Text.Blank

/-!
# Control requests

A DPE is told what to do by one line of text: a verb, then its arguments, with a `?` before each of
them. A description is the last argument and may itself contain `?`.

* `ControlRequest.text` writes a request, `ControlRequest.parse` reads one. White space around the line
  does not count.
* A fault is looked for in the verb, then in the number of arguments, then in the arguments from the
  left.
-/

namespace ServiceFlow

open Text

/-- The verbs. -/
inductive ControlVerb where
  | startDpe
  | stopDpe
  | pingDpe
  | setFrontEnd
  | startContainer
  | stopContainer
  | deployService
  | removeService
  | reportDone
  | reportData
deriving DecidableEq, Repr

namespace ControlVerb

/-- The word of a verb. -/
def text : ControlVerb → String
  | .startDpe => "START_DPE"
  | .stopDpe => "STOP_DPE"
  | .pingDpe => "PING_DPE"
  | .setFrontEnd => "SET_FRONT_END"
  | .startContainer => "START_CONTAINER"
  | .stopContainer => "STOP_CONTAINER"
  | .deployService => "DEPLOY_SERVICE"
  | .removeService => "REMOVE_SERVICE"
  | .reportDone => "SERVICE_REPORT_DONE"
  | .reportData => "SERVICE_REPORT_DATA"

/-- All verbs. -/
def all : List ControlVerb :=
  [.startDpe, .stopDpe, .pingDpe, .setFrontEnd, .startContainer, .stopContainer, .deployService,
   .removeService, .reportDone, .reportData]

/-- The verb of a word. -/
def ofText? (word : String) : Option ControlVerb := all.find? fun v => v.text == word

/-- The least number of arguments of a verb. -/
def minArguments : ControlVerb → Nat
  | .pingDpe => 0
  | .setFrontEnd | .deployService => 3
  | .reportDone | .reportData => 2
  | _ => 1

/-- The verb takes a description after its other arguments. -/
def takesDescription : ControlVerb → Bool
  | .startContainer | .deployService => true
  | _ => false

/-- The numbers of arguments of a verb, in words. -/
def arityText (v : ControlVerb) : String :=
  let least := toString v.minArguments
  if v.takesDescription then least ++ "-" ++ toString (v.minArguments + 1) else least

end ControlVerb

/-- What a DPE is asked to do. -/
inductive ControlRequest where
  | startDpe (dpe : Name)
  | stopDpe (dpe : Name)
  | pingDpe
  | setFrontEnd (frontEnd : Name)
  | startContainer (container : Name) (description : String)
  | stopContainer (container : Name)
  | deployService (service : Name) (engineType : String) (poolSize : UInt64) (description : String)
  | removeService (service : Name)
  | reportDone (service : Name) (every : UInt32)
  | reportData (service : Name) (every : UInt32)
deriving DecidableEq

/-- Why a line is no request. -/
inductive ControlFault where
  | empty
  | unknownVerb (word : String)
  | arity (verb : ControlVerb) (got : Nat)
  | invalidArgument (verb : ControlVerb) (value reason : String)
deriving DecidableEq, Repr

/-- The wording of each fault. -/
def ControlFault.message : ControlFault → String
  | .empty => "empty control command"
  | .unknownVerb word => s!"unknown control verb '{word}'"
  | .arity verb got =>
    verb.text ++ " expects " ++ verb.arityText ++ " argument(s), got " ++ toString got
  | .invalidArgument verb value reason =>
    verb.text ++ ": invalid argument '" ++ value ++ "': " ++ reason

namespace ControlRequest

/-! ## Writing -/

/-- The verb of a request. -/
def verb : ControlRequest → ControlVerb
  | .startDpe _ => .startDpe
  | .stopDpe _ => .stopDpe
  | .pingDpe => .pingDpe
  | .setFrontEnd _ => .setFrontEnd
  | .startContainer _ _ => .startContainer
  | .stopContainer _ => .stopContainer
  | .deployService _ _ _ _ => .deployService
  | .removeService _ => .removeService
  | .reportDone _ _ => .reportDone
  | .reportData _ _ => .reportData

/-- A description as an argument; an empty one is left out. -/
def descriptionArguments (description : String) : List String :=
  if description.isEmpty then [] else [description]

/-- The arguments of a request. -/
def arguments : ControlRequest → List String
  | .startDpe dpe | .stopDpe dpe => [dpe.text]
  | .pingDpe => []
  | .setFrontEnd f => [f.host, toString f.port.toNat, f.lang.text]
  | .startContainer c description => c.text :: descriptionArguments description
  | .stopContainer c => [c.text]
  | .deployService n engineType poolSize description =>
    [n.text, engineType, toString poolSize.toNat] ++ descriptionArguments description
  | .removeService n => [n.text]
  | .reportDone n every | .reportData n every => [n.text, toString every.toNat]

/-- The line of a request. -/
def text (r : ControlRequest) : String := join "?" (r.verb.text :: r.arguments)

/-! ## Reading -/

/-- The argument at a position, empty if there is none. -/
def argument (parts : List (List Char)) (i : Nat) : List Char := parts.getD i []

/-- The arguments from a position on as one text. -/
def descriptionFrom (parts : List (List Char)) (i : Nat) : String :=
  String.ofList (joinWith '?' (parts.drop i))

/-- The argument at a position as a name of one level. -/
def nameArgument (verb : ControlVerb) (parts : List (List Char)) (i : Nat) (kind : NameKind) :
    Except ControlFault Name :=
  let value := String.ofList (argument parts i)
  match Name.parseKind kind value with
  | .ok n => .ok n
  | .error e => .error (.invalidArgument verb value e.message)

/-- The argument at a position as a number of at most `max`. -/
def numberArgument (verb : ControlVerb) (parts : List (List Char)) (i max : Nat) :
    Except ControlFault Nat :=
  match readNat max (argument parts i) with
  | .ok n => .ok n
  | .error e => .error (.invalidArgument verb (String.ofList (argument parts i)) e.message)

/-- The three arguments that name a front-end. -/
def frontEndArguments (parts : List (List Char)) : Except ControlFault Name := do
  let port ← numberArgument .setFrontEnd parts 1 65535
  let word := String.ofList (argument parts 2)
  match Lang.ofText? word with
  | none => throw (.invalidArgument .setFrontEnd word (NameError.unknownLang word).message)
  | some lang =>
    let host := String.ofList (argument parts 0)
    match Name.makeDpe host (some (UInt16.ofNat port)) lang with
    | .ok n => return n
    | .error e => throw (.invalidArgument .setFrontEnd host e.message)

/-- The number of arguments is one that the verb takes. -/
def arityAllows (verb : ControlVerb) (count : Nat) : Bool :=
  if verb.takesDescription then verb.minArguments ≤ count else count == verb.minArguments

/-- The request of a verb with its arguments. -/
def ofArguments (verb : ControlVerb) (parts : List (List Char)) :
    Except ControlFault ControlRequest :=
  if !arityAllows verb parts.length then .error (.arity verb parts.length)
  else
    match verb with
    | .startDpe => do return .startDpe (← nameArgument verb parts 0 .dpe)
    | .stopDpe => do return .stopDpe (← nameArgument verb parts 0 .dpe)
    | .pingDpe => .ok .pingDpe
    | .setFrontEnd => do return .setFrontEnd (← frontEndArguments parts)
    | .startContainer => do
      return .startContainer (← nameArgument verb parts 0 .container) (descriptionFrom parts 1)
    | .stopContainer => do return .stopContainer (← nameArgument verb parts 0 .container)
    | .deployService => do
      let service ← nameArgument verb parts 0 .service
      let poolSize ← numberArgument verb parts 2 maxWord
      return .deployService service (String.ofList (argument parts 1)) (UInt64.ofNat poolSize)
        (descriptionFrom parts 3)
    | .removeService => do return .removeService (← nameArgument verb parts 0 .service)
    | .reportDone => do
      let service ← nameArgument verb parts 0 .service
      let every ← numberArgument verb parts 1 (UInt32.size - 1)
      return .reportDone service (UInt32.ofNat every)
    | .reportData => do
      let service ← nameArgument verb parts 0 .service
      let every ← numberArgument verb parts 1 (UInt32.size - 1)
      return .reportData service (UInt32.ofNat every)

/-- The request that a line writes. -/
def parse (s : String) : Except ControlFault ControlRequest :=
  let line := trim s.toList
  if line.isEmpty then .error .empty
  else
    let (word, parts) :=
      match splitFirst? '?' line with
      | some (word, rest) => (String.ofList word, splitAll '?' rest)
      | none => (String.ofList line, [])
    match ControlVerb.ofText? word with
    | none => .error (.unknownVerb word)
    | some verb => ofArguments verb parts

end ControlRequest

end ServiceFlow
