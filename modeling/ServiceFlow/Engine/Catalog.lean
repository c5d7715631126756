import ServiceFlow.Engine.Affixes
import ServiceFlow.Engine.Basic
import ServiceFlow.Json.Basic
import ServiceFlow.Text.Case
import ServiceFlow.Text.Integer

/-!
# The engines that come with the library

Text engines: one changes the case of its input, one reverses it, one counts characters, words and
lines, one says by its state whether its input is empty, short or long, and one puts texts around it.
Three more stand in for engines in rehearsals: an echo with a fixed state, one that always fails, and an
echo that waits for the gate and counts what it was asked for.
-/

namespace ServiceFlow

open Text

/-- The ways to change case. -/
inductive LetterCase where
  | upper
  | lower
  | title
deriving DecidableEq, Repr

/-- A text in another case. -/
def LetterCase.apply (case : LetterCase) (s : String) : String :=
  match case with
  | .upper => String.ofList (Text.upper s.toList)
  | .lower => String.ofList (Text.lower s.toList)
  | .title => String.ofList (Text.title s.toList)

/-- An engine of the library with its state. -/
inductive Engine where
  | changeCase (case : LetterCase)
  | reverse
  | countTokens
  | classifyLength (shortLimit : Nat)
  | addAffixes (affixes : Affixes)
  | stub (name : String) (state : Option String)
  | failing (severity : Severity)
  | gated (started configured : Nat)
deriving DecidableEq

namespace Engine

/-! ## What the text engines compute -/

/-- The number of lines: an end of line need not stand after the last one. -/
def lineCount (cs : List Char) : Nat :=
  match cs.getLast? with
  | none => 0
  | some c => cs.count '\n' + (if c = '\n' then 0 else 1)

/-- The counts of a text; even an empty one has a line. -/
def tokenCounts (s : String) : Json :=
  let cs := s.toList
  .obj [("char_count", .int cs.length), ("word_count", .int (words cs).length),
    ("line_count", .int (max (lineCount cs) 1))]

/-- The state that says how long a text is. -/
def lengthClass (shortLimit length : Nat) : String :=
  if length = 0 then "EMPTY" else if length ≤ shortLimit then "SHORT" else "LONG"

/-- What an engine makes of the text of its input. -/
def ofText (input : EngineData) (f : String → EngineData) : Except EngineFailure EngineData :=
  match input.text with
  | .ok s => .ok (f s)
  | .error e => .error e

/-! ## The operations of an engine -/

/-- Runs an engine on one input. -/
def execute (e : Engine) (input : EngineData) : Execution Engine :=
  match e with
  | .changeCase case =>
    .finished ⟨e, ofText input fun s => .ofText (case.apply s) input.id⟩
  | .reverse =>
    .finished ⟨e, ofText input fun s => .ofText (String.ofList s.toList.reverse) input.id⟩
  | .countTokens => .finished ⟨e, ofText input fun s => .ofJsonText (tokenCounts s).text input.id⟩
  | .classifyLength limit =>
    .finished ⟨e, ofText input fun s =>
      { input with state := some (lengthClass limit s.toList.length) }⟩
  | .addAffixes a => .finished ⟨e, ofText input fun s => .ofText (a.around s) input.id⟩
  | .stub _ state => .finished ⟨e, .ok { input with state := state }⟩
  | .failing severity => .finished ⟨e, .error ⟨severity, "Simulated engine failure"⟩⟩
  | .gated started configured =>
    let e := .gated (started + 1) configured
    .waiting ⟨e, .ok input⟩ ⟨e, .error (.internal "gate closed")⟩

/-- Runs an engine on several inputs, which it gets as one. -/
def executeGroup (e : Engine) (inputs : List EngineData) : Execution Engine :=
  e.execute (EngineData.joined inputs)

/-- The limit that a configuration gives to the length of short texts. -/
def readLimit (input : EngineData) : Except EngineFailure Nat :=
  match input.text with
  | .error e => .error e
  | .ok s =>
    let limit := trim s.toList
    match readNat maxWord limit with
    | .ok n => .ok n
    | .error e =>
      .error (.invalidInput
        ("invalid short limit '" ++ String.ofList limit ++ "': " ++ e.message))

/-- Configures an engine; one that takes no configuration accepts any. -/
def configure (e : Engine) (input : EngineData) : Engine × Except EngineFailure Unit :=
  match e with
  | .classifyLength _ =>
    match readLimit input with
    | .ok n => (.classifyLength n, .ok ())
    | .error f => (e, .error f)
  | .addAffixes _ =>
    match Affixes.read? input.payload with
    | some a => (.addAffixes a, .ok ())
    | none => (e, .error (.invalidInput "invalid prefix/suffix config: "))
  | .gated started configured => (.gated started (configured + 1), .ok ())
  | _ => (e, .ok ())

/-- What an engine says about itself. -/
def metadata : Engine → EngineMetadata
  | .changeCase .upper => .ofText "change_text_case_upper" "Changes the case of the input text"
  | .changeCase .lower => .ofText "change_text_case_lower" "Changes the case of the input text"
  | .changeCase .title => .ofText "change_text_case_title" "Changes the case of the input text"
  | .reverse => .ofText "reverse_text" "Reverses the input text"
  | .countTokens =>
    { EngineMetadata.ofText "token_counter" "Counts characters, words and lines" with
      outputTypes := [EngineData.jsonType] }
  | .classifyLength _ =>
    .ofText "text_length_classifier" "Reports EMPTY, SHORT or LONG depending on the input length"
  | .addAffixes _ => .ofText "prefix_suffix_adder" "Adds a configurable prefix and suffix"
  | .stub name _ => .ofText name "stub"
  | .failing _ => .ofText "failing" "always fails"
  | .gated _ _ => .ofText "gated" "echo gated by a semaphore"

instance : EngineModel Engine := ⟨execute, executeGroup, configure, metadata⟩

end Engine

end ServiceFlow
