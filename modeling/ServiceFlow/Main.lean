import ServiceFlow.Config.File
import ServiceFlow.Config.Session

/-!
# The command line

`dpe <config.yaml|config.toml> [input_text]` starts the DPE of a configuration, runs its request, with
the given text as input if there is one, and prints each report until none comes.
-/

namespace ServiceFlow.CommandLine

/-- The size of a pool that is given nowhere: the number of cores is not known here. -/
def fallbackPoolSize : UInt64 := 2

/-- Prints what was logged, but for details. -/
def printLogs (x : Exchange) : IO Unit :=
  for e in x.logs do
    match e.level with
    | .error | .warn | .info => IO.eprintln e.line
    | _ => pure ()

/-- Prints what is deployed. -/
def printDeployed (c : Config) (dpe : Name) (site : Site Engine) : IO Unit := do
  IO.println s!"DPE {dpe} running"
  for d in site.nodes do
    for container in d.dpe.containers.names do
      IO.println s!"  container {container}"
  for spec in ((c.specs fallbackPoolSize).toOption.getD []) do
    IO.println s!"    service {spec.name} ({spec.engineType}, pool_size={spec.poolSize.toNat})"

/-- Prints a report. -/
def printReport (m : Message) : IO Unit := do
  let service := (Text.after? "data:".toList m.topic.text.toList).getD m.topic.text.toList
  let state := m.header.state.getD "-"
  let elapsed := m.header.executionMs.toNat
  IO.println
    s!"  {String.ofList service} [{elapsed} ms, state {state}]: {Text.Utf8.decodeLossy m.data}"

/-- Follows the reports to the end, and gives what went wrong. -/
partial def follow (s : Session) (reports : Nat) : IO (Session × Option String) := do
  match s.next with
  | (s, .data m) =>
    printReport m
    follow s (reports + 1)
  | (s, .other _) => follow s reports
  | (s, .failure m) => return (s, some s!"{m.header.author}: {Text.Utf8.decodeLossy m.data}")
  | (s, .quiet) =>
    if reports = 0 then
      return (s, some s!"no service produced output within {Text.duration s.timeoutMs}")
    else return (s, none)

/-- Runs a request and prints what comes of it. -/
def runRequest (site : Site Engine) (dpe : Name) (r : RequestSection) (input : String) :
    IO (Except String Unit) := do
  IO.println s!"\nComposition: {r.composition}"
  IO.println s!"Input: \"{input}\""
  match Session.start site dpe r input with
  | .error e => return .error e.message
  | .ok s =>
    let (s, failure) ← follow s 0
    let s := s.stop
    printLogs s.desk.site.exchange
    let t := s.desk.bus.traffic
    IO.println (s!"\nTransport: {t.messages.toNat} messages, {t.bytes.toNat} bytes " ++
      s!"({t.payloadBytes.toNat} payload bytes)")
    match failure with
    | none => return .ok ()
    | some text => return .error text

/-- Starts the DPE of a configuration and runs its request. -/
def runConfig (c : Config) (input : Option String) : IO (Except String Unit) := do
  match Session.site c fallbackPoolSize, c.dpeName with
  | .ok site, .ok dpe =>
    printDeployed c dpe site
    match c.request with
    | none =>
      IO.println "No request configured"
      return .ok ()
    | some r => runRequest site dpe r (input.getD r.input)
  | .error e, _ => return .error e.message
  | _, .error e => return .error e.message

/-- The text of a file, if it can be read. -/
def readText? (path : String) : IO (Option String) := do
  try
    return some (← IO.FS.readFile path)
  catch _ => return none

/-- Runs the configuration at a path. -/
def runPath (path : String) (input : Option String) : IO (Except String Unit) := do
  match Config.loadValid EngineRegistry.standard path (← readText? path) with
  | .error e => return .error s!"loading {path}: {e.message}"
  | .ok c => runConfig c input

end ServiceFlow.CommandLine

open ServiceFlow.CommandLine in
/-- The program. -/
def main (args : List String) : IO UInt32 := do
  match args with
  | [] =>
    IO.eprintln "Usage: dpe <config.yaml|config.toml> [input_text]"
    return 1
  | path :: rest =>
    match ← runPath path rest.head? with
    | .ok () => return 0
    | .error text =>
      IO.eprintln s!"Error: {text}"
      return 1
