import Mathlib.Logic.Function.Basic
import ServiceFlow.Orchestrator
import ServiceFlow.Proofs.Exchange.Handover
import ServiceFlow.Proofs.Routing.Payloads
import ServiceFlow.Service.Serve

/-!
# Requests on their way through a deployment

Any number of clients, each with a name of its own, start requests on one open bus, and the services
of a deployment pass the data on. The parties and the messages on their way change by events, in any
order:

* **Clients** (`execute`, `executeComposition`, `syncExecute`, `configure`) take a number for each
  request from a count of their own and send its data. One that asks for an answer gives a topic.
* **Services** come and go (`deploy`, `remove`), with any time to live for their groups.
* **Serving** (`serve`): a deployed service takes one of the messages for it, whichever and whenever,
  and gives it to its router.
* **Finishing** (`finish`): the engine of an execution fails or returns any output, at any time later.
  The output goes on under the number of the message that has been served.

Reports and answers are left out: they are published on topics of their own, on which no service
listens. A message that nobody ever takes is lost.

Everything that there is carries the requests that it stems from. These notes change nothing:

* `Deployment.Notes.serve`: with and without them a service comes to the same state and execution.
* `Deployment.Notes.finish`: and the end of an execution sends the same messages.
-/

namespace ServiceFlow

open ServiceFlow.Composition

/-! ## Requests and what stems from them -/

/-- A request: the client that has started it, and how many requests of the client came before. -/
structure Request where
  client : Name
  before : Nat
deriving DecidableEq

/-- The number that the client gives to the request. -/
def Request.number (q : Request) : CommunicationId := Int64.ofNat (q.before + 1)

/-- Something with the requests that it stems from. -/
structure Traced (α : Type) where
  content : α
  origins : List Request

/-- Something made of it alone, which stems from the same requests. -/
def Traced.map {α β : Type} (f : α → β) (t : Traced α) : Traced β := ⟨f t.content, t.origins⟩

/-! ## The parties -/

/-- What a service remembers from message to message. -/
structure TracedService where
  cache : CompositionCache
  router : Router (Traced EngineData)
  states : StateTable

/-- An execution that has been let through, with the requests that its inputs stem from. -/
structure Work where
  service : Name
  job : Job
  origins : List Request

/-- A group that has been completed, with what it has handed out. -/
structure Completion where
  service : Name
  key : GroupKey
  inputs : List (Name × Traced EngineData)

/-- The clients with the number of requests that each has started, the services, the shared memory of
all DPEs, the messages on their way, the executions, and all groups that were ever completed. -/
structure Deployment where
  clients : Name → Orchestrator
  started : Name → Nat
  deployed : NameSet
  services : Name → TracedService
  memory : Table EntryKey (Traced EngineData)
  air : List (Traced Message)
  works : List Work
  completed : List Completion

/-- A service that has not got any message. -/
def TracedService.new (service : Name) (ttl : Option Nat) : TracedService :=
  ⟨.new service, .new service ttl, ∅⟩

/-- What a service makes of a message: its new state, the execution that the message leads to, and the
groups that it completes. -/
structure Reception where
  service : TracedService
  works : List Work
  completed : List Completion

/-- A service takes in a message with its data. -/
def TracedService.take (s : TracedService) (m : Message) (sender : Name) (d : Traced EngineData) (now : Nat) :
    Reception :=
  let states := s.states.record sender d.content.state
  match s.cache.resolve m.header.composition with
  | (cache, _, .error _) => ⟨⟨cache, s.router, states⟩, [], []⟩
  | (cache, _, .ok c) =>
    let n : Router.Numbered (Traced EngineData) := ⟨⟨sender, d, states, now⟩, m.header.id⟩
    let (router, _, answer) := Router.receive c s.router n
    ⟨⟨cache, router, states⟩,
      match answer with
      | .ok (.ready inputs joined) =>
        [⟨s.router.owner, ⟨m, sender, c, inputs.map fun e => e.2.content, joined⟩,
          inputs.flatMap fun e => e.2.origins⟩]
      | _ => [],
      (Router.handedOut c s.router n).map fun e => ⟨s.router.owner, ⟨e.1.id, m.header.id⟩, e.2⟩⟩

/-- The message, with a topic on which an answer is expected. -/
def Message.asking (m : Message) (inquiry : Nat) : Message :=
  { m with header := { m.header with replyTo := some (Topic.reply inquiry).text } }

namespace Deployment

/-- Nothing is deployed, and no client has started a request. -/
def start (timeoutMs : Nat) : Deployment where
  clients n := .new n timeoutMs
  started _ := 0
  deployed := ∅
  services n := .new n none
  memory := []
  air := []
  works := []
  completed := []

/-! ## Clients -/

/-- A client starts a request with data, which it numbers. -/
def number (w : Deployment) (client : Name) (d : EngineData) : Deployment × Traced EngineData :=
  let (o, d) := (w.clients client).number d
  ({ w with
      clients := Function.update w.clients client o
      started := Function.update w.started client (w.started client + 1) },
    ⟨d, [⟨client, w.started client⟩]⟩)

/-- Messages are on their way. -/
def publish (w : Deployment) (ms : List (Traced Message)) : Deployment := { w with air := w.air ++ ms }

/-! ## Services -/

/-- Data goes through shared memory: both services are in one process, and the receiver is deployed. -/
def shares (w : Deployment) (sender receiver : Name) : Bool :=
  sender.sameProcess receiver && decide (receiver ∈ w.deployed)

/-- Where the data of a message is put. -/
def location (w : Deployment) (sender receiver : Name) : DataLocation :=
  if w.shares sender receiver then .sharedMemory else .network

/-- The message that hands data on. -/
def posted (w : Deployment) (sender : Name) (text : String) (d : Traced EngineData)
    (receiver : Name) : Traced Message :=
  d.map fun e => .ofData (.ofName receiver) sender text e (w.location sender receiver)

/-- Data is handed on to a service. -/
def send (sender : Name) (text : String) (d : Traced EngineData) (w : Deployment)
    (receiver : Name) : Deployment :=
  { w with
    memory :=
      if w.shares sender receiver then w.memory.set ⟨receiver, sender, d.content.id⟩ d
      else w.memory
    air := w.air ++ [w.posted sender text d receiver] }

/-- The data of a message. What has been in shared memory stems from what it was put there for, and
from what it was fetched for. -/
def fetch (memory : Table EntryKey (Traced EngineData)) (receiver sender : Name)
    (m : Traced Message) : Table EntryKey (Traced EngineData) × Option (Traced EngineData) :=
  match m.content.location with
  | .network => (memory, some (m.map Message.engineData))
  | .sharedMemory =>
    let key : EntryKey := ⟨receiver, sender, m.content.header.id⟩
    match memory.get? key with
    | none => (memory, none)
    | some d =>
      (memory.erase key,
        some ⟨{ d.content with state := d.content.state <|> m.content.header.state },
          d.origins ++ m.origins⟩)

/-- The message asks the service to execute. -/
def isFor (w : Deployment) (service : Name) (m : Message) : Bool :=
  decide (service ∈ w.deployed) && (Topic.ofName service).covers m.topic && m.action == .execute

/-- A service serves a message. -/
def serve (w : Deployment) (service : Name) (m : Traced Message) (now : Nat) : Deployment :=
  match Name.parse m.content.header.author with
  | .error _ => w
  | .ok sender =>
    match fetch w.memory service sender m with
    | (memory, none) => { w with memory := memory }
    | (memory, some d) =>
      let r := (w.services service).take m.content sender d now
      { w with
        memory := memory
        services := Function.update w.services service r.service
        works := w.works ++ r.works
        completed := w.completed ++ r.completed }

section Serve

variable {w : Deployment} {service sender : Name} {m : Traced Message}
  {memory : Table EntryKey (Traced EngineData)} {d : Traced EngineData} {now : Nat}

theorem serve_missing (hp : Name.parse m.content.header.author = .ok sender)
    (hd : fetch w.memory service sender m = (memory, none)) :
    w.serve service m now = { w with memory := memory } := by
  unfold serve
  simp only [hp, hd]

theorem serve_found (hp : Name.parse m.content.header.author = .ok sender)
    (hd : fetch w.memory service sender m = (memory, some d)) :
    w.serve service m now =
      { w with
        memory := memory
        services := Function.update w.services service
          ((w.services service).take m.content sender d now).service
        works := w.works ++ ((w.services service).take m.content sender d now).works
        completed := w.completed ++ ((w.services service).take m.content sender d now).completed } := by
  unfold serve
  simp only [hp, hd]

end Serve

/-- The output of an execution is handed on, unless an answer is asked for. -/
def handOn (w : Deployment) (j : Work) (output : EngineData) : Deployment :=
  match j.job.request.header.replyTo with
  | some _ => w
  | none =>
    let states := (w.services j.service).states
    (Router.destinations j.job.composition states j.job.sender j.job.joined).toList.foldl
      (send j.service j.job.composition.text ⟨output, j.origins⟩) w

/-- An execution ends with an output. -/
def finish (w : Deployment) (j : Work) (output : EngineData) : Deployment :=
  let output := { output with id := j.job.request.header.id }
  let service := w.services j.service
  let states := service.states.record j.service output.state
  ({ w with
    services := Function.update w.services j.service { service with states := states } } :
      Deployment).handOn j output

/-! ## Events -/

/-- What may happen next; messages and executions are picked by their places. -/
inductive Event where
  | deploy (service : Name) (ttl : Option Nat)
  | remove (service : Name)
  | execute (client service : Name) (text : String) (d : EngineData)
  | executeComposition (client : Name) (text : String) (d : EngineData)
  | syncExecute (client service : Name) (text : String) (d : EngineData) (inquiry : Nat)
  | configure (client service : Name) (d : EngineData) (mode : ConfigureMode) (timeoutMs : UInt64)
      (inquiry : Nat)
  | serve (service : Name) (k now : Nat)
  | finish (k : Nat) (result : Except EngineFailure EngineData)

/-- One event; one that is not possible changes nothing. -/
def step (w : Deployment) : Event → Deployment
  | .deploy service ttl =>
    if service ∈ w.deployed then w
    else
      { w with
        deployed := w.deployed.insert service
        services := Function.update w.services service (.new service ttl) }
  | .remove service =>
    { w with
      deployed := w.deployed.erase service
      memory := w.memory.filter fun e => e.1.receiver ≠ service }
  | .execute client service text d =>
    let (w', d) := w.number client d
    w'.publish [d.map ((w.clients client).dataMessage service text)]
  | .executeComposition client text d =>
    match entryServices text with
    | .error _ => w
    | .ok services =>
      let (w', d) := w.number client d
      w'.publish (services.map fun service => d.map ((w.clients client).dataMessage service text))
  | .syncExecute client service text d inquiry =>
    let (w', d) := w.number client d
    w'.publish [d.map fun d => ((w.clients client).dataMessage service text d).asking inquiry]
  | .configure client service d mode timeoutMs inquiry =>
    let (w', d) := w.number client d
    w'.publish
      [d.map fun d => ((w.clients client).configureMessage service d mode timeoutMs).asking inquiry]
  | .serve service k now =>
    match w.air[k]? with
    | none => w
    | some m =>
      if w.isFor service m.content then
        ({ w with air := w.air.eraseIdx k } : Deployment).serve service m now
      else w
  | .finish k result =>
    match w.works[k]? with
    | none => w
    | some j =>
      let w := { w with works := w.works.eraseIdx k }
      match result with
      | .error _ => w
      | .ok output => w.finish j output

/-- The deployment after any events. -/
def run (w : Deployment) (es : List Event) : Deployment := es.foldl step w

end Deployment

/-! ## The notes change nothing -/

/-- The execution that a stage has come to. -/
def Stage.jobs {E : Type} : Stage E → List Job
  | .needsEngine job => [job]
  | _ => []

/-- The service, with notes on all that it holds. -/
structure TracedService.Notes {E : Type} (st : TracedService) (s : Service E) : Prop where
  cache : s.cache = st.cache
  router : s.router = st.router.map Traced.content
  states : s.states = st.states

/-- A shared memory without notes. -/
def bare (memory : Table EntryKey (Traced EngineData)) : Table EntryKey EngineData :=
  memory.map fun e => (e.1, e.2.content)

/-- The exchange without notes: the bus is open, the shared memory is that of the deployment, and the
same services are deployed. -/
structure Deployment.Notes (w : Deployment) (x : Exchange) : Prop where
  isOpen : x.bus.closed = false
  entries : x.memory.entries = bare w.memory
  receivers : x.memory.receivers = w.deployed

section Fidelity

variable {E : Type} {st : TracedService} {s : Service E} {x x' : Exchange} {m : Message}
  {sender : Name} {d : Traced EngineData} {w : Deployment}

/-- A service takes in a message whose data it has as it does with the notes. -/
theorem TracedService.Notes.take (h : st.Notes s) (hp : Name.parse m.header.author = .ok sender)
    (hd : x.resolve s.name sender m = (x', .ok d.content)) :
    (st.take m sender d x'.now).service.Notes (s.beginExecute x m).service ∧
      (s.beginExecute x m).stage.jobs = (st.take m sender d x'.now).works.map (·.job) ∧
      (s.beginExecute x m).exchange.bus = x'.bus ∧
      (s.beginExecute x m).exchange.memory = x'.memory := by
  unfold Service.beginExecute TracedService.take
  simp only [hp, hd, h.cache, h.states]
  rcases st.cache.resolve m.header.composition with ⟨cache, logs, r⟩
  cases r with
  | error e => exact ⟨⟨rfl, h.router, rfl⟩, rfl, rfl, rfl⟩
  | ok c =>
    have hmap := Router.receive_map Traced.content c st.router
      ⟨⟨sender, d, st.states.record sender d.content.state, x'.now⟩, m.header.id⟩
    rw [← h.router] at hmap
    unfold Router.receive Router.Numbered.map at hmap
    unfold Service.admission Router.receive
    simp only [Exchange.logAll] at hmap ⊢
    rw [hmap]
    rcases st.router.admission (st.states.record sender d.content.state) x'.now c sender m.header.id d
      with ⟨r, logs', answer⟩
    rcases answer with e | (_ | ⟨inputs, joined⟩)
    · exact ⟨⟨rfl, rfl, rfl⟩, rfl, rfl, rfl⟩
    · exact ⟨⟨rfl, rfl, rfl⟩, rfl, rfl, rfl⟩
    · refine ⟨⟨rfl, rfl, rfl⟩, ?_, rfl, rfl⟩
      simp only [Except.map, Admission.map, Stage.jobs, mapInputs, List.map_map, List.map_cons,
        List.map_nil]
      rfl

/-- A message gives the data that it gives with the notes. -/
theorem Deployment.Notes.fetch (h : w.Notes x) (receiver sender : Name) (m : Traced Message) :
    ({ w with memory := (Deployment.fetch w.memory receiver sender m).1 } : Deployment).Notes
        (x.resolve receiver sender m.content).1 ∧
      (x.resolve receiver sender m.content).1.now = x.now ∧
      (x.resolve receiver sender m.content).2.toOption =
        (Deployment.fetch w.memory receiver sender m).2.map Traced.content := by
  unfold Exchange.resolve Deployment.fetch SharedMemory.get? SharedMemory.remove
  cases m.content.location with
  | network => exact ⟨h, rfl, rfl⟩
  | sharedMemory =>
    have hget := Table.get?_map Traced.content w.memory ⟨receiver, sender, m.content.header.id⟩
    have herase := Table.erase_map Traced.content w.memory ⟨receiver, sender, m.content.header.id⟩
    simp only [h.entries, bare, hget, herase]
    cases w.memory.get? ⟨receiver, sender, m.content.header.id⟩ with
    | none => exact ⟨h, rfl, rfl⟩
    | some e => exact ⟨⟨h.isOpen, rfl, h.receivers⟩, rfl, rfl⟩

/-- **A service takes a message in as it does with the notes**: it comes to the same state, and to the
same execution if there is one. -/
theorem Deployment.Notes.serve (h : w.Notes x) (hs : (w.services s.name).Notes s)
    (m : Traced Message) :
    (w.serve s.name m x.now).Notes (s.beginExecute x m.content).exchange ∧
      ((w.serve s.name m x.now).services s.name).Notes (s.beginExecute x m.content).service ∧
      (w.serve s.name m x.now).works.map (·.job) =
        w.works.map (·.job) ++ (s.beginExecute x m.content).stage.jobs := by
  cases hp : Name.parse m.content.header.author with
  | error e =>
    unfold Deployment.serve Service.beginExecute
    simp only [hp]
    exact ⟨h, hs, (List.append_nil _).symm⟩
  | ok sender =>
    obtain ⟨hnotes, hnow, hdata⟩ := h.fetch s.name sender m
    rcases hfetch : Deployment.fetch w.memory s.name sender m with ⟨memory, d⟩
    rcases hresolve : x.resolve s.name sender m.content with ⟨x', r⟩
    rw [hfetch, hresolve] at hnotes hdata
    rw [hresolve] at hnow
    cases d with
    | none =>
      cases r with
      | ok d => cases hdata
      | error e =>
        rw [serve_missing hp hfetch]
        unfold Service.beginExecute
        simp only [hp, hresolve]
        exact ⟨hnotes, hs, (List.append_nil _).symm⟩
    | some d =>
      cases r with
      | error e => cases hdata
      | ok content =>
        obtain rfl : content = d.content := Option.some.inj hdata
        obtain ⟨hservice, hjobs, hbus, hmemory⟩ := hs.take hp hresolve
        have hnow : x'.now = x.now := hnow
        rw [hnow] at hservice hjobs
        rw [serve_found hp hfetch]
        refine ⟨⟨?_, ?_, ?_⟩, ?_, ?_⟩
        · rw [hbus]
          exact hnotes.isOpen
        · rw [hmemory]
          exact hnotes.entries
        · rw [hmemory]
          exact hnotes.receivers
        · simp only [Function.update_self]
          exact hservice
        · rw [List.map_append, hjobs]

/-- Data is sent on as it is with the notes. -/
theorem Deployment.Notes.send (h : w.Notes x) (sender : Name) (text : String)
    (d : Traced EngineData) (receiver : Name) :
    ∃ delivery, (Deployment.send sender text d w receiver).Notes
        (x.send sender receiver text d.content).1 ∧
      (x.send sender receiver text d.content).2 = .ok delivery ∧
      (x.send sender receiver text d.content).1.bus =
        x.bus.accept (w.posted sender text d receiver).content := by
  have hshares : x.sharesMemory sender receiver = w.shares sender receiver := by
    unfold Exchange.sharesMemory SharedMemory.isOpen shares
    rw [h.receivers]
  unfold Deployment.send posted location
  cases hs : w.shares sender receiver with
  | true =>
    rw [Exchange.send_shared h.isOpen (hshares.trans hs)]
    refine ⟨_, ⟨h.isOpen, ?_, h.receivers⟩, rfl, rfl⟩
    rw [SharedMemory.insert, h.entries]
    exact Table.set_map Traced.content w.memory ⟨receiver, sender, d.content.id⟩ d
  | false =>
    rw [Exchange.send_network h.isOpen (hshares.trans hs)]
    exact ⟨_, ⟨h.isOpen, h.entries, h.receivers⟩, rfl, rfl⟩

theorem Deployment.Notes.sendAll (h : w.Notes x) (sender : Name) (text : String)
    (d : Traced EngineData) (receivers : List Name) :
    (receivers.foldl (Deployment.send sender text d) w).Notes
        (x.sendAll sender text d.content receivers).1 ∧
      (x.sendAll sender text d.content receivers).2 = .ok () ∧
      ∃ ms, (receivers.foldl (Deployment.send sender text d) w).air = w.air ++ ms ∧
        (x.sendAll sender text d.content receivers).1.bus =
          (ms.map Traced.content).foldl Bus.accept x.bus := by
  induction receivers generalizing w x with
  | nil => exact ⟨h, rfl, [], (List.append_nil _).symm, rfl⟩
  | cons receiver receivers ih =>
    obtain ⟨delivery, hnotes, hok, hbus⟩ := h.send sender text d receiver
    unfold Exchange.sendAll
    rcases hx : x.send sender receiver text d.content with ⟨x₁, r⟩
    rw [hx] at hnotes hok hbus
    obtain rfl : r = .ok delivery := hok
    obtain ⟨hnotes, hok, ms, hair, hbus'⟩ := ih hnotes
    refine ⟨hnotes, hok, w.posted sender text d receiver :: ms, ?_, ?_⟩
    · rw [List.foldl_cons, hair, Deployment.send, List.append_assoc]
      rfl
    · rw [List.map_cons, List.foldl_cons, ← hbus]
      exact hbus'

theorem services_sendAll (sender : Name) (text : String) (d : Traced EngineData)
    (receivers : List Name) :
    (receivers.foldl (Deployment.send sender text d) w).services = w.services := by
  induction receivers generalizing w with
  | nil => rfl
  | cons receiver receivers ih => exact ih

/-- The output goes on as it does with the notes; besides, an answer may be published. -/
theorem Deployment.Notes.handOn {j : Work} (h : w.Notes x) (hname : s.name = j.service)
    (hs : (w.services j.service).Notes s) (output : EngineData) :
    (w.handOn j output).Notes (s.handOn x j.job output).exchange ∧
      ((w.handOn j output).services j.service).Notes (s.handOn x j.job output).service ∧
      ∃ answers ms, (w.handOn j output).air = w.air ++ ms ∧
        (s.handOn x j.job output).exchange.bus =
          (answers ++ ms.map Traced.content).foldl Bus.accept x.bus := by
  unfold Service.handOn Deployment.handOn Message.reply
  cases j.job.request.header.replyTo with
  | some topic =>
    simp only [Option.map_some, Exchange.publish_open h.isOpen]
    exact ⟨⟨h.isOpen, h.entries, h.receivers⟩, hs, [_], [], (List.append_nil _).symm, rfl⟩
  | none =>
    have hstates : s.destinations j.job = Router.destinations j.job.composition
        (w.services j.service).states j.job.sender j.job.joined := by
      unfold Service.destinations
      rw [hs.states]
    have hlogged (e : LogEvent) : w.Notes (x.log e) := ⟨h.isOpen, h.entries, h.receivers⟩
    simp only [Option.map_none, hstates, hname]
    obtain ⟨hnotes, -, ms, hair, hbus⟩ := (hlogged _).sendAll j.service j.job.composition.text
      ⟨output, j.origins⟩ (Router.destinations j.job.composition
        (w.services j.service).states j.job.sender j.job.joined).toList
    refine ⟨hnotes, ?_, [], ms, hair, hbus⟩
    rw [services_sendAll]
    exact hs

/-- **An execution ends as it does with the notes.** Besides what is on its way afterwards, only
reports and an answer are published. -/
theorem Deployment.Notes.finish {j : Work} (h : w.Notes x) (hname : s.name = j.service)
    (hs : (w.services j.service).Notes s) (output : EngineData) :
    (w.finish j output).Notes (s.complete x j.job (.ok output)).exchange ∧
      ((w.finish j output).services j.service).Notes (s.complete x j.job (.ok output)).service ∧
      ∃ reports ms, (w.finish j output).air = w.air ++ ms ∧
        (s.complete x j.job (.ok output)).exchange.bus =
          (reports ++ ms.map Traced.content).foldl Bus.accept x.bus := by
  unfold Service.complete
  simp only [x.publishAll_open h.isOpen]
  generalize hoff : Service.dueReports _ j.job _ _ = due
  let output' : EngineData := { output with id := j.job.request.header.id }
  let w' : Deployment := { w with
    services := Function.update w.services j.service
      { w.services j.service with
        states := (w.services j.service).states.record j.service output.state } }
  let s' : Service E := { s with
    states := s.states.record s.name output.state
    reports := s.reports.recordExecution.1 }
  let x' : Exchange := { x with bus := due.foldl Bus.accept x.bus }
  have hnotes : w'.Notes x' := ⟨Bus.acceptAll_closed h.isOpen due, h.entries, h.receivers⟩
  have hservice : (w'.services j.service).Notes s' := by
    refine ⟨?_, ?_, ?_⟩
    all_goals simp only [w', s', Function.update_self, hname, hs.states]
    · exact hs.cache
    · exact hs.router
  obtain ⟨hnotes', hservice', answers, ms, hair, hbus⟩ :=
    hnotes.handOn (s := s') hname hservice output'
  refine ⟨hnotes', hservice', due ++ answers, ms, hair, ?_⟩
  rw [List.append_assoc, List.foldl_append]
  exact hbus

end Fidelity

end ServiceFlow
