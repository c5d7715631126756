import ServiceFlow.Proofs.Name.RoundTrip
import ServiceFlow.Proofs.Service.Outcome

/-!
# How far reported states get

An engine may report a state with its output, or none. A service keeps the last one that it has reported in
its table of states, next to those that messages have brought of others, and a message that hands an output
on carries a state in its header. But that is the state of this very output. An execution that reports none
is followed by messages without one, whatever the service has reported before, and a receiver that got none
of the earlier outputs goes on without knowing.

The messages of a service are served here one at a time, each in any surroundings.

* `Service.states_serve`: a turn puts down what the message brings and what the engine reports.
* `Service.states_serveAll`: so after any turns an entry is the last state put down for its service.
* `Service.dispatched_state`: the states of the messages in which an output goes out, when they are the
  last that the service has reported, and what their receivers make of them.
* `Service.later_state_lost`: a service that has reported a state and does not say so.
-/

namespace ServiceFlow

/-! ## Tables of states -/

namespace StateTable

variable {t : StateTable} {n : Name}

/-- Puts down states in turn. -/
def recordAll (t : StateTable) (notes : List (Name × String)) : StateTable :=
  notes.foldl (fun t note => t.set note.1 note.2) t

/-- The last of the states put down for a service. -/
def lastFor? (n : Name) (notes : List (Name × String)) : Option String :=
  ((notes.filter fun note => note.1 = n).getLast?).map (·.2)

theorem recordAll_append (notes notes' : List (Name × String)) :
    t.recordAll (notes ++ notes') = (t.recordAll notes).recordAll notes' := List.foldl_append

theorem lastFor?_append (notes notes' : List (Name × String)) :
    lastFor? n (notes ++ notes') = (lastFor? n notes').or (lastFor? n notes) := by
  unfold lastFor?
  rw [List.filter_append, List.getLast?_append]
  cases (notes'.filter fun note => note.1 = n).getLast? <;> rfl

theorem lastFor?_singleton (note : Name × String) :
    lastFor? n [note] = if note.1 = n then some note.2 else none := by
  unfold lastFor?
  by_cases h : note.1 = n <;> simp [h]

theorem lastFor?_own (n : Name) (states : List String) :
    lastFor? n (states.map fun state => (n, state)) = states.getLast? := by
  unfold lastFor?
  rw [List.filter_eq_self.mpr (by simp), List.getLast?_map, Option.map_map]
  exact Option.map_id'

theorem lastFor?_eq_none {notes : List (Name × String)} :
    lastFor? n notes = none ↔ ∀ note ∈ notes, note.1 ≠ n := by
  unfold lastFor?
  rw [Option.map_eq_none_iff, List.getLast?_eq_none_iff, List.filter_eq_nil_iff]
  simp only [decide_eq_true_eq, ne_eq]

/-- An entry is the last state that was put down for its service, or what it was before. -/
theorem get?_recordAll (t : StateTable) (n : Name) (notes : List (Name × String)) :
    (t.recordAll notes).get? n = (lastFor? n notes).or (t.get? n) := by
  induction notes generalizing t with
  | nil => rfl
  | cons note notes ih =>
    have hset : (t.set note.1 note.2).get? n = (lastFor? n [note]).or (t.get? n) := by
      rw [NameMap.get?_set, lastFor?_singleton]
      split <;> rfl
    rw [← List.singleton_append, lastFor?_append, Option.or_assoc, ← hset]
    exact ih (t.set note.1 note.2)

theorem recordAll_toList (t : StateTable) (n : Name) (state : Option String) :
    t.recordAll (state.toList.map fun state => (n, state)) = t.record n state := by
  cases state <;> rfl

theorem get?_record (t : StateTable) (n : Name) (state : Option String) :
    (t.record n state).get? n = state.or (t.get? n) := by
  rw [← recordAll_toList, get?_recordAll, lastFor?_own]
  cases state <;> rfl

end StateTable

open StateTable

namespace Service

variable {E : Type} {s : Service E} {x : Exchange} {m : Message} {job : Job} {f : Finished E}
  {output : EngineData}

/-! ## What a turn puts down -/

/-- The state that a message brings, with its sender. -/
def brought? (s : Service E) (x : Exchange) (m : Message) : Option (Name × String) :=
  match m.action, Name.parse m.header.author with
  | .execute, .ok sender =>
    match (x.resolve s.name sender m).2 with
    | .ok d => d.state.map fun state => (sender, state)
    | .error _ => none
  | _, _ => none

theorem admission_service (s : Service E) (x : Exchange) (m : Message) (sender : Name)
    (d : EngineData) (c : Composition) :
    ∃ router, (s.admission x m sender d c).service = { s with router := router } := by
  unfold admission
  split <;> exact ⟨_, rfl⟩

/-- To take a message in puts the state down that it brings. -/
theorem states_begin (s : Service E) (x : Exchange) (m : Message) :
    (s.begin x m).service.states = s.states.recordAll (s.brought? x m).toList ∧
      (s.begin x m).service.spec = s.spec := by
  unfold begin brought?
  cases m.action with
  | configure => exact ⟨rfl, rfl⟩
  | execute =>
    unfold beginExecute
    cases Name.parse m.header.author with
    | error e => exact ⟨rfl, rfl⟩
    | ok sender =>
      simp only [resolve_log]
      rcases x.resolve s.name sender m with ⟨x', e | d⟩
      · exact ⟨rfl, rfl⟩
      · have hrecord : s.states.record sender d.state =
            s.states.recordAll (d.state.map fun state => (sender, state)).toList := by
          cases d.state <;> rfl
        simp only [← hrecord]
        rcases s.cache.resolve m.header.composition with ⟨cache, logs, e | c⟩
        · exact ⟨rfl, rfl⟩
        · obtain ⟨router, hservice⟩ := admission_service
            { s with states := s.states.record sender d.state, cache := cache }
            ((x'.log (s.receivedEvent m)).logAll logs) m sender d c
          exact ⟨congrArg (·.states) hservice, congrArg (·.spec) hservice⟩

/-- The last stage of an execution puts down the state of its output. -/
theorem states_finish (s : Service E) (x : Exchange) (job : Job) (f : Finished E) :
    (s.finish x job f).service.states =
        s.states.record s.name (f.result.toOption.bind (·.state)) ∧
      (s.finish x job f).service.spec = s.spec := by
  unfold finish complete
  cases f.result with
  | error failure =>
    simp only [fail]
    split <;> exact ⟨rfl, rfl⟩
  | ok output =>
    simp only [handOn]
    split
    · exact ⟨rfl, rfl⟩
    · split <;> exact ⟨rfl, rfl⟩

section Turns

variable [EngineModel E]

/-- The state that a turn reports: that of the output, if there is one. -/
def reported? (s : Service E) (x : Exchange) (m : Message) : Option String :=
  (s.executed? x m).bind fun done => done.2.result.toOption.bind (·.state)

/-- What a turn puts down: the state that the message brings, and the one that the engine reports. -/
def noted (s : Service E) (x : Exchange) (m : Message) : List (Name × String) :=
  (s.brought? x m).toList ++ (s.reported? x m).toList.map fun state => (s.name, state)

theorem configure_service (s : Service E) (x : Exchange) (m : Message) (lending : Lending E) :
    ∃ engines, (s.configure x m lending).service = { s with engines := engines } := by
  cases lending with
  | waiting => exact ⟨s.engines, rfl⟩
  | refused e =>
    simp only [configure, refuse]
    split <;> exact ⟨s.engines, rfl⟩
  | lent loan =>
    simp only [configure]
    split
    · simp only [fail]
      split <;> exact ⟨_, rfl⟩
    · exact ⟨_, rfl⟩

/-- A turn in which no engine runs changes nothing but the engines once the message is taken in. -/
theorem serve_of_not_executed (h : s.executed? x m = none) :
    ∃ engines, (s.serve x m).service = { (s.begin x m).service with engines := engines } := by
  unfold executed? at h
  unfold serve
  cases hstage : (s.begin x m).stage with
  | ended result =>
    simp only [hstage]
    exact ⟨_, rfl⟩
  | atGate job letThrough shut =>
    simp only [hstage]
    exact ⟨_, rfl⟩
  | needsEngines request =>
    simp only [hstage]
    obtain ⟨engines, hservice⟩ := configure_service
      { (s.begin x m).service with engines := ((s.begin x m).service.lendAll request).1 }
      (s.begin x m).exchange request ((s.begin x m).service.lendAll request).2
    exact ⟨engines, hservice⟩
  | needsEngine job =>
    simp only [hstage] at h ⊢
    rcases hlend : (s.begin x m).service.engines.tryLend .one with
      ⟨engines, ⟨demand, _ | ⟨e, es⟩⟩ | e | _⟩
    case lent.cons =>
      simp only [hlend] at h
      split at h <;> cases h
    all_goals exact ⟨engines, rfl⟩

/-- **A turn puts down** the state that the message brings, and then the one that the engine reports. -/
theorem states_serve (s : Service E) (x : Exchange) (m : Message) :
    (s.serve x m).service.states = s.states.recordAll (s.noted x m) ∧
      (s.serve x m).service.spec = s.spec := by
  obtain ⟨hbegin, hspec⟩ := s.states_begin x m
  unfold noted reported?
  rw [recordAll_append, ← hbegin]
  cases hexecuted : s.executed? x m with
  | none =>
    obtain ⟨engines, hserve⟩ := serve_of_not_executed hexecuted
    rw [hserve]
    exact ⟨rfl, hspec⟩
  | some done =>
    obtain ⟨job, f⟩ := done
    obtain ⟨hstates, hspec'⟩ := Service.states_finish
      { (s.begin x m).service with engines := ((s.begin x m).service.engines.tryLend .one).1 }
      (s.begin x m).exchange job f
    have hname : (s.begin x m).service.name = s.name := congrArg ServiceSpec.name hspec
    rw [serve_of_executed hexecuted, hstates, hspec', Option.bind_some, recordAll_toList, ← hname]
    exact ⟨rfl, hspec⟩

/-! ## Turns one after the other -/

/-- The service after it has served messages in turn, each in surroundings of its own. -/
def serveAll (s : Service E) (turns : List (Exchange × Message)) : Service E :=
  turns.foldl (fun s turn => (s.serve turn.1 turn.2).service) s

/-- What the turns put down. -/
def notedOver (s : Service E) : List (Exchange × Message) → List (Name × String)
  | [] => []
  | (x, m) :: turns => s.noted x m ++ (s.serve x m).service.notedOver turns

/-- The states that the service reports in the turns. -/
def reportedOver (s : Service E) : List (Exchange × Message) → List String
  | [] => []
  | (x, m) :: turns => (s.reported? x m).toList ++ (s.serve x m).service.reportedOver turns

/-- No message brings a state of the service itself. -/
def Unechoed (s : Service E) : List (Exchange × Message) → Prop
  | [] => True
  | (x, m) :: turns =>
    (∀ state, s.brought? x m ≠ some (s.name, state)) ∧ (s.serve x m).service.Unechoed turns

theorem states_serveAll (s : Service E) (turns : List (Exchange × Message)) :
    (s.serveAll turns).states = s.states.recordAll (s.notedOver turns) ∧
      (s.serveAll turns).spec = s.spec := by
  induction turns generalizing s with
  | nil => exact ⟨rfl, rfl⟩
  | cons turn turns ih =>
    obtain ⟨x, m⟩ := turn
    obtain ⟨hstates, hspec⟩ := s.states_serve x m
    obtain ⟨hstates', hspec'⟩ := ih (s.serve x m).service
    unfold notedOver
    rw [recordAll_append, ← hstates, ← hspec]
    exact ⟨hstates', hspec'⟩

theorem name_serve (s : Service E) (x : Exchange) (m : Message) :
    (s.serve x m).service.name = s.name := congrArg ServiceSpec.name (s.states_serve x m).2

theorem reportedOver_append (s : Service E) (turns : List (Exchange × Message)) (x : Exchange)
    (m : Message) :
    s.reportedOver (turns ++ [(x, m)]) =
      s.reportedOver turns ++ ((s.serveAll turns).reported? x m).toList := by
  induction turns generalizing s with
  | nil => exact List.append_nil _
  | cons turn turns ih =>
    obtain ⟨y, p⟩ := turn
    rw [List.cons_append, reportedOver, reportedOver, ih, List.append_assoc]
    rfl

/-- What a turn puts down for the service itself is what it reports, unless the message brings something. -/
theorem lastFor?_noted (h : ∀ state, s.brought? x m ≠ some (s.name, state)) :
    lastFor? s.name (s.noted x m) = s.reported? x m := by
  have hbrought : lastFor? s.name (s.brought? x m).toList = none := by
    refine lastFor?_eq_none.mpr fun note hnote hname => ?_
    obtain ⟨n, state⟩ := note
    obtain rfl : n = s.name := hname
    exact h state (Option.mem_toList.mp hnote)
  unfold noted
  rw [lastFor?_append, lastFor?_own, hbrought, Option.or_none]
  cases s.reported? x m <;> rfl

/-- As long as nothing is echoed the last note for the service is its last report. -/
theorem lastFor?_notedOver {turns : List (Exchange × Message)} (h : s.Unechoed turns) :
    lastFor? s.name (s.notedOver turns) = (s.reportedOver turns).getLast? := by
  induction turns generalizing s with
  | nil => rfl
  | cons turn turns ih =>
    obtain ⟨x, m⟩ := turn
    obtain ⟨hturn, hturns⟩ := h
    have ih := ih hturns
    rw [name_serve] at ih
    unfold notedOver reportedOver
    rw [lastFor?_append, ih, lastFor?_noted hturn, List.getLast?_append]
    cases s.reported? x m <;> rfl

/-- A service that has put nothing down for itself has reported nothing. -/
theorem reportedOver_eq_nil {turns : List (Exchange × Message)}
    (h : lastFor? s.name (s.notedOver turns) = none) : s.reportedOver turns = [] := by
  induction turns generalizing s with
  | nil => rfl
  | cons turn turns ih =>
    obtain ⟨x, m⟩ := turn
    unfold notedOver noted at h
    rw [lastFor?_append, lastFor?_append, lastFor?_own] at h
    obtain ⟨hturns, hturn⟩ := Option.or_eq_none_iff.mp h
    obtain ⟨hreported, -⟩ := Option.or_eq_none_iff.mp hturn
    rw [← name_serve s x m] at hturns
    unfold reportedOver
    rw [ih hturns, List.append_nil]
    exact List.getLast?_eq_none_iff.mp hreported

/-! ## What is sent -/

/-- The messages in which the output of a turn goes to its destinations, one for each of them. -/
structure Dispatches (s : Service E) (x : Exchange) (m : Message) (job : Job) (output : EngineData)
    (messageTo : Name → Message) : Prop where
  /-- They follow the reports that are due, and nothing else is published. -/
  published : (s.serve x m).exchange.bus =
    (s.dueReports job { output with id := m.header.id } s.reports.recordExecution.2 ++
      ((s.serve x m).service.destinations job).toList.map messageTo).foldl Bus.accept x.bus
  addressed : ∀ n, (messageTo n).topic = .ofName n ∧ (messageTo n).header.author = s.name.text
  /-- They carry the state of this output, whatever has been reported before. -/
  state : ∀ n, (messageTo n).header.state = output.state
  /-- The entry of the service itself is this state too, or if there is none what it was before. -/
  entry : (s.serve x m).service.states.get? s.name =
    output.state.or ((s.begin x m).service.states.get? s.name)
  /-- A receiver that looks at once finds the output. -/
  found : ∀ n ∈ (s.serve x m).service.destinations job,
    ((s.serve x m).exchange.resolve n s.name (messageTo n)).2 = .ok { output with id := m.header.id }
  /-- One that has found it has this state of the sender when it has served the message, or if there is none
  what it had before. -/
  received : ∀ {E' : Type} [EngineModel E'] (t : Service E') (y : Exchange), t.name ≠ s.name →
    (y.resolve t.name s.name (messageTo t.name)).2 = .ok { output with id := m.header.id } →
    (t.serve y (messageTo t.name)).service.states.get? s.name =
      output.state.or (t.states.get? s.name)

/-- A service that serves a message of another puts down the state that comes with the data. -/
theorem received_state {sender : Name} (hvalid : sender.Valid) (hother : s.name ≠ sender)
    {d : EngineData} (haction : m.action = .execute) (hauthor : m.header.author = sender.text)
    (hfound : (x.resolve s.name sender m).2 = .ok d) :
    (s.serve x m).service.states.get? sender = d.state.or (s.states.get? sender) := by
  have hbrought : s.brought? x m = d.state.map fun state => (sender, state) := by
    unfold brought?
    rw [haction, hauthor, Name.parse_text hvalid]
    simp only [hfound]
  have hown : lastFor? sender ((s.reported? x m).toList.map fun state => (s.name, state)) = none := by
    refine lastFor?_eq_none.mpr fun note hnote => ?_
    obtain ⟨state, -, rfl⟩ := List.mem_map.mp hnote
    exact hother
  rw [(s.states_serve x m).1, get?_recordAll, noted, lastFor?_append, hown, Option.none_or, hbrought]
  cases d.state with
  | none => rfl
  | some state => rw [Option.map_some, Option.toList_some, lastFor?_singleton, if_pos rfl]

/-- **An output goes out with its own state**, to whom it may be. -/
theorem exists_dispatches (hvalid : s.name.Valid) (hexecuted : s.executed? x m = some (job, f))
    (houtput : f.result = .ok output) (hopen : x.bus.closed = false)
    (hreply : m.header.replyTo = none) :
    ∃ messageTo, Dispatches s x m job output messageTo := by
  obtain ⟨hrequest, -, -, ⟨d, cache, router, -, hbegin⟩, hbus, -⟩ :=
    admits_of_begin (executed?_eq_some hexecuted).1
  -- the service with its engine back, its surroundings after the reports, and the output as it goes out
  let engines := ((s.begin x m).service.engines.tryLend .one).1
  let s₁ : Service E :=
    { (s.begin x m).service with engines := engines.giveBack ⟨.one, [f.engine]⟩ }
  let output' : EngineData := { output with id := m.header.id }
  let reports := (s₁.concluded output').dueReports job output' s₁.reports.recordExecution.2
  let x₁ : Exchange :=
    { (s.begin x m).exchange with bus := reports.foldl Bus.accept (s.begin x m).exchange.bus }
  have hname : s₁.name = s.name := congrArg ServiceSpec.name (s.states_begin x m).2
  have hcount := congrArg (fun t : Service E => t.reports.recordExecution.2) hbegin
  have hreports : reports = s.dueReports job output' s.reports.recordExecution.2 :=
    (dueReports_congr (t := s) hname).trans (congrArg (s.dueReports job output') hcount)
  have hopen₁ : (s.begin x m).exchange.bus.closed = false := (congrArg Bus.closed hbus).trans hopen
  obtain ⟨x', hhandOn, hpublished, hfound⟩ := (s₁.concluded output').handOn_dispatches (x := x₁)
    (Bus.acceptAll_closed hopen₁ reports) (hrequest ▸ hreply) output'
  have hended : s.serve x m = ⟨s₁.concluded output', x', .ended (.ok ())⟩ := by
    rw [serve_of_executed hexecuted]
    unfold finish
    rw [houtput]
    refine (complete_ok hopen₁ job output).trans ?_
    rw [hrequest]
    exact hhandOn
  rw [show (s₁.concluded output').name = s.name from hname] at hpublished hfound
  refine ⟨x₁.posting s.name job.composition.text output', ?_⟩
  constructor
  case published =>
    rw [hended, List.foldl_append, ← hreports, ← hbus]
    exact hpublished
  case addressed => exact fun n => ⟨rfl, rfl⟩
  case state => exact fun n => rfl
  case entry =>
    rw [hended, ← hname]
    exact get?_record _ _ _
  case found => rw [hended]; exact hfound
  case received =>
    intro E' _ t y hother hresolve
    exact received_state (d := output') hvalid hother rfl rfl hresolve

/-- The state that the table of a service has for the service itself. -/
def ownState? (s : Service E) : Option String := s.states.get? s.name

/-- At first a service knows no states, so what it has of its own later is the last that was put down. -/
theorem ownState?_serveAll (h : s.states = ∅) (turns : List (Exchange × Message)) :
    (s.serveAll turns).ownState? = lastFor? s.name (s.notedOver turns) := by
  obtain ⟨hstates, hspec⟩ := s.states_serveAll turns
  have hname : (s.serveAll turns).name = s.name := congrArg ServiceSpec.name hspec
  rw [ownState?, hstates, hname, get?_recordAll, h]
  exact Option.or_none

/-- **What a message says of its sender's state.** A new service has served any messages, one at a time and
each in surroundings of its own, and now serves one whose execution gives an output that it dispatches. The
messages carry the state of this output. That is the last state the service has reported, and its own entry
in its table of states, exactly if this execution has reported one or the service has no entry of its own.
The entry itself is the last state reported unless some message brings the service a state of its own. -/
theorem dispatched_state (spec : ServiceSpec) (engines : List E) (ttl : Option Nat)
    (turns : List (Exchange × Message)) {s : Service E} (hnew : s = new spec engines ttl)
    (hvalid : spec.name.Valid) (hexecuted : (s.serveAll turns).executed? x m = some (job, f))
    (houtput : f.result = .ok output) (hopen : x.bus.closed = false)
    (hreply : m.header.replyTo = none) :
    ∃ messageTo, Dispatches (s.serveAll turns) x m job output messageTo ∧
      (∀ n,
        ((messageTo n).header.state = (s.reportedOver (turns ++ [(x, m)])).getLast? ∧
          (messageTo n).header.state = (s.serveAll (turns ++ [(x, m)])).ownState?) ↔
        output.state.isSome ∨ (s.serveAll (turns ++ [(x, m)])).ownState? = none) ∧
      (s.Unechoed (turns ++ [(x, m)]) →
        (s.serveAll (turns ++ [(x, m)])).ownState? =
          (s.reportedOver (turns ++ [(x, m)])).getLast?) := by
  have hblank : s.states = ∅ := by rw [hnew]; rfl
  have hspec : (s.serveAll turns).spec = spec := (s.states_serveAll turns).2.trans (by rw [hnew]; rfl)
  have hvalid' : (s.serveAll turns).name.Valid := by unfold name; rw [hspec]; exact hvalid
  obtain ⟨messageTo, hd⟩ := exists_dispatches hvalid' hexecuted houtput hopen hreply
  have hown := ownState?_serveAll hblank (turns ++ [(x, m)])
  refine ⟨messageTo, hd, fun n => ?_, fun hunechoed => hown.trans (lastFor?_notedOver hunechoed)⟩
  rw [hd.state n]
  cases hstate : output.state with
  | none =>
    -- without an entry of its own the service has reported nothing at all
    have hsilent (h : (s.serveAll (turns ++ [(x, m)])).ownState? = none) :
        s.reportedOver (turns ++ [(x, m)]) = [] := reportedOver_eq_nil (hown.symm.trans h)
    constructor
    · exact fun h => .inr h.2.symm
    · rintro (h | h)
      · cases h
      · rw [hsilent h, h]
        exact ⟨rfl, rfl⟩
  | some state =>
    have hreported : (s.serveAll turns).reported? x m = some state := by
      unfold reported?
      rw [hexecuted, Option.bind_some, houtput]
      exact hstate
    have hentry : (s.serveAll (turns ++ [(x, m)])).ownState? = some state := by
      have hlast : s.serveAll (turns ++ [(x, m)]) = ((s.serveAll turns).serve x m).service :=
        List.foldl_append
      rw [ownState?, hlast, name_serve, hd.entry, hstate]
      rfl
    refine iff_of_true ⟨?_, hentry.symm⟩ (.inl rfl)
    rw [reportedOver_append, hreported, Option.toList_some, List.getLast?_concat]

end Turns

/-! ## A service that does not say what it has reported -/

/-- The service `B`, whose engine gives back its input with the state that it comes with. -/
def echoService : Service Engine := new ⟨.sample "B", "gated", 1, ""⟩ [.gated 0 0] none

/-- A message of `A` for `B`, with a state or without one. -/
def statedMessage (id : CommunicationId) (state : Option String) : Message :=
  .ofData (.ofName (.sample "B")) (.sample "A") sampleText
    { EngineData.ofText "in" id with state := state } .network

/-- Surroundings in which `C` hears what is sent to it. -/
def overheard : Exchange :=
  match Exchange.empty.bus.subscribe (.ofName (.sample "C")) with
  | .ok (bus, _) => { Exchange.empty with bus := bus }
  | .error _ => .empty

/-- First `B` reports the state that a message comes with. -/
def reportingTurn : Served Engine := echoService.serve overheard (statedMessage 42 (some "OK"))

/-- Then it reports none. -/
def silentTurn : Served Engine :=
  reportingTurn.service.serve reportingTurn.exchange (statedMessage 43 none)

theorem silentTurn_dispatched :
    ∃ job output messageTo,
      Dispatches reportingTurn.service reportingTurn.exchange (statedMessage 43 none) job output
        messageTo ∧
      (messageTo (.sample "C")).header.state = none ∧ silentTurn.service.ownState? = some "OK" := by
  have hran : ((reportingTurn.service.executed? reportingTurn.exchange (statedMessage 43 none)).bind
      fun done => done.2.result.toOption.map (·.state)) = some none := by decide +kernel
  obtain ⟨⟨job, f⟩, hexecuted, hresult⟩ := Option.bind_eq_some_iff.mp hran
  obtain ⟨output, houtput, hstate⟩ := Option.map_eq_some_iff.mp hresult
  have hopen : reportingTurn.exchange.bus.closed = false := by decide +kernel
  obtain ⟨messageTo, hd, -, -⟩ := dispatched_state ⟨.sample "B", "gated", 1, ""⟩ [.gated 0 0] none
    [(overheard, statedMessage 42 (some "OK"))] (s := echoService) rfl (by decide) hexecuted
    (eq_ok_of_toOption houtput) hopen rfl
  exact ⟨job, output, messageTo, hd, (hd.state _).trans hstate, by decide +kernel⟩

/-- **A state that has been reported is lost on those who did not hear of it.** After `B` has reported `OK`,
which is then its entry in its own table, its next message to `C` carries no state, and a `C` that has got
only this one knows none. -/
theorem later_state_lost :
    echoService.reportedOver [(overheard, statedMessage 42 (some "OK")),
      (reportingTurn.exchange, statedMessage 43 none)] = ["OK"] ∧
    silentTurn.service.ownState? = some "OK" ∧
    (silentTurn.exchange.bus.queued 0).map (fun p => (p.header.author, p.header.id, p.header.state)) =
      [("h_java:c:B", 42, some "OK"), ("h_java:c:B", 43, none)] ∧
    (silentTurn.exchange.bus.queued 0)[1]?.map (fun p =>
      ((new ⟨.sample "C", "gated", 1, ""⟩ [Engine.gated 0 0] none).serve silentTurn.exchange
        p).service.states.get? (.sample "B")) = some none := by
  decide +kernel

end Service

end ServiceFlow
