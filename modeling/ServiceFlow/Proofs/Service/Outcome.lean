import ServiceFlow.Proofs.Name.Collections
import ServiceFlow.Proofs.Service.Attempt
import ServiceFlow.Proofs.Text.Utf8

/-!
# How executions end

Once the engine of an execution has run, it comes back to its service, and the service tells others about
it. What they are told, and what the service keeps of it, depends on whether there is an output.

* `Exchange.sendAll_open`: data that is sent to several services.
* `Service.output_handed_on`: an output is reported if reports are due, and goes to whoever asked for an
  answer or else to its destinations, all under the number of the request.
* `Service.failure_reported`: a failure is reported, and told to whoever asked for an answer. It goes
  nowhere else and leaves no trace in the service.
-/

namespace ServiceFlow

/-! ## Sending to several services -/

namespace Exchange

variable {x : Exchange} {sender receiver : Name} {text : String} {d : EngineData}

/-- The message in which data is sent. -/
def posting (x : Exchange) (sender : Name) (text : String) (d : EngineData) (receiver : Name) :
    Message :=
  .ofData (.ofName receiver) sender text d
    (if x.sharesMemory sender receiver then .sharedMemory else .network)

/-- The entry in shared memory is one of those that `sender` puts down for the receivers. -/
def PutsDown (x : Exchange) (sender : Name) (id : CommunicationId) (receivers : List Name)
    (key : EntryKey) : Prop :=
  key.receiver ∈ receivers ∧ key.sender = sender ∧ key.id = id ∧
    x.sharesMemory sender key.receiver = true

instance (x : Exchange) (sender : Name) (id : CommunicationId) (receivers : List Name)
    (key : EntryKey) : Decidable (x.PutsDown sender id receivers key) :=
  inferInstanceAs (Decidable (_ ∧ _))

theorem send_open (h : x.bus.closed = false) (sender : Name) (text : String) (d : EngineData)
    (receiver : Name) :
    ∃ x' delivery, x.send sender receiver text d = (x', .ok delivery) ∧
      x'.bus = x.bus.accept (x.posting sender text d receiver) ∧
      x'.memory.receivers = x.memory.receivers ∧
      ∀ key, x'.memory.get? key =
        if x.PutsDown sender d.id [receiver] key then some d else x.memory.get? key := by
  unfold posting
  cases hs : x.sharesMemory sender receiver with
  | true =>
    refine ⟨_, _, send_shared h hs, rfl, rfl, fun key => ?_⟩
    rw [Handover.get?_insert]
    refine if_congr ⟨?_, ?_⟩ rfl rfl
    · rintro rfl
      exact ⟨List.mem_singleton.mpr rfl, rfl, rfl, hs⟩
    · rintro ⟨hreceiver, hsender, hid, -⟩
      obtain ⟨receiver', sender', id'⟩ := key
      rw [EntryKey.mk.injEq]
      exact ⟨(List.mem_singleton.mp hreceiver).symm, hsender.symm, hid.symm⟩
  | false =>
    refine ⟨_, _, send_network h hs, rfl, rfl, fun key => (if_neg ?_).symm⟩
    rintro ⟨hreceiver, -, -, hshares⟩
    rw [List.mem_singleton.mp hreceiver, hs] at hshares
    cases hshares

/-- **Data that is sent to several services** over an open bus goes to each of them in a message. -/
theorem sendAll_open (h : x.bus.closed = false) (sender : Name) (text : String) (d : EngineData)
    (receivers : List Name) :
    ∃ x', x.sendAll sender text d receivers = (x', .ok ()) ∧
      x'.bus = (receivers.map (x.posting sender text d)).foldl Bus.accept x.bus ∧
      ∀ key, x'.memory.get? key =
        if x.PutsDown sender d.id receivers key then some d else x.memory.get? key := by
  induction receivers generalizing x with
  | nil => exact ⟨x, rfl, rfl, fun key => (if_neg fun hl => by cases hl.1).symm⟩
  | cons receiver receivers ih =>
    obtain ⟨x₁, delivery, hsend, hbus, hreceivers, hentries⟩ := send_open h sender text d receiver
    have hshares : x₁.sharesMemory = x.sharesMemory := by
      funext a b
      unfold sharesMemory SharedMemory.isOpen
      rw [hreceivers]
    obtain ⟨x', hall, hbus', hentries'⟩ := ih (x := x₁) (by rw [hbus]; exact h)
    refine ⟨x', by rw [sendAll, hsend]; exact hall, ?_, fun key => ?_⟩
    · have hposting : x₁.posting sender text d = x.posting sender text d := by
        funext n
        unfold posting
        rw [hshares]
      rw [hbus', hbus, hposting]
      rfl
    · rw [hentries', hentries, ← ite_or]
      refine if_congr ?_ rfl rfl
      unfold PutsDown
      rw [hshares, ← or_and_right, List.mem_singleton, List.mem_cons, or_comm]

/-- The receiver of such a message finds the data. -/
theorem resolve_posting {x' : Exchange}
    (h : x.sharesMemory sender receiver = true →
      x'.memory.get? ⟨receiver, sender, d.id⟩ = some d) :
    (x'.resolve receiver sender (x.posting sender text d receiver)).2 = .ok d := by
  unfold posting
  cases hs : x.sharesMemory sender receiver with
  | true =>
    rw [if_pos rfl, Handover.resolve_found (d := d) rfl (h hs)]
    obtain ⟨mime, payload, description, state, id⟩ := d
    cases state <;> rfl
  | false =>
    rw [if_neg Bool.false_ne_true, Handover.resolve_network rfl]
    rfl

end Exchange

namespace Service

variable {E : Type} {s : Service E} {x : Exchange} {m : Message} {job : Job} {output : EngineData}

/-! ## What the last stage does on an open bus -/

/-- A service once it has put down that an execution gave an output. -/
def concluded (s : Service E) (output : EngineData) : Service E :=
  { s with
    states := s.states.record s.name output.state, reports := s.reports.recordExecution.1 }

theorem complete_ok (h : x.bus.closed = false) (job : Job) (output : EngineData) :
    s.complete x job (.ok output) =
      let output := { output with id := job.request.header.id }
      let reports := (s.concluded output).dueReports job output s.reports.recordExecution.2
      (s.concluded output).handOn { x with bus := reports.foldl Bus.accept x.bus } job output := by
  unfold complete
  simp only [Exchange.publishAll_open h]
  rfl

/-- The messages in which a service has handed an output on, and what has become of its surroundings. -/
structure HandedOn (s : Service E) (x : Exchange) (job : Job) (output : EngineData)
    (onward : List Message) : Prop where
  identified : ∀ r ∈ onward,
    r.header.id = output.id ∧ r.header.composition = job.composition.text
  /-- The output is the answer if one is asked for, and then it goes to nobody else. -/
  replied : ∀ t, job.request.header.replyTo = some t →
    ∃ reply, onward = [reply] ∧ reply.topic = ⟨t⟩ ∧ reply.data = output.payload
  /-- Otherwise each destination gets one message of this service, with which it finds the output. -/
  dispatched : job.request.header.replyTo = none →
    ∃ messageTo : Name → Message, onward = (s.destinations job).toList.map messageTo ∧
      ∀ n ∈ s.destinations job,
        (messageTo n).topic = .ofName n ∧ (messageTo n).header.author = s.name.text ∧
          (x.resolve n s.name (messageTo n)).2 = .ok output
  once : (s.destinations job).toList.Nodup

/-- If nobody asks for an answer, each destination is sent the output, and finds it. -/
theorem handOn_dispatches (h : x.bus.closed = false) (hreply : job.request.header.replyTo = none)
    (output : EngineData) :
    let messageTo := x.posting s.name job.composition.text output
    ∃ x', s.handOn x job output = ⟨s, x', .ended (.ok ())⟩ ∧
      x'.bus = ((s.destinations job).toList.map messageTo).foldl Bus.accept x.bus ∧
      ∀ n ∈ s.destinations job, (x'.resolve n s.name (messageTo n)).2 = .ok output := by
  unfold handOn Message.reply
  let receivers := (s.destinations job).toList
  obtain ⟨x', hall, hbus, hentries⟩ := Exchange.sendAll_open
    (x := x.log (.routeSelected s.name.text job.request.header.id.toInt (receivers.map Name.text)))
    h s.name job.composition.text output receivers
  simp only [hreply, Option.map_none]
  rw [hall]
  refine ⟨x', rfl, hbus, fun n hn => Exchange.resolve_posting fun hshares => ?_⟩
  rw [hentries, if_pos ⟨hn, rfl, rfl, hshares⟩]

theorem handOn_open (h : x.bus.closed = false)
    (hcompiled : job.composition.text = job.request.header.composition) (output : EngineData) :
    ∃ x' onward, s.handOn x job output = ⟨s, x', .ended (.ok ())⟩ ∧
      x'.bus = onward.foldl Bus.accept x.bus ∧ s.HandedOn x' job output onward := by
  cases hreply : job.request.header.replyTo with
  | some t =>
    unfold handOn Message.reply
    simp only [hreply, Option.map_some, Exchange.publish_open h]
    refine ⟨_, [_], rfl, rfl, fun r hr => ?_, fun t' ht => ?_, fun hnone => ?_, NameSet.nodup _⟩
    · obtain rfl := List.mem_singleton.mp hr
      exact ⟨rfl, hcompiled.symm⟩
    · obtain rfl := Option.some.inj (hreply.symm.trans ht)
      exact ⟨_, rfl, rfl, rfl⟩
    · cases hreply.symm.trans hnone
  | none =>
    obtain ⟨x', hhandOn, hbus, hfound⟩ := handOn_dispatches (s := s) h hreply output
    refine ⟨x', _, hhandOn, hbus, fun r hr => ?_, fun t ht => ?_,
      fun _ => ⟨_, rfl, fun n hn => ⟨rfl, rfl, hfound n hn⟩⟩, NameSet.nodup _⟩
    · obtain ⟨n, -, rfl⟩ := List.mem_map.mp hr
      exact ⟨rfl, rfl⟩
    · cases hreply.symm.trans ht

theorem done_topic_ne_data (n : Name) : Report.done.topic n ≠ Report.data.topic n := by
  intro h
  have htext := congrArg (fun t => t.text.toList[1]?) h
  simp [Report.topic, Report.word] at htext

theorem topics_dueReports (s : Service E) (job : Job) (output : EngineData) (due : ReportPolicy.Due) :
    (s.dueReports job output due).map (·.topic) =
      (if due.done then [Report.done.topic s.name] else []) ++
        if due.data then [Report.data.topic s.name] else [] := by
  unfold dueReports
  rw [List.map_append]
  cases due.done <;> cases due.data <;> rfl

theorem dueReports_congr {t : Service E} (h : s.name = t.name) {due : ReportPolicy.Due} :
    s.dueReports job output due = t.dueReports job output due := by
  unfold dueReports doneReport dataReport
  rw [h]

/-- A report that is due is about the request, and has the output if it is on the topic for that. -/
theorem mem_dueReports {due : ReportPolicy.Due} {r : Message} (hid : output.id = job.request.header.id)
    (h : r ∈ s.dueReports job output due) :
    (r.header.id = job.request.header.id ∧ r.header.composition = job.composition.text) ∧
      (r.topic = Report.data.topic s.name → r.data = output.payload) := by
  unfold dueReports at h
  rcases List.mem_append.mp h with h | h
  · split at h
    · obtain rfl := List.mem_singleton.mp h
      exact ⟨⟨rfl, rfl⟩, fun he => absurd he (done_topic_ne_data s.name)⟩
    · cases h
  · split at h
    · obtain rfl := List.mem_singleton.mp h
      exact ⟨⟨hid, rfl⟩, fun _ => rfl⟩
    · cases h

/-! ## Outputs -/

section Outputs

variable [EngineModel E]

/-- The reports that are due when an execution ends. -/
def Attempt.due (a : Attempt s x m) : ReportPolicy.Due := a.service.reports.recordExecution.2

/-- What an execution publishes, first `reports` and then `onward`, whose engine gave an output. -/
structure Succeeds (a : Attempt s x m) (output : EngineData) (reports onward : List Message) :
    Prop where
  /-- All messages are published, and there were none while the request was taken in. -/
  ended : a.ending.stage = .ended (.ok ())
  arrived : (s.begin x m).exchange.bus = x.bus
  published : a.ending.exchange.bus = (reports ++ onward).foldl Bus.accept a.exchange.bus
  /-- They have the number of the request, and its composition, which has been compiled. -/
  request : a.job.request = m
  compiled : a.job.composition.text = m.header.composition
  identified : ∀ r ∈ reports ++ onward,
    r.header.id = m.header.id ∧ r.header.composition = a.job.composition.text
  /-- There is a report that the execution is done if one is due, and one with the output. -/
  reported : reports.map (·.topic) =
    (if a.due.done then [Report.done.topic s.name] else []) ++
      if a.due.data then [Report.data.topic s.name] else []
  data : ∀ r ∈ reports, r.topic = Report.data.topic s.name → r.data = output.payload
  /-- The output, with the number of the request, is the answer or goes to each destination once. -/
  onward : a.ending.service.HandedOn a.ending.exchange a.job { output with id := m.header.id } onward
  named : a.ending.service.name = s.name

/-- **An output is reported and handed on**, whatever number and state the engine gave it. -/
theorem output_handed_on (a : Attempt s x m) (h : a.finished.result = .ok output) :
    ∃ reports onward, Succeeds a output reports onward := by
  obtain ⟨hrequest, -, hcompiled, -, harrived, -⟩ := admits_of_begin a.admitted
  -- the service after its engine is back, and its surroundings after the reports
  let s₁ : Service E :=
    { a.service with engines := a.service.engines.giveBack ⟨.one, [a.finished.engine]⟩ }
  let output' : EngineData := { output with id := m.header.id }
  let reports := (s₁.concluded output).dueReports a.job output' a.due
  let x₁ : Exchange := { a.exchange with bus := reports.foldl Bus.accept a.exchange.bus }
  have hname : (s₁.concluded output).name = s.name := a.same
  have hcomposition : a.job.composition.text = a.job.request.header.composition :=
    hcompiled.trans (congrArg (·.header.composition) hrequest).symm
  obtain ⟨x', onward, hhandOn, hbus, honward⟩ := (s₁.concluded output).handOn_open
    (x := x₁) (Bus.acceptAll_closed a.isOpen reports) hcomposition output'
  have hending : a.ending = ⟨s₁.concluded output, x', .ended (.ok ())⟩ := by
    unfold Attempt.ending finish
    rw [h]
    refine (complete_ok a.isOpen a.job output).trans ?_
    rw [hrequest]
    exact hhandOn
  have hreports {r : Message} (hr : r ∈ reports) :
      (r.header.id = m.header.id ∧ r.header.composition = a.job.composition.text) ∧
        (r.topic = Report.data.topic s.name → r.data = output.payload) := by
    have hr' := mem_dueReports (congrArg (·.header.id) hrequest).symm hr
    rwa [hrequest, hname] at hr'
  refine ⟨reports, onward, ?_⟩
  constructor
  case ended => rw [hending]
  case arrived => exact harrived
  case published => rw [hending, List.foldl_append]; exact hbus
  case request => exact hrequest
  case compiled => exact hcompiled
  case identified =>
    intro r hr
    rcases List.mem_append.mp hr with hr | hr
    · exact (hreports hr).1
    · exact honward.identified r hr
  case reported => rw [← hname]; exact topics_dueReports _ a.job output' a.due
  case data => exact fun r hr => (hreports hr).2
  case onward => rw [hending]; exact honward
  case named => rw [hending]; exact hname

end Outputs

/-- An output with a number and a state of its own. -/
def sampleOutput : EngineData := ⟨"text/string", [111], "", some "DONE", 7⟩

/-- It is reported twice and goes to `C`, with the number of the request. -/
theorem sample_output_handed_on :
    ∃ (a : Attempt (sampleService ⟨.ok sampleOutput⟩) .empty sampleMessage)
      (reports onward : List Message), Succeeds a sampleOutput reports onward ∧
      reports.map (·.topic.text) = ["done:h_java:c:B", "data:h_java:c:B"] ∧
      onward.map (fun r => (r.topic.text, r.header.id)) = [("h_java:c:C", 42)] := by
  let e : FixedEngine := ⟨.ok sampleOutput⟩
  let a := Attempt.undisturbed (sampleMessage_admitted e) rfl (.ofList []) e _ (sampleJob_ends _ e)
  obtain ⟨reports, onward, h⟩ := output_handed_on a rfl
  have hdestinations : (a.ending.service.destinations a.job).toList = [.sample "C"] := rfl
  obtain ⟨messageTo, honward, hmessages⟩ := h.onward.dispatched rfl
  rw [hdestinations, List.map_singleton] at honward
  subst honward
  have htopic : (messageTo (.sample "C")).topic = .ofName (.sample "C") :=
    (hmessages (.sample "C") (NameSet.mem_def.mpr (hdestinations ▸ List.mem_cons_self))).1
  have hid := (h.identified (messageTo (.sample "C")) (by simp)).1
  refine ⟨a, reports, _, h, ?_, ?_⟩
  · have hreports : a.service.reports = ⟨1, 1, 0⟩ := rfl
    have hdue : a.due = ⟨true, true⟩ := by
      rw [Attempt.due, hreports]
      decide
    have htopics := congrArg (List.map Topic.text) h.reported
    rw [hdue, List.map_map] at htopics
    exact htopics
  · rw [List.map_singleton, htopic, hid]
    rfl

/-! ## Failures -/

section Failures

variable {failure : EngineFailure} {r : Message}

theorem fail_open (h : x.bus.closed = false) (m : Message) (failure : EngineFailure) :
    ∃ logs, s.fail x m failure =
      ⟨s, { x with bus := (s.failureMessages m failure).foldl Bus.accept x.bus, logs := logs },
        .ended (.error (.engine failure))⟩ := by
  unfold fail
  simp only [Exchange.publishAll_open (x := x.log _) h]
  exact ⟨_, rfl⟩

/-- A message of error status with a severity and a description says what went wrong. -/
theorem failure?_eq (hstatus : r.header.status = Status.error.code)
    (hseverity : r.header.severity = UInt32.ofNat failure.severity.level)
    (hdescription : r.header.description = failure.message) : r.failure? = some failure := by
  obtain ⟨severity, message⟩ := failure
  unfold Message.failure? Message.status
  rw [hstatus, hseverity, hdescription]
  cases severity <;> rfl

theorem mem_failureMessages (h : r ∈ s.failureMessages m failure) :
    r.failure? = some failure ∧ r.text = .ok failure.message ∧ r.header.id = m.header.id := by
  have hsays := Text.Utf8.decode_encode failure.message
  unfold failureMessages at h
  rcases List.mem_cons.mp h with rfl | h
  · exact ⟨failure?_eq rfl rfl rfl, hsays, rfl⟩
  · unfold errorReplies Message.errorReply at h
    rw [Option.mem_toList, Option.map_eq_some_iff] at h
    obtain ⟨t, -, rfl⟩ := h
    exact ⟨failure?_eq rfl rfl rfl, hsays, rfl⟩

variable [EngineModel E]

/-- What comes of an execution whose engine failed: a `report`, `replies`, and nothing else. -/
structure Fails (a : Attempt s x m) (failure : EngineFailure) (report : Message)
    (replies : List Message) : Prop where
  /-- All messages are published, and there were none while the request was taken in. -/
  ended : a.ending.stage = .ended (.error (.engine failure))
  arrived : (s.begin x m).exchange.bus = x.bus
  published : a.ending.exchange.bus = (report :: replies).foldl Bus.accept a.exchange.bus
  /-- There is one report, and one answer if one is asked for. -/
  reported : report.topic.text =
    "error:" ++ (toString failure.severity.level ++ ":" ++ s.name.text)
  replied : replies.map (·.topic) = (m.header.replyTo.map fun t => ⟨t⟩).toList
  /-- They say what went wrong, about this request. -/
  decoded : ∀ r ∈ report :: replies,
    r.failure? = some failure ∧ r.text = .ok failure.message ∧ r.header.id = m.header.id
  /-- Nothing is put down in shared memory, neither at first nor at the end. -/
  taken : ∀ key d, (s.begin x m).exchange.memory.get? key = some d → x.memory.get? key = some d
  memory : a.ending.exchange.memory = a.exchange.memory
  /-- At the end the service takes its engine back, and changes nothing else. -/
  service : a.ending.service =
    { a.service with engines := a.service.engines.giveBack ⟨.one, [a.finished.engine]⟩ }
  /-- So the count of executions and the frequencies of reports stay as they are. -/
  reports : (s.begin x m).service.reports = s.reports ∧
    a.ending.service.reports = a.service.reports
  /-- Only the state of the sender is put down, at first. -/
  states : (∃ d, (x.resolve s.name a.job.sender m).2 = .ok d ∧
      (s.begin x m).service.states = s.states.record a.job.sender d.state) ∧
    a.ending.service.states = a.service.states
  /-- The engine is in the pool again, and its permit free for others. -/
  home : a.ending.service.engines.items = a.service.engines.items ++ [a.finished.engine]
  free : a.ending.service.engines.permits = a.service.engines.permits.release 1

/-- **A failure is reported** and is not handed on, and the service goes on as if nothing had happened. -/
theorem failure_reported (a : Attempt s x m) (h : a.finished.result = .error failure) :
    ∃ report replies, Fails a failure report replies := by
  obtain ⟨hrequest, -, -, ⟨d, cache, router, hresolve, hservice⟩, harrived, htaken⟩ :=
    admits_of_begin a.admitted
  let s₁ : Service E :=
    { a.service with engines := a.service.engines.giveBack ⟨.one, [a.finished.engine]⟩ }
  have hname : s₁.name = s.name := a.same
  obtain ⟨logs, hfail⟩ := s₁.fail_open a.isOpen m failure
  have hending : a.ending = ⟨s₁,
      { a.exchange with
        bus := (s₁.failureMessages m failure).foldl Bus.accept a.exchange.bus, logs := logs },
      .ended (.error (.engine failure))⟩ := by
    unfold Attempt.ending finish complete
    rw [h, hrequest]
    exact hfail
  refine ⟨s₁.statusReport (.error failure.severity) .error m failure, s₁.errorReplies m failure, ?_⟩
  constructor
  case ended => rw [hending]
  case arrived => exact harrived
  case published => rw [hending]; rfl
  case reported =>
    rw [← hname]
    rfl
  case replied =>
    unfold errorReplies Message.errorReply
    cases m.header.replyTo <;> rfl
  case decoded => exact fun r hr => mem_failureMessages hr
  case taken => exact htaken
  case memory => rw [hending]
  case service => rw [hending]
  case reports => exact ⟨by rw [hservice], by rw [hending]⟩
  case states => exact ⟨⟨d, hresolve, by rw [hservice]⟩, by rw [hending]⟩
  case home => rw [hending]; rfl
  case free => rw [hending]; rfl

end Failures

/-- `A` has asked for an answer, and is told of the failure. -/
theorem sample_failure_reported :
    ∃ (a : Attempt (sampleService ⟨.error ⟨.major, "out of order"⟩⟩) .empty sampleInquiry)
      (report : Message) (replies : List Message),
      Fails a ⟨.major, "out of order"⟩ report replies ∧
      report.topic.text = "error:2:h_java:c:B" ∧ replies.map (·.topic.text) = ["ret:0"] := by
  let e : FixedEngine := ⟨.error ⟨.major, "out of order"⟩⟩
  let a := Attempt.undisturbed (sampleInquiry_admitted e) rfl (.ofList []) e _ (sampleJob_ends _ e)
  obtain ⟨report, replies, h⟩ := failure_reported a rfl
  refine ⟨a, report, replies, h, h.reported, ?_⟩
  have htopics := congrArg (List.map Topic.text) h.replied
  rwa [List.map_map] at htopics

end Service

end ServiceFlow
