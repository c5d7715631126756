import ServiceFlow.Proofs.Engine.Settings
import ServiceFlow.Proofs.Service.EngineRoom
import ServiceFlow.Proofs.Service.Propagation

/-!
# What configures a service

A service configures its engines one by one, and stops at the first that refuses. With the engines of the
library the others would refuse, too, so that all of them are configured or none. Whether the answer to the
request can be published then is another matter.

* `Service.configured?`: what a turn configures the engines with. `Service.configuredOver`: so do turns, one
  after the other.
* `Service.AtRest.serve`, `Service.AtRest.serveAll`: between turns all engines are at home and alike.
* `Service.Settled`, `Service.AtRest.settled`: what follows for the next turn.
* `Service.Holding`, `EngineRoom.Holding`: the same for engines of the library, with the setting that they
  have and the payloads that they take.
* `Service.engines_alike`: this holds for turns one after the other, with any number of engines, and for
  requests that overlap, with as many as can be asked for at once.
-/

namespace ServiceFlow

open EngineModel

/-! ## A pool at rest -/

/-- Permits that are asked for and given back. -/
theorem Semaphore.tryRequest_release {k n : Nat} (h : k ≤ n) :
    ∃ s, (ofPermits n).tryRequest k = (s, .granted) ∧ s.release k = ofPermits n := by
  refine ⟨⟨n - k, false, []⟩, ?_, ?_⟩
  · rw [tryRequest, ofPermits, if_neg Bool.false_ne_true, if_pos h]
  · rw [release, if_neg Bool.false_ne_true]
    simp only [serve, Nat.sub_add_cancel h]
    rfl

namespace ObjectPool

variable {α : Type}

/-- All objects are lent, and the pool is at rest again when as many have come back. -/
theorem lend_all (items : List α) : ∃ p,
    (ofList items).tryLend .all = (p, .lent ⟨.all, items⟩) ∧
      ∀ items', items'.length = items.length → p.giveBack ⟨.all, items'⟩ = ofList items' := by
  obtain ⟨permits, hrequest, hrelease⟩ :=
    Semaphore.tryRequest_release (Nat.min_le_left items.length maxPermits)
  refine ⟨⟨items.length, [], permits⟩, ?_, fun items' hlength => ?_⟩
  · unfold tryLend ofList permitsFor
    rw [hrequest]
    rfl
  · unfold giveBack putBack freeUp permitsFor ofList
    rw [hrelease, hlength]
    rfl

/-- One object is lent, and the pool is at rest again when it has come back. -/
theorem lend_one {items : List α} (hne : items ≠ []) : ∃ p,
    (ofList items).tryLend .one = (p, .lent ⟨.one, [items.getLast hne]⟩) ∧
      p.giveBack ⟨.one, [items.getLast hne]⟩ = ofList items := by
  obtain ⟨permits, hrequest, hrelease⟩ :=
    Semaphore.tryRequest_release (List.length_pos_iff.mpr hne)
  refine ⟨⟨items.length, items.dropLast, permits⟩, ?_, ?_⟩
  · unfold tryLend ofList permitsFor
    rw [hrequest, answer, handOut]
    simp only [List.getLast?_eq_some_getLast hne]
  · unfold giveBack putBack freeUp permitsFor ofList
    rw [hrelease, List.dropLast_append_getLast hne]

/-- Where there are no objects none is lent. -/
theorem lend_none : (ofList ([] : List α)).tryLend .one = (ofList [], .waiting) := rfl

end ObjectPool

namespace Service

variable {E : Type}

/-! ## The engines in a turn -/

/-- To take a message in leaves the engines alone. -/
theorem engines_begin (s : Service E) (x : Exchange) (m : Message) :
    (s.begin x m).service.engines = s.engines := by
  unfold begin
  cases m.action with
  | configure => rfl
  | execute =>
    unfold beginExecute
    cases Name.parse m.header.author with
    | error e => rfl
    | ok sender =>
      simp only
      rcases (x.log (s.receivedEvent m)).resolve s.name sender m with ⟨x', e | d⟩
      · rfl
      · simp only
        rcases s.cache.resolve m.header.composition with ⟨cache, logs, e | c⟩
        · rfl
        · obtain ⟨router, hservice⟩ := admission_service
            { s with states := s.states.record sender d.state, cache := cache }
            (x'.logAll logs) m sender d c
          exact congrArg (·.engines) hservice

/-- A message that asks for an execution is refused, waits for others or needs an engine. -/
theorem stage_begin {s : Service E} {x : Exchange} {m : Message} (h : m.action = .execute) :
    (∃ result, (s.begin x m).stage = .ended result) ∨
      ∃ job, (s.begin x m).stage = .needsEngine job := by
  unfold begin
  rw [h]
  simp only [beginExecute]
  split
  · exact .inl ⟨_, rfl⟩
  · split
    · exact .inl ⟨_, rfl⟩
    · split
      · exact .inl ⟨_, rfl⟩
      · unfold admission
        split
        · exact .inl ⟨_, rfl⟩
        · exact .inl ⟨_, rfl⟩
        · exact .inr ⟨_, rfl⟩

theorem handOn_service (s : Service E) (x : Exchange) (job : Job) (output : EngineData) :
    (s.handOn x job output).service = s := by
  unfold handOn
  cases job.request.reply s.name output <;> rfl

/-- The engine of an execution comes back at its end. -/
theorem engines_finish (s : Service E) (x : Exchange) (job : Job) (f : Finished E) :
    (s.finish x job f).service.engines = s.engines.giveBack ⟨.one, [f.engine]⟩ := by
  unfold finish complete
  cases f.result with
  | error failure =>
    simp only [fail]
    split <;> rfl
  | ok output =>
    simp only
    split
    · rfl
    · rw [handOn_service]

/-- Nothing but a closed bus keeps messages from being published. -/
theorem publishAll_outcome (x : Exchange) (ms : List Message) :
    (x.publishAll ms).2 = .ok () ∨ x.bus.closed = true ∧ ∃ e, (x.publishAll ms).2 = .error e := by
  cases hx : x.bus.closed with
  | false =>
    rw [Exchange.publishAll_open hx]
    exact .inl rfl
  | true =>
    cases hr : (x.publishAll ms).2 with
    | ok u => exact .inl rfl
    | error e => exact .inr ⟨rfl, e, rfl⟩

theorem endedBy_outcome (x : Exchange) (ms : List Message) :
    (endedBy (x.publishAll ms).2 : Stage E) = .ended (.ok ()) ∨
      x.bus.closed = true ∧ ∃ e, (endedBy (x.publishAll ms).2 : Stage E) = .ended (.error (.bus e)) := by
  obtain hok | ⟨hclosed, e, he⟩ := publishAll_outcome x ms
  · rw [hok]
    exact .inl rfl
  · rw [he]
    exact .inr ⟨hclosed, e, rfl⟩

/-- A failure of an engine ends a request with it, unless the bus is closed. -/
theorem fail_outcome (s : Service E) (x : Exchange) (m : Message) (f : EngineFailure) :
    (s.fail x m f).service = s ∧
      ((s.fail x m f).stage = .ended (.error (.engine f)) ∨
        x.bus.closed = true ∧ ∃ e, (s.fail x m f).stage = .ended (.error (.bus e))) := by
  have hout := publishAll_outcome
    (x.log (.executionFailed s.name.text m.header.id.toInt f.severity.level f.message))
    (s.failureMessages m f)
  unfold fail
  simp only
  split
  · exact ⟨rfl, .inl rfl⟩
  · rename_i x' e hpublish
    rw [hpublish] at hout
    obtain hok | ⟨hclosed, -⟩ := hout
    · cases hok
    · exact ⟨rfl, .inr ⟨hclosed, e, rfl⟩⟩

section Turn

variable [EngineModel E] {s : Service E} {x : Exchange} {m : Message}

/-- To serve a request to configure is to ask for all engines, and to configure them. -/
theorem serve_of_configure (h : m.action = .configure) :
    s.serve x m =
      configure { s with engines := (s.lendAll m).1 } (x.log (s.receivedEvent m)) m (s.lendAll m).2 := by
  unfold serve begin
  rw [h]

/-- What a turn configures the engines with, if all of them take it. -/
def configured? (s : Service E) (m : Message) : Option EngineData :=
  match m.action, (s.lendAll m).2 with
  | .configure, .lent loan =>
    match (configureEach m.engineData loan.items).2 with
    | .ok () => some m.engineData
    | .error _ => none
  | _, _ => none

/-- What turns configure the engines with. -/
def configuredOver (s : Service E) : List (Exchange × Message) → List EngineData
  | [] => []
  | (x, m) :: turns => (s.configured? m).toList ++ (s.serve x m).service.configuredOver turns

end Turn

/-! ## Engines that are alike between turns -/

/-- All engines are at home, as the last of some configurations has left them. -/
def AtRest [EngineModel E] (e₀ : E) (n : Nat) (ds : List EngineData) (s : Service E) : Prop :=
  s.engines = .ofList (List.replicate n (configuredBy e₀ ds))

namespace AtRest

variable [EngineModel E] {e₀ : E} {n : Nat} {ds : List EngineData} {s : Service E} {x : Exchange}
  {m : Message} {job : Job}

theorem engines_eq (h : AtRest e₀ n ds s) :
    s.engines = .ofList (List.replicate n (configuredBy e₀ ds)) := h

/-- All engines can be had in any mode, and are at home again afterwards. -/
theorem lendAll (h : AtRest e₀ n ds s) (m : Message) : ∃ p,
    s.lendAll m = (p, .lent ⟨.all, List.replicate n (configuredBy e₀ ds)⟩) ∧
      ∀ items, items.length = n → p.giveBack ⟨.all, items⟩ = .ofList items := by
  obtain ⟨p, hlend, hback⟩ := ObjectPool.lend_all (List.replicate n (configuredBy e₀ ds))
  rw [List.length_replicate] at hback
  refine ⟨p, ?_, hback⟩
  unfold Service.lendAll
  rw [h.engines_eq]
  cases m.mode with
  | immediate =>
    simp only [ObjectPool.tryAll]
    rw [hlend]
  | blocking | withTimeout => exact hlend

/-- An engine can be had, and gives its result without waiting. -/
theorem executed? (h : AtRest e₀ n ds s) (hsteady : Steady e₀) (hn : 0 < n)
    (hjob : (s.begin x m).stage = .needsEngine job) :
    ∃ p result, s.engines.tryLend .one = (p, .lent ⟨.one, [configuredBy e₀ ds]⟩) ∧
      p.giveBack ⟨.one, [configuredBy e₀ ds]⟩ = s.engines ∧
      run job (configuredBy e₀ ds) = .finished ⟨configuredBy e₀ ds, result⟩ ∧
      s.executed? x m = some (job, ⟨configuredBy e₀ ds, result⟩) := by
  have hne : List.replicate n (configuredBy e₀ ds) ≠ [] :=
    List.length_pos_iff.mp (by rw [List.length_replicate]; exact hn)
  obtain ⟨p, hlend, hback⟩ := ObjectPool.lend_one hne
  rw [List.getLast_replicate, ← h.engines_eq] at hlend hback
  obtain ⟨result, hrun⟩ := run_steady hsteady ds job
  refine ⟨p, result, hlend, hback, hrun, ?_⟩
  unfold Service.executed?
  simp only [hjob, engines_begin, hlend, hrun]

/-- A request to execute leaves the engines as they are. -/
theorem serve_execute (h : AtRest e₀ n ds s) (hsteady : Steady e₀) (x : Exchange)
    (hm : m.action = .execute) : (s.serve x m).service.engines = s.engines := by
  obtain ⟨result, hstage⟩ | ⟨job, hstage⟩ := stage_begin (s := s) (x := x) hm
  · unfold serve
    simp only [hstage]
    exact engines_begin s x m
  · cases n with
    | zero =>
      have hnone : s.engines.tryLend .one = (s.engines, .waiting) := by
        rw [h.engines_eq]
        exact ObjectPool.lend_none
      unfold serve
      simp only [hstage, engines_begin, hnone]
      rfl
    | succ n =>
      obtain ⟨p, result, hlend, hback, -, hexecuted⟩ :=
        h.executed? hsteady (Nat.succ_pos n) hstage
      rw [serve_of_executed hexecuted, engines_finish]
      simp only [engines_begin, hlend]
      exact hback

/-- A request to configure does so to the engines, and ends as they do unless the bus is closed. -/
theorem serve_configure (h : AtRest e₀ n ds s) (x : Exchange) (hm : m.action = .configure) :
    let r := configureEach m.engineData (List.replicate n (configuredBy e₀ ds))
    s.configured? m = (r.2.toOption.map fun _ => m.engineData) ∧
      (r.1.length = n → (s.serve x m).service.engines = .ofList r.1) ∧
      ((s.serve x m).stage = .ended (r.2.mapError .engine) ∨
        x.bus.closed = true ∧ ∃ e, (s.serve x m).stage = .ended (.error (.bus e))) := by
  obtain ⟨p, hlend, hback⟩ := h.lendAll m
  rcases hr : configureEach m.engineData (List.replicate n (configuredBy e₀ ds)) with ⟨es, outcome⟩
  unfold Service.configured?
  rw [serve_of_configure hm, hm]
  cases outcome with
  | error f =>
    simp only [hlend, Service.configure, hr]
    obtain ⟨hservice, hstage⟩ := Service.fail_outcome { s with engines := p.giveBack ⟨.all, es⟩ }
      (x.log (s.receivedEvent m)) m f
    rw [hservice]
    exact ⟨rfl, hback es, hstage⟩
  | ok u =>
    simp only [hlend, Service.configure, hr]
    exact ⟨rfl, hback es, endedBy_outcome _ _⟩

/-- With engines to configure, whether that succeeds is a matter of the data alone. -/
theorem configured?_eq_some_iff (h : AtRest e₀ n ds s) (hsteady : Steady e₀) (hn : 0 < n)
    {d : EngineData} :
    s.configured? m = some d ↔
      m.action = .configure ∧ m.engineData = d ∧ (EngineModel.configure e₀ d).2 = .ok () := by
  obtain ⟨k, rfl⟩ : ∃ k, n = k + 1 := Nat.exists_eq_add_one.mpr hn
  cases hm : m.action with
  | execute =>
    unfold Service.configured?
    rw [hm]
    exact ⟨nofun, fun hd => nomatch hd.1⟩
  | configure =>
    -- the surroundings of the turn do not matter here
    rw [(h.serve_configure .empty hm).1]
    cases hd : (EngineModel.configure e₀ m.engineData).2 with
    | ok u =>
      rw [configureEach_accepted hsteady ds hd]
      exact ⟨fun heq => ⟨rfl, Option.some.inj heq, Option.some.inj heq ▸ hd⟩,
        fun heq => congrArg some heq.2.1⟩
    | error f =>
      rw [configureEach_refused hsteady ds hd]
      refine ⟨nofun, fun ⟨_, heq, hok⟩ => ?_⟩
      rw [← heq, hd] at hok
      cases hok

/-- **Engines that are alike are alike after the next turn.** -/
theorem serve (h : AtRest e₀ n ds s) (hsteady : Steady e₀) (x : Exchange) (m : Message) :
    AtRest e₀ n (ds ++ (s.configured? m).toList) (s.serve x m).service := by
  cases hm : m.action with
  | execute =>
    have hnone : s.configured? m = none := by
      unfold Service.configured?
      rw [hm]
    rw [hnone, Option.toList_none, List.append_nil, AtRest, h.serve_execute hsteady x hm]
    exact h
  | configure =>
    obtain ⟨hconfigured, hengines, -⟩ := h.serve_configure x hm
    obtain ⟨halike, -⟩ := configureEach_alike hsteady ds m.engineData n
    rw [AtRest, hengines (by rw [halike, List.length_replicate]), halike, hconfigured]
    cases (configureEach m.engineData (List.replicate n (configuredBy e₀ ds))).2 with
    | ok u => rfl
    | error f =>
      rw [noting, Except.toOption, Option.map_none, Option.toList_none, List.append_nil]

theorem serveAll (h : AtRest e₀ n ds s) (hsteady : Steady e₀) (turns : List (Exchange × Message)) :
    AtRest e₀ n (ds ++ s.configuredOver turns) (s.serveAll turns) := by
  induction turns generalizing s ds with
  | nil =>
    rw [configuredOver, List.append_nil]
    exact h
  | cons turn turns ih =>
    obtain ⟨x, m⟩ := turn
    rw [configuredOver, ← List.append_assoc]
    exact ih (h.serve hsteady x m)

/-- Turns configure the engines with what these take. -/
theorem taken (h : AtRest e₀ n ds s) (hsteady : Steady e₀) (hn : 0 < n)
    (turns : List (Exchange × Message)) :
    ∀ d ∈ s.configuredOver turns, (EngineModel.configure e₀ d).2 = .ok () := by
  induction turns generalizing s ds with
  | nil => exact List.forall_mem_nil _
  | cons turn turns ih =>
    obtain ⟨x, m⟩ := turn
    refine List.forall_mem_append.mpr ⟨fun d hd => ?_, ih (h.serve hsteady x m)⟩
    exact ((h.configured?_eq_some_iff hsteady hn).mp (Option.mem_toList.mp hd)).2.2

end AtRest

/-- What holds of a service and its engines between turns. -/
structure Settled [EngineModel E] (e₀ : E) (n : Nat) (ds : List EngineData) (s : Service E) : Prop where
  /-- All engines are at home, as the last configuration that has succeeded has left them. -/
  engines : s.engines = .ofList (List.replicate n (configuredBy e₀ ds))
  /-- A turn that does not configure the engines leaves each as it is. -/
  kept : ∀ x m, s.configured? m = none → (s.serve x m).service.engines = s.engines
  /-- A request to configure ends well and has done so, or it ends with the failure of an engine and has not.
  Only on a closed bus it may not be known. -/
  answered : ∀ x m, m.action = .configure →
    s.configured? m = some m.engineData ∧ (s.serve x m).stage = .ended (.ok ()) ∨
      s.configured? m = none ∧ (∃ f, (s.serve x m).stage = .ended (.error (.engine f))) ∨
      x.bus.closed = true ∧ ∃ e, (s.serve x m).stage = .ended (.error (.bus e))
  /-- An execution gets the result that it would have got from any of the engines. -/
  executes : 0 < n → ∀ x m job, (s.begin x m).stage = .needsEngine job →
    ∃ f, s.executed? x m = some (job, f) ∧ ∀ e ∈ s.engines.items, run job e = .finished ⟨e, f.result⟩

theorem AtRest.settled [EngineModel E] {e₀ : E} {n : Nat} {ds : List EngineData} {s : Service E}
    (h : AtRest e₀ n ds s) (hsteady : Steady e₀) : Settled e₀ n ds s where
  engines := h.engines_eq
  kept x m hnone := by
    have hnext := h.serve hsteady x m
    rw [hnone, Option.toList_none, List.append_nil] at hnext
    rw [hnext.engines_eq, h.engines_eq]
  answered x m hm := by
    obtain ⟨hconfigured, -, hstage | hclosed⟩ := h.serve_configure x hm
    · rw [hconfigured, hstage]
      cases (configureEach m.engineData (List.replicate n (configuredBy e₀ ds))).2 with
      | ok u => exact .inl ⟨rfl, rfl⟩
      | error f => exact .inr (.inl ⟨rfl, f, rfl⟩)
    · exact .inr (.inr hclosed)
  executes hn x m job hjob := by
    obtain ⟨p, result, -, -, hrun, hexecuted⟩ := h.executed? hsteady hn hjob
    refine ⟨_, hexecuted, fun e he => ?_⟩
    rw [h.engines_eq] at he
    rw [List.eq_of_mem_replicate he, hrun]

/-! ## Engines of the library -/

/-- What holds of engines of the library between turns. -/
structure Holding (e₀ : Engine) (n : Nat) (ds : List EngineData) (s : Service Engine) : Prop
    extends Settled e₀ n ds s where
  /-- Each has the setting that the last payload gave, or that of its type if none has. -/
  held : ∀ e ∈ s.engines.items, Engine.HeldAfter e₀ ds e
  /-- They are configured by the payloads in which a setting can be read. -/
  taken : 0 < n → ∀ m d, s.configured? m = some d ↔
    m.action = .configure ∧ m.engineData = d ∧ ∃ e, Engine.SetBy d e₀ e

theorem AtRest.holding {e₀ : Engine} {n : Nat} {ds : List EngineData} {s : Service Engine}
    (h : AtRest e₀ n ds s) (hsteady : Steady e₀)
    (hds : 0 < n → ∀ d ∈ ds, (EngineModel.configure e₀ d).2 = .ok ()) : Holding e₀ n ds s where
  toSettled := h.settled hsteady
  held e he := by
    rw [h.engines_eq] at he
    exact Engine.heldAfter_of_mem_replicate hds he
  taken hn m d := by
    rw [h.configured?_eq_some_iff hsteady hn, ← Engine.configure_accepts_iff]
    rfl

end Service

/-- What holds of engines of the library at work, whenever none of them is being configured. -/
structure EngineRoom.Holding (e₀ : Engine) (n : Nat) (s : EngineRoom Engine) : Prop
    extends Guarded e₀ n s where
  /-- Each has the setting that the last payload gave, or that of its type if none has. -/
  held : ∀ e ∈ s.engines, Engine.HeldAfter e₀ s.configured e
  /-- Whoever has all configures them with a payload in which a setting can be read, and with no other. -/
  taken : 0 < n → ∀ t es d, s.users.uses.get? t = some (.lent ⟨.all, es⟩) →
    ((s.step (.configure t d)).configured = s.configured ++ [d] ↔ ∃ e, Engine.SetBy d e₀ e)

theorem EngineRoom.Alike.holding {e₀ : Engine} {n : Nat} {s : EngineRoom Engine}
    (h : Alike e₀ n s) (hsteady : Steady e₀) (hn : n ≤ ObjectPool.maxPermits)
    (hds : 0 < n → ∀ d ∈ s.configured, (EngineModel.configure e₀ d).2 = .ok ()) :
    Holding e₀ n s where
  toGuarded := h.guarded hsteady hn
  held e he := by
    rw [h.engines_eq] at he
    exact Engine.heldAfter_of_mem_replicate hds he
  taken hpos t es d ht := by
    rw [h.configured_configure hsteady hn hpos ht, ← Engine.configure_accepts_iff]
    change noting s.configured d (e₀.configure d).2 = _ ↔ _
    cases (e₀.configure d).2 with
    | ok u => exact ⟨fun _ => rfl, fun _ => rfl⟩
    | error f =>
      exact ⟨fun heq => absurd (List.self_eq_append_right.mp heq) (List.cons_ne_nil d []), nofun⟩

namespace Service

/-- **The engines of a service are alike.** They are `n` instances of a type of the library. The service
serves messages in turn, each in any surroundings; or, with no more engines than can be asked for at once,
the steps of many requests come in any order. All the time each engine has the setting that the last payload
gave in which one could be read, or that of its type. A configuration that fails changes none of them, and an
execution comes to the same result whichever of them it has. -/
theorem engines_alike {spec : ServiceSpec} {n : Nat} {engines : List Engine}
    (h : EngineRegistry.standard.instantiate spec.engineType n = some engines) :
    ∃ e₀, EngineRegistry.standard.get? spec.engineType = some e₀ ∧
      engines = List.replicate n e₀ ∧
      (∀ ttl turns, Holding e₀ n ((new spec engines ttl).configuredOver turns)
        ((new spec engines ttl).serveAll turns)) ∧
      (n ≤ ObjectPool.maxPermits → ∀ events,
        EngineRoom.Holding e₀ n ((EngineRoom.ofList engines).run events)) := by
  obtain ⟨e₀, he₀, rfl⟩ := Option.map_eq_some_iff.mp h
  have hsteady := EngineRegistry.steady_of_standard he₀
  refine ⟨e₀, he₀, rfl, fun ttl turns => ?_, fun hn events => ?_⟩
  · have hnew : AtRest e₀ n [] (new spec (List.replicate n e₀) ttl) := rfl
    exact (hnew.serveAll hsteady turns).holding hsteady fun hpos => hnew.taken hsteady hpos turns
  · have hstart := EngineRoom.Alike.start e₀ n
    exact (hstart.run hsteady hn events).holding hsteady hn fun hpos =>
      hstart.taken_run hsteady hn hpos (List.forall_mem_nil _) events

/-- One request executes while another waits for all engines, and configures them when they are back, first
with a number and then with something else. -/
def sampleEvents : List EngineEvent :=
  [.pool (.act 1 (.ask .one)), .pool (.act 1 .take), .pool (.act 2 (.ask .all)),
    .execute 1 (sampleJob sampleMessage), .pool (.act 1 .putBack), .pool (.act 1 .freeUp),
    .pool (.act 2 .claim), .pool (.act 2 .take), .configure 2 (.ofText "3" 0),
    .configure 2 (.ofText "three" 0), .pool (.act 2 .putBack)]

/-- A request of `A` to configure `B` with a text. -/
def sampleSetting (text : String) : Message :=
  let m := Message.ofData (.ofName (.sample "B")) (.sample "A") "" (.ofText text 42) .network
  { m with header := { m.header with action := Action.configure.code } }

/-- Three requests in turn: for brackets, for something that cannot be read, and for an execution. -/
def sampleTurns : List (Exchange × Message) :=
  [(.empty, sampleSetting "\x7b\"prefix\": \"<\", \"suffix\": \">\"\x7d"),
    (.empty, sampleSetting "[\"<\"]"), (.empty, sampleMessage)]

/-- The number is what counts, for both engines that had it, and the brackets for the others. -/
theorem settings_held :
    EngineRegistry.standard.instantiate "text_length_classifier" 2 =
        some [.classifyLength 16, .classifyLength 16] ∧
      2 ≤ ObjectPool.maxPermits ∧
      ((EngineRoom.ofList [Engine.classifyLength 16, .classifyLength 16]).run sampleEvents).engines =
        [.classifyLength 3, .classifyLength 3] ∧
      EngineRegistry.standard.instantiate "prefix_suffix_adder" 2 =
        some [.addAffixes ⟨none, none⟩, .addAffixes ⟨none, none⟩] ∧
      ((new ⟨.sample "B", "prefix_suffix_adder", 2, ""⟩
          [Engine.addAffixes ⟨none, none⟩, .addAffixes ⟨none, none⟩] none).serveAll
        sampleTurns).engines.items =
        [.addAffixes ⟨some "<", some ">"⟩, .addAffixes ⟨some "<", some ">"⟩] := by
  have hclassifier : EngineRegistry.standard.instantiate "text_length_classifier" 2 =
      some [.classifyLength 16, .classifyLength 16] := by decide
  have hadder : EngineRegistry.standard.instantiate "prefix_suffix_adder" 2 =
      some [.addAffixes ⟨none, none⟩, .addAffixes ⟨none, none⟩] := by decide
  refine ⟨hclassifier, by decide, ?_, hadder, ?_⟩
  · obtain ⟨e₀, -, heq, -, hroom⟩ :=
      @engines_alike ⟨.sample "B", "text_length_classifier", 2, ""⟩ 2 _ hclassifier
    obtain rfl : .classifyLength 16 = e₀ := (List.cons.inj heq).1
    have hconfigured : ((EngineRoom.ofList [Engine.classifyLength 16, .classifyLength 16]).run
        sampleEvents).configured = [.ofText "3" 0] := by decide +kernel
    rw [(hroom (by decide) sampleEvents).engines, hconfigured]
    decide +kernel
  · obtain ⟨e₀, -, heq, hturns, -⟩ :=
      @engines_alike ⟨.sample "B", "prefix_suffix_adder", 2, ""⟩ 2 _ hadder
    obtain rfl : .addAffixes ⟨none, none⟩ = e₀ := (List.cons.inj heq).1
    have hconfigured : (new ⟨.sample "B", "prefix_suffix_adder", 2, ""⟩
        [Engine.addAffixes ⟨none, none⟩, .addAffixes ⟨none, none⟩] none).configuredOver sampleTurns =
        [(sampleSetting "\x7b\"prefix\": \"<\", \"suffix\": \">\"\x7d").engineData] := by
      decide +kernel
    rw [(hturns none sampleTurns).engines, hconfigured]
    decide +kernel

end Service

end ServiceFlow
