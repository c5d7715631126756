import ServiceFlow.Proofs.Dpe.Deployed
import ServiceFlow.Proofs.Dpe.Surroundings
import ServiceFlow.Proofs.Results

/-!
# What is deployed is what is registered

A DPE keeps three accounts of its services: its containers, the directory of the bus, and the open receivers
of its shared memory. An operation may be refused, at its beginning or halfway, and the bus may be closed at
any time, also while a service is being deployed. The three accounts agree all the same.

* `DpeEvent`: what a DPE is told to do and what others do to the bus; `DpeEvent.note` is what should be
  deployed afterwards, which depends only on what was asked for and whether it was done.
* `Dpe.Coherent.perform`: the accounts agree after one event if they did before.
* `DpeRun.run_inStep`: they agree after every run from the beginning, with each other and with the history.

What a service does with messages is left out: it opens no receiver and puts nothing into the directory.
-/

namespace ServiceFlow

/-! ## Histories -/

/-- What a DPE is told to do, or what others do to the bus. While a service is deployed the others may use
the bus too. -/
inductive DpeEvent where
  | deploy (n : Name) (description : String)
  | undeploy (n : Name)
  | deployService (spec : ServiceSpec) (meanwhile : List DirectoryEvent)
  | removeService (n : Name)
  | shutDown
  | setFrontEnd (n : Name)
  | others (e : DirectoryEvent)

namespace DpeEvent

/-- Names are well-formed, as all that can be had are (`Name.obtainable_iff`), and others put nothing into
the directory below the DPE and take nothing out there. Whether a name fits, and whether there is such a
container, is left to the DPE. -/
def WellFormed (dpe : Name) : DpeEvent → Prop
  | deploy n _ | undeploy n | removeService n | setFrontEnd n => n.Valid
  | deployService spec meanwhile => spec.name.Valid ∧ ∀ e ∈ meanwhile, e.Apart dpe
  | shutDown => True
  | others e => e.Apart dpe

instance (dpe : Name) : DecidablePred (WellFormed dpe)
  | deploy n _ | undeploy n | removeService n | setFrontEnd n => inferInstanceAs (Decidable n.Valid)
  | deployService spec meanwhile =>
    inferInstanceAs (Decidable (spec.name.Valid ∧ ∀ e ∈ meanwhile, e.Apart dpe))
  | shutDown => inferInstanceAs (Decidable True)
  | others e => inferInstanceAs (Decidable (e.Apart dpe))

/-- What is deployed, with the description that it was first deployed with, after one more event: by what
was asked for, and by whether the answer was that it is done. -/
def note (book : Name → Option String) : DpeEvent → Bool → Name → Option String
  | deploy n description, true => Function.update book n ((book n).or (some description))
  | deployService spec _, true =>
    Function.update book spec.name ((book spec.name).or (some spec.description))
  | undeploy n, true => fun m => if m = n ∨ n.isContainerOf m = true then none else book m
  | removeService n, true => Function.update book n none
  | shutDown, _ => fun _ => none
  | _, _ => book

end DpeEvent

namespace Dpe

variable {E : Type} {d : Dpe E} {x : Exchange} {n : Name}

/-- What becomes of a DPE and its surroundings, and whether the answer is that it is done. -/
def perform [EngineModel E] (d : Dpe E) (x : Exchange) : DpeEvent → Dpe E × Exchange × Bool
  | .deploy n description =>
    let r := d.deploy x n description
    (r.1, r.2.1, r.2.2.isOk)
  | .undeploy n =>
    let r := d.undeploy x n
    (r.1, r.2.1, removed r.2.2)
  | .deployService spec meanwhile =>
    let r := d.deployServiceAmid (·.keepAll meanwhile) x spec
    (r.1, r.2.1, r.2.2.isOk)
  | .removeService n =>
    let r := d.removeService x n
    (r.1, r.2.1, removed r.2.2)
  | .shutDown =>
    let r := d.shutDown x
    (r.1, r.2.1, r.2.2.isOk)
  | .setFrontEnd n =>
    let r := d.applyFrontEnd x n
    (r.1, r.2.1, r.2.2.isOk)
  | .others e => (d, { x with bus := x.bus.keep e }, true)

/-- Everything is in its place, the directory says of everything below the DPE what is deployed, and the
open receivers are the deployed services. -/
structure Coherent (d : Dpe E) (x : Exchange) : Prop where
  valid : d.name.Valid
  nested : d.Nested
  directory : x.bus.Tells d.name d.shown?
  receivers : ∀ n, n ∈ x.memory.receivers ↔ (d.service? n).isSome = true

/-- The DPE is another, with the same name, and shows what the book says. -/
structure Becomes (d d' : Dpe E) (x' : Exchange) (book : Name → Option String) : Prop where
  coherent : d'.Coherent x'
  name : d'.name = d.name
  shown : d'.shown? = book

namespace Coherent

theorem becomes_self (h : d.Coherent x) : d.Becomes d x d.shown? := ⟨h, rfl, rfl⟩

/-- The directory and the receivers are all that matters of an exchange. -/
theorem congr (h : d.Coherent x) {x' : Exchange} (htells : x'.bus.Tells d.name d.shown?)
    (hmemory : x'.memory = x.memory) : d.Coherent x' :=
  ⟨h.valid, h.nested, htells, fun m => by rw [hmemory, h.receivers]⟩

/-- A container or service that is there keeps its description. -/
theorem update_shown {description : String} (hn : d.shown? n ≠ none) :
    Function.update d.shown? n ((d.shown? n).or (some description)) = d.shown? := by
  obtain ⟨old, hold⟩ := Option.ne_none_iff_exists'.mp hn
  rw [hold, Option.some_or, ← hold, Function.update_eq_self]

/-! ## One container -/

theorem deploy (h : d.Coherent x) (hn : n.Valid) (description : String) :
    d.Becomes (d.deploy x n description).1 (d.deploy x n description).2.1
      (DpeEvent.note d.shown? (.deploy n description) (d.deploy x n description).2.2.isOk) := by
  rcases d.deploy_cases x n description with ⟨e, hr⟩ | ⟨c, hget, hr⟩ | ⟨hd, hget, hr⟩
  case inl =>
    rw [hr]
    exact h.becomes_self
  case inr.inl =>
    have hshown : d.shown? n ≠ none := by
      rw [shown?_container (h.nested n c hget).2.2.1, hget]
      nofun
    rw [hr]
    exact ⟨h, rfl, (update_shown hshown).symm⟩
  case inr.inr =>
    rcases Container.start_spec (E := E) h.directory hn description with
      ⟨e, hstart⟩ | ⟨hk, x', hstart, htells, hmemory⟩
    · rw [hr, hstart]
      exact h.becomes_self
    · have hshown := funext (shown?_start hk hget description)
      have hnote : DpeEvent.note d.shown? (.deploy n description) true =
          Function.update d.shown? n (some description) := by
        show Function.update _ _ _ = _
        rw [shown?_container hk, hget, Option.map_none, Option.none_or]
      rw [hr, hstart]
      refine ⟨⟨h.valid, ?_, ?_, ?_⟩, rfl, hshown.trans hnote.symm⟩
      · exact h.nested.withContainer hn hk hd (Container.nested_start n description)
      · exact hshown ▸ htells
      · intro m
        show _ ↔ ((d.withContainer ⟨n, description, ∅⟩).service? m).isSome = true
        rw [hmemory, h.receivers, service?_start hget]

theorem undeploy (h : d.Coherent x) (n : Name) :
    d.Becomes (d.undeploy x n).1 (d.undeploy x n).2.1
      (DpeEvent.note d.shown? (.undeploy n) (removed (d.undeploy x n).2.2)) := by
  rcases d.undeploy_cases x n with ⟨a, ha, hr⟩ | ⟨c, hget, hr⟩
  · rw [hr]
    simp only [ha]
    exact h.becomes_self
  · obtain ⟨rfl, hn, hk, -, hnested⟩ := h.nested n c hget
    have hleaves := Container.leaves_stop hn hnested.valid x
    rw [hr]
    refine ⟨⟨h.valid, h.nested.withoutContainer c.name, ?_, ?_⟩, rfl, funext (shown?_erase hk)⟩
    · rw [shown?_leaves h.nested hget]
      exact hleaves.tells h.directory
    · intro m
      rw [hleaves.receivers, h.receivers, service?_leaves h.nested hget]

/-! ## One service -/

section Change

variable {c : Container E} {s : Option (Service E)} {x' : Exchange}

/-- A change to one service of a container, in the directory and to its receiver as well. -/
theorem change (h : d.Coherent x) (c' : Container E) (hget : d.containers.get? c.name = some c)
    (hname : c'.name = c.name) (hdescription : c'.description = c.description) (hnested : c'.Nested)
    (hn : c.name.isContainerOf n = true)
    (hservice : ∀ m, c'.service? m = if n = m then s else c.service? m)
    (htells : x'.bus.Tells d.name (Function.update d.shown? n (s.map fun s => s.spec.description)))
    (hreceivers : ∀ m, m ∈ x'.memory.receivers ↔
      if n = m then s.isSome = true else m ∈ x.memory.receivers) :
    d.Becomes (d.withContainer c') x'
      (Function.update d.shown? n (s.map fun s => s.spec.description)) := by
  obtain ⟨hkind, hcontainer⟩ := Name.isContainerOf_iff.mp hn
  obtain ⟨-, hvalid, hk, hbelow, -⟩ := h.nested c.name c hget
  have hshown := funext (shown?_change hget hname hcontainer hservice hkind hdescription)
  refine ⟨⟨h.valid, ?_, ?_, ?_⟩, rfl, hshown⟩
  · rw [← hname] at hvalid hk hbelow
    exact h.nested.withContainer hvalid hk hbelow hnested
  · rw [hshown]
    exact htells
  · intro m
    rw [hreceivers, service?_change hget hname hcontainer hservice, h.receivers]
    by_cases hm : n = m <;> simp [hm]

end Change

theorem removeService (h : d.Coherent x) (n : Name) :
    d.Becomes (d.removeService x n).1 (d.removeService x n).2.1
      (DpeEvent.note d.shown? (.removeService n) (removed (d.removeService x n).2.2)) := by
  rcases removeService_cases x h.nested n with ⟨a, ha, hr⟩ | ⟨c, s, hget, hin, hs, hr⟩
  · rw [hr]
    simp only [ha]
    exact h.becomes_self
  · obtain ⟨-, -, -, -, hnested⟩ := h.nested c.name c hget
    obtain ⟨rfl, hvalid, -⟩ := hnested n s hs
    have hleaves := Container.leaves_closeStation hvalid x
    have htells := hleaves.tells h.directory
    have hupdate : (fun m => if m ∈ [s.service.name] then none else d.shown? m) =
        Function.update d.shown? s.service.name none := by
      funext m
      rw [Function.update_apply]
      simp only [List.mem_singleton]
    rw [hupdate] at htells
    rw [hr]
    refine h.change (c.withoutStation s.service.name) hget rfl rfl (hnested.withoutStation _) hin
      (c.service?_withoutStation s.service.name) htells fun m => ?_
    rw [hleaves.receivers, List.mem_singleton]
    by_cases hm : s.service.name = m
    · simp [hm]
    · simp [hm, Ne.symm hm]

theorem deployService [EngineModel E] (h : d.Coherent x) {es : List DirectoryEvent}
    (he : ∀ e ∈ es, e.Apart d.name) {spec : ServiceSpec} (hn : spec.name.Valid) :
    d.Becomes (d.deployServiceAmid (·.keepAll es) x spec).1
      (d.deployServiceAmid (·.keepAll es) x spec).2.1
      (DpeEvent.note d.shown? (.deployService spec es)
        (d.deployServiceAmid (·.keepAll es) x spec).2.2.isOk) := by
  rcases deployServiceAmid_cases x h.nested (·.keepAll es) spec with
    ⟨-, e, hr⟩ | ⟨c, hcontainer, hget, hr⟩
  · rw [hr]
    exact h.becomes_self
  · obtain ⟨-, -, -, -, hnested⟩ := h.nested c.name c hget
    have hshown (hk : spec.name.kind = .service) :
        d.shown? spec.name = (c.service? spec.name).map fun s => s.spec.description := by
      rw [shown?_service hk, service?_of_container hcontainer, hget]
      rfl
    rcases Container.deployAmid_spec h.directory he d.setup c hn with
      ⟨x', e, hdeploy, htells, hmemory⟩ | ⟨s, hs, hdeploy⟩ |
      ⟨x', station, hdeploy, hspec, hin, hnone, htells, hmemory⟩
    case inl =>
      rw [hr, hdeploy]
      simp only [withContainer_self hget]
      exact (h.congr htells hmemory).becomes_self
    case inr.inl =>
      have hold : d.shown? spec.name ≠ none := by
        have hin := hnested.isContainerOf (Option.isSome_of_eq_some hs)
        rw [hshown (Name.isContainerOf_iff.mp hin).1, hs]
        nofun
      rw [hr, hdeploy]
      simp only [withContainer_self hget]
      exact ⟨h, rfl, (update_shown hold).symm⟩
    case inr.inr =>
      have hnote : DpeEvent.note d.shown? (.deployService spec es) true =
          Function.update d.shown? spec.name (some station.service.spec.description) := by
        show Function.update _ _ _ = _
        rw [hshown (Name.isContainerOf_iff.mp hin).1, hnone, Option.map_none, Option.none_or, hspec]
      rw [hr, hdeploy]
      show d.Becomes _ _ (DpeEvent.note d.shown? (.deployService spec es) true)
      rw [hnote]
      refine h.change (c.withStation spec.name station) hget rfl rfl
        (hnested.withStation (congrArg ServiceSpec.name hspec) hn hin) hin
        (c.service?_withStation spec.name station) ?_ fun m => ?_
      · rw [Option.map_some, hspec]
        exact htells
      · rw [hmemory]
        show m ∈ x.memory.receivers.insert spec.name ↔ _
        rw [NameSet.mem_insert]
        by_cases hm : spec.name = m
        · simp [hm]
        · simp [hm, Ne.symm hm]

/-! ## The end -/

/-- When all containers have stopped, nothing of the DPE is left. -/
theorem stopped (h : d.Coherent x) : d.cleared.Coherent (stopAll x d.containers.values) := by
  have hall : ∀ c ∈ d.containers.values,
      c.name.Valid ∧ ∀ s ∈ c.stations.values, s.service.name.Valid := by
    intro c hc
    obtain ⟨n, hget⟩ := NameMap.mem_values.mp hc
    obtain ⟨rfl, hn, -, -, hnested⟩ := h.nested n c hget
    exact ⟨hn, hnested.valid⟩
  have hleaves := leaves_stopAll hall x
  refine ⟨h.valid, nested_cleared d, ?_, fun m => ?_⟩
  · have htells := hleaves.tells h.directory
    have hnothing : d.cleared.shown? = fun m =>
        if m ∈ d.containers.values.flatMap (fun c => c.serviceNames ++ [c.name]) then none
        else d.shown? m := by
      funext m
      rw [shown?_cleared]
      split
      · rfl
      · next hm => exact (not_not.mp fun hn => hm (h.nested.mem_containers hn)).symm
    rw [hnothing]
    exact htells
  · rw [hleaves.receivers, h.receivers, service?_cleared]
    refine iff_of_false ?_ nofun
    rintro ⟨hs, hm⟩
    obtain ⟨q, c, -, hget, hservice, -⟩ := h.nested.service_container hs
    obtain ⟨-, -, -, -, hnested⟩ := h.nested q c hget
    exact hm (List.mem_flatMap.mpr
      ⟨c, NameMap.mem_values.mpr ⟨q, hget⟩, (Container.mem_serviceNames hnested).mpr hservice⟩)

theorem shutDown (h : d.Coherent x) :
    d.Becomes (d.shutDown x).1 (d.shutDown x).2.1
      (DpeEvent.note d.shown? .shutDown (d.shutDown x).2.2.isOk) := by
  have hstopped := h.stopped
  have hshown : d.cleared.shown? = fun _ => none := funext (shown?_cleared d)
  obtain ⟨htells, hmemory⟩ := d.cleared.announce_spec hstopped.directory d.frontEnd
    (ControlRequest.stopDpe d.name).text
  have hannounced := hstopped.congr htells hmemory
  have hnote (done : Bool) : DpeEvent.note d.shown? .shutDown done = fun _ => none := by
    cases done <;> rfl
  rw [hnote]
  obtain ⟨e, hr⟩ | hr := d.shutDown_cases x
  · rw [hr]
    exact ⟨hannounced, rfl, hshown⟩
  · -- the DPE leaves the directory, but it is not below itself
    have hself : (DirectoryEvent.unregister d.name).Apart d.name :=
      ⟨h.valid, Name.not_isDpeOf_self d.name⟩
    rw [hr]
    exact ⟨hannounced.congr (hannounced.directory.keep hself) rfl, rfl, hshown⟩

theorem setFrontEnd (h : d.Coherent x) (n : Name) :
    d.Becomes (d.applyFrontEnd x n).1 (d.applyFrontEnd x n).2.1 d.shown? := by
  have hother : ({ d with frontEnd := n } : Dpe E).Coherent x :=
    ⟨h.valid, h.nested, h.directory, h.receivers⟩
  obtain ⟨htells, hmemory⟩ := announce_spec { d with frontEnd := n } hother.directory n
    (ControlRequest.startDpe d.name).text
  obtain ⟨answer, hr⟩ := d.applyFrontEnd_cases x n
  rw [hr]
  exact ⟨hother.congr htells hmemory, rfl, rfl⟩

/-- **One event**: everything stays in its place, in the directory and in the shared memory, and what is
deployed changes as it is noted. -/
theorem perform [EngineModel E] (h : d.Coherent x) {e : DpeEvent} (he : e.WellFormed d.name) :
    d.Becomes (d.perform x e).1 (d.perform x e).2.1 (e.note d.shown? (d.perform x e).2.2) := by
  cases e with
  | deploy n description => exact h.deploy he description
  | undeploy n => exact h.undeploy n
  | deployService spec meanwhile => exact h.deployService he.2 he.1
  | removeService n => exact h.removeService n
  | shutDown => exact h.shutDown
  | setFrontEnd n =>
    have hnote (done : Bool) : DpeEvent.note d.shown? (.setFrontEnd n) done = d.shown? := by
      cases done <;> rfl
    rw [hnote]
    exact h.setFrontEnd n
  | others e => exact ⟨h.congr (h.directory.keep he) rfl, rfl, rfl⟩

end Coherent

/-! ## Again -/

/-- To deploy a container that is there changes nothing. -/
theorem deploy_again (h : d.Nested) {c : Container E} (hget : d.containers.get? n = some c)
    (x : Exchange) (description : String) : d.deploy x n description = (d, x, .ok ()) := by
  obtain ⟨-, -, -, hd, -⟩ := h n c hget
  simp [deploy, checkContains, hd, NameMap.has, hget]

/-- To deploy a service that is there changes nothing, whatever else the specification says; one that says
nothing sensible is refused. -/
theorem deployService_again [EngineModel E] (h : d.Nested) {spec : ServiceSpec} {s : Service E}
    (hs : d.service? spec.name = some s) (meanwhile : Bus → Bus) (x : Exchange) :
    d.deployServiceAmid meanwhile x spec = (d, x, spec.validate.map fun _ => s) := by
  rcases deployServiceAmid_cases x h meanwhile spec with ⟨hnone, -⟩ | ⟨c, hcontainer, hget, hr⟩
  · rw [hs] at hnone
    cases hnone
  · have hservice : c.service? spec.name = some s := by
      rw [service?_of_container hcontainer, hget] at hs
      exact hs
    obtain ⟨-, -, -, -, hnested⟩ := h c.name c hget
    rw [hr, Container.deployAmid_again hnested hservice]
    simp only [withContainer_self hget]

end Dpe

/-! ## Runs -/

/-- A DPE in its surroundings, and what is deployed on it according to its history. -/
structure DpeRun (E : Type) where
  dpe : Dpe E
  exchange : Exchange
  book : Name → Option String

namespace DpeRun

variable {E : Type}

/-- A DPE before any event. -/
def start (d : Dpe E) : DpeRun E := ⟨d, .empty, fun _ => none⟩

/-- One more event. -/
def step [EngineModel E] (r : DpeRun E) (e : DpeEvent) : DpeRun E :=
  let (d, x, done) := r.dpe.perform r.exchange e
  ⟨d, x, e.note r.book done⟩

/-- Events in turn. -/
def run [EngineModel E] (r : DpeRun E) (events : List DpeEvent) : DpeRun E := events.foldl step r

/-- The accounts agree, and the DPE is the one of that name. -/
structure Kept (dpe : Name) (r : DpeRun E) : Prop where
  coherent : r.dpe.Coherent r.exchange
  name : r.dpe.name = dpe
  shown : r.dpe.shown? = r.book

theorem kept_start {name : Name} (hname : name.Valid) {setup : Setup E} {d : Dpe E}
    (hd : Dpe.new name setup = .ok d) : Kept name (start d) := by
  obtain ⟨rfl, hnone⟩ : d.name = name ∧ d.cleared = d := by
    unfold Dpe.new at hd
    split at hd
    · cases hd
    · obtain rfl := Except.ok.inj hd
      exact ⟨rfl, rfl⟩
  have hnested : d.Nested := hnone ▸ Dpe.nested_cleared d
  have hservice (n : Name) : d.service? n = none := hnone ▸ Dpe.service?_cleared d n
  have hshown (n : Name) : d.shown? n = none := hnone ▸ Dpe.shown?_cleared d n
  refine ⟨⟨hname, hnested, ?_, fun n => ?_⟩, rfl, funext hshown⟩
  · exact ⟨∅, Bus.lists_empty, fun n _ => (hshown n).symm⟩
  · show n ∈ (∅ : NameSet) ↔ (d.service? n).isSome = true
    rw [hservice]
    exact iff_of_false (NameSet.not_mem_empty n) nofun

section Run

variable [EngineModel E] {dpe : Name} {r : DpeRun E}

theorem Kept.step (h : Kept dpe r) {e : DpeEvent} (he : e.WellFormed dpe) :
    Kept dpe (r.step e) := by
  obtain ⟨hcoherent, rfl, hshown⟩ := h
  obtain ⟨hnext, hname, hnote⟩ := hcoherent.perform he
  refine ⟨hnext, hname, ?_⟩
  rw [hshown] at hnote
  exact hnote

theorem Kept.run (h : Kept dpe r) {events : List DpeEvent} (he : ∀ e ∈ events, e.WellFormed dpe) :
    Kept dpe (r.run events) := by
  induction events generalizing r with
  | nil => exact h
  | cons e events ih =>
    obtain ⟨hfirst, hrest⟩ := List.forall_mem_cons.mp he
    exact ih (h.step hfirst) hrest

/-- What the accounts of a DPE have in common, and what they have with its history. -/
structure InStep (dpe : Name) (r : DpeRun E) : Prop where
  /-- What is deployed is what the history says, with its first description. -/
  shown : ∀ n, r.dpe.shown? n = r.book n
  /-- What is registered at or below a name on the DPE is that, each once. -/
  found : ∀ base, base.Valid → dpe.isDpeOf base = true →
    r.exchange.bus.Finds ⟨r.exchange.bus.closed, r.book⟩ base
  /-- The open receivers are the deployed services. -/
  receivers : ∀ n, n ∈ r.exchange.memory.receivers ↔ (r.dpe.service? n).isSome = true
  /-- Containers and services are where their names belong. -/
  placed : ∀ q c m s, r.dpe.containers.get? q = some c → c.stations.get? m = some s →
    c.name = q ∧ s.service.name = m ∧ c.name.isContainerOf m = true ∧
      dpe.isDpeOf c.name = true ∧ dpe.isDpeOf m = true
  /-- A container that is deployed again stays as it is, with all its services. -/
  container_again : ∀ n c description, r.dpe.containers.get? n = some c →
    r.dpe.deploy r.exchange n description = (r.dpe, r.exchange, .ok ())
  /-- A service that is deployed again stays as it is, and is the answer unless the specification is
  refused. -/
  service_again : ∀ spec s meanwhile, r.dpe.service? spec.name = some s →
    r.dpe.deployServiceAmid meanwhile r.exchange spec =
      (r.dpe, r.exchange, spec.validate.map fun _ => s)

theorem Kept.inStep (h : Kept dpe r) : InStep dpe r := by
  obtain ⟨⟨-, hnested, hdirectory, hreceivers⟩, rfl, hshown⟩ := h
  constructor
  case shown => exact congrFun hshown
  case found =>
    intro base hbase hin
    rw [← hshown]
    exact hdirectory.finds hbase hin
  case receivers => exact hreceivers
  case placed =>
    intro q c m s hc hs
    obtain ⟨rfl, -, -, hd, hstations⟩ := hnested q c hc
    obtain ⟨rfl, -, hin⟩ := hstations m s hs
    exact ⟨rfl, rfl, hin, hd, Name.isDpeOf_of_isContainerOf hd hin⟩
  case container_again => exact fun n c description hc => Dpe.deploy_again hnested hc _ _
  case service_again => exact fun spec s meanwhile hs => Dpe.deployService_again hnested hs _ _

/-- **The containers of a DPE, the directory and the open receivers agree** after every run: whatever is
deployed and removed, accepted or refused, and whenever the bus is closed. -/
theorem run_inStep {name : Name} (hname : name.Valid) {setup : Setup E} {d : Dpe E}
    (hd : Dpe.new name setup = .ok d) {events : List DpeEvent}
    (he : ∀ e ∈ events, e.WellFormed name) : InStep name ((start d).run events) :=
  ((kept_start hname hd).run he).inStep

/-- A name on the DPE `h_java`. -/
def sampleName (place : Place) : Name := ⟨"h", 7771, .java, place⟩

def sampleContainer : Name := sampleName (.container "c")

def sampleService : Name := sampleName (.service "c" "S")

/-- A DPE with the text engines. -/
def sampleSetup : Setup Engine := ⟨.standard, ⟨2, none, 4⟩⟩

def sampleDpe : Dpe Engine := ⟨sampleName .dpe, sampleName .dpe, ∅, ∅, false, sampleSetup⟩

/-- Two containers and three services are deployed, one of each twice. Then a service is removed, and the
container of another undeployed. What is gone cannot be removed again, nor is it deployed again by a request
during which the bus is closed. -/
def sampleEvents : List DpeEvent :=
  [.deploy sampleContainer "first", .deploy sampleContainer "second",
    .deployService ⟨sampleService, "reverse_text", 2, "turns round"⟩ [],
    .deployService ⟨sampleService, "token_counter", 1, "counts"⟩ [],
    .deployService ⟨sampleName (.service "c" "T"), "token_counter", 1, "counts"⟩ [],
    .deploy (sampleName (.container "k")) "other",
    .deployService ⟨sampleName (.service "k" "U"), "token_counter", 1, "counts"⟩ [],
    .removeService (sampleName (.service "c" "T")), .undeploy (sampleName (.container "k")),
    .removeService (sampleName (.service "k" "U")),
    .deployService ⟨sampleName (.service "c" "T"), "token_counter", 1, "counts"⟩ [.traffic .close]]

/-- One service is left of the three, and nothing at all after a shutdown. -/
theorem sampleEvents_inStep :
    InStep sampleDpe.name ((start sampleDpe).run sampleEvents) ∧
      ((start sampleDpe).run (sampleEvents.take 7)).exchange.memory.receivers.toList =
        [sampleService, sampleName (.service "c" "T"), sampleName (.service "k" "U")] ∧
      ((start sampleDpe).run sampleEvents).exchange.memory.receivers.toList = [sampleService] ∧
      ⟨sampleService.text, "turns round"⟩ ∈
        ((start sampleDpe).run sampleEvents).exchange.bus.find sampleContainer ∧
      (∀ place ∈ [.service "c" "T", .container "k", .service "k" "U"],
        ((start sampleDpe).run sampleEvents).dpe.shown? (sampleName place) = none) ∧
      InStep sampleDpe.name ((start sampleDpe).run (sampleEvents ++ [.shutDown])) ∧
      ((start sampleDpe).run (sampleEvents ++ [.shutDown])).exchange.memory.receivers.toList = [] ∧
      ((start sampleDpe).run (sampleEvents ++ [.shutDown])).exchange.bus.find sampleContainer = [] := by
  have hname : sampleDpe.name.Valid := by decide
  have hdpe : Dpe.new sampleDpe.name sampleSetup = .ok sampleDpe := rfl
  have hevents : ∀ e ∈ sampleEvents ++ [.shutDown], e.WellFormed sampleDpe.name := by decide
  have h := run_inStep hname hdpe (List.forall_mem_append.mp hevents).1
  have hend := run_inStep hname hdpe hevents
  refine ⟨h, by decide, by decide +kernel, ?_, fun place hplace => (h.shown _).trans ?_, hend,
    by decide +kernel, ?_⟩
  · refine ((h.found sampleContainer (by decide) (by decide)).exactly _).mpr ?_
    exact ⟨sampleService, by decide, rfl, by decide +kernel, .inr (.inr rfl)⟩
  · revert place
    decide +kernel
  · refine List.eq_nil_iff_forall_not_mem.mpr fun r hr => ?_
    obtain ⟨n, -, -, hentry, -⟩ :=
      ((hend.found sampleContainer (by decide) (by decide)).exactly r).mp hr
    rw [run, List.foldl_append] at hentry
    cases hentry

end Run

end DpeRun

end ServiceFlow
