import ServiceFlow.Proofs.Dpe.Registered
import ServiceFlow.Site.Turns

/-!
# What a refused request leaves behind

A request may be refused for what it asks, or because the bus is closed. What has been done by then is
undone, or has not been begun: a container is kept once it is in the directory, and a service that cannot
be put there gives up its subscription. There is one exception. A DPE takes its new front-end before it
announces itself there, and keeps it when the announcement fails.

* `Dpe.Reachable`: what a DPE can come to, whatever is asked of it and whatever goes on around it.
* `Container.openStation_error`, `Container.deployAmid_error`, `Dpe.deployServiceAmid_error`: a deployment
  that fails, at whichever point, leaves nothing but what others did.
* `Dpe.apply_error`: what any refused request leaves behind.
* `Dpe.refused_untouched_iff`: nothing has changed exactly if it was not for another front-end.
* `Dpe.front_end_lost`: a front-end that was refused and is there all the same.
-/

namespace ServiceFlow

/-! ## Containers -/

namespace Container

variable {E : Type} {c c' : Container E} {x x' : Exchange} {n : Name} {description : String}
  {setup : Setup E} {meanwhile : Bus → Bus} {spec : ServiceSpec} {e : DeployError}

theorem start_name (h : Container.start x n description = (x', .ok c)) : c.name = n := by
  unfold Container.start at h
  split at h
  · cases h
  · split at h <;> cases h
    rfl

theorem start_error (h : Container.start (E := E) x n description = (x', .error e)) : x' = x := by
  unfold Container.start at h
  split at h
  · cases h
    rfl
  · split at h <;> cases h
    rfl

/-- What the surroundings are like after a deployment that has failed: as they were, or there had been a
subscription, which was given up after what others did. -/
def GaveUp (meanwhile : Bus → Bus) (x : Exchange) (topic : Topic) (x' : Exchange) : Prop :=
  x' = x ∨ ∃ bus subscription, x.bus.subscribe topic = .ok (bus, subscription) ∧
    (meanwhile bus).closed = true ∧ x' = { x with bus := (meanwhile bus).drop subscription }

/-- Without others the bus cannot be closed halfway, so nothing has changed. -/
theorem GaveUp.eq {topic : Topic} (h : GaveUp id x topic x') : x' = x := by
  obtain h | ⟨bus, subscription, hsub, hclosed, -⟩ := h
  · exact h
  · unfold Bus.subscribe at hsub
    split at hsub
    · cases hsub
    · next hopen =>
      cases hsub
      exact absurd hclosed hopen

theorem openStation_error {s : Service E} (h : openStation meanwhile setup x s = (x', .error e)) :
    GaveUp meanwhile x (.ofName s.name) x' := by
  unfold openStation at h
  cases hsub : x.bus.subscribe (.ofName s.name) with
  | error e' =>
    rw [hsub] at h
    exact .inl (Prod.mk.inj h).1.symm
  | ok r =>
    obtain ⟨bus, subscription⟩ := r
    simp only [hsub] at h
    cases hreg : (meanwhile bus).register s.name s.spec.description with
    | error e' =>
      rw [hreg] at h
      refine .inr ⟨bus, subscription, hsub, ?_, (Prod.mk.inj h).1.symm⟩
      unfold Bus.register at hreg
      split at hreg
      · assumption
      · cases hreg
    | ok bus' =>
      rw [hreg] at h
      cases (Prod.mk.inj h).2

theorem deployAmid_error [EngineModel E]
    (h : c.deployAmid meanwhile setup x spec = (c', x', .error e)) :
    c' = c ∧ GaveUp meanwhile x (.ofName spec.name) x' := by
  unfold deployAmid at h
  split at h
  · cases h
    exact ⟨rfl, .inl rfl⟩
  · split at h
    · cases (Prod.mk.inj (Prod.mk.inj h).2).2
    · split at h
      · cases h
        exact ⟨rfl, .inl rfl⟩
      · next engines _ =>
        obtain ⟨⟨x₁, answer⟩, hopen⟩ : ∃ r, openStation meanwhile setup x
          (.new spec engines setup.settings.barrierTtl) = r := ⟨_, rfl⟩
        simp only [hopen] at h
        cases answer with
        | error e' =>
          have hgave := openStation_error hopen
          cases h
          exact ⟨rfl, hgave⟩
        | ok station => cases (Prod.mk.inj (Prod.mk.inj h).2).2

theorem undeploy_error (h : c.undeploy x n = (c', x', .error e)) : c' = c ∧ x' = x := by
  unfold undeploy at h
  split at h
  · cases h
    exact ⟨rfl, rfl⟩
  · split at h <;> cases h

end Container

/-! ## DPEs that can be had -/

namespace Dpe

variable {E : Type} {d d' : Dpe E} {n : Name} {c : Container E}

/-- What a DPE can come to. Its surroundings may be any at each step: the bus may be closed or used by
others, also while a service is being deployed, and the services work with messages meanwhile. -/
inductive Reachable [EngineModel E] : Dpe E → Prop
  | new {name : Name} {setup : Setup E} {d : Dpe E} (h : Dpe.new name setup = .ok d) : Reachable d
  | applied {d : Dpe E} (h : Reachable d) (x : Exchange) (r : ControlRequest) :
      Reachable (d.apply x r).1
  | deployedAmid {d : Dpe E} (h : Reachable d) (x : Exchange) (meanwhile : Bus → Bus)
      (spec : ServiceSpec) : Reachable (d.deployServiceAmid meanwhile x spec).1
  | worked {d : Dpe E} (h : Reachable d) (s : Station E) : Reachable (d.setStation s)
  | ended {d : Dpe E} (h : Reachable d) (x : Exchange) : Reachable (d.shutDown x).1

/-- Every container stands under its own name. -/
def Keyed (d : Dpe E) : Prop := ∀ n c, d.containers.get? n = some c → c.name = n

theorem Keyed.of_containers (h : d.Keyed) (he : d'.containers = d.containers) : d'.Keyed := by
  intro n c hget
  rw [he] at hget
  exact h n c hget

theorem keyed_cleared (d : Dpe E) : d.cleared.Keyed := by
  intro n c hget
  rw [show d.cleared.containers = ∅ from rfl, NameMap.get?_empty] at hget
  cases hget

theorem Keyed.set (h : d.Keyed) (hc : c.name = n) :
    Keyed { d with containers := d.containers.set n c } := by
  intro m c' hget
  rw [NameMap.get?_set] at hget
  split at hget
  · next he =>
    obtain rfl := Option.some.inj hget
    exact hc.trans he
  · exact h m c' hget

theorem Keyed.erase (h : d.Keyed) (n : Name) :
    Keyed { d with containers := d.containers.erase n } := by
  intro m c hget
  rw [NameMap.get?_erase] at hget
  split at hget
  · cases hget
  · exact h m c hget

theorem Keyed.modify (h : d.Keyed) {f : Container E → Container E} (hf : ∀ c, (f c).name = c.name)
    (n : Name) : Keyed { d with containers := d.containers.modify n f } := by
  unfold NameMap.modify
  split
  · next c hget => exact h.set ((hf c).trans (h n c hget))
  · exact h

theorem Keyed.containerOf (h : d.Keyed) (hc : d.containerOf n = .ok c) :
    d.containers.get? c.name = some c := by
  unfold Dpe.containerOf at hc
  split at hc
  · cases hc
  · split at hc
    · cases hc
    · next hget =>
      cases hc
      rwa [h _ _ hget]

variable {x x' : Exchange}

theorem Keyed.deploy (h : d.Keyed) (n : Name) (description : String) :
    (d.deploy x n description).1.Keyed := by
  obtain ⟨e, hr⟩ | ⟨c, -, hr⟩ | ⟨-, -, hr⟩ := d.deploy_cases x n description
  · rwa [hr]
  · rwa [hr]
  · rw [hr]
    split
    · exact h
    · next hstart => exact h.set (Container.start_name hstart)

theorem Keyed.undeploy (h : d.Keyed) (n : Name) : (d.undeploy x n).1.Keyed := by
  obtain ⟨a, -, hr⟩ | ⟨c, -, hr⟩ := d.undeploy_cases x n
  · rwa [hr]
  · rw [hr]
    exact h.erase n

theorem Keyed.deployServiceAmid [EngineModel E] (h : d.Keyed) (meanwhile : Bus → Bus)
    (spec : ServiceSpec) : (d.deployServiceAmid meanwhile x spec).1.Keyed := by
  unfold Dpe.deployServiceAmid
  split
  · exact h
  · exact h.set rfl

theorem Keyed.removeService (h : d.Keyed) (n : Name) : (d.removeService x n).1.Keyed := by
  unfold Dpe.removeService
  split
  · exact h
  · split
    · exact h
    · exact h.set rfl

theorem Keyed.applyPolicy (h : d.Keyed) (n : Name) (f : ReportPolicy → ReportPolicy) :
    (d.applyPolicy x n f).1.Keyed := by
  unfold Dpe.applyPolicy Dpe.setPolicy
  split
  · next hd =>
    split at hd
    · cases hd
      exact Keyed.modify h (f := fun c => { c with stations := c.stations.modify n _ }) (fun _ => rfl) _
    · cases hd
  · exact h

theorem acknowledge_fst {α : Type} (r : Dpe E × Exchange × Except DeployError α) :
    (acknowledge r).1 = r.1 := by
  obtain ⟨d, x, e | a⟩ := r <;> rfl

theorem Keyed.apply [EngineModel E] (h : d.Keyed) (r : ControlRequest) : (d.apply x r).1.Keyed := by
  cases r with
  | startContainer n description =>
    rw [Dpe.apply, acknowledge_fst]
    exact h.deploy n description
  | stopContainer n =>
    rw [Dpe.apply, acknowledge_fst]
    exact h.undeploy n
  | deployService n engineType poolSize description =>
    rw [Dpe.apply, acknowledge_fst]
    exact h.deployServiceAmid id _
  | removeService n =>
    rw [Dpe.apply, acknowledge_fst]
    exact h.removeService n
  | reportDone n every => exact h.applyPolicy n _
  | reportData n every => exact h.applyPolicy n _
  | setFrontEnd n =>
    obtain ⟨answer, hr⟩ := d.applyFrontEnd_cases x n
    rw [Dpe.apply, hr]
    exact h.of_containers rfl
  | startDpe n =>
    rw [Dpe.apply, applyStart]
    split
    · exact h
    · exact h.of_containers rfl
  | stopDpe n =>
    rw [Dpe.apply, applyStop]
    split <;> exact h.of_containers rfl
  | pingDpe =>
    rw [Dpe.apply, applyPing]
    split <;> exact h

theorem Reachable.keyed [EngineModel E] (h : d.Reachable) : d.Keyed := by
  induction h with
  | new hd =>
    unfold Dpe.new at hd
    split at hd
    · cases hd
    · obtain rfl := Except.ok.inj hd
      exact fun n c hget => nomatch hget
  | applied _ x r ih => exact ih.apply r
  | deployedAmid _ x meanwhile spec ih => exact ih.deployServiceAmid meanwhile spec
  | worked _ s ih =>
    unfold setStation
    split
    · exact ih
    · exact ih.modify (f := fun c => { c with stations := c.stations.set s.service.name s })
        (fun _ => rfl) _
  | @ended d _ x _ =>
    obtain ⟨e, hr⟩ | hr := d.shutDown_cases x <;> rw [hr] <;> exact d.keyed_cleared

/-! ## Refusals -/

variable {r : ControlRequest} {e : DeployError} {a : Except ControlError EngineData}

theorem deploy_error {description : String} (h : d.deploy x n description = (d', x', .error e)) :
    d' = d ∧ x' = x := by
  obtain ⟨e', hr⟩ | ⟨c, -, hr⟩ | ⟨-, -, hr⟩ := d.deploy_cases x n description
  · cases hr.symm.trans h
    exact ⟨rfl, rfl⟩
  · cases hr.symm.trans h
  · rw [hr] at h
    split at h
    · next hstart =>
      cases h
      exact ⟨rfl, Container.start_error hstart⟩
    · cases h

theorem undeploy_error (h : d.undeploy x n = (d', x', .error e)) : d' = d ∧ x' = x := by
  obtain ⟨a, -, hr⟩ | ⟨c, -, hr⟩ := d.undeploy_cases x n
  · cases hr.symm.trans h
    exact ⟨rfl, rfl⟩
  · cases hr.symm.trans h

/-- A service that cannot be deployed leaves its container, and so the DPE, as it was. -/
theorem deployServiceAmid_error [EngineModel E] (hd : d.Keyed) {meanwhile : Bus → Bus}
    {spec : ServiceSpec} (h : d.deployServiceAmid meanwhile x spec = (d', x', .error e)) :
    d' = d ∧ Container.GaveUp meanwhile x (.ofName spec.name) x' := by
  unfold deployServiceAmid at h
  split at h
  · cases h
    exact ⟨rfl, .inl rfl⟩
  · next c hfound =>
    obtain ⟨_, -, hc⟩ := bind_eq_ok.mp hfound
    obtain ⟨⟨c', x₁, answer⟩, hdeploy⟩ : ∃ r, c.deployAmid meanwhile d.setup x spec = r := ⟨_, rfl⟩
    simp only [hdeploy] at h
    cases h
    obtain ⟨rfl, hgave⟩ := Container.deployAmid_error hdeploy
    exact ⟨withContainer_self (hd.containerOf hc), hgave⟩

theorem removeService_error (hd : d.Keyed) (h : d.removeService x n = (d', x', .error e)) :
    d' = d ∧ x' = x := by
  unfold removeService at h
  split at h
  · cases h
    exact ⟨rfl, rfl⟩
  · split at h
    · cases h
    · next c hc =>
      obtain ⟨⟨c', x₁, answer⟩, hundeploy⟩ : ∃ r, c.undeploy x n = r := ⟨_, rfl⟩
      simp only [hundeploy] at h
      cases h
      obtain ⟨rfl, rfl⟩ := Container.undeploy_error hundeploy
      exact ⟨withContainer_self (hd.containerOf hc), rfl⟩

theorem acknowledge_error {α : Type} {q : Dpe E × Exchange × Except DeployError α} {e : ControlError}
    (h : acknowledge q = (d', x', .error e)) : ∃ e', q = (d', x', .error e') := by
  obtain ⟨d, x, e' | a⟩ := q
  · cases h
    exact ⟨e', rfl⟩
  · cases h

theorem applyPolicy_error {f : ReportPolicy → ReportPolicy} {e : ControlError}
    (h : d.applyPolicy x n f = (d', x', .error e)) : d' = d ∧ x' = x := by
  unfold applyPolicy at h
  split at h <;> cases h
  exact ⟨rfl, rfl⟩

theorem publish_error {m : Message} {e : BusError} (h : x.publish m = (x', .error e)) :
    x' = x ∧ x.bus.closed = true := by
  unfold Exchange.publish Bus.publish at h
  split at h
  · cases h
  · next hp =>
    split at hp
    · cases h
      exact ⟨rfl, ‹_›⟩
    · cases hp

/-- The new front-end is kept although it cannot be told. -/
theorem applyFrontEnd_error {f : Name} {e : ControlError}
    (h : d.applyFrontEnd x f = (d', x', .error e)) :
    d' = { d with frontEnd := f } ∧ x' = x ∧ f ≠ d.name ∧ x.bus.closed = true := by
  unfold applyFrontEnd announce at h
  by_cases hf : f = d.name
  · simp only [if_pos hf] at h
    cases h
  · simp only [if_neg hf] at h
    split at h
    · cases h
    · next hp =>
      cases h
      obtain ⟨rfl, hclosed⟩ := publish_error hp
      exact ⟨rfl, rfl, hf, hclosed⟩

theorem applyPing_error {e : ControlError} (h : d.applyPing x = (d', x', .error e)) :
    d' = d ∧ x' = x := by
  unfold applyPing at h
  simp only at h
  split at h
  · cases h
  · next hp =>
    cases h
    exact ⟨rfl, (publish_error hp).1⟩

/-- The DPE with the front-end that a request names, if it names one. -/
def takesFrontEnd (d : Dpe E) : ControlRequest → Dpe E
  | .setFrontEnd f => { d with frontEnd := f }
  | _ => d

/-- **What a refused request leaves behind** is the front-end that it names, and nothing else. -/
theorem apply_error [EngineModel E] (hd : d.Keyed) {e : ControlError}
    (h : d.apply x r = (d', x', .error e)) : d' = d.takesFrontEnd r ∧ x' = x := by
  cases r with
  | startContainer n description =>
    obtain ⟨e', h⟩ := acknowledge_error h
    exact deploy_error h
  | stopContainer n =>
    obtain ⟨e', h⟩ := acknowledge_error h
    exact undeploy_error h
  | deployService n engineType poolSize description =>
    obtain ⟨e', h⟩ := acknowledge_error h
    obtain ⟨hsame, hgave⟩ := deployServiceAmid_error hd h
    exact ⟨hsame, hgave.eq⟩
  | removeService n =>
    obtain ⟨e', h⟩ := acknowledge_error h
    exact removeService_error hd h
  | reportDone n every => exact applyPolicy_error h
  | reportData n every => exact applyPolicy_error h
  | setFrontEnd f =>
    obtain ⟨hkeeps, hsame, -⟩ := applyFrontEnd_error h
    exact ⟨hkeeps, hsame⟩
  | startDpe n =>
    rw [Dpe.apply, applyStart] at h
    split at h <;> cases h
  | stopDpe n =>
    rw [Dpe.apply, applyStop] at h
    split at h <;> cases h
  | pingDpe => exact applyPing_error h

/-- **A refused request has changed nothing exactly if it was not for another front-end.** The containers
with their services and report frequencies, the known DPEs, the directory and all else on the bus, and the
shared memory are the same in any case. So they are if a service cannot be put into the directory because
the bus has been closed halfway: then they are what others have made of them. -/
theorem refused_untouched_iff [EngineModel E] (hd : d.Reachable) (x : Exchange) :
    (∀ r d' x' e, d.apply x r = (d', x', .error e) →
      d' = d.takesFrontEnd r ∧ x' = x ∧
        (d' = d ↔ ∀ f, r = .setFrontEnd f → f = d.frontEnd)) ∧
    ∀ meanwhile spec d' x' e, d.deployServiceAmid meanwhile x spec = (d', x', .error e) →
      d' = d ∧ Container.GaveUp meanwhile x (.ofName spec.name) x' := by
  refine ⟨fun r d' x' e h => ?_, fun meanwhile spec d' x' e h => deployServiceAmid_error hd.keyed h⟩
  obtain ⟨rfl, rfl⟩ := apply_error hd.keyed h
  refine ⟨rfl, rfl, ?_⟩
  cases r with
  | setFrontEnd f =>
    constructor
    · rintro hsame g hg
      cases hg
      exact congrArg frontEnd hsame
    · intro hf
      rw [takesFrontEnd, hf f rfl]
  | _ => exact iff_of_true rfl nofun

open DpeRun in
/-- A DPE with a container. -/
def sampleWithContainer : Dpe Engine :=
  (sampleDpe.apply .empty (.startContainer sampleContainer "first")).1

open DpeRun in
theorem reachable_sampleWithContainer : sampleWithContainer.Reachable :=
  .applied (.new (show Dpe.new sampleDpe.name sampleSetup = .ok sampleDpe from rfl)) .empty _

open DpeRun in
/-- A service of an engine that there is none of is refused, and nothing has changed. -/
theorem unknownEngine_untouched :
    ∃ e, sampleWithContainer.apply .empty (.deployService sampleService "nonesuch" 1 "") =
      (sampleWithContainer, .empty, .error e) := by
  obtain ⟨h, -⟩ := refused_untouched_iff reachable_sampleWithContainer .empty
  have hfails : (sampleWithContainer.apply .empty
    (.deployService sampleService "nonesuch" 1 "")).2.2.isOk = false := by decide +kernel
  obtain ⟨⟨d', x', answer⟩, hr⟩ : ∃ r, sampleWithContainer.apply .empty
    (.deployService sampleService "nonesuch" 1 "") = r := ⟨_, rfl⟩
  rw [hr] at hfails ⊢
  cases answer with
  | ok a => cases hfails
  | error e =>
    obtain ⟨hkeeps, rfl, -⟩ := h _ d' x' e hr
    rw [hkeeps]
    exact ⟨e, rfl⟩

/-- Surroundings with a closed bus. -/
def closedExchange : Exchange := { Exchange.empty with bus := Exchange.empty.bus.close }

open DpeRun in
/-- On a closed bus another front-end is refused, and is the front-end all the same. -/
theorem front_end_lost :
    sampleWithContainer.Reachable ∧ ∃ f e,
      sampleWithContainer.apply closedExchange (.setFrontEnd f) =
        ({ sampleWithContainer with frontEnd := f }, closedExchange, .error e) ∧
      sampleWithContainer.frontEnd ≠ f := by
  refine ⟨reachable_sampleWithContainer, ⟨"g", 7771, .java, .dpe⟩, .bus .closed, rfl, by decide⟩

end Dpe

end ServiceFlow
