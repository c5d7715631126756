import ServiceFlow.Config.Check
import ServiceFlow.Config.Launch
import ServiceFlow.Proofs.Dpe.Deployed
import ServiceFlow.Proofs.Dpe.FrontEnds

/-!
# Valid configurations can be carried out

The check of a configuration looks at its texts, and a deployment can fail for reasons of its own: a name
that is ill-formed or in the wrong place, a container that is not there, an engine type that is not known,
a pool without engines. None of these is left for a configuration that has no problems.

## What the check guarantees

`Config.Named` says what a configuration stands for: the names of its DPE, of its front-end, and of its
containers and services, none of them twice. `Config.named_of_validate` has them from the check.

## What a deployment leaves

`Config.Furnished` says that a DPE has some of the containers and services and nothing else.

* `Config.Furnished.deploy`, `Config.Furnished.deployService`: one more container or service is deployed,
  if the bus is open.
* `Config.deployAll_furnished`, `Config.deployServices_furnished`: so are all of them, in turn.
* `Config.launch_of_valid`: the DPE of a valid configuration has what is configured, and nothing else.
-/

namespace ServiceFlow

variable {E : Type}

/-! ## What the check guarantees -/

/-- The type of a service is known, and its pool is not empty. -/
structure ServiceSection.Sound (r : EngineRegistry E) (s : ServiceSection) : Prop where
  engine : ∃ e, Table.get? r s.engineType = some e
  pool : s.poolSize ≠ some 0

section Problems

variable {r : EngineRegistry E} {seen seen' : List Name} {n : Name} {s : ServiceSection}

theorem ServiceSection.problems_eq_nil (h : s.problems r seen n = []) : n ∉ seen ∧ s.Sound r := by
  obtain ⟨h, hengine⟩ := List.append_eq_nil_iff.mp h
  obtain ⟨hseen, hpool⟩ := List.append_eq_nil_iff.mp h
  refine ⟨fun hn => ?_, ?_, fun hz => ?_⟩
  · rw [if_pos hn] at hseen
    cases hseen
  · split at hengine
    · rename_i hc
      exact Option.isSome_iff_exists.mp hc
    · cases hengine
  · rw [if_pos hz] at hpool
    cases hpool

/-- Services without problems have names, none of which has been seen before. -/
theorem servicesProblems_eq_nil {container : Name} {ss : List ServiceSection}
    (h : servicesProblems r container seen ss = (seen', [])) :
    ∃ named, (ss.mapM fun s => do return (← container.makeService s.engine, s)) = .ok named ∧
      (seen.Nodup → seen'.Nodup) ∧ seen' = (named.map (·.1)).reverse ++ seen ∧
      ∀ e ∈ named, e.2.Sound r := by
  induction ss generalizing seen with
  | nil =>
    cases h
    exact ⟨[], rfl, id, rfl, fun e he => absurd he List.not_mem_nil⟩
  | cons s ss ih =>
    unfold servicesProblems at h
    cases hn : container.makeService s.engine with
    | error e =>
      rw [hn] at h
      cases (Prod.mk.inj h).2
    | ok n =>
      rw [hn] at h
      obtain ⟨hseen', hproblems⟩ := Prod.mk.inj h
      obtain ⟨hown, hrest⟩ := List.append_eq_nil_iff.mp hproblems
      obtain ⟨hnew, hsound⟩ := ServiceSection.problems_eq_nil hown
      obtain ⟨named, hnamed, hnodup, hall, hsounds⟩ := ih (Prod.ext hseen' hrest)
      refine ⟨(n, s) :: named, ?_, fun hs => hnodup (List.nodup_cons.mpr ⟨hnew, hs⟩), ?_, ?_⟩
      · rw [List.mapM_cons, hn, hnamed]
        rfl
      · rw [hall, List.map_cons, List.reverse_cons, List.append_assoc]
        rfl
      · exact List.forall_mem_cons.mpr ⟨hsound, hsounds⟩

/-- Containers without problems have names, and so have their services. -/
theorem containersProblems_eq_nil {dpe : Name} {services : List Name} {cs : List ContainerSection}
    (h : containersProblems r dpe seen services cs = []) :
    ∃ containers : List (Name × ContainerSection), ∃ named : List (List (Name × ServiceSection)),
      (cs.mapM fun s => do return (← dpe.makeContainer s.name, s)) = .ok containers ∧
      (containers.mapM fun (container, s) =>
        s.services.mapM fun service => do
          return (← container.makeService service.engine, service)) = Except.ok named ∧
      (seen.Nodup → ((containers.map (·.1)).reverse ++ seen).Nodup) ∧
      (services.Nodup → ((named.flatten.map (·.1)).reverse ++ services).Nodup) ∧
      ∀ e ∈ named.flatten, e.2.Sound r := by
  induction cs generalizing seen services with
  | nil => exact ⟨[], [], rfl, rfl, id, id, fun e he => absurd he List.not_mem_nil⟩
  | cons c cs ih =>
    unfold containersProblems at h
    cases hn : dpe.makeContainer c.name with
    | error e =>
      rw [hn] at h
      cases h
    | ok n =>
      rw [hn] at h
      simp only at h
      rcases hs : servicesProblems r n services c.services with ⟨services', problems⟩
      rw [hs] at h
      obtain ⟨h, hrest⟩ := List.append_eq_nil_iff.mp h
      obtain ⟨hown, rfl⟩ := List.append_eq_nil_iff.mp h
      have hnew : n ∉ seen := by
        intro hmem
        rw [if_pos hmem] at hown
        cases hown
      obtain ⟨own, hnamed, hnodup, rfl, hsound⟩ := servicesProblems_eq_nil hs
      obtain ⟨containers, named, hcontainers, hservices, hcnodup, hsnodup, hsounds⟩ := ih hrest
      refine ⟨(n, c) :: containers, own :: named, ?_, ?_, fun hs => ?_, fun hs => ?_, ?_⟩
      · rw [List.mapM_cons, hn, hcontainers]
        rfl
      · rw [List.mapM_cons]
        exact bind_eq_ok.mpr ⟨own, hnamed, bind_eq_ok.mpr ⟨named, hservices, rfl⟩⟩
      · have hall := hcnodup (List.nodup_cons.mpr ⟨hnew, hs⟩)
        rwa [List.map_cons, List.reverse_cons, List.append_assoc]
      · have hall := hsnodup (hnodup hs)
        rwa [List.flatten_cons, List.map_append, List.reverse_append, List.append_assoc]
      · rw [List.flatten_cons]
        exact List.forall_mem_append.mpr ⟨hsound, hsounds⟩

end Problems

namespace Config

variable {c : Config} {r : EngineRegistry E} {dpe n : Name} {frontEnd : Option Name}
  {containers : List (Name × ContainerSection)} {services : List (Name × ServiceSection)}

/-- What a configuration stands for: all that it names has a name of its own and is in order. -/
structure Named (c : Config) (r : EngineRegistry E) (dpe : Name) (frontEnd : Option Name)
    (containers : List (Name × ContainerSection)) (services : List (Name × ServiceSection)) :
    Prop where
  dpe_eq : c.dpeName = .ok dpe
  frontEnd_eq : c.frontEnd = .ok frontEnd
  containers_eq : c.containerNames = .ok containers
  services_eq : c.serviceNames = .ok services
  containers_nodup : (containers.map (·.1)).Nodup
  services_nodup : (services.map (·.1)).Nodup
  pool : c.dpe.poolSize ≠ some 0
  sound : ∀ e ∈ services, e.2.Sound r

/-- **A configuration without problems** has all its names. -/
theorem named_of_validate (hv : c.validate r = .ok ()) :
    ∃ dpe frontEnd containers services, c.Named r dpe frontEnd containers services := by
  have hnone : c.problems r = [] := by
    unfold validate at hv
    split at hv
    · assumption
    · cases hv
  unfold problems at hnone
  simp only [List.append_eq_nil_iff] at hnone
  obtain ⟨⟨⟨hfront, hpool⟩, hdeployment⟩, -⟩ := hnone
  obtain ⟨frontEnd, hf⟩ : ∃ f, c.frontEnd = .ok f := by
    unfold frontEndProblems at hfront
    split at hfront
    · cases hfront
    · exact ⟨_, by assumption⟩
  unfold deploymentProblems at hdeployment
  cases hd : c.dpeName with
  | error e =>
    rw [hd] at hdeployment
    cases hdeployment
  | ok dpe =>
    rw [hd] at hdeployment
    obtain ⟨containers, named, hcontainers, hservices, hcnodup, hsnodup, hsounds⟩ :=
      containersProblems_eq_nil hdeployment
    have hnames : c.containerNames = .ok containers := bind_eq_ok.mpr ⟨dpe, hd, hcontainers⟩
    have hc := hcnodup List.nodup_nil
    have hs := hsnodup List.nodup_nil
    rw [List.append_nil, List.nodup_reverse] at hc hs
    refine ⟨dpe, frontEnd, containers, named.flatten, hd, hf, hnames, ?_, hc, hs, ?_, hsounds⟩
    · exact bind_eq_ok.mpr ⟨containers, hnames, bind_eq_ok.mpr ⟨named, hservices, rfl⟩⟩
    · intro hz
      rw [if_pos hz] at hpool
      cases hpool

section Named

variable (h : c.Named r dpe frontEnd containers services)
include h

theorem Named.dpe_kind : dpe.kind = .dpe := by
  obtain ⟨-, -, rfl⟩ := Name.makeDpe_eq_ok.mp h.dpe_eq
  rfl

/-- A container lies on the DPE. -/
theorem Named.container {e : Name × ContainerSection} (he : e ∈ containers) :
    dpe.isDpeOf e.1 = true ∧ e.1.kind = .container := by
  obtain ⟨dpe', hdpe, hall⟩ := bind_eq_ok.mp h.containers_eq
  obtain rfl := Except.ok.inj (h.dpe_eq.symm.trans hdpe)
  obtain ⟨s, -, hs⟩ := exists_of_mapM_eq_ok hall he
  obtain ⟨n, hn, hpair⟩ := bind_eq_ok.mp hs
  cases hpair
  obtain ⟨-, rfl⟩ := Name.makeContainer_eq_ok.mp hn
  have hkind := h.dpe_kind
  refine ⟨?_, rfl⟩
  simp only [Name.isDpeOf, hkind, Name.sameProcess]
  simp [Name.kind]

/-- A service lies in one of the containers. -/
theorem Named.service {e : Name × ServiceSection} (he : e ∈ services) :
    e.1.kind = .service ∧
      ∃ container ∈ containers.map (·.1), container.isContainerOf e.1 = true := by
  obtain ⟨containers', hcontainers, hall⟩ := bind_eq_ok.mp h.services_eq
  obtain rfl := Except.ok.inj (h.containers_eq.symm.trans hcontainers)
  obtain ⟨named, hnamed, hflat⟩ := bind_eq_ok.mp hall
  obtain rfl := Except.ok.inj hflat
  obtain ⟨own, hown, he⟩ := List.mem_flatten.mp he
  obtain ⟨container, hc, hs⟩ := exists_of_mapM_eq_ok hnamed hown
  obtain ⟨s, -, hs⟩ := exists_of_mapM_eq_ok hs he
  obtain ⟨n, hn, hpair⟩ := bind_eq_ok.mp hs
  cases hpair
  obtain ⟨-, part, hplace, rfl⟩ := Name.makeService_eq_ok.mp hn
  refine ⟨rfl, container.1, List.mem_map_of_mem hc, Name.isContainerOf_iff.mpr ⟨rfl, ?_⟩⟩
  have hcontainer : container.1 = { container.1 with place := .container part } := by
    rw [← hplace]
  rw [hcontainer]
  rfl

end Named

end Config

/-! ## What an open bus does -/

namespace Bus

variable {b : Bus}

theorem subscribe_open (h : b.closed = false) (topic : Topic) :
    ∃ b', b.subscribe topic = .ok (b', b.nextSubscription) ∧ b'.closed = false := by
  unfold subscribe
  rw [h]
  exact ⟨_, rfl, rfl⟩

theorem register_open (h : b.closed = false) (n : Name) (description : String) :
    ∃ b', b.register n description = .ok b' ∧ b'.closed = false := by
  unfold register
  rw [h]
  exact ⟨_, rfl, rfl⟩

end Bus

namespace Container

variable {x : Exchange} {c : Container E} {spec : ServiceSpec} {e : E}

/-- A station opens. -/
theorem openStation_open (h : x.bus.closed = false) (setup : Setup E) (s : Service E) :
    ∃ x' station, openStation id setup x s = (x', .ok station) ∧ station.service = s ∧
      x'.bus.closed = false := by
  unfold openStation
  obtain ⟨b, hsub, hb⟩ := Bus.subscribe_open h (.ofName s.name)
  obtain ⟨b', hreg, hb'⟩ := Bus.register_open hb s.name s.spec.description
  rw [hsub]
  simp only [id_eq, hreg]
  exact ⟨_, _, rfl, rfl, hb'⟩

/-- A service is deployed with engines of its type if the container has no service of its name. -/
theorem deploy_open [EngineModel E] (h : x.bus.closed = false) (setup : Setup E)
    (hv : spec.validate = .ok ()) (hin : c.name.isContainerOf spec.name = true)
    (hnew : c.service? spec.name = none) (he : Table.get? setup.registry spec.engineType = some e) :
    ∃ x' station, c.deploy setup x spec =
        (c.withStation spec.name station, x', .ok station.service) ∧
      station.service =
        .new spec (List.replicate spec.poolSize.toNat e) setup.settings.barrierTtl ∧
      x'.bus.closed = false := by
  have hcheck : c.checkContains spec.name = .ok () := if_pos hin
  have hengines : setup.registry.instantiate spec.engineType spec.poolSize.toNat =
      some (List.replicate spec.poolSize.toNat e) := by
    unfold EngineRegistry.instantiate
    rw [he]
    rfl
  obtain ⟨x', station, hopen, hservice, hclosed⟩ := openStation_open h setup
    (.new spec (List.replicate spec.poolSize.toNat e) setup.settings.barrierTtl)
  refine ⟨x', station, ?_, hservice, hclosed⟩
  unfold deploy deployAmid
  rw [hv, hcheck]
  simp only [bind, Except.bind, hnew, hengines, hopen]
  rfl

end Container

namespace Dpe

variable {x : Exchange} {d : Dpe E} {n : Name}

/-- A front-end is taken, if one is given. -/
theorem takeFrontEnd_open [EngineModel E] (h : x.bus.closed = false) (d : Dpe E)
    (frontEnd : Option Name) :
    ∃ x', d.takeFrontEnd x frontEnd =
        ({ d with frontEnd := frontEnd.getD d.frontEnd }, x', .ok ()) ∧ x'.bus.closed = false := by
  cases frontEnd with
  | none => exact ⟨x, rfl, h⟩
  | some n =>
    obtain ⟨x', happly, -, hbus⟩ := apply_open (r := .setFrontEnd n) h rfl d
    refine ⟨x', ?_, hbus ▸ Bus.acceptAll_closed h _⟩
    unfold takeFrontEnd
    simp only [happly]
    rfl

/-- A container is deployed if it lies on the DPE and none of its name is there. -/
theorem deploy_open (h : x.bus.closed = false) (hin : d.name.isDpeOf n = true)
    (hk : n.kind = .container) (hnew : d.containers.get? n = none) (description : String) :
    ∃ x', d.deploy x n description = (d.withContainer ⟨n, description, ∅⟩, x', .ok ()) ∧
      x'.bus.closed = false := by
  obtain ⟨b, hreg, hb⟩ := Bus.register_open h n description
  have hcheck : d.checkContains n = .ok () := if_pos hin
  have hhas : ¬ d.containers.has n = true := by
    rw [NameMap.has, hnew]
    exact Bool.false_ne_true
  unfold deploy Container.start
  rw [hcheck]
  simp only [if_neg hhas, if_neg (not_not.mpr hk), hreg]
  exact ⟨_, rfl, hb⟩

/-- A service is deployed if its container is there without it. -/
theorem deployService_open [EngineModel E] {c : Container E} {spec : ServiceSpec} {e : E}
    (h : x.bus.closed = false) (hget : d.containers.get? c.name = some c)
    (hd : d.name.isDpeOf c.name = true) (hv : spec.validate = .ok ())
    (hin : c.name.isContainerOf spec.name = true) (hnew : c.service? spec.name = none)
    (he : Table.get? d.setup.registry spec.engineType = some e) :
    ∃ x' station, d.deployService x spec =
        (d.withContainer (c.withStation spec.name station), x', .ok station.service) ∧
      station.service =
        .new spec (List.replicate spec.poolSize.toNat e) d.setup.settings.barrierTtl ∧
      x'.bus.closed = false := by
  have hcheck : d.checkContains spec.name = .ok () :=
    if_pos (Name.isDpeOf_of_isContainerOf hd hin)
  have hcontainer : d.containerOf spec.name = .ok c := by
    unfold containerOf
    rw [(Name.isContainerOf_iff.mp hin).2]
    simp only [hget]
  obtain ⟨x', station, hdeploy, hservice, hclosed⟩ :=
    Container.deploy_open h d.setup hv hin hnew he
  refine ⟨x', station, ?_, hservice, hclosed⟩
  unfold Container.deploy at hdeploy
  unfold deployService deployServiceAmid
  rw [hcheck, hcontainer]
  simp only [bind, Except.bind, hdeploy]
  rfl

end Dpe

/-! ## What a deployment leaves -/

namespace Config

/-- A service is what its section describes, with engines of its type in the number given for it or else
for the DPE. -/
structure Describes (c : Config) (r : EngineRegistry E) (cores : UInt64) (n : Name)
    (s : ServiceSection) (service : Service E) : Prop where
  name : service.name = n
  engineType : service.spec.engineType = s.engineType
  description : service.spec.description = s.description
  engines : ∃ e, Table.get? r s.engineType = some e ∧
    service.engines =
      .ofList (List.replicate ((s.poolSize.map UInt64.toNat).getD (c.settings cores).poolSize) e)

/-- The pool of the service has the size given for it, or else the one of the DPE. -/
theorem Describes.capacity {c : Config} {r : EngineRegistry E} {cores : UInt64} {n : Name}
    {s : ServiceSection} {service : Service E} (h : c.Describes r cores n s service) :
    service.engines.capacity =
      (s.poolSize.map UInt64.toNat).getD (c.settings cores).poolSize := by
  obtain ⟨e, -, hengines⟩ := h.engines
  rw [hengines]
  exact List.length_replicate

/-- A DPE is like another one but has the containers and services given, and nothing else. -/
structure Furnished (c : Config) (r : EngineRegistry E) (cores : UInt64) (base : Dpe E)
    (containers : List (Name × ContainerSection)) (services : List (Name × ServiceSection))
    (d : Dpe E) : Prop where
  frame : d.cleared = base.cleared
  container_name : ∀ n k, d.containers.get? n = some k → k.name = n
  placed : ∀ n k, d.containers.get? n = some k →
    ∀ m, (k.service? m).isSome = true → m.container? = some n
  containers : ∀ n, (d.containers.get? n).map Container.description =
    (Table.get? containers n).map ContainerSection.description
  services : ∀ n, Option.Rel (c.Describes r cores n) (Table.get? services n) (d.service? n)

section Furnishing

variable {c : Config} {r : EngineRegistry E} {cores : UInt64} {base d : Dpe E} {x : Exchange}
  {containers : List (Name × ContainerSection)} {services : List (Name × ServiceSection)}

theorem get?_concat {V : Type} (t : Table Name V) (e : Name × V) (n : Name) :
    Table.get? (t ++ [e]) n = (Table.get? t n).or (if e.1 = n then some e.2 else none) :=
  Table.get?_append t [e] n

theorem Furnished.nil (hbase : base.containers = ∅) : c.Furnished r cores base [] [] base where
  frame := rfl
  container_name n k hk := by
    rw [hbase, NameMap.get?_empty] at hk
    cases hk
  placed n k hk := by
    rw [hbase, NameMap.get?_empty] at hk
    cases hk
  containers n := by
    rw [hbase, NameMap.get?_empty]
    rfl
  services n := by
    have hcleared : base.cleared = base := by rw [Dpe.cleared, ← hbase]
    have hnone := base.service?_cleared n
    rw [hcleared] at hnone
    rw [hnone]
    exact .none

theorem Furnished.name_eq (h : c.Furnished r cores base containers services d) :
    d.name = base.name := by
  have hname := congrArg Dpe.name h.frame
  exact hname

theorem Furnished.setup_eq (h : c.Furnished r cores base containers services d) :
    d.setup = base.setup := by
  have hsetup := congrArg Dpe.setup h.frame
  exact hsetup

/-- The services are those of the list. -/
theorem Furnished.service_iff (h : c.Furnished r cores base containers services d) (n : Name) :
    (d.service? n).isSome = true ↔ n ∈ services.map (·.1) := by
  have hrel := h.services n
  generalize d.service? n = service at hrel ⊢
  cases hs : Table.get? services n with
  | none =>
    rw [hs] at hrel
    cases hrel
    exact iff_of_false nofun (Table.get?_eq_none_iff.mp hs)
  | some s =>
    rw [hs] at hrel
    cases hrel
    exact iff_of_true rfl (List.mem_map_of_mem (Table.mem_of_get?_eq_some hs))

theorem Furnished.service (h : c.Furnished r cores base containers services d) {n : Name}
    {s : ServiceSection} (hs : Table.get? services n = some s) :
    ∃ service, d.service? n = some service ∧ c.Describes r cores n s service := by
  have hrel := h.services n
  rw [hs] at hrel
  generalize d.service? n = service at hrel ⊢
  cases hrel
  exact ⟨_, rfl, by assumption⟩

/-- So is whatever stands in a container. -/
theorem Furnished.mem_of_container (h : c.Furnished r cores base containers services d) {n m : Name}
    {k : Container E} (hk : d.containers.get? n = some k) (hm : (k.service? m).isSome = true) :
    m ∈ services.map (·.1) := by
  rw [← h.service_iff, Dpe.service?_of_container (h.placed n k hk m hm), hk]
  exact hm

/-- The containers are those of the list. -/
theorem Furnished.container_iff (h : c.Furnished r cores base containers services d) (n : Name) :
    (d.containers.get? n).isSome = true ↔ n ∈ containers.map (·.1) := by
  rw [← Option.isSome_map (f := Container.description), h.containers n, Option.isSome_map,
    Option.isSome_iff_ne_none, ne_eq, Table.get?_eq_none_iff, not_not]
  rfl

theorem Furnished.container (h : c.Furnished r cores base containers services d) {n : Name}
    {s : ContainerSection} (hs : Table.get? containers n = some s) :
    ∃ k, d.containers.get? n = some k ∧ k.name = n ∧ k.description = s.description := by
  have hdescription := h.containers n
  rw [hs] at hdescription
  obtain ⟨k, hk, hdesc⟩ := Option.map_eq_some_iff.mp hdescription
  exact ⟨k, hk, h.container_name n k hk, hdesc⟩

/-- **One more container.** -/
theorem Furnished.deploy (h : c.Furnished r cores base containers services d)
    (hx : x.bus.closed = false) {e : Name × ContainerSection} (hin : base.name.isDpeOf e.1 = true)
    (hk : e.1.kind = .container) (hnew : e.1 ∉ containers.map (·.1)) :
    ∃ d' x', d.deploy x e.1 e.2.description = (d', x', .ok ()) ∧ x'.bus.closed = false ∧
      c.Furnished r cores base (containers ++ [e]) services d' := by
  have hnone : d.containers.get? e.1 = none := by
    have hdescription := h.containers e.1
    rw [Table.get?_eq_none_iff.mpr hnew] at hdescription
    exact Option.map_eq_none_iff.mp hdescription
  rw [← h.name_eq] at hin
  obtain ⟨x', hdeploy, hclosed⟩ := Dpe.deploy_open hx hin hk hnone e.2.description
  refine ⟨_, x', hdeploy, hclosed, h.frame, Dpe.forall_withContainer h.container_name rfl,
    Dpe.forall_withContainer h.placed nofun, fun n => ?_, fun n => ?_⟩
  · rw [Dpe.get?_withContainer, get?_concat]
    by_cases hn : e.1 = n
    · subst hn
      rw [if_pos rfl, if_pos rfl, Table.get?_eq_none_iff.mpr hnew]
      rfl
    · rw [if_neg hn, if_neg hn, Option.or_none]
      exact h.containers n
  · rw [Dpe.service?_start hnone]
    exact h.services n

/-- The container is there, without a service that is not on the list. -/
theorem Furnished.vacancy (h : c.Furnished r cores base containers services d) {container n : Name}
    (hcontainer : container ∈ containers.map (·.1)) (hin : container.isContainerOf n = true)
    (hnew : n ∉ services.map (·.1)) :
    ∃ k, d.containers.get? container = some k ∧ k.name = container ∧ k.service? n = none := by
  obtain ⟨k, hget⟩ := Option.isSome_iff_exists.mp ((h.container_iff container).mpr hcontainer)
  have hnone : d.service? n = none :=
    Option.not_isSome_iff_eq_none.mp (mt (h.service_iff n).mp hnew)
  rw [Dpe.service?_of_container (Name.isContainerOf_iff.mp hin).2, hget] at hnone
  exact ⟨k, hget, h.container_name container k hget, hnone⟩

/-- Neither the section of a service nor that of the DPE gives an empty pool, and a machine has cores. -/
theorem poolSize?_ne_zero {s : ServiceSection} (hs : s.Sound r) (hpool : c.dpe.poolSize ≠ some 0)
    (hcores : cores ≠ 0) : (c.poolSize? s).getD cores ≠ 0 := by
  unfold poolSize?
  cases hown : s.poolSize with
  | some size => exact fun hz => hs.pool (hown.trans (congrArg some hz))
  | none =>
    cases hdpe : c.dpe.poolSize with
    | some size => exact fun hz => hpool (hdpe.trans (congrArg some hz))
    | none => exact hcores

theorem validate_spec {n : Name} {s : ServiceSection} (hk : n.kind = .service) (hs : s.Sound r)
    (hpool : c.dpe.poolSize ≠ some 0) (hcores : cores ≠ 0) :
    (c.spec cores n s).validate = .ok () := by
  have hsize := poolSize?_ne_zero hs hpool hcores
  unfold ServiceSpec.validate spec
  rw [if_neg (not_not.mpr hk), if_neg hsize]

theorem toNat_poolSize_spec (c : Config) (cores : UInt64) (n : Name) (s : ServiceSection) :
    (c.spec cores n s).poolSize.toNat =
      (s.poolSize.map UInt64.toNat).getD (c.settings cores).poolSize := by
  unfold spec poolSize? settings
  cases s.poolSize <;> rfl

/-- A new service with engines of its type is what its section describes. -/
theorem describes_new [EngineModel E] {s : ServiceSection} {e : E}
    (he : Table.get? r s.engineType = some e) (n : Name) (ttl : Option Nat) :
    c.Describes r cores n s
      (.new (c.spec cores n s) (List.replicate (c.spec cores n s).poolSize.toNat e) ttl) := by
  refine ⟨rfl, rfl, rfl, e, he, ?_⟩
  rw [← toNat_poolSize_spec c cores n s]
  rfl

/-- A container is changed by one more service in it. -/
theorem Furnished.withStation (h : c.Furnished r cores base containers services d) {n : Name}
    {s : ServiceSection} {k : Container E} {station : Station E}
    (hget : d.containers.get? k.name = some k) (hin : k.name.isContainerOf n = true)
    (hnew : n ∉ services.map (·.1)) (hdescribes : c.Describes r cores n s station.service) :
    c.Furnished r cores base containers (services ++ [(n, s)])
      (d.withContainer (k.withStation n station)) := by
  obtain ⟨-, hup⟩ := Name.isContainerOf_iff.mp hin
  refine ⟨h.frame, Dpe.forall_withContainer h.container_name rfl, ?_, fun m => ?_, fun m => ?_⟩
  · refine Dpe.forall_withContainer h.placed fun m hm => ?_
    rw [Container.service?_withStation] at hm
    split at hm
    · rename_i heq
      exact heq ▸ hup
    · exact h.placed _ k hget m hm
  · rw [Dpe.get?_withContainer, ← h.containers m]
    split
    · rename_i hm
      rw [← hm]
      exact (congrArg (Option.map Container.description) hget).symm
    · rfl
  · have hname : (k.withStation n station).name = k.name := rfl
    have hchange : (d.withContainer (k.withStation n station)).service? m =
        if n = m then some station.service else d.service? m :=
      Dpe.service?_change hget hname hup (k.service?_withStation n station) m
    rw [get?_concat]
    refine hchange ▸ ?_
    by_cases hm : n = m
    · subst hm
      rw [if_pos rfl, if_pos rfl, Table.get?_eq_none_iff.mpr hnew]
      exact .some hdescribes
    · rw [if_neg hm, if_neg hm, Option.or_none]
      exact h.services m

/-- **One more service.** -/
theorem Furnished.deployService [EngineModel E] (h : c.Furnished r cores base containers services d)
    (hx : x.bus.closed = false) (hsetup : base.setup.registry = r) {e : Name × ServiceSection}
    (hk : e.1.kind = .service) {container : Name} (hcontainer : container ∈ containers.map (·.1))
    (hd : base.name.isDpeOf container = true) (hin : container.isContainerOf e.1 = true)
    (hnew : e.1 ∉ services.map (·.1)) (hs : e.2.Sound r) (hpool : c.dpe.poolSize ≠ some 0)
    (hcores : cores ≠ 0) :
    ∃ d' x' s, d.deployService x (c.spec cores e.1 e.2) = (d', x', .ok s) ∧
      x'.bus.closed = false ∧ c.Furnished r cores base containers (services ++ [e]) d' := by
  obtain ⟨n, s⟩ := e
  obtain ⟨k, hget, rfl, hnone⟩ := h.vacancy hcontainer hin hnew
  obtain ⟨e, he⟩ := hs.engine
  have hvalid := validate_spec hk hs hpool hcores
  have hengine : Table.get? d.setup.registry (c.spec cores n s).engineType = some e := by
    rw [h.setup_eq, hsetup]
    exact he
  rw [← h.name_eq] at hd
  obtain ⟨x', station, hdeploy, hservice, hclosed⟩ :=
    Dpe.deployService_open hx hget hd hvalid hin hnone hengine
  refine ⟨_, x', _, hdeploy, hclosed, h.withStation hget hin hnew ?_⟩
  rw [hservice]
  exact describes_new he n _

/-- **All containers**, in turn. -/
theorem deployAll_furnished {rest : List (Name × ContainerSection)}
    (h : c.Furnished r cores base containers services d) (hx : x.bus.closed = false)
    (hrest : ∀ e ∈ rest, base.name.isDpeOf e.1 = true ∧ e.1.kind = .container)
    (hn : ((containers ++ rest).map (·.1)).Nodup) :
    ∃ d' x', d.deployAll x rest = (d', x', .ok ()) ∧ x'.bus.closed = false ∧
      c.Furnished r cores base (containers ++ rest) services d' := by
  induction rest generalizing containers d x with
  | nil => exact ⟨d, x, rfl, hx, by rwa [List.append_nil]⟩
  | cons e rest ih =>
    obtain ⟨⟨hin, hk⟩, hothers⟩ := List.forall_mem_cons.mp hrest
    have hnew : e.1 ∉ containers.map (·.1) := by
      rw [List.map_append, List.nodup_append] at hn
      exact fun hm => hn.2.2 _ hm _ List.mem_cons_self rfl
    obtain ⟨d', x', hdeploy, hx', hfurnished⟩ := h.deploy hx hin hk hnew
    rw [List.append_cons] at hn ⊢
    obtain ⟨d'', x'', hall, hx'', hfinal⟩ := ih hfurnished hx' hothers hn
    refine ⟨d'', x'', ?_, hx'', hfinal⟩
    unfold Dpe.deployAll
    rw [hdeploy]
    exact hall

/-- **All services**, in turn. -/
theorem deployServices_furnished [EngineModel E] {rest : List (Name × ServiceSection)}
    (h : c.Furnished r cores base containers services d) (hx : x.bus.closed = false)
    (hsetup : base.setup.registry = r)
    (hcontainers : ∀ e ∈ containers, base.name.isDpeOf e.1 = true)
    (hrest : ∀ e ∈ rest, e.1.kind = .service ∧
      ∃ container ∈ containers.map (·.1), container.isContainerOf e.1 = true)
    (hsound : ∀ e ∈ rest, e.2.Sound r) (hn : ((services ++ rest).map (·.1)).Nodup)
    (hpool : c.dpe.poolSize ≠ some 0) (hcores : cores ≠ 0) :
    ∃ d' x', d.deployServices x (rest.map fun (name, s) => c.spec cores name s) =
        (d', x', .ok ()) ∧ x'.bus.closed = false ∧
      c.Furnished r cores base containers (services ++ rest) d' := by
  induction rest generalizing services d x with
  | nil => exact ⟨d, x, rfl, hx, by rwa [List.append_nil]⟩
  | cons e rest ih =>
    obtain ⟨⟨hk, container, hmem, hin⟩, hothers⟩ := List.forall_mem_cons.mp hrest
    obtain ⟨hs, hsounds⟩ := List.forall_mem_cons.mp hsound
    have hnew : e.1 ∉ services.map (·.1) := by
      rw [List.map_append, List.nodup_append] at hn
      exact fun hm => hn.2.2 _ hm _ List.mem_cons_self rfl
    have hd : base.name.isDpeOf container = true := by
      obtain ⟨e', he', rfl⟩ := List.mem_map.mp hmem
      exact hcontainers e' he'
    obtain ⟨d', x', s, hdeploy, hx', hfurnished⟩ :=
      h.deployService hx hsetup hk hmem hd hin hnew hs hpool hcores
    rw [List.append_cons] at hn ⊢
    obtain ⟨d'', x'', hall, hx'', hfinal⟩ := ih hfurnished hx' hothers hsounds hn
    refine ⟨d'', x'', ?_, hx'', hfinal⟩
    rw [List.map_cons]
    unfold Dpe.deployServices
    rw [hdeploy]
    exact hall

end Furnishing

/-! ## Launching -/

section Launch

variable [EngineModel E] {c : Config} {r : EngineRegistry E} {cores : UInt64} {x : Exchange}
  {dpe : Name} {frontEnd : Option Name} {containers : List (Name × ContainerSection)}
  {services : List (Name × ServiceSection)}

/-- A DPE without containers gets those of the configuration and their services. -/
theorem Named.deployOn (h : c.Named r dpe frontEnd containers services) (hcores : cores ≠ 0)
    (base : Dpe E) (hname : base.name = dpe) (hbase : base.containers = ∅)
    (hsetup : base.setup.registry = r) (hx : x.bus.closed = false) :
    ∃ d x', c.deployOn cores base x = (d, x', .ok ()) ∧ x'.bus.closed = false ∧
      c.Furnished r cores base containers services d := by
  subst hname
  obtain ⟨d, x', hcontainers, hx', hd⟩ := deployAll_furnished (.nil hbase) hx
    (fun e he => h.container he) h.containers_nodup
  obtain ⟨d', x'', hservices, hx'', hd'⟩ := deployServices_furnished hd hx' hsetup
    (fun e he => (h.container he).1) (fun e he => h.service he) h.sound h.services_nodup h.pool
    hcores
  have hspecs : c.specs cores = .ok (services.map fun (name, s) => c.spec cores name s) := by
    unfold specs
    rw [h.services_eq]
    rfl
  refine ⟨d', x'', ?_, hx'', hd'⟩
  unfold Config.deployOn
  simp only [h.containers_eq, hcontainers, hspecs, hservices]

variable (cores x) in
/-- **A valid configuration is carried out.** If the bus is open, every step succeeds, and the DPE then
has the name, the front-end and the settings that are configured. Its containers are those of the
configuration, each with its description, and its services are those of the configuration, each with its
type and description and as many engines as are given for it or else for the DPE; there are no others. -/
theorem launch_of_valid (hv : c.validate r = .ok ()) (hx : x.bus.closed = false)
    (hcores : cores ≠ 0) :
    ∃ dpe frontEnd containers services,
      c.dpeName = .ok dpe ∧ c.frontEnd = .ok frontEnd ∧
      c.containerNames = .ok containers ∧ c.serviceNames = .ok services ∧
      (containers.map (·.1)).Nodup ∧ (services.map (·.1)).Nodup ∧
      ∃ x' d subscription, c.launch r cores x = (x', .ok ⟨d, subscription⟩) ∧
        d.name = dpe ∧ d.frontEnd = frontEnd.getD dpe ∧ d.setup = ⟨r, c.settings cores⟩ ∧
        (∀ n, (d.containers.get? n).isSome = true ↔ n ∈ containers.map (·.1)) ∧
        (∀ n s, (n, s) ∈ containers →
          ∃ k, d.containers.get? n = some k ∧ k.name = n ∧ k.description = s.description) ∧
        (∀ n, (d.service? n).isSome = true ↔ n ∈ services.map (·.1)) ∧
        (∀ n k, d.containers.get? n = some k →
          ∀ m, (k.service? m).isSome = true → m ∈ services.map (·.1)) ∧
        ∀ n s, (n, s) ∈ services →
          ∃ service, d.service? n = some service ∧ c.Describes r cores n s service := by
  obtain ⟨dpe, frontEnd, containers, services, h⟩ := named_of_validate hv
  refine ⟨dpe, frontEnd, containers, services, h.dpe_eq, h.frontEnd_eq, h.containers_eq,
    h.services_eq, h.containers_nodup, h.services_nodup, ?_⟩
  -- the DPE as it is new, and once it has taken its front-end
  let new : Dpe E := ⟨dpe, dpe, ∅, ∅, false, ⟨r, c.settings cores⟩⟩
  let base : Dpe E := { new with frontEnd := frontEnd.getD dpe }
  have hnew : (do Dpe.new (← c.dpeName) ⟨r, c.settings cores⟩) = .ok new := by
    refine bind_eq_ok.mpr ⟨dpe, h.dpe_eq, ?_⟩
    unfold Dpe.new
    rw [if_neg (not_not.mpr h.dpe_kind)]
  obtain ⟨x₁, directory, hstart, hbus⟩ := Dpe.start_spec hx new
  have hx₁ : x₁.bus.closed = false := by
    rw [hbus]
    exact (Bus.step_closed _ _).trans hx
  obtain ⟨x₂, hfront, hx₂⟩ := Dpe.takeFrontEnd_open hx₁ new frontEnd
  obtain ⟨d, x₃, hdeploy, -, hd⟩ := h.deployOn hcores base rfl rfl rfl hx₂
  refine ⟨x₃, d, x.bus.nextSubscription, ?_, hd.name_eq, ?_, hd.setup_eq, hd.container_iff,
    fun n s hmem => ?_, hd.service_iff, fun n k hk m => hd.mem_of_container hk,
    fun n s hmem => ?_⟩
  · unfold launch furnish
    simp only [hnew, hstart, h.frontEnd_eq, hfront]
    rw [show c.deployOn cores { new with frontEnd := frontEnd.getD new.frontEnd } x₂ = _
      from hdeploy]
  · have hfrontEnd := congrArg Dpe.frontEnd hd.frame
    exact hfrontEnd
  · exact hd.container (Table.get?_of_mem h.containers_nodup hmem)
  · exact hd.service (Table.get?_of_mem h.services_nodup hmem)

end Launch

/-- Two services in one container, of which one is given a number of engines. -/
def twoServices : Config :=
  ⟨⟨"h", none, .java, some "g_java", none, none, none⟩,
    [⟨"c", "texts", [⟨"A", "reverse_text", some 3, "turns"⟩, ⟨"B", "token_counter", none, "counts"⟩]⟩],
    none⟩

/-- On a machine with two cores they have three engines and two. -/
theorem twoServices_launched :
    twoServices.validate EngineRegistry.standard = .ok () ∧ Exchange.empty.bus.closed = false ∧
      (2 : UInt64) ≠ 0 ∧
      ∃ x' d subscription a b,
        twoServices.launch EngineRegistry.standard 2 .empty = (x', .ok ⟨d, subscription⟩) ∧
        d.service? (.sample "A") = some a ∧ a.engines.capacity = 3 ∧
        d.service? (.sample "B") = some b ∧ b.engines.capacity = 2 := by
  have hvalid : twoServices.validate EngineRegistry.standard = .ok () :=
    eq_ok_of_toOption (by decide +kernel)
  have hnames : twoServices.serviceNames =
      .ok [(.sample "A", ⟨"A", "reverse_text", some 3, "turns"⟩),
        (.sample "B", ⟨"B", "token_counter", none, "counts"⟩)] :=
    eq_ok_of_toOption (by decide +kernel)
  obtain ⟨-, -, -, services, -, -, -, hservices, -, -, x', d, subscription, hlaunch, -, -, -, -, -, -,
    -, hall⟩ := launch_of_valid 2 .empty hvalid rfl (by decide)
  obtain rfl := Except.ok.inj (hnames.symm.trans hservices)
  obtain ⟨a, ha, hA⟩ := hall _ _ List.mem_cons_self
  obtain ⟨b, hb, hB⟩ := hall _ _ (List.mem_cons_of_mem _ List.mem_cons_self)
  exact ⟨hvalid, rfl, by decide, x', d, subscription, a, b, hlaunch, ha, hA.capacity, hb, hB.capacity⟩

end Config

end ServiceFlow
