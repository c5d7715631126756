import ServiceFlow.Dpe.Control
import ServiceFlow.Proofs.Name.Collections

/-!
# What is deployed on a DPE

A DPE has containers by their names, and a container has stations by the names of their services. In both
maps everything stands under its own name, and the name of each part lies below that of the whole.

* `Dpe.Nested`: everything is where its name says.
* `Dpe.shown?`: how the container or the service of a name is described, if it is deployed.
* `Dpe.shown?_start`, `Dpe.shown?_change`, `Dpe.shown?_leaves`: what a new container, a change to one
  service and the end of a container make of it, and `Dpe.service?_start` and so on of the services.
* `Dpe.deploy_cases`, `Dpe.undeploy_cases`, `Dpe.removeService_cases`, `Dpe.deployServiceAmid_cases`,
  `Dpe.shutDown_cases`, `Dpe.applyFrontEnd_cases`: all that an operation can come to.
-/

namespace ServiceFlow

/-! ## Names above and below -/

namespace Name

variable {d n m c : Name}

theorem isContainerOf_iff : n.isContainerOf m = true ↔ m.kind = .service ∧ m.container? = some n := by
  obtain ⟨host, port, lang, place⟩ := n
  obtain ⟨host', port', lang', place'⟩ := m
  cases place <;> cases place' <;>
    simp [isContainerOf, kind, container?, containerPart?]

theorem not_isDpeOf_self (n : Name) : n.isDpeOf n = false := by
  obtain ⟨host, port, lang, place⟩ := n
  cases place <;> simp [isDpeOf, kind]

/-- What is in a container of a DPE is on that DPE. -/
theorem isDpeOf_of_isContainerOf (hc : d.isDpeOf c = true) (hn : c.isContainerOf n = true) :
    d.isDpeOf n = true := by
  obtain ⟨host, port, lang, place⟩ := c
  obtain ⟨host', port', lang', place'⟩ := n
  cases place <;> cases place' <;> simp [isContainerOf, kind, container?, containerPart?] at hn
  obtain ⟨rfl, rfl, rfl, -⟩ := hn
  simpa [isDpeOf, kind, sameProcess] using hc

end Name

/-! ## Containers and their services -/

namespace Container

variable {E : Type} {c : Container E}

/-- Every station stands under the name of its service, which lies below that of the container. -/
def Nested (c : Container E) : Prop :=
  ∀ m s, c.stations.get? m = some s →
    s.service.name = m ∧ m.Valid ∧ c.name.isContainerOf m = true

/-- The container with a station in place of the one of that name. -/
def withStation (c : Container E) (n : Name) (s : Station E) : Container E :=
  { c with stations := c.stations.set n s }

/-- The container without a station. -/
def withoutStation (c : Container E) (n : Name) : Container E :=
  { c with stations := c.stations.erase n }

theorem service?_withStation (c : Container E) (n : Name) (s : Station E) (m : Name) :
    (c.withStation n s).service? m = if n = m then some s.service else c.service? m := by
  have hget : (c.withStation n s).stations.get? m = if n = m then some s else c.stations.get? m :=
    NameMap.get?_set _ _ _ _
  rw [service?, hget]
  split <;> rfl

theorem service?_withoutStation (c : Container E) (n m : Name) :
    (c.withoutStation n).service? m = if n = m then none else c.service? m := by
  have hget : (c.withoutStation n).stations.get? m = if n = m then none else c.stations.get? m :=
    NameMap.get?_erase _ _ _
  rw [service?, hget]
  split <;> rfl

theorem Nested.withStation (h : c.Nested) {n : Name} {s : Station E} (hs : s.service.name = n)
    (hn : n.Valid) (hc : c.name.isContainerOf n = true) : (c.withStation n s).Nested := by
  intro m s' hget
  have hget : (c.stations.set n s).get? m = some s' := hget
  rw [NameMap.get?_set] at hget
  split at hget
  · next hm =>
    obtain rfl := Option.some.inj hget
    exact hm ▸ ⟨hs, hn, hc⟩
  · exact h m s' hget

theorem Nested.withoutStation (h : c.Nested) (n : Name) : (c.withoutStation n).Nested := by
  intro m s hget
  have hget : (c.stations.erase n).get? m = some s := hget
  rw [NameMap.get?_erase] at hget
  split at hget
  · cases hget
  · exact h m s hget

theorem nested_start (n : Name) (description : String) :
    (⟨n, description, ∅⟩ : Container E).Nested := by
  intro m s hs
  rw [NameMap.get?_empty] at hs
  cases hs

/-- The names of the services of a container. -/
def serviceNames (c : Container E) : List Name := c.stations.values.map fun s => s.service.name

theorem mem_serviceNames (h : c.Nested) {m : Name} :
    m ∈ c.serviceNames ↔ (c.service? m).isSome = true := by
  unfold serviceNames service?
  rw [List.mem_map, Option.isSome_map, Option.isSome_iff_exists]
  constructor
  · rintro ⟨s, hs, rfl⟩
    obtain ⟨n, hn⟩ := NameMap.mem_values.mp hs
    exact ⟨s, by rw [(h n s hn).1, hn]⟩
  · rintro ⟨s, hs⟩
    exact ⟨s, NameMap.mem_values.mpr ⟨m, hs⟩, (h m s hs).1⟩

theorem Nested.isContainerOf (h : c.Nested) {m : Name} (hs : (c.service? m).isSome = true) :
    c.name.isContainerOf m = true := by
  rw [service?, Option.isSome_map, Option.isSome_iff_exists] at hs
  obtain ⟨s, hs⟩ := hs
  exact (h m s hs).2.2

/-- To deploy a service that is there changes nothing, unless the specification is refused. -/
theorem deployAmid_again [EngineModel E] (h : c.Nested) {spec : ServiceSpec} {s : Service E}
    (hs : c.service? spec.name = some s) (meanwhile : Bus → Bus) (setup : Setup E) (x : Exchange) :
    c.deployAmid meanwhile setup x spec = (c, x, spec.validate.map fun _ => s) := by
  have hcheck : c.checkContains spec.name = .ok () :=
    if_pos (h.isContainerOf (Option.isSome_of_eq_some hs))
  unfold deployAmid
  cases spec.validate with
  | error e => rfl
  | ok _ => simp only [hcheck, hs, Except.map, bind, Except.bind]

theorem Nested.valid (h : c.Nested) : ∀ s ∈ c.stations.values, s.service.name.Valid := by
  intro s hs
  obtain ⟨m, hm⟩ := NameMap.mem_values.mp hs
  obtain ⟨rfl, hvalid, -⟩ := h m s hm
  exact hvalid

end Container

/-! ## DPEs and their containers -/

namespace Dpe

variable {E : Type} {d : Dpe E} {n m : Name} {c : Container E}

/-- Every container stands under its name, which lies below that of the DPE, and has its services in
order. -/
def Nested (d : Dpe E) : Prop :=
  ∀ n c, d.containers.get? n = some c →
    c.name = n ∧ n.Valid ∧ n.kind = .container ∧ d.name.isDpeOf n = true ∧ c.Nested

/-- How the container or the service of a name is described, if it is deployed. -/
def shown? (d : Dpe E) (n : Name) : Option String :=
  match n.kind with
  | .dpe => none
  | .container => (d.containers.get? n).map Container.description
  | .service => (d.service? n).map fun s => s.spec.description

/-- The DPE with a container in place of the one of that name, if there is one. -/
def withContainer (d : Dpe E) (c : Container E) : Dpe E :=
  { d with containers := d.containers.set c.name c }

/-- The DPE without a container. -/
def withoutContainer (d : Dpe E) (n : Name) : Dpe E := { d with containers := d.containers.erase n }

theorem service?_of_container (h : m.container? = some n) :
    d.service? m = (d.containers.get? n).bind fun c => c.service? m := by
  unfold service?
  rw [h]
  rfl

theorem service?_of_no_container (h : m.container? = none) : d.service? m = none := by
  unfold service?
  rw [h]
  rfl

theorem get?_withContainer (d : Dpe E) (c : Container E) (n : Name) :
    (d.withContainer c).containers.get? n = if c.name = n then some c else d.containers.get? n :=
  NameMap.get?_set _ _ _ _

/-- What holds of every container, and of one that is put among them, holds of all then. -/
theorem forall_withContainer {P : Name → Container E → Prop}
    (h : ∀ n k, d.containers.get? n = some k → P n k) {c : Container E} (hc : P c.name c) :
    ∀ n k, (d.withContainer c).containers.get? n = some k → P n k := by
  intro n k hget
  rw [get?_withContainer] at hget
  split at hget
  · rename_i hn
    cases hget
    exact hn ▸ hc
  · exact h n k hget

theorem service?_withContainer (d : Dpe E) (c : Container E) (m : Name) :
    (d.withContainer c).service? m =
      if m.container? = some c.name then c.service? m else d.service? m := by
  cases h : m.container? with
  | none => rw [service?_of_no_container h, service?_of_no_container h, if_neg nofun]
  | some n =>
    rw [service?_of_container h, service?_of_container h, get?_withContainer]
    by_cases hn : c.name = n
    · rw [if_pos hn, if_pos (congrArg some hn.symm)]
      rfl
    · rw [if_neg hn, if_neg fun e => hn (Option.some.inj e).symm]

theorem service?_withoutContainer (d : Dpe E) (n m : Name) :
    (d.withoutContainer n).service? m = if m.container? = some n then none else d.service? m := by
  cases h : m.container? with
  | none => rw [service?_of_no_container h, service?_of_no_container h, if_neg nofun]
  | some q =>
    have hget : (d.withoutContainer n).containers.get? q =
        if n = q then none else d.containers.get? q := NameMap.get?_erase _ _ _
    rw [service?_of_container h, service?_of_container h, hget]
    by_cases hn : n = q
    · rw [if_pos hn, if_pos (congrArg some hn.symm)]
      rfl
    · rw [if_neg hn, if_neg fun e => hn (Option.some.inj e).symm]

/-- To put a container in its own place changes nothing. -/
theorem withContainer_self (hget : d.containers.get? c.name = some c) : d.withContainer c = d := by
  rw [withContainer, NameMap.set_of_get? hget]

theorem shown?_container (h : n.kind = .container) :
    d.shown? n = (d.containers.get? n).map Container.description := by
  rw [shown?, h]

theorem shown?_service (h : n.kind = .service) :
    d.shown? n = (d.service? n).map fun s => s.spec.description := by
  rw [shown?, h]

theorem Nested.withContainer (h : d.Nested) (hn : c.name.Valid) (hk : c.name.kind = .container)
    (hd : d.name.isDpeOf c.name = true) (hc : c.Nested) : (d.withContainer c).Nested :=
  forall_withContainer h ⟨rfl, hn, hk, hd, hc⟩

theorem Nested.withoutContainer (h : d.Nested) (n : Name) : (d.withoutContainer n).Nested := by
  intro q c hget
  have hget : (d.containers.erase n).get? q = some c := hget
  rw [NameMap.get?_erase] at hget
  split at hget
  · cases hget
  · exact h q c hget

/-- A deployed service is in the container that its name says. -/
theorem Nested.service_container (h : d.Nested) (hs : (d.service? m).isSome = true) :
    ∃ n c, m.container? = some n ∧ d.containers.get? n = some c ∧ (c.service? m).isSome = true ∧
      n.isContainerOf m = true := by
  cases hc : m.container? with
  | none =>
    rw [service?_of_no_container hc] at hs
    cases hs
  | some n =>
    rw [service?_of_container hc] at hs
    cases hget : d.containers.get? n with
    | none =>
      rw [hget] at hs
      cases hs
    | some c =>
      rw [hget] at hs
      have hs : (c.service? m).isSome = true := hs
      obtain ⟨rfl, -, -, -, hnested⟩ := h n c hget
      exact ⟨c.name, c, rfl, hget, hs, hnested.isContainerOf hs⟩

/-- The container of a name is found if it is deployed; otherwise there is no such service. -/
theorem containerOf_spec (h : d.Nested) (n : Name) :
    (∃ e, d.containerOf n = .error e ∧ d.service? n = none) ∨
      ∃ c, d.containerOf n = .ok c ∧ n.container? = some c.name ∧
        d.containers.get? c.name = some c := by
  unfold containerOf
  cases hc : n.container? with
  | none => exact .inl ⟨_, rfl, service?_of_no_container hc⟩
  | some q =>
    rw [service?_of_container hc]
    cases hget : d.containers.get? q with
    | none => exact .inl ⟨.unknownContainer q, by simp only [hget], rfl⟩
    | some c =>
      obtain ⟨rfl, -⟩ := h q c hget
      exact .inr ⟨c, by simp only [hget], rfl, hget⟩

/-! ## Changes -/

/-- A new container, which has no services yet. -/
theorem service?_start (hnew : d.containers.get? n = none) (description : String) (m : Name) :
    (d.withContainer ⟨n, description, ∅⟩).service? m = d.service? m := by
  rw [service?_withContainer]
  split
  · next h =>
    rw [service?_of_container h, hnew]
    rfl
  · rfl

theorem shown?_start (hk : n.kind = .container) (hnew : d.containers.get? n = none)
    (description : String) (m : Name) :
    (d.withContainer ⟨n, description, ∅⟩).shown? m =
      Function.update d.shown? n (some description) m := by
  rw [Function.update_apply]
  cases hm : m.kind with
  | dpe =>
    rw [shown?, hm, if_neg, shown?, hm]
    rintro rfl
    rw [hk] at hm
    cases hm
  | container =>
    rw [shown?_container hm, get?_withContainer, shown?_container hm]
    by_cases h : m = n
    · rw [if_pos h, if_pos h.symm]
      rfl
    · rw [if_neg h, if_neg (Ne.symm h)]
  | service =>
    rw [shown?_service hm, service?_start hnew, if_neg, shown?_service hm]
    rintro rfl
    rw [hk] at hm
    cases hm

section Change

variable {c' : Container E} {s : Option (Service E)} (hget : d.containers.get? c.name = some c)
  (hname : c'.name = c.name) (hn : n.container? = some c.name)
  (hservice : ∀ m, c'.service? m = if n = m then s else c.service? m)
include hget hname hn hservice

/-- A change to one service of a container. -/
theorem service?_change (m : Name) :
    (d.withContainer c').service? m = if n = m then s else d.service? m := by
  rw [service?_withContainer, hname]
  by_cases h : m.container? = some c.name
  · rw [if_pos h, hservice, service?_of_container h, hget]
    rfl
  · rw [if_neg h, if_neg]
    rintro rfl
    exact h hn

theorem shown?_change (hk : n.kind = .service) (hdescription : c'.description = c.description)
    (m : Name) :
    (d.withContainer c').shown? m =
      Function.update d.shown? n (s.map fun s => s.spec.description) m := by
  rw [Function.update_apply]
  cases hm : m.kind with
  | dpe =>
    rw [shown?, hm, if_neg, shown?, hm]
    rintro rfl
    rw [hk] at hm
    cases hm
  | container =>
    rw [shown?_container hm, get?_withContainer, if_neg (c := m = n), shown?_container hm, hname]
    · split
      · next h => rw [← h, hget, Option.map_some, Option.map_some, hdescription]
      · rfl
    · rintro rfl
      rw [hk] at hm
      cases hm
  | service =>
    rw [shown?_service hm, service?_change hget hname hn hservice, shown?_service hm]
    by_cases h : m = n
    · rw [if_pos h, if_pos h.symm]
    · rw [if_neg h, if_neg (Ne.symm h)]

end Change

/-- The end of a container, and of all its services. -/
theorem shown?_erase (hk : n.kind = .container) (m : Name) :
    (d.withoutContainer n).shown? m =
      if m = n ∨ n.isContainerOf m = true then none else d.shown? m := by
  simp only [Name.isContainerOf_iff]
  cases hm : m.kind with
  | dpe => simp [shown?, hm]
  | container =>
    have hget : (d.withoutContainer n).containers.get? m =
        if n = m then none else d.containers.get? m := NameMap.get?_erase _ _ _
    rw [shown?_container hm, hget, shown?_container hm]
    by_cases h : m = n
    · simp [h]
    · simp [h, Ne.symm h]
  | service =>
    have hne : m ≠ n := by
      rintro rfl
      rw [hk] at hm
      cases hm
    rw [shown?_service hm, service?_withoutContainer, shown?_service hm]
    by_cases h : m.container? = some n <;> simp [h, hne]

section Leaving

variable (h : d.Nested) (hget : d.containers.get? n = some c)
include h hget

/-- The services that stay are those of other containers. -/
theorem service?_leaves (m : Name) :
    ((d.withoutContainer n).service? m).isSome = true ↔
      (d.service? m).isSome = true ∧ m ∉ c.serviceNames := by
  obtain ⟨rfl, -, -, -, hnested⟩ := h n c hget
  rw [service?_withoutContainer, Container.mem_serviceNames hnested]
  by_cases hm : m.container? = some c.name
  · rw [if_pos hm, service?_of_container hm, hget]
    exact iff_of_false nofun fun hs => hs.2 hs.1
  · rw [if_neg hm]
    refine (and_iff_left fun hs => hm ?_).symm
    exact (Name.isContainerOf_iff.mp (hnested.isContainerOf hs)).2

/-- What leaves with a container is the container and its services. -/
theorem shown?_leaves :
    (d.withoutContainer n).shown? =
      fun m => if m ∈ c.serviceNames ++ [c.name] then none else d.shown? m := by
  obtain ⟨rfl, -, hk, -, hnested⟩ := h n c hget
  funext m
  rw [shown?_erase hk]
  simp only [List.mem_append, List.mem_singleton, Container.mem_serviceNames hnested]
  by_cases hm : m = c.name
  · simp [hm]
  · by_cases hin : c.name.isContainerOf m = true
    · obtain ⟨hkind, hcontainer⟩ := Name.isContainerOf_iff.mp hin
      have hshown : d.shown? m = (c.service? m).map fun s => s.spec.description := by
        rw [shown?_service hkind, service?_of_container hcontainer, hget]
        rfl
      rw [hshown]
      cases c.service? m <;> simp [hm, hin]
    · have hs : ¬ (c.service? m).isSome = true := fun hs => hin (hnested.isContainerOf hs)
      simp [hm, hin, hs]

end Leaving

/-- Everything that a DPE shows is among its containers. -/
theorem Nested.mem_containers (h : d.Nested) (hn : d.shown? n ≠ none) :
    n ∈ d.containers.values.flatMap fun c => c.serviceNames ++ [c.name] := by
  rw [List.mem_flatMap]
  cases hk : n.kind with
  | dpe =>
    rw [shown?, hk] at hn
    exact absurd rfl hn
  | container =>
    rw [shown?_container hk, ne_eq, Option.map_eq_none_iff] at hn
    obtain ⟨c, hget⟩ := Option.ne_none_iff_exists'.mp hn
    obtain ⟨rfl, -⟩ := h n c hget
    exact ⟨c, NameMap.mem_values.mpr ⟨_, hget⟩, by simp⟩
  | service =>
    rw [shown?_service hk, ne_eq, Option.map_eq_none_iff] at hn
    obtain ⟨q, c, -, hget, hservice, -⟩ := h.service_container (Option.isSome_iff_ne_none.mpr hn)
    obtain ⟨-, -, -, -, hnested⟩ := h q c hget
    have hmem := (Container.mem_serviceNames hnested).mpr hservice
    exact ⟨c, NameMap.mem_values.mpr ⟨_, hget⟩, List.mem_append_left _ hmem⟩

/-- The DPE without any container. -/
def cleared (d : Dpe E) : Dpe E := { d with containers := ∅ }

theorem nested_cleared (d : Dpe E) : d.cleared.Nested := by
  intro n c hget
  rw [show d.cleared.containers = ∅ from rfl, NameMap.get?_empty] at hget
  cases hget

theorem service?_cleared (d : Dpe E) (n : Name) : d.cleared.service? n = none := by
  cases hc : n.container? with
  | none => exact service?_of_no_container hc
  | some q => exact service?_of_container hc

theorem shown?_cleared (d : Dpe E) (n : Name) : d.cleared.shown? n = none := by
  cases hk : n.kind with
  | dpe => rw [shown?, hk]
  | container => exact shown?_container hk
  | service => rw [shown?_service hk, service?_cleared, Option.map_none]

/-! ## Operations -/

/-- The answer to a removal is that something was removed. -/
def removed : Except DeployError Bool → Bool
  | .ok b => b
  | .error _ => false

theorem checkContains_cases (d : Dpe E) (n : Name) :
    d.name.isDpeOf n = true ∧ d.checkContains n = .ok () ∨
      d.name.isDpeOf n = false ∧ d.checkContains n = .error (.notContained n d.name) := by
  unfold checkContains
  cases d.name.isDpeOf n
  · exact .inr ⟨rfl, rfl⟩
  · exact .inl ⟨rfl, rfl⟩

section Operations

variable (x : Exchange)

/-- To deploy a container is refused, or it is there already, or it is left to the start of the container. -/
theorem deploy_cases (d : Dpe E) (n : Name) (description : String) :
    (∃ e, d.deploy x n description = (d, x, .error e)) ∨
      (∃ c, d.containers.get? n = some c ∧ d.deploy x n description = (d, x, .ok ())) ∨
      d.name.isDpeOf n = true ∧ d.containers.get? n = none ∧
        d.deploy x n description =
          match Container.start x n description with
          | (x', .error e) => (d, x', .error e)
          | (x', .ok c) => ({ d with containers := d.containers.set n c }, x', .ok ()) := by
  unfold deploy
  obtain ⟨hd, hcheck⟩ | ⟨-, hcheck⟩ := d.checkContains_cases n
  · rw [hcheck, NameMap.has]
    cases hget : d.containers.get? n with
    | some c => exact .inr (.inl ⟨c, rfl, rfl⟩)
    | none => exact .inr (.inr ⟨hd, rfl, rfl⟩)
  · rw [hcheck]
    exact .inl ⟨_, rfl⟩

/-- Nothing is removed, or a container that was there. -/
theorem undeploy_cases (d : Dpe E) (n : Name) :
    (∃ a, removed a = false ∧ d.undeploy x n = (d, x, a)) ∨
      ∃ c, d.containers.get? n = some c ∧
        d.undeploy x n = (d.withoutContainer n, (c.stop x).2.1, .ok true) := by
  unfold undeploy
  obtain ⟨-, hcheck⟩ | ⟨-, hcheck⟩ := d.checkContains_cases n
  · rw [hcheck]
    cases hget : d.containers.get? n with
    | none => exact .inl ⟨_, rfl, rfl⟩
    | some c => exact .inr ⟨c, rfl, rfl⟩
  · rw [hcheck]
    exact .inl ⟨_, rfl, rfl⟩

/-- Nothing is removed, or a service that was in its container. -/
theorem removeService_cases (h : d.Nested) (n : Name) :
    (∃ a, removed a = false ∧ d.removeService x n = (d, x, a)) ∨
      ∃ c s, d.containers.get? c.name = some c ∧ c.name.isContainerOf n = true ∧
        c.stations.get? n = some s ∧
        d.removeService x n =
          (d.withContainer (c.withoutStation n), Container.closeStation x s, .ok true) := by
  unfold removeService
  obtain ⟨-, hcheck⟩ | ⟨-, hcheck⟩ := d.checkContains_cases n
  · obtain ⟨e, hc, -⟩ | ⟨c, hc, -, hget⟩ := containerOf_spec h n
    · rw [hcheck, hc]
      exact .inl ⟨_, rfl, rfl⟩
    · rw [hcheck, hc]
      simp only [Container.undeploy, Container.checkContains]
      by_cases hin : c.name.isContainerOf n = true
      · rw [if_pos hin]
        cases hs : c.stations.get? n with
        | none => exact .inl ⟨.ok false, rfl, congrArg (·, x, _) (withContainer_self hget)⟩
        | some s => exact .inr ⟨c, s, hget, hin, hs, rfl⟩
      · rw [if_neg hin]
        exact .inl ⟨.error _, rfl, congrArg (·, x, _) (withContainer_self hget)⟩
  · rw [hcheck]
    exact .inl ⟨_, rfl, rfl⟩

/-- To deploy a service is refused, or it is left to its container. -/
theorem deployServiceAmid_cases [EngineModel E] (h : d.Nested) (meanwhile : Bus → Bus)
    (spec : ServiceSpec) :
    d.service? spec.name = none ∧
        (∃ e, d.deployServiceAmid meanwhile x spec = (d, x, .error e)) ∨
      ∃ c, spec.name.container? = some c.name ∧ d.containers.get? c.name = some c ∧
        d.deployServiceAmid meanwhile x spec =
          (d.withContainer (c.deployAmid meanwhile d.setup x spec).1,
            (c.deployAmid meanwhile d.setup x spec).2) := by
  unfold deployServiceAmid
  obtain ⟨-, hcheck⟩ | ⟨hd, hcheck⟩ := d.checkContains_cases spec.name
  · rw [hcheck]
    obtain ⟨e, hc, hnone⟩ | ⟨c, hc, hin, hget⟩ := containerOf_spec h spec.name
    · rw [hc]
      exact .inl ⟨hnone, e, rfl⟩
    · rw [hc]
      exact .inr ⟨c, hin, hget, rfl⟩
  · rw [hcheck]
    refine .inl ⟨?_, _, rfl⟩
    by_contra hs
    obtain ⟨q, c, -, hget, -, hin⟩ := h.service_container (Option.isSome_iff_ne_none.mpr hs)
    obtain ⟨-, -, -, hq, -⟩ := h q c hget
    rw [Name.isDpeOf_of_isContainerOf hq hin] at hd
    cases hd

/-- All containers stop, whether or not the front-end can be told. -/
theorem shutDown_cases (d : Dpe E) :
    let x' := (d.cleared.announce (stopAll x d.containers.values) d.frontEnd
      (ControlRequest.stopDpe d.name).text).1
    (∃ e, d.shutDown x = (d.cleared, x', .error (.bus e))) ∨
      d.shutDown x =
        (d.cleared,
          { x' with bus := x'.bus.unregister d.name }.log
            (.dpeStopped d.name.text d.containers.size), .ok d.containers.size) := by
  unfold cleared shutDown
  obtain ⟨⟨x', answer⟩, hr⟩ : ∃ r, announce { d with containers := ∅ }
    (stopAll x d.containers.values) d.frontEnd (ControlRequest.stopDpe d.name).text = r := ⟨_, rfl⟩
  simp only [hr]
  cases answer with
  | error e => exact .inl ⟨e, rfl⟩
  | ok _ => exact .inr rfl

/-- Another front-end is taken, whether or not it can be told. -/
theorem applyFrontEnd_cases (d : Dpe E) (n : Name) :
    ∃ answer, d.applyFrontEnd x n =
      ({ d with frontEnd := n },
        (announce { d with frontEnd := n } x n (ControlRequest.startDpe d.name).text).1, answer) := by
  unfold applyFrontEnd
  obtain ⟨⟨x', answer⟩, hr⟩ : ∃ r, announce { d with frontEnd := n } x n
    (ControlRequest.startDpe d.name).text = r := ⟨_, rfl⟩
  simp only [hr]
  cases answer with
  | error e | ok _ => exact ⟨_, rfl⟩

end Operations

end Dpe

end ServiceFlow
