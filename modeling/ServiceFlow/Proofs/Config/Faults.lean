import ServiceFlow.Config.Check
import ServiceFlow.Proofs.Name.Canonical

/-!
# Faults that hide others

The check of a configuration goes on after each problem that it finds, but not below an ill-formed name: what
has no name of its own is not looked into. So it finds all that is wrong at the top, and less further down.

## What is at fault

A `Fault` lies in one entry: a text that forms no name, a pool without engines, an engine type that is not
known. `Config.faultCount` is the number of each kind in a whole configuration.

## What is found

* `Config.hidden`: the faults below an ill-formed name, of the DPE, of a container or of the service itself.
* `Config.count_reported`: the problems found are the others, each of them once.
* `Config.Corrected`: one configuration is another with the faults corrected that were found in it.
  `Config.Corrected.faults_eq`: the hidden ones are left.
* `Config.reports_all_iff`: so the check finds everything at once exactly if nothing is hidden.
* `Config.empty_pool_unreported`: a configuration in which something is.
-/

namespace ServiceFlow

open Name

/-! ## What is at fault -/

/-- What may be wrong with a single entry. -/
inductive Fault where
  | name
  | pool
  | engineType
deriving DecidableEq

/-- The fault that a problem reports, if it lies in a single entry. -/
def ConfigProblem.fault? : ConfigProblem → Option Fault
  | .invalidName _ => some .name
  | .invalidPoolSize _ => some .pool
  | .unknownEngineType .. => some .engineType
  | .duplicateContainer _ | .duplicateService _ | .invalidComposition _ => none

variable {E : Type}

namespace ServiceSection

/-- The engine can be part of a name. -/
def named (s : ServiceSection) : Bool := validPart .engine s.engine

/-- The faults of a service apart from its name. -/
def inside (r : EngineRegistry E) (s : ServiceSection) : List Fault :=
  (if s.poolSize = some 0 then [.pool] else []) ++
    (if r.contains s.engineType then [] else [.engineType])

/-- All faults of a service. -/
def faults (r : EngineRegistry E) (s : ServiceSection) : List Fault :=
  (if s.named then [] else [.name]) ++ s.inside r

/-- The faults below an ill-formed name. -/
def hidden (r : EngineRegistry E) (s : ServiceSection) : List Fault :=
  if s.named then [] else s.inside r

end ServiceSection

namespace ContainerSection

/-- The text can be part of a name. -/
def named (c : ContainerSection) : Bool := validPart .container c.name

/-- The fault of a container apart from its services. -/
def ownFaults (c : ContainerSection) : List Fault := if c.named then [] else [.name]

/-- All faults of a container and its services. -/
def faults (r : EngineRegistry E) (c : ContainerSection) : List Fault :=
  c.ownFaults ++ c.services.flatMap (ServiceSection.faults r)

/-- The faults below an ill-formed name. -/
def hidden (r : EngineRegistry E) (c : ContainerSection) : List Fault :=
  if c.named then c.services.flatMap (ServiceSection.hidden r)
  else c.services.flatMap (ServiceSection.faults r)

end ContainerSection

namespace Config

/-- The services of all containers. -/
def services (c : Config) : List ServiceSection := c.containers.flatMap ContainerSection.services

/-- How many faults of each kind there are. -/
def faultCount (c : Config) (r : EngineRegistry E) : Fault → Nat
  | .name =>
    (if c.frontEnd.isOk then 0 else 1) + (if c.dpeName.isOk then 0 else 1) +
      c.containers.countP (fun s => !s.named) + c.services.countP (fun s => !s.named)
  | .pool =>
    (if c.dpe.poolSize = some 0 then 1 else 0) + c.services.countP (fun s => s.poolSize = some 0)
  | .engineType => c.services.countP (fun s => !r.contains s.engineType)

/-- The faults that have been found. -/
def reported (c : Config) (r : EngineRegistry E) : List Fault :=
  (c.problems r).filterMap ConfigProblem.fault?

/-- The faults at the top of a configuration. -/
def ownFaults (c : Config) : List Fault :=
  (if c.frontEnd.isOk then [] else [.name]) ++ (if c.dpe.poolSize = some 0 then [.pool] else []) ++
    (if c.dpeName.isOk then [] else [.name])

/-- All faults. -/
def faults (c : Config) (r : EngineRegistry E) : List Fault :=
  c.ownFaults ++ c.containers.flatMap (ContainerSection.faults r)

/-- The faults below an ill-formed name. -/
def hidden (c : Config) (r : EngineRegistry E) : List Fault :=
  if c.dpeName.isOk then c.containers.flatMap (ContainerSection.hidden r)
  else c.containers.flatMap (ContainerSection.faults r)

end Config

/-! ## What is corrected -/

/-- A service after what was found in it has been corrected. Without a name it was not looked into, and
nothing else in it has changed. -/
structure ServiceSection.Corrected (r : EngineRegistry E) (s t : ServiceSection) : Prop where
  named : t.named = true
  found : s.named = true → t.inside r = []
  kept : s.named = false → t.poolSize = s.poolSize ∧ t.engineType = s.engineType

/-- A container after what was found in it has been corrected. -/
structure ContainerSection.Corrected (r : EngineRegistry E) (c d : ContainerSection) : Prop where
  named : d.named = true
  found : c.named = true → List.Forall₂ (ServiceSection.Corrected r) c.services d.services
  kept : c.named = false → d.services = c.services

/-- A configuration after what was found in it has been corrected. -/
structure Config.Corrected (r : EngineRegistry E) (c d : Config) : Prop where
  frontEnd : d.frontEnd.isOk = true
  pool : d.dpe.poolSize ≠ some 0
  named : d.dpeName.isOk = true
  found : c.dpeName.isOk = true → List.Forall₂ (ContainerSection.Corrected r) c.containers d.containers
  kept : c.dpeName.isOk = false → d.containers = c.containers

/-! ## What is found -/

theorem eq_nil_of_count {l : List Fault} (h : ∀ k, l.count k = 0) : l = [] :=
  List.eq_nil_iff_forall_not_mem.mpr fun k => List.count_eq_zero.mp (h k)

section Found

variable {r : EngineRegistry E} {k : Fault}

theorem ServiceSection.named_eq_isOk {container : Name} {part : String}
    (hplace : container.place = .container part) (s : ServiceSection) :
    s.named = (container.makeService s.engine).isOk := by
  unfold named makeService checkPart
  rw [hplace]
  by_cases h : validPart .engine s.engine = true
  · simp only [h, if_true]
    rfl
  · simp only [h]
    rfl

theorem ContainerSection.named_eq_isOk (dpe : Name) (c : ContainerSection) :
    c.named = (dpe.makeContainer c.name).isOk := by
  unfold named makeContainer checkPart
  by_cases h : validPart .container c.name = true
  · simp only [h, if_true]
    rfl
  · simp only [h]
    rfl

theorem ServiceSection.count_faults (r : EngineRegistry E) (s : ServiceSection) :
    (s.faults r).count .name = (if (!s.named) = true then 1 else 0) ∧
      (s.faults r).count .pool = (if decide (s.poolSize = some 0) = true then 1 else 0) ∧
      (s.faults r).count .engineType = (if (!r.contains s.engineType) = true then 1 else 0) := by
  unfold ServiceSection.faults inside
  cases s.named <;> cases r.contains s.engineType <;> by_cases h : s.poolSize = some 0 <;>
    simp only [h, if_true, if_false] <;> exact ⟨rfl, rfl, rfl⟩

theorem ContainerSection.count_ownFaults (c : ContainerSection) :
    c.ownFaults.count .name = (if (!c.named) = true then 1 else 0) ∧
      c.ownFaults.count .pool = 0 ∧ c.ownFaults.count .engineType = 0 := by
  unfold ownFaults
  cases c.named <;> exact ⟨rfl, rfl, rfl⟩

theorem ServiceSection.filterMap_problems (seen : List Name) (n : Name) (s : ServiceSection) :
    (s.problems r seen n).filterMap ConfigProblem.fault? = s.inside r := by
  unfold ServiceSection.problems ServiceSection.inside
  rw [List.filterMap_append, List.filterMap_append]
  by_cases hseen : n ∈ seen <;> by_cases hpool : s.poolSize = some 0 <;>
    cases hengine : r.contains s.engineType <;> simp only [hseen, hpool, if_true, if_false] <;> rfl

/-- The check of a container finds the faults of its services that are not hidden. -/
theorem count_servicesProblems {container : Name} {part : String}
    (hplace : container.place = .container part) (seen : List Name) (ss : List ServiceSection) :
    ((servicesProblems r container seen ss).2.filterMap ConfigProblem.fault?).count k +
        (ss.flatMap (ServiceSection.hidden r)).count k =
      (ss.flatMap (ServiceSection.faults r)).count k := by
  induction ss generalizing seen with
  | nil => rfl
  | cons s ss ih =>
    rw [List.flatMap_cons, List.flatMap_cons, List.count_append, List.count_append,
      ServiceSection.hidden, ServiceSection.faults, List.count_append, servicesProblems]
    cases hn : container.makeService s.engine with
    | error e =>
      have hnamed : s.named = false := by
        rw [s.named_eq_isOk hplace, hn]
        rfl
      have hrest := ih seen
      simp only [hnamed, List.filterMap_cons, ConfigProblem.fault?, List.count_cons]
      simp only [Bool.false_eq_true, if_false, List.count_cons, List.count_nil]
      omega
    | ok n =>
      have hnamed : s.named = true := (makeService_eq_ok.mp hn).1
      have hrest := ih (n :: seen)
      simp only [hnamed, List.filterMap_append, List.count_append, ServiceSection.filterMap_problems]
      simp only [if_true, List.count_nil]
      omega

/-- The check of containers finds the faults in them that are not hidden. -/
theorem count_containersProblems (dpe : Name) (seen services : List Name)
    (cs : List ContainerSection) :
    ((containersProblems r dpe seen services cs).filterMap ConfigProblem.fault?).count k +
        (cs.flatMap (ContainerSection.hidden r)).count k =
      (cs.flatMap (ContainerSection.faults r)).count k := by
  induction cs generalizing seen services with
  | nil => rfl
  | cons c cs ih =>
    rw [List.flatMap_cons, List.flatMap_cons, List.count_append, List.count_append,
      ContainerSection.hidden, ContainerSection.faults, ContainerSection.ownFaults, List.count_append,
      containersProblems]
    cases hn : dpe.makeContainer c.name with
    | error e =>
      have hnamed : c.named = false := by
        rw [c.named_eq_isOk dpe, hn]
        rfl
      have hrest := ih seen services
      simp only [hnamed, List.filterMap_cons, ConfigProblem.fault?, List.count_cons]
      simp only [Bool.false_eq_true, if_false, List.count_cons, List.count_nil]
      omega
    | ok n =>
      obtain ⟨hnamed, hn'⟩ := makeContainer_eq_ok.mp hn
      have hnamed : c.named = true := hnamed
      have hown := count_servicesProblems (r := r) (k := k) (congrArg Name.place hn') services c.services
      have hrest := ih (n :: seen) (servicesProblems r n services c.services).1
      have hdouble : ((if n ∈ seen then [ConfigProblem.duplicateContainer n] else []).filterMap
          ConfigProblem.fault?).count k = 0 := by split <;> rfl
      simp only [hnamed, List.filterMap_append, List.count_append, hdouble]
      simp only [if_true, List.count_nil]
      omega

namespace Config

variable {c c' : Config}

theorem filterMap_requestProblems (c : Config) :
    c.requestProblems.filterMap ConfigProblem.fault? = [] := by
  unfold requestProblems
  split
  · rfl
  · split <;> rfl

/-- **What is found is what is not hidden**, each fault once. -/
theorem count_reported (c : Config) (r : EngineRegistry E) (k : Fault) :
    (c.reported r).count k + (c.hidden r).count k = (c.faults r).count k := by
  have hfrontEnd : c.frontEndProblems.filterMap ConfigProblem.fault? =
      if c.frontEnd.isOk then [] else [.name] := by
    unfold frontEndProblems
    split <;> rename_i h <;> rw [h] <;> rfl
  have hpool : (if c.dpe.poolSize = some 0 then [ConfigProblem.invalidPoolSize none] else []).filterMap
      ConfigProblem.fault? = if c.dpe.poolSize = some 0 then [.pool] else [] := by
    split <;> rfl
  unfold reported problems faults ownFaults hidden deploymentProblems
  simp only [List.filterMap_append, filterMap_requestProblems, hfrontEnd, hpool, List.count_append]
  cases hd : c.dpeName with
  | error e =>
    simp only [Except.isOk, Except.toBool, Bool.false_eq_true, if_false, List.filterMap_cons,
      ConfigProblem.fault?, List.filterMap_nil, List.count_nil]
    omega
  | ok dpe =>
    have hcontainers := count_containersProblems (r := r) (k := k) dpe [] [] c.containers
    simp only [Except.isOk, Except.toBool, if_true, List.count_nil]
    omega

/-- The faults of one kind in containers, when each container and each service has one or none. -/
theorem count_containers_faults {p : ServiceSection → Bool} {q : ContainerSection → Bool}
    (hp : ∀ s : ServiceSection, (s.faults r).count k = if p s then 1 else 0)
    (hq : ∀ s : ContainerSection, s.ownFaults.count k = if q s then 1 else 0)
    (cs : List ContainerSection) :
    (cs.flatMap (ContainerSection.faults r)).count k =
      cs.countP q + (cs.flatMap ContainerSection.services).countP p := by
  have hservices (ss : List ServiceSection) :
      (ss.flatMap (ServiceSection.faults r)).count k = ss.countP p := by
    induction ss with
    | nil => rfl
    | cons s ss ih =>
      rw [List.flatMap_cons, List.count_append, hp, ih, List.countP_cons]
      omega
  induction cs with
  | nil => rfl
  | cons s cs ih =>
    rw [List.flatMap_cons, List.count_append, ContainerSection.faults, List.count_append, hq,
      hservices, ih, List.countP_cons, List.flatMap_cons, List.countP_append]
    omega

/-- All faults, by their kinds. -/
theorem count_faults (c : Config) (r : EngineRegistry E) (k : Fault) :
    (c.faults r).count k = c.faultCount r k := by
  unfold faults ownFaults faultCount services
  simp only [List.count_append]
  cases k with
  | name =>
    rw [count_containers_faults (p := fun s => !s.named) (q := fun s => !s.named)
      (fun s => (s.count_faults r).1) (fun s => s.count_ownFaults.1)]
    cases c.frontEnd.isOk <;> cases c.dpeName.isOk <;> by_cases h : c.dpe.poolSize = some 0 <;>
      simp [h] <;> omega
  | pool =>
    rw [count_containers_faults (p := fun s => s.poolSize = some 0) (q := fun _ => false)
      (fun s => (s.count_faults r).2.1) (fun s => s.count_ownFaults.2.1)]
    cases c.frontEnd.isOk <;> cases c.dpeName.isOk <;> by_cases h : c.dpe.poolSize = some 0 <;>
      simp [h]
  | engineType =>
    rw [count_containers_faults (p := fun s => !r.contains s.engineType) (q := fun _ => false)
      (fun s => (s.count_faults r).2.2) (fun s => s.count_ownFaults.2.2)]
    cases c.frontEnd.isOk <;> cases c.dpeName.isOk <;> by_cases h : c.dpe.poolSize = some 0 <;>
      simp [h]

end Config

/-! ## What is left -/

section Hiding

/-- Faults that are hidden by another one, an ill-formed name that is not hidden itself. -/
def Shadowed (hidden all : List Fault) : Prop :=
  hidden = [] ∨ hidden.count .name < all.count .name

variable {hidden hidden' all all' : List Fault}

theorem Shadowed.count_le (h : Shadowed hidden all) : hidden.count .name ≤ all.count .name := by
  obtain rfl | h := h
  · exact Nat.zero_le _
  · exact h.le

theorem Shadowed.append (h : Shadowed hidden all) (h' : Shadowed hidden' all') :
    Shadowed (hidden ++ hidden') (all ++ all') := by
  have hle := h.count_le
  have hle' := h'.count_le
  unfold Shadowed
  rw [List.count_append, List.count_append]
  obtain rfl | hlt := h
  · obtain rfl | hlt' := h'
    · exact .inl rfl
    · exact .inr (by simp only [List.count_nil]; omega)
  · exact .inr (by omega)

theorem Shadowed.flatMap {α : Type} {f g : α → List Fault} (h : ∀ a, Shadowed (f a) (g a))
    (as : List α) : Shadowed (as.flatMap f) (as.flatMap g) := by
  induction as with
  | nil => exact .inl rfl
  | cons a as ih =>
    rw [List.flatMap_cons, List.flatMap_cons]
    exact (h a).append ih

theorem ServiceSection.shadowed (r : EngineRegistry E) (s : ServiceSection) :
    Shadowed (s.hidden r) (s.faults r) := by
  unfold ServiceSection.hidden ServiceSection.faults
  cases s.named with
  | true => exact .inl rfl
  | false =>
    refine .inr ?_
    simp only [Bool.false_eq_true, if_false, List.count_append, List.count_singleton_self]
    omega

theorem ContainerSection.shadowed (r : EngineRegistry E) (c : ContainerSection) :
    Shadowed (c.hidden r) (c.faults r) := by
  unfold ContainerSection.hidden ContainerSection.faults ContainerSection.ownFaults
  cases c.named with
  | true => exact Shadowed.flatMap (ServiceSection.shadowed r) c.services
  | false =>
    refine .inr ?_
    simp only [Bool.false_eq_true, if_false, List.count_append, List.count_singleton_self]
    omega

theorem Config.shadowed (c : Config) (r : EngineRegistry E) : Shadowed (c.hidden r) (c.faults r) := by
  unfold Config.hidden Config.faults
  cases hd : c.dpeName.isOk with
  | true =>
    have h := Shadowed.flatMap (ContainerSection.shadowed r) c.containers
    exact Shadowed.append (.inl rfl) h
  | false =>
    refine .inr ?_
    simp only [ownFaults, hd, Bool.false_eq_true, if_false, List.count_append,
      List.count_singleton_self]
    omega

end Hiding

namespace Config

/-- As long as a fault is hidden, another one is found. -/
theorem reported_eq_nil_iff (c : Config) (r : EngineRegistry E) :
    c.reported r = [] ↔ c.faults r = [] := by
  constructor
  · intro hnone
    have hhidden : c.hidden r = [] := by
      refine (c.shadowed r).resolve_right fun hlt => ?_
      have hname := c.count_reported r .name
      rw [hnone, List.count_nil] at hname
      omega
    refine eq_nil_of_count fun k => ?_
    rw [← c.count_reported r k, hnone, hhidden]
    rfl
  · intro hnone
    refine eq_nil_of_count fun k => ?_
    have hcount := c.count_reported r k
    rw [hnone, List.count_nil] at hcount
    omega

end Config

theorem flatMap_faults_eq {α : Type} {corrected : α → α → Prop} {faults hidden : α → List Fault}
    {as bs : List α} (hall : List.Forall₂ corrected as bs)
    (h : ∀ a b, corrected a b → faults b = hidden a) : bs.flatMap faults = as.flatMap hidden := by
  induction hall with
  | nil => rfl
  | cons hab _ ih => rw [List.flatMap_cons, List.flatMap_cons, h _ _ hab, ih]

theorem ServiceSection.Corrected.faults_eq {s t : ServiceSection} (h : s.Corrected r t) :
    t.faults r = s.hidden r := by
  unfold ServiceSection.faults ServiceSection.hidden
  rw [if_pos h.named, List.nil_append]
  cases hs : s.named with
  | true => exact h.found hs
  | false =>
    obtain ⟨hpool, hengine⟩ := h.kept hs
    unfold inside
    rw [hpool, hengine]
    rfl

theorem ContainerSection.Corrected.faults_eq {c d : ContainerSection} (h : c.Corrected r d) :
    d.faults r = c.hidden r := by
  unfold ContainerSection.faults ContainerSection.hidden ContainerSection.ownFaults
  rw [if_pos h.named, List.nil_append]
  cases hc : c.named with
  | true => exact flatMap_faults_eq (h.found hc) fun _ _ => ServiceSection.Corrected.faults_eq
  | false =>
    rw [h.kept hc]
    rfl

namespace Config

/-- What is left after a correction is what was hidden. -/
theorem Corrected.faults_eq {c d : Config} (h : c.Corrected r d) : d.faults r = c.hidden r := by
  unfold Config.faults Config.hidden Config.ownFaults
  rw [if_pos h.frontEnd, if_neg h.pool, if_pos h.named, List.nil_append, List.nil_append,
    List.nil_append]
  cases hc : c.dpeName.isOk with
  | true => exact flatMap_faults_eq (h.found hc) fun _ _ => ContainerSection.Corrected.faults_eq
  | false =>
    rw [h.kept hc]
    rfl

/-- **All faults are found at once exactly if none is hidden** below an ill-formed name. What is found
and what is hidden make up all the faults of each kind, and of a configuration in which everything
found has been corrected, the hidden ones are found next. -/
theorem reports_all_iff (c : Config) (r : EngineRegistry E) :
    (∀ k, (c.reported r).count k + (c.hidden r).count k = c.faultCount r k) ∧
      ((∀ k, (c.reported r).count k = c.faultCount r k) ↔ c.hidden r = []) ∧
      ∀ d, c.Corrected r d → (d.reported r = [] ↔ c.hidden r = []) := by
  have hcount (k : Fault) : (c.reported r).count k + (c.hidden r).count k = c.faultCount r k :=
    (c.count_reported r k).trans (c.count_faults r k)
  refine ⟨hcount, ⟨fun hall => ?_, fun hnone k => ?_⟩, fun d hd => ?_⟩
  · refine eq_nil_of_count fun k => ?_
    have hk := hcount k
    rw [hall k] at hk
    omega
  · rw [← hcount k, hnone]
    rfl
  · rw [d.reported_eq_nil_iff r, hd.faults_eq]

/-- A service with a pool of this size, in a container of this name. -/
def pooled (container : String) (size : UInt64) : Config :=
  ⟨⟨"h", none, .java, none, none, none, none⟩,
    [⟨container, "", [⟨"A", "reverse_text", some size, ""⟩]⟩], none⟩

theorem pooled_corrected : (pooled "c" 0).Corrected EngineRegistry.standard (pooled "c" 1) where
  frontEnd := rfl
  pool := by decide
  named := by decide
  found _ := .cons ⟨by decide, fun _ => .cons ⟨by decide, fun _ => by decide, by decide⟩ .nil,
    by decide⟩ .nil
  kept := by decide

/-- With a name for the container, nothing is left to be found after an empty pool. -/
theorem pooled_reports_all :
    (pooled "c" 0).Corrected EngineRegistry.standard (pooled "c" 1) ∧
      (pooled "c" 1).reported EngineRegistry.standard = [] :=
  ⟨pooled_corrected, (((pooled "c" 0).reports_all_iff EngineRegistry.standard).2.2 _
    pooled_corrected).mpr (by decide)⟩

/-- **An empty pool that is not found.** Nothing but the name of the container is found, and the pool
only once that is corrected. -/
theorem empty_pool_unreported :
    (pooled "bad name" 0).problems EngineRegistry.standard =
        [.invalidName (.invalidComponent "h_java:bad name" .container "bad name")] ∧
      (pooled "bad name" 0).faultCount EngineRegistry.standard .pool = 1 ∧
      ((pooled "bad name" 0).reported EngineRegistry.standard).count .pool = 0 ∧
      (pooled "bad name" 0).Corrected EngineRegistry.standard (pooled "c" 0) ∧
      (pooled "c" 0).problems EngineRegistry.standard =
        [.invalidPoolSize (some ⟨"h", 7771, .java, .service "c" "A"⟩)] := by
  have hcontainer : ContainerSection.Corrected EngineRegistry.standard
      ⟨"bad name", "", [⟨"A", "reverse_text", some 0, ""⟩]⟩
      ⟨"c", "", [⟨"A", "reverse_text", some 0, ""⟩]⟩ :=
    ⟨by decide, fun hnamed => absurd hnamed (by decide), fun _ => rfl⟩
  exact ⟨by decide +kernel, by decide +kernel, by decide +kernel,
    ⟨rfl, by decide, by decide, fun _ => .cons hcontainer .nil, by decide⟩, by decide +kernel⟩

end Config

end Found

end ServiceFlow
