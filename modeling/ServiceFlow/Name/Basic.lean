/-!
# Names of processing environments, containers and services

Model of the addresses of a deployment. A DPE (data processing environment) runs on a host and a
port and speaks one language; containers live in a DPE and services in a container. A `Name` is the
address of any of the three: the DPE part, and the `Place` inside that DPE.

* `Name.dpe` and `Name.container?` are the names of the enclosing DPE and container.
* `sameProcess` compares host and port alone: two DPEs of different languages on one host never
  share a port, so those two decide which process a name belongs to.
* Names are ordered by host, port, language, container and engine; a missing part comes first.

Results:
* `instTransOrdName`, `instLawfulEqOrdName`: the order is total, and only equal names are level.
-/

namespace ServiceFlow

/-! ## Languages -/

/-- The language that the engines of a DPE are written in. -/
inductive Lang where
  | java
  | cpp
  | python
deriving DecidableEq, Repr

/-- The port of a DPE whose name gives none. -/
def Lang.defaultPort : Lang → UInt16
  | .java => 7771
  | .cpp => 7781
  | .python => 7791

/-- The word for a language in names. -/
def Lang.text : Lang → String
  | .java => "java"
  | .cpp => "cpp"
  | .python => "python"

/-- The language that a word stands for; the case of letters counts. -/
def Lang.ofText? (s : String) : Option Lang :=
  if s = "java" then some .java
  else if s = "cpp" then some .cpp
  else if s = "python" then some .python
  else none

/-- The rank of a language in the order of names. -/
def Lang.rank : Lang → Nat
  | .java => 0
  | .cpp => 1
  | .python => 2

theorem Lang.rank_inj {a b : Lang} (h : a.rank = b.rank) : a = b := by
  cases a <;> cases b <;> simp_all [Lang.rank]

theorem Lang.ofText?_text (l : Lang) : Lang.ofText? l.text = some l := by
  cases l <;> decide

/-! ## Names -/

/-- What a name addresses within its DPE. -/
inductive Place where
  | dpe
  | container (container : String)
  | service (container engine : String)
deriving DecidableEq, Repr

/-- The address of a DPE, a container or a service. -/
structure Name where
  host : String
  port : UInt16
  lang : Lang
  place : Place
deriving DecidableEq, Repr

/-- The three levels of the hierarchy. -/
inductive NameKind where
  | dpe
  | container
  | service
deriving DecidableEq, Repr

namespace Name

/-- The level that a name addresses. -/
def kind (n : Name) : NameKind :=
  match n.place with
  | .dpe => .dpe
  | .container _ => .container
  | .service _ _ => .service

/-- The container component. -/
def containerPart? (n : Name) : Option String :=
  match n.place with
  | .dpe => none
  | .container c => some c
  | .service c _ => some c

/-- The engine component. -/
def enginePart? (n : Name) : Option String :=
  match n.place with
  | .service _ e => some e
  | _ => none

/-- The DPE that a name lives on; a DPE's own name is itself. -/
def dpe (n : Name) : Name := { n with place := .dpe }

/-- The container of a service or the container itself; a DPE has none. -/
def container? (n : Name) : Option Name :=
  n.containerPart?.map fun c => { n with place := .container c }

/-- Both names live in one process: host and port agree. -/
def sameProcess (a b : Name) : Bool := a.host == b.host && a.port == b.port

/-- The name `a` is a DPE and `b` a container or a service on it. -/
def isDpeOf (a b : Name) : Bool :=
  a.kind == .dpe && b.kind != .dpe && a.sameProcess b && a.lang == b.lang

/-- The name `a` is a container and `b` a service in it. -/
def isContainerOf (a b : Name) : Bool :=
  a.kind == .container && b.kind == .service && b.container? == some a

/-- The name `a` is a service in the container `b`. -/
def isServiceOf (a b : Name) : Bool := b.isContainerOf a

/-! ## Order -/

/-- Names in the order host, port, language, container, engine; a missing part comes first. -/
protected def compare : Name → Name → Ordering :=
  compareLex (compareOn Name.host) <|
  compareLex (compareOn Name.port) <|
  compareLex (compareOn fun n => n.lang.rank) <|
  compareLex (compareOn containerPart?) (compareOn enginePart?)

instance : Ord Name := ⟨Name.compare⟩

instance instTransOrdName : Std.TransOrd Name :=
  inferInstanceAs (Std.TransCmp
    (compareLex (compareOn Name.host) <|
     compareLex (compareOn Name.port) <|
     compareLex (compareOn fun n => n.lang.rank) <|
     compareLex (compareOn containerPart?) (compareOn enginePart?)))

/-- A name is determined by the parts that the order looks at. -/
theorem ext_parts {a b : Name} (hh : a.host = b.host) (hp : a.port = b.port)
    (hl : a.lang = b.lang) (hc : a.containerPart? = b.containerPart?)
    (he : a.enginePart? = b.enginePart?) : a = b := by
  obtain ⟨_, _, _, pa⟩ := a
  obtain ⟨_, _, _, pb⟩ := b
  cases pa <;> cases pb <;> simp_all [containerPart?, enginePart?]

instance instLawfulEqOrdName : Std.LawfulEqOrd Name where
  eq_of_compare {a b} h := by
    change Name.compare a b = .eq at h
    simp only [Name.compare, compareLex, Ordering.then_eq_eq, compareOn,
      Std.compare_eq_iff_eq] at h
    obtain ⟨hh, hp, hl, hc, he⟩ := h
    exact ext_parts hh hp (Lang.rank_inj hl) hc he

end Name

end ServiceFlow
