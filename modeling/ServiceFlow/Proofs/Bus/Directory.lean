import Mathlib.Data.List.Nodup
import Mathlib.Data.String.Basic
import ServiceFlow.Proofs.Bus.Runs
import ServiceFlow.Proofs.Topic.Containment

/-!
# The directory of a bus

The directory keeps the components under the texts of their names, and finds them by covering of topics. No
two names have one text, and covering is containment of names, so what is found under a name is what the
history of the directory says of the names that it includes.

* `DirectoryBook`: what a history says of each name. A component that is put in again has its new
  description, and a closed bus puts nothing in but still takes out.
* `Bus.Lists.step`, `Bus.Lists.run`: the directory says the same of each name, after one operation and
  after a whole run.
* `Bus.Lists.finds`: what is found under a name, each component once and in the order of the names.
* `Purpose.covered_and_found`: covering of topics, and what is found by it.
-/

namespace ServiceFlow

/-! ## Histories -/

/-- An operation on a bus that may concern its directory. -/
inductive DirectoryEvent where
  | register (n : Name) (description : String)
  | unregister (n : Name)
  | traffic (e : BusEvent)

/-- What a history says: whether the bus is closed, and of each name how it is described if it is in. -/
structure DirectoryBook where
  closed : Bool
  entry : Name → Option String

namespace DirectoryEvent

/-- The name in an operation is well-formed. -/
def WellFormed : DirectoryEvent → Prop
  | register n _ | unregister n => n.Valid
  | traffic _ => True

instance : DecidablePred WellFormed
  | register n _ | unregister n => inferInstanceAs (Decidable n.Valid)
  | traffic _ => inferInstanceAs (Decidable True)

end DirectoryEvent

namespace DirectoryBook

/-- The book of an open bus before any operation. -/
def empty : DirectoryBook := ⟨false, fun _ => none⟩

instance : EmptyCollection DirectoryBook := ⟨empty⟩

/-- The book after one more operation. -/
def note (k : DirectoryBook) : DirectoryEvent → DirectoryBook
  | .register n description =>
    if k.closed then k else { k with entry := Function.update k.entry n (some description) }
  | .unregister n => { k with entry := Function.update k.entry n none }
  | .traffic e => { k with closed := BusEvent.closedAfter k.closed e }

/-- The book after operations. -/
def noteAll (k : DirectoryBook) (events : List DirectoryEvent) : DirectoryBook := events.foldl note k

end DirectoryBook

namespace Bus

/-- The bus after an operation that may concern its directory; what is refused changes nothing. -/
def keep (b : Bus) : DirectoryEvent → Bus
  | .register n description =>
    match b.register n description with
    | .ok b => b
    | .error _ => b
  | .unregister n => b.unregister n
  | .traffic e => (b.step e).1

/-- The bus after such operations. -/
def keepAll (b : Bus) (events : List DirectoryEvent) : Bus := events.foldl keep b

section Operations

variable {b : Bus}

theorem keep_register_open (h : b.closed = false) (n : Name) (description : String) :
    b.keep (.register n description) =
      { b with directory := b.directory.set n.text description } := by
  simp [keep, register, h]

theorem keep_register_closed (h : b.closed = true) (n : Name) (description : String) :
    b.keep (.register n description) = b := by
  simp [keep, register, h]

/-- Messages leave the directory alone. -/
theorem step_directory (b : Bus) (e : BusEvent) : (b.step e).1.directory = b.directory := by
  cases e with
  | subscribe topic =>
    by_cases h : b.closed = true
    · rw [step_subscribe_closed h]
    · rw [step_subscribe_open (eq_false_of_ne_true h)]
  | publish m =>
    by_cases h : b.closed = true
    · rw [step_publish_closed h]
    · rw [step_publish_open (eq_false_of_ne_true h)]
      rfl
  | receive n =>
    simp only [step, receive]
    split
    · rfl
    · split <;> rfl
  | drop n | close => rfl

end Operations

/-! ## The directory and the book -/

/-- The directory is what the book says of the well-formed names. -/
structure Lists (b : Bus) (k : DirectoryBook) : Prop where
  closed : b.closed = k.closed
  nodup : b.directory.keys.Nodup
  entries : ∀ text description, b.directory.get? text = some description ↔
    ∃ n : Name, n.Valid ∧ text = n.text ∧ k.entry n = some description

theorem lists_empty : Lists ∅ ∅ where
  closed := rfl
  nodup := List.nodup_nil
  entries text description := by
    constructor
    · intro h
      cases h
    · rintro ⟨n, -, -, h⟩
      cases h

namespace Lists

variable {b : Bus} {k : DirectoryBook}

/-- A change to the entry of one name is the same change to the book. -/
theorem update {directory : Table String String} {n : Name} (h : b.Lists k) (hn : n.Valid)
    (entry : Option String)
    (hget : ∀ text, directory.get? text = if n.text = text then entry else b.directory.get? text)
    (text description : String) :
    directory.get? text = some description ↔
      ∃ m : Name, m.Valid ∧ text = m.text ∧ Function.update k.entry n entry m = some description := by
  rw [hget]
  by_cases htext : n.text = text
  · subst htext
    rw [if_pos rfl]
    constructor
    · intro he
      exact ⟨n, hn, rfl, by rw [Function.update_self, he]⟩
    · rintro ⟨m, hm, hnm, he⟩
      obtain rfl := (Name.text_inj hn hm).mp hnm
      rwa [Function.update_self] at he
  · rw [if_neg htext, h.entries]
    constructor
    · rintro ⟨m, hm, rfl, he⟩
      have hne : m ≠ n := fun e => htext (congrArg Name.text e).symm
      exact ⟨m, hm, rfl, by rwa [Function.update_of_ne hne]⟩
    · rintro ⟨m, hm, rfl, he⟩
      have hne : m ≠ n := fun e => htext (congrArg Name.text e).symm
      exact ⟨m, hm, rfl, by rwa [Function.update_of_ne hne] at he⟩

theorem step (h : b.Lists k) {e : DirectoryEvent} (he : e.WellFormed) :
    (b.keep e).Lists (k.note e) := by
  cases e with
  | register n description =>
    by_cases hc : b.closed = true
    · have hk : k.closed = true := h.closed ▸ hc
      rw [keep_register_closed hc, DirectoryBook.note, if_pos hk]
      exact h
    · have hopen := eq_false_of_ne_true hc
      have hk : ¬ k.closed = true := h.closed ▸ hc
      rw [keep_register_open hopen, DirectoryBook.note, if_neg hk]
      exact ⟨h.closed, Table.nodup_keys_set h.nodup,
        h.update he (some description) fun text => Table.get?_set b.directory n.text text _⟩
  | unregister n =>
    exact ⟨h.closed, Table.nodup_keys_erase h.nodup,
      h.update he none (Table.get?_erase b.directory n.text)⟩
  | traffic e =>
    refine ⟨?_, ?_, ?_⟩
    · rw [keep, step_closed, h.closed]
      rfl
    · rw [keep, step_directory]
      exact h.nodup
    · rw [keep, step_directory]
      exact h.entries

theorem run (h : b.Lists k) {events : List DirectoryEvent} (he : ∀ e ∈ events, e.WellFormed) :
    (b.keepAll events).Lists (k.noteAll events) := by
  induction events generalizing b k with
  | nil => exact h
  | cons e events ih =>
    obtain ⟨hfirst, hrest⟩ := List.forall_mem_cons.mp he
    exact ih (h.step hfirst) hrest

end Lists

/-! ## Finding -/

/-- What is found under a name are the components that it includes, each once and in the order of their
names. -/
structure Finds (b : Bus) (k : DirectoryBook) (base : Name) : Prop where
  exactly : ∀ r, r ∈ b.find base ↔
    ∃ n : Name, n.Valid ∧ r.name = n.text ∧ k.entry n = some r.description ∧ base.Includes n
  ascending : (b.find base).Pairwise fun r s => r.name < s.name

theorem mem_find {b : Bus} {base : Name} {r : Registration} :
    r ∈ b.find base ↔
      (r.name, r.description) ∈ b.directory ∧ (Topic.ofName base).covers ⟨r.name⟩ = true := by
  unfold find
  rw [List.mem_map]
  constructor
  · rintro ⟨e, he, rfl⟩
    exact List.mem_filter.mp (List.mem_mergeSort.mp he)
  · intro h
    exact ⟨(r.name, r.description), List.mem_mergeSort.mpr (List.mem_filter.mpr h), rfl⟩

/-- What is found is sorted by name, and no two names are the same. -/
theorem ascending_find {b : Bus} (h : b.directory.keys.Nodup) (base : Name) :
    (b.find base).Pairwise fun r s => r.name < s.name := by
  unfold find
  rw [List.pairwise_map]
  generalize hfound : b.directory.filter _ = found
  have hkeys : ((found.mergeSort fun a b => (compare a.1 b.1).isLE).map Prod.fst).Nodup := by
    refine ((List.mergeSort_perm found _).map Prod.fst).nodup_iff.mpr ?_
    rw [← hfound]
    exact h.sublist (List.filter_sublist.map _)
  have hsorted : (found.mergeSort fun a b => (compare a.1 b.1).isLE).Pairwise
      fun a b => (compare a.1 b.1).isLE = true := by
    refine List.pairwise_mergeSort ?_ ?_ found
    · intro a b c hab hbc
      exact Std.TransCmp.isLE_trans hab hbc
    · intro a b
      rw [Bool.or_eq_true, Std.LawfulBCmp.isLE_iff_le, Std.LawfulBCmp.isLE_iff_le]
      exact le_total a.1 b.1
  refine ((List.pairwise_map.mp hkeys).and hsorted).imp ?_
  rintro a b ⟨hne, hle⟩
  exact lt_of_le_of_ne (Std.LawfulBCmp.isLE_iff_le.mp hle) hne

theorem Lists.finds {b : Bus} {k : DirectoryBook} (h : b.Lists k) {base : Name} (hbase : base.Valid) :
    b.Finds k base where
  exactly r := by
    -- an entry stands under the topic of its name
    have covers {n : Name} (hn : n.Valid) :
        (Topic.ofName base).covers (.ofName n) = true ↔ base.Includes n :=
      Purpose.covers_iff (p := .data base) (q := .data n) hbase hn
    rw [mem_find]
    constructor
    · rintro ⟨hmem, hcovers⟩
      obtain ⟨n, hn, htext, hentry⟩ := (h.entries _ _).mp (Table.get?_of_mem h.nodup hmem)
      rw [htext] at hcovers
      exact ⟨n, hn, htext, hentry, (covers hn).mp hcovers⟩
    · rintro ⟨n, hn, htext, hentry, hincludes⟩
      refine ⟨Table.mem_of_get?_eq_some ((h.entries _ _).mpr ⟨n, hn, htext, hentry⟩), ?_⟩
      rw [htext]
      exact (covers hn).mpr hincludes
  ascending := ascending_find h.nodup base

end Bus

/-! ## Covering and finding -/

namespace Purpose

/-- **Topics cover each other as what they were made for, and what is found under a name is what it
includes.** The topics are any that are made for well-formed names; the bus begins without subscriptions
and goes through any operations on its directory and its messages. -/
theorem covered_and_found {p q : Purpose} (hp : p.WellFormed) (hq : q.WellFormed)
    {events : List DirectoryEvent} (hevents : ∀ e ∈ events, e.WellFormed)
    {base : Name} (hbase : base.Valid) :
    (p.topic.covers q.topic = true ↔ p.Covers q) ∧
      (Bus.keepAll ∅ events).Finds (DirectoryBook.noteAll ∅ events) base :=
  ⟨covers_iff hp hq, (Bus.lists_empty.run hevents).finds hbase⟩

/-- The container `h_java:c`. -/
def sampleContainer : Name := ⟨"h", 7771, .java, .container "c"⟩

/-- The service `h_java:c:S1`. -/
def sampleService : Name := ⟨"h", 7771, .java, .service "c" "S1"⟩

/-- Puts the service in, then a container whose name only begins like that of the first, and ends. -/
def sampleHistory : List DirectoryEvent :=
  [.register sampleService "adds", .register ⟨"h", 7771, .java, .container "c1"⟩ "other",
    .traffic .close, .register sampleContainer "late"]

theorem sampleHistory_found :
    (topic (.report (.warning .minor) sampleContainer)).covers
        (topic (.report (.warning .minor) sampleService)) = true ∧
      (Bus.keepAll ∅ sampleHistory).Finds (DirectoryBook.noteAll ∅ sampleHistory) sampleContainer ∧
      ⟨sampleService.text, "adds"⟩ ∈ (Bus.keepAll ∅ sampleHistory).find sampleContainer := by
  obtain ⟨hcovers, hfinds⟩ :=
    covered_and_found (p := .report (.warning .minor) sampleContainer)
      (q := .report (.warning .minor) sampleService) (show sampleContainer.Valid by decide)
      (show sampleService.Valid by decide) (show ∀ e ∈ sampleHistory, e.WellFormed by decide)
      (show sampleContainer.Valid by decide)
  refine ⟨hcovers.mpr ⟨rfl, .inr (.inr rfl)⟩, hfinds, (hfinds.exactly _).mpr ?_⟩
  exact ⟨sampleService, by decide, rfl, by decide, .inr (.inr rfl)⟩

end Purpose

end ServiceFlow
