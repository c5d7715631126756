import ServiceFlow.Composition.Cache
import ServiceFlow.Proofs.Composition.Statements

/-!
# What the cache of compositions remembers

A service resolves the texts of its messages one after the other, whatever they are, and its cache keeps
the last one that has compiled. It may only save work: no answer is to depend on what came before.

* `changesAfter`: how often a list of texts turns to another text.
* `CompositionCache.Sound`: what is kept is what its own text compiles to.
* `CompositionCache.resolve_eq`: so a call answers as a compilation would, and keeps its answer unless it
  fails.
* `CompositionCache.answers_as_compiled`: the answers of any calls, what the cache holds after them, and
  how often it has compiled.
-/

namespace ServiceFlow

open ServiceFlow.Composition

/-- How often texts turn to another one, the one before them being `previous`; if there is none the first
counts too. -/
def changesAfter (previous : Option String) : List String → Nat
  | [] => 0
  | text :: texts => (if previous = some text then 0 else 1) + changesAfter (some text) texts

namespace CompositionCache

variable {cache : CompositionCache} {owner : Name} {text : String} {c : Composition}

/-! ## One call -/

/-- The text that is kept. -/
def text? (cache : CompositionCache) : Option String := cache.current.map (·.text)

/-- The composition that is kept, if any, is what its text compiles to. -/
def Sound (cache : CompositionCache) : Prop :=
  ∀ c, cache.current = some c → Composition.compile c.text cache.owner = .ok c

/-- The cache once it has been asked for a text that compiles to `c`. -/
def keep (cache : CompositionCache) (c : Composition) : CompositionCache :=
  ⟨cache.owner, some c, if cache.text? = some c.text then cache.compilations else cache.compilations + 1⟩

theorem resolve_kept (h : cache.current = some c) :
    cache.resolve c.text = (cache, [], .ok c) := by
  unfold resolve
  rw [h]
  exact if_pos rfl

theorem resolve_miss (h : cache.text? ≠ some text) : cache.resolve text = cache.compile text := by
  unfold resolve
  split
  · rename_i c hc
    refine if_neg fun he => h ?_
    rw [text?, hc, Option.map_some, he]
  · rfl

/-- **A call answers as a compilation would**, and keeps its answer unless it fails. -/
theorem resolve_eq (h : cache.Sound) (text : String) :
    ((cache.resolve text).1, (cache.resolve text).2.2) =
      match Composition.compile text cache.owner with
      | .error e => (cache, .error e)
      | .ok c => (cache.keep c, .ok c) := by
  by_cases ht : cache.text? = some text
  · -- what is kept has this text, so it is what the text compiles to
    obtain ⟨c, hc, rfl⟩ := Option.map_eq_some_iff.mp ht
    have hkeep : cache.keep c = cache := by
      unfold keep
      rw [if_pos ht, ← hc]
    rw [resolve_kept hc, h c hc]
    simp only [hkeep]
  · rw [resolve_miss ht]
    unfold compile
    cases hc : Composition.compile text cache.owner with
    | error e => rfl
    | ok c => simp only [keep, compile_text hc, if_neg ht]

theorem Sound.keep (h : Composition.compile text cache.owner = .ok c) : (cache.keep c).Sound := by
  rintro c' hc'
  obtain rfl := Option.some.inj hc'
  rw [compile_text h]
  exact h

/-! ## Calls in turn -/

/-- Calls in turn, with their answers. -/
def resolveAll (cache : CompositionCache) :
    List String → CompositionCache × List (Except CompositionError Composition)
  | [] => (cache, [])
  | text :: texts =>
    let (cache, _, answer) := cache.resolve text
    let (cache, answers) := cache.resolveAll texts
    (cache, answer :: answers)

/-- The texts that compile for a service, in order. -/
def accepted (owner : Name) (texts : List String) : List String :=
  texts.filter fun text => (Composition.compile text owner).isOk

/-- What the texts compile to, as far as they do, in order. -/
def compiled (owner : Name) (texts : List String) : List Composition :=
  texts.filterMap fun text => (Composition.compile text owner).toOption

theorem compile_of_mem_compiled {texts : List String} (h : c ∈ compiled owner texts) :
    Composition.compile c.text owner = .ok c := by
  obtain ⟨text, -, hc⟩ := List.mem_filterMap.mp h
  have hok := eq_ok_of_toOption hc
  rwa [compile_text hok]

theorem map_text_compiled (owner : Name) (texts : List String) :
    (compiled owner texts).map (·.text) = accepted owner texts := by
  induction texts with
  | nil => rfl
  | cons text texts ih =>
    unfold compiled accepted at ih ⊢
    cases hc : Composition.compile text owner with
    | error e =>
      rw [List.filterMap_cons_none (by rw [hc]; rfl),
        List.filter_cons_of_neg (by rw [hc]; exact Bool.false_ne_true)]
      exact ih
    | ok c =>
      rw [List.filterMap_cons_some (b := c) (by rw [hc]; rfl),
        List.filter_cons_of_pos (by rw [hc]; rfl), List.map_cons, ih, compile_text hc]

/-- The calls that succeed are kept one after the other, and those that fail leave no trace. -/
theorem resolveAll_eq (h : cache.Sound) (texts : List String) :
    cache.resolveAll texts =
      ((compiled cache.owner texts).foldl keep cache,
        texts.map fun text => Composition.compile text cache.owner) := by
  induction texts generalizing cache with
  | nil => rfl
  | cons text texts ih =>
    have hstep := resolve_eq h text
    unfold resolveAll compiled
    cases hc : Composition.compile text cache.owner with
    | error e =>
      rw [hc] at hstep
      obtain ⟨hcache, hanswer⟩ := Prod.mk.inj hstep
      rw [List.filterMap_cons_none (by rw [hc]; rfl), List.map_cons, hc]
      simp only [hcache, hanswer, ih h, compiled]
    | ok c =>
      rw [hc] at hstep
      obtain ⟨hcache, hanswer⟩ := Prod.mk.inj hstep
      rw [List.filterMap_cons_some (b := c) (by rw [hc]; rfl), List.map_cons, hc]
      simp only [hcache, hanswer, ih (Sound.keep hc), compiled]
      rfl

theorem owner_foldl_keep (cs : List Composition) : (cs.foldl keep cache).owner = cache.owner := by
  induction cs generalizing cache with
  | nil => rfl
  | cons c cs ih => exact ih

theorem current_foldl_keep (cs : List Composition) :
    (cs.foldl keep cache).current = cs.getLast?.or cache.current := by
  induction cs generalizing cache with
  | nil => rfl
  | cons c cs ih =>
    rw [List.foldl_cons, ih, List.getLast?_cons]
    cases cs.getLast? <;> rfl

/-- The count goes up with each change of the text, and wraps around. -/
theorem compilations_keep (c : Composition) :
    (cache.keep c).compilations.toNat =
      (cache.compilations.toNat + if cache.text? = some c.text then 0 else 1) % UInt64.size := by
  unfold keep
  by_cases h : cache.text? = some c.text
  · simp only [if_pos h]
    exact (Nat.mod_eq_of_lt cache.compilations.toNat_lt).symm
  · simp only [if_neg h]
    exact UInt64.toNat_add ..

theorem compilations_foldl_keep (cs : List Composition) :
    (cs.foldl keep cache).compilations.toNat =
      (cache.compilations.toNat + changesAfter cache.text? (cs.map (·.text))) % UInt64.size := by
  induction cs generalizing cache with
  | nil => exact (Nat.mod_eq_of_lt cache.compilations.toNat_lt).symm
  | cons c cs ih =>
    rw [List.foldl_cons, ih, compilations_keep, Nat.mod_add_mod, List.map_cons, changesAfter,
      Nat.add_assoc]
    rfl

/-- What calls have answered, and what has become of the cache by then. -/
structure Recalls (owner : Name) (texts : List String) (cache : CompositionCache)
    (answers : List (Except CompositionError Composition)) : Prop where
  /-- Each call has answered what its text compiles to, or with the error. -/
  answers : answers = texts.map fun text => Composition.compile text owner
  /-- Of the calls that succeeded those have been compiled whose text is not that of the one before. They are
  counted as far as 64 bits go. -/
  compilations : cache.compilations.toNat = changesAfter none (accepted owner texts) % UInt64.size
  /-- The cache holds the answer of the last call that succeeded. -/
  current : cache.current = (compiled owner texts).getLast?
  /-- A call that fails leaves the cache as it is. -/
  failed : ∀ text e, Composition.compile text owner = .error e → (cache.resolve text).1 = cache
  /-- The last text that succeeded, whatever has failed since, is found in the cache: nothing is compiled
  and nothing logged. -/
  hit : ∀ text, (accepted owner texts).getLast? = some text →
    ∃ c, cache.current = some c ∧ cache.resolve text = (cache, [], .ok c)

/-- **The cache answers as if each text were compiled**, over any calls from its beginning. -/
theorem answers_as_compiled (owner : Name) (texts : List String) :
    Recalls owner texts ((new owner).resolveAll texts).1 ((new owner).resolveAll texts).2 := by
  have hnew : (new owner).Sound := fun c hc => nomatch hc
  rw [resolveAll_eq hnew]
  have howner : ((compiled owner texts).foldl keep (new owner)).owner = owner :=
    owner_foldl_keep (compiled owner texts)
  have hcurrent : ((compiled owner texts).foldl keep (new owner)).current =
      (compiled owner texts).getLast? := by
    rw [current_foldl_keep]
    exact Option.or_none
  have hsound : ((compiled owner texts).foldl keep (new owner)).Sound := by
    intro c hc
    rw [howner]
    exact compile_of_mem_compiled (List.mem_of_getLast? (hcurrent.symm.trans hc))
  constructor
  case answers => rfl
  case compilations =>
    rw [← map_text_compiled]
    have hcount := @compilations_foldl_keep (new owner) (compiled owner texts)
    rwa [show (new owner).compilations.toNat = 0 from rfl, Nat.zero_add] at hcount
  case current => exact hcurrent
  case failed =>
    intro text e he
    have hstep := resolve_eq hsound text
    rw [howner, he] at hstep
    exact (Prod.mk.inj hstep).1
  case hit =>
    intro text ht
    rw [← map_text_compiled, List.getLast?_map] at ht
    obtain ⟨c, hc, rfl⟩ := Option.map_eq_some_iff.mp ht
    have hkept := hcurrent.trans hc
    exact ⟨c, hkept, resolve_kept hkept⟩

/-- A text that does not compile comes between two calls for one that does. -/
example : ((new (.sample "B")).resolveAll
    ["h_java:c:A+h_java:c:B", "h_java:c:A+", "h_java:c:A+h_java:c:B"]).1.compilations = 1 := by
  decide +kernel

end CompositionCache

end ServiceFlow
