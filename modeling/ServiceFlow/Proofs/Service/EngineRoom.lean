import ServiceFlow.Proofs.Engine.Steady
import ServiceFlow.Proofs.Pool.Users
import ServiceFlow.Service.Serve

/-!
# The engines of a service at work

Many requests share the engines of a service. Each takes one to execute, or all to configure them, and
between any two of its steps the others may do theirs, so that engines come back in any order. What a
configuration does to one engine after the other is one step here: while it lasts, it has them all.

* `EngineRoom`: the pool of a service with those who use it, and the configurations that have succeeded.
* `EngineRoom.Alike.step`, `EngineRoom.Alike.run`: engines that are alike stay alike.
* `EngineRoom.Guarded`, `EngineRoom.guarded`: so an execution comes to the same result whichever engine it
  has, and a configuration that fails changes none.
-/

namespace ServiceFlow

open EngineModel

variable {E : Type}

/-! ## Configurations -/

/-- The configurations that have succeeded, with one more if it does. -/
def noting (ds : List EngineData) (d : EngineData) : Except EngineFailure Unit → List EngineData
  | .ok () => ds ++ [d]
  | .error _ => ds

namespace Service

variable [EngineModel E] {e₀ : E}

theorem configureEach_accepted (h : Steady e₀) (ds : List EngineData) {d : EngineData}
    (hd : (EngineModel.configure e₀ d).2 = .ok ()) (n : Nat) :
    configureEach d (List.replicate n (configuredBy e₀ ds)) =
      (List.replicate n (EngineModel.configure e₀ d).1, .ok ()) := by
  have hstep : EngineModel.configure (configuredBy e₀ ds) d =
      ((EngineModel.configure e₀ d).1, .ok ()) := by
    rw [h.accepted ds d hd, ← hd]
  induction n with
  | zero => rfl
  | succ n ih => rw [List.replicate_succ, configureEach, hstep]; simp only [ih, List.replicate_succ]

theorem configureEach_refused (h : Steady e₀) (ds : List EngineData) {d : EngineData}
    {f : EngineFailure} (hd : (EngineModel.configure e₀ d).2 = .error f) (n : Nat) :
    configureEach d (List.replicate (n + 1) (configuredBy e₀ ds)) =
      (List.replicate (n + 1) (configuredBy e₀ ds), .error f) := by
  rw [List.replicate_succ, configureEach, h.refused ds d f hd]

/-- Engines that are alike take a configuration together, or none does. -/
theorem configureEach_alike (h : Steady e₀) (ds : List EngineData) (d : EngineData) (n : Nat) :
    let r := configureEach d (List.replicate n (configuredBy e₀ ds))
    r.1 = List.replicate n (configuredBy e₀ (noting ds d r.2)) ∧
      ∀ f, r.2 = .error f → r.1 = List.replicate n (configuredBy e₀ ds) := by
  intro r
  cases hd : (EngineModel.configure e₀ d).2 with
  | ok u =>
    have hr : r = _ := configureEach_accepted h ds hd n
    rw [hr, noting, configuredBy_concat]
    exact ⟨rfl, nofun⟩
  | error f =>
    cases n with
    | zero => exact ⟨rfl, fun _ _ => rfl⟩
    | succ n =>
      have hr : r = _ := configureEach_refused h ds hd n
      rw [hr]
      exact ⟨rfl, fun _ _ => rfl⟩

/-- An engine that only a configuration changes does not wait for the gate. -/
theorem run_steady (h : Steady e₀) (ds : List EngineData) (job : Job) :
    ∃ result, run job (configuredBy e₀ ds) = .finished ⟨configuredBy e₀ ds, result⟩ := by
  unfold run
  split
  · exact h.execute ds _
  · exact h.executeGroup ds _

end Service

/-! ## Engines on loan -/

namespace PoolUsers

variable {α : Type}

/-- A user has done something to the objects on loan. -/
def rework (s : PoolUsers α) (t : Nat) (loan : Loan α) : PoolUsers α :=
  { s with uses := s.uses.assign t (some (.lent loan)) }

section Rework

variable {original : List α} {s : PoolUsers α} {t : Nat} {loan : Loan α}

theorem get?_rework (s : PoolUsers α) (t u : Nat) (loan : Loan α) :
    (s.rework t loan).uses.get? u = if t = u then some (.lent loan) else s.uses.get? u :=
  Table.get?_assign s.uses t u (some (.lent loan))

/-- Objects that have not changed. -/
theorem Sound.rework_self (h : Sound original s) (hn : original.length ≤ ObjectPool.maxPermits)
    (ht : s.uses.get? t = some (.lent loan)) : Sound original (s.rework t loan) := by
  have hsame := h.moved ((h.ready hn t).moves_self)
  rw [ht] at hsame
  exact hsame

/-- Other objects, as many as there were, in the hands of one who has all. -/
theorem Sound.rework_all (h : Sound original s) (hn : original.length ≤ ObjectPool.maxPermits)
    (ht : s.uses.get? t = some (.lent loan)) (hall : loan.demand = .all) {items : List α}
    (hlength : items.length = original.length) : Sound items (s.rework t ⟨.all, items⟩) := by
  obtain ⟨hhome, hothers⟩ := h.elsewhere hn ht hall
  have hkeys := Table.nodup_keys_assign (k := t) h.keys (some (.lent ⟨.all, items⟩))
  have hself : (s.uses.assign t (some (.lent ⟨.all, items⟩))).get? t = some (.lent ⟨.all, items⟩) :=
    (Table.get?_assign _ _ _ _).trans (if_pos rfl)
  constructor
  case capacity => exact h.capacity.trans hlength.symm
  case keys => exact hkeys
  case orderly => exact h.orderly
  case wants =>
    intro u
    rw [get?_rework]
    split
    · rename_i hu
      exact hu ▸ (h.wants t).trans (by rw [ht]; rfl)
    · exact h.wants u
  case permits =>
    have hbefore := h.permits
    rw [pledged, sum_apart h.keys t, ht] at hbefore
    rw [pledged]
    unfold rework
    rw [sum_apart hkeys t, hself, Table.erase_assign, hlength, ← hbefore, Option.elim_some,
      Option.elim_some, PoolUse.permits, PoolUse.permits, hall]
  case objects =>
    have hperm := flatMap_apart hkeys t PoolUse.items
    rw [hself, Table.erase_assign, hothers, List.append_nil] at hperm
    show (s.pool.items ++ _).Perm items
    rw [hhome]
    exact hperm
  case lent =>
    intro u other hu
    rw [get?_rework] at hu
    split at hu
    · cases hu
      rw [hlength, ← h.permitsFor_all hn]
      rfl
    · exact h.lent u other hu

end Rework

end PoolUsers

/-! ## The room -/

/-- The engines of a service with those who use them, the configurations that have succeeded and the
executions that have ended. -/
structure EngineRoom (E : Type) where
  users : PoolUsers E
  configured : List EngineData
  executed : List (Job × Except EngineFailure EngineData)

/-- A step of anyone at the pool, or what is done with the engines on loan under a ticket. -/
inductive EngineEvent where
  | pool (e : PoolEvent)
  | execute (ticket : Nat) (job : Job)
  | configure (ticket : Nat) (d : EngineData)

namespace EngineRoom

/-- Nothing has happened. -/
def ofList (engines : List E) : EngineRoom E := ⟨.ofList engines, [], []⟩

/-- All engines, at home and on loan. -/
def engines (s : EngineRoom E) : List E := s.users.pool.items ++ s.users.onLoan

section Room

variable [EngineModel E]

/-- One step. An execution that has come to the gate goes on later. -/
def step (s : EngineRoom E) : EngineEvent → EngineRoom E
  | .pool e => { s with users := s.users.step e }
  | .execute t job =>
    match s.users.uses.get? t with
    | some (.lent ⟨.one, e :: es⟩) =>
      match Service.run job e with
      | .finished f =>
        { s with
          users := s.users.rework t ⟨.one, f.engine :: es⟩,
          executed := s.executed ++ [(job, f.result)] }
      | .waiting _ _ => s
    | _ => s
  | .configure t d =>
    match s.users.uses.get? t with
    | some (.lent ⟨.all, es⟩) =>
      let (es, r) := Service.configureEach d es
      { s with users := s.users.rework t ⟨.all, es⟩, configured := noting s.configured d r }
    | _ => s

/-- Steps one after the other. -/
def run (s : EngineRoom E) (events : List EngineEvent) : EngineRoom E := events.foldl step s

/-- There are `n` engines, and all are as the last configuration that has succeeded has left them. -/
def Alike (e₀ : E) (n : Nat) (s : EngineRoom E) : Prop :=
  s.users.Sound (List.replicate n (configuredBy e₀ s.configured))

variable {e₀ : E} {n : Nat} {s : EngineRoom E} {t : Nat}

theorem step_execute_of_not (h : ∀ es, s.users.uses.get? t ≠ some (.lent ⟨.one, es⟩)) (job : Job) :
    s.step (.execute t job) = s := by
  unfold step
  simp only
  split
  · rename_i ht
    exact absurd ht (h _)
  · rfl

theorem step_configure_of_not (h : ∀ es, s.users.uses.get? t ≠ some (.lent ⟨.all, es⟩))
    (d : EngineData) : s.step (.configure t d) = s := by
  unfold step
  simp only

namespace Alike

theorem engines_eq (h : Alike e₀ n s) :
    s.engines = List.replicate n (configuredBy e₀ s.configured) :=
  List.perm_replicate.mp h.objects

theorem eq_of_mem (h : Alike e₀ n s) {e : E} (he : e ∈ s.engines) :
    e = configuredBy e₀ s.configured := by
  rw [h.engines_eq] at he
  exact List.eq_of_mem_replicate he

theorem mem_engines {loan : Loan E} (h : Alike e₀ n s)
    (ht : s.users.uses.get? t = some (.lent loan)) {e : E} (he : e ∈ loan.items) : e ∈ s.engines :=
  List.mem_append_right _ ((PoolUsers.Sound.onLoan_perm h ht).mem_iff.mpr (List.mem_append_left _ he))

omit [EngineModel E] in
theorem length_le (hn : n ≤ ObjectPool.maxPermits) (e : E) :
    (List.replicate n e).length ≤ ObjectPool.maxPermits := by
  rw [List.length_replicate]
  exact hn

theorem start (e₀ : E) (n : Nat) : Alike e₀ n (ofList (List.replicate n e₀)) :=
  PoolUsers.Sound.start (List.replicate n e₀)

/-- Whoever has an engine executes with it, and comes to the result that any other would give. -/
theorem execute (h : Alike e₀ n s) (hsteady : Steady e₀) {es : List E}
    (ht : s.users.uses.get? t = some (.lent ⟨.one, es⟩)) (job : Job) :
    ∃ result,
      s.step (.execute t job) =
        { s with
          users := s.users.rework t ⟨.one, es⟩, executed := s.executed ++ [(job, result)] } ∧
      ∀ e ∈ s.engines, Service.run job e = .finished ⟨e, result⟩ := by
  obtain ⟨e, rfl⟩ : ∃ e, es = [e] := List.length_eq_one_iff.mp (PoolUsers.Sound.lent h t _ ht)
  obtain ⟨result, hrun⟩ := Service.run_steady hsteady s.configured job
  refine ⟨result, ?_, fun e' he' => by rw [h.eq_of_mem he', hrun]⟩
  rw [← h.eq_of_mem (h.mem_engines ht List.mem_cons_self)] at hrun
  unfold step
  simp only [ht, hrun]

/-- Whoever has all engines configures all there are. -/
theorem configure (h : Alike e₀ n s) (hn : n ≤ ObjectPool.maxPermits) {es : List E}
    (ht : s.users.uses.get? t = some (.lent ⟨.all, es⟩)) (d : EngineData) :
    es = List.replicate n (configuredBy e₀ s.configured) ∧
      s.step (.configure t d) =
        { s with
          users := s.users.rework t ⟨.all, (Service.configureEach d es).1⟩,
          configured := noting s.configured d (Service.configureEach d es).2 } := by
  refine ⟨List.perm_replicate.mp (PoolUsers.Sound.alone h (length_le hn _) ht rfl).1, ?_⟩
  unfold step
  simp only [ht]

/-- Whether a configuration succeeds is a matter of the data alone. -/
theorem configured_configure (h : Alike e₀ n s) (hsteady : Steady e₀)
    (hn : n ≤ ObjectPool.maxPermits) (hpos : 0 < n) {es : List E}
    (ht : s.users.uses.get? t = some (.lent ⟨.all, es⟩)) (d : EngineData) :
    (s.step (.configure t d)).configured =
      noting s.configured d (EngineModel.configure e₀ d).2 := by
  obtain ⟨hes, hstep⟩ := h.configure hn ht d
  obtain ⟨k, rfl⟩ : ∃ k, n = k + 1 := Nat.exists_eq_add_one.mpr hpos
  have hr : (Service.configureEach d es).2 = (EngineModel.configure e₀ d).2 := by
    rw [hes]
    cases hd : (EngineModel.configure e₀ d).2 with
    | ok u => rw [Service.configureEach_accepted hsteady _ hd]
    | error f => rw [Service.configureEach_refused hsteady _ hd]
  rw [hstep, hr]

/-- **Engines that are alike stay alike.** -/
theorem step (h : Alike e₀ n s) (hsteady : Steady e₀) (hn : n ≤ ObjectPool.maxPermits)
    (e : EngineEvent) : Alike e₀ n (s.step e) := by
  cases e with
  | pool e => exact PoolUsers.Sound.step h (length_le hn _) e
  | execute t job =>
    by_cases hloan : ∃ es, s.users.uses.get? t = some (.lent ⟨.one, es⟩)
    · obtain ⟨es, ht⟩ := hloan
      obtain ⟨result, hstep, -⟩ := h.execute hsteady ht job
      rw [hstep]
      exact PoolUsers.Sound.rework_self h (length_le hn _) ht
    · rw [step_execute_of_not (not_exists.mp hloan)]
      exact h
  | configure t d =>
    by_cases hloan : ∃ es, s.users.uses.get? t = some (.lent ⟨.all, es⟩)
    · obtain ⟨es, ht⟩ := hloan
      obtain ⟨hes, hstep⟩ := h.configure hn ht d
      have halike := (Service.configureEach_alike hsteady s.configured d n).1
      rw [← hes] at halike
      rw [hstep, Alike, ← halike]
      refine PoolUsers.Sound.rework_all h (length_le hn _) ht rfl ?_
      rw [halike, List.length_replicate, List.length_replicate]
    · rw [step_configure_of_not (not_exists.mp hloan)]
      exact h

theorem run (h : Alike e₀ n s) (hsteady : Steady e₀) (hn : n ≤ ObjectPool.maxPermits)
    (events : List EngineEvent) : Alike e₀ n (s.run events) := by
  induction events generalizing s with
  | nil => exact h
  | cons e events ih => exact ih (h.step hsteady hn e)

/-- Only configurations that the engines take are among those that have succeeded. -/
theorem taken_step (h : Alike e₀ n s) (hsteady : Steady e₀) (hn : n ≤ ObjectPool.maxPermits)
    (hpos : 0 < n) (htaken : ∀ d ∈ s.configured, (EngineModel.configure e₀ d).2 = .ok ())
    (e : EngineEvent) : ∀ d ∈ (s.step e).configured, (EngineModel.configure e₀ d).2 = .ok () := by
  cases e with
  | pool e => exact htaken
  | execute t job =>
    by_cases hloan : ∃ es, s.users.uses.get? t = some (.lent ⟨.one, es⟩)
    · obtain ⟨es, ht⟩ := hloan
      obtain ⟨result, hstep, -⟩ := h.execute hsteady ht job
      rw [hstep]
      exact htaken
    · rw [step_execute_of_not (not_exists.mp hloan)]
      exact htaken
  | configure t d =>
    by_cases hloan : ∃ es, s.users.uses.get? t = some (.lent ⟨.all, es⟩)
    · obtain ⟨es, ht⟩ := hloan
      rw [h.configured_configure hsteady hn hpos ht]
      cases hd : (EngineModel.configure e₀ d).2 with
      | error f => exact htaken
      | ok u => exact List.forall_mem_append.mpr ⟨htaken, List.forall_mem_singleton.mpr hd⟩
    · rw [step_configure_of_not (not_exists.mp hloan)]
      exact htaken

theorem taken_run (h : Alike e₀ n s) (hsteady : Steady e₀) (hn : n ≤ ObjectPool.maxPermits)
    (hpos : 0 < n) (htaken : ∀ d ∈ s.configured, (EngineModel.configure e₀ d).2 = .ok ())
    (events : List EngineEvent) :
    ∀ d ∈ (s.run events).configured, (EngineModel.configure e₀ d).2 = .ok () := by
  induction events generalizing s with
  | nil => exact htaken
  | cons e events ih => exact ih (h.step hsteady hn e) (h.taken_step hsteady hn hpos htaken e)

end Alike

/-! ## What it means for requests -/

/-- What holds of the engines of a service whenever none of them is being configured. -/
structure Guarded (e₀ : E) (n : Nat) (s : EngineRoom E) : Prop where
  /-- There are `n` of them, all as the last configuration that has succeeded has left them. -/
  engines : s.engines = List.replicate n (configuredBy e₀ s.configured)
  /-- Whoever has one can execute with it, and comes to the result that any other would give. -/
  executes : ∀ t es job, s.users.uses.get? t = some (.lent ⟨.one, es⟩) →
    ∃ result, (s.step (.execute t job)).executed = s.executed ++ [(job, result)] ∧
      ∀ e ∈ s.engines, Service.run job e = .finished ⟨e, result⟩
  /-- Whoever has all can configure them, and whether that succeeds is a matter of the data alone. -/
  configures : 0 < n → ∀ t es d, s.users.uses.get? t = some (.lent ⟨.all, es⟩) →
    (s.step (.configure t d)).configured = noting s.configured d (EngineModel.configure e₀ d).2
  /-- A configuration that fails leaves every engine where it was, and as it was. -/
  fails : ∀ t d, (s.step (.configure t d)).configured = s.configured →
    (s.step (.configure t d)).users.pool = s.users.pool ∧
      ∀ u, (s.step (.configure t d)).users.uses.get? u = s.users.uses.get? u

theorem Alike.guarded (h : Alike e₀ n s) (hsteady : Steady e₀) (hn : n ≤ ObjectPool.maxPermits) :
    Guarded e₀ n s where
  engines := h.engines_eq
  executes t es job ht := by
    obtain ⟨result, hstep, hall⟩ := h.execute hsteady ht job
    exact ⟨result, by rw [hstep], hall⟩
  configures hpos _ _ d ht := h.configured_configure hsteady hn hpos ht d
  fails t d hsame := by
    by_cases hloan : ∃ es, s.users.uses.get? t = some (.lent ⟨.all, es⟩)
    · obtain ⟨es, ht⟩ := hloan
      obtain ⟨hes, hstep⟩ := h.configure hn ht d
      have hsame' : (Service.configureEach d es).1 = es := by
        rw [hstep] at hsame
        cases hr : (Service.configureEach d es).2 with
        | ok u =>
          rw [hr] at hsame
          exact absurd (List.self_eq_append_right.mp hsame.symm) (List.cons_ne_nil d [])
        | error f =>
          have halike := (Service.configureEach_alike hsteady s.configured d n).2 f
          rw [← hes] at halike
          exact halike hr
      rw [hstep, hsame']
      refine ⟨rfl, fun u => (PoolUsers.get?_rework ..).trans ?_⟩
      split
      · rename_i hu
        rw [← hu, ht]
      · rfl
    · rw [step_configure_of_not (not_exists.mp hloan)]
      exact ⟨rfl, fun _ => rfl⟩

/-- **The engines of a service at work stay alike**, however the steps of all requests come. -/
theorem guarded (hsteady : Steady e₀) (hn : n ≤ ObjectPool.maxPermits) (events : List EngineEvent) :
    Guarded e₀ n ((ofList (List.replicate n e₀)).run events) :=
  ((Alike.start e₀ n).run hsteady hn events).guarded hsteady hn

end Room

end EngineRoom

end ServiceFlow
