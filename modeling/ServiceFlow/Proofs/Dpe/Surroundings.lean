import ServiceFlow.Proofs.Bus.Directory
import ServiceFlow.Proofs.Dpe.Deployed
import ServiceFlow.Proofs.Results

/-!
# What deployments do to the surroundings

The directory is on the bus and the open receivers are in the shared memory. Each function that deploys or
removes something is described by what it makes of these two, whatever else it does to the exchange.

* `Bus.Tells`: what the directory says of everything below a DPE. What others do to the bus is
  `DirectoryEvent.Apart` from that, and `Bus.Tells.keepAll` is a run of it.
* `Exchange.Leaves`: names are taken out of the directory, and receivers are closed.
  `Container.leaves_closeStation`, `Container.leaves_stop` and `Dpe.leaves_stopAll` say which.
* `Container.start_spec`, `Container.openStation_spec`: a container or a station is there and in the
  directory, or nothing of it is, at whichever point it failed.
* `Dpe.announce_spec`: messages leave both alone.
-/

namespace ServiceFlow

/-! ## The directory under operations of the bus -/

namespace DirectoryBook

theorem noteAll_append (k : DirectoryBook) (p q : List DirectoryEvent) :
    k.noteAll (p ++ q) = (k.noteAll p).noteAll q := List.foldl_append

theorem entry_unregister (k : DirectoryBook) (names : List Name) (n : Name) :
    (k.noteAll (names.map .unregister)).entry n = if n ∈ names then none else k.entry n := by
  induction names generalizing k with
  | nil => rfl
  | cons m names ih =>
    refine (ih (k.note (.unregister m))).trans ?_
    simp only [note, List.mem_cons, Function.update_apply]
    by_cases hn : n ∈ names
    · simp [hn]
    · by_cases hm : n = m <;> simp [hn, hm]

end DirectoryBook

namespace Bus.Lists

variable {b b' : Bus} {k : DirectoryBook}

theorem drop (h : b.Lists k) (subscription : Nat) : (b.drop subscription).Lists k :=
  h.step (e := .traffic (.drop subscription)) trivial

theorem unregister (h : b.Lists k) {n : Name} (hn : n.Valid) :
    (b.unregister n).Lists (k.note (.unregister n)) := h.step (e := .unregister n) hn

theorem register (h : b.Lists k) {n : Name} (hn : n.Valid) {description : String}
    (hr : b.register n description = .ok b') : b'.Lists (k.note (.register n description)) := by
  have hstep := h.step (e := .register n description) hn
  rw [keep, hr] at hstep
  exact hstep

/-- What is put into the directory is there, for a bus that takes it is not closed. -/
theorem entry_register (h : b.Lists k) {n : Name} {description : String}
    (hr : b.register n description = .ok b') :
    (k.note (.register n description)).entry = Function.update k.entry n (some description) := by
  have hopen : ¬ k.closed = true := by
    rw [← h.closed]
    intro hc
    rw [Bus.register, if_pos hc] at hr
    cases hr
  rw [DirectoryBook.note, if_neg hopen]

end Bus.Lists

/-! ## What the directory tells of a DPE -/

theorem Name.isDpeOf_of_includes {dpe base n : Name} (hbase : dpe.isDpeOf base = true)
    (h : base.Includes n) : dpe.isDpeOf n = true := by
  obtain rfl | h | h := h
  · exact hbase
  · -- a name below a DPE is not that of a DPE
    simp only [Name.isDpeOf, Bool.and_eq_true, beq_iff_eq, bne_iff_ne] at hbase h
    exact absurd h.1.1.1 hbase.1.1.2
  · exact Name.isDpeOf_of_isContainerOf hbase h

/-- What others do to a bus: nothing below the DPE is put into the directory or taken out. -/
def DirectoryEvent.Apart (dpe : Name) : DirectoryEvent → Prop
  | .register n _ | .unregister n => n.Valid ∧ dpe.isDpeOf n = false
  | .traffic _ => True

instance (dpe : Name) : DecidablePred (DirectoryEvent.Apart dpe)
  | .register n _ | .unregister n => inferInstanceAs (Decidable (n.Valid ∧ dpe.isDpeOf n = false))
  | .traffic _ => inferInstanceAs (Decidable True)

theorem DirectoryEvent.Apart.wellFormed {dpe : Name} {e : DirectoryEvent} (h : e.Apart dpe) :
    e.WellFormed := by
  cases e with
  | register m description | unregister m => exact h.1
  | traffic e => exact trivial

theorem DirectoryBook.entry_note_apart {dpe n : Name} {e : DirectoryEvent} (h : e.Apart dpe)
    (hn : dpe.isDpeOf n = true) (k : DirectoryBook) : (k.note e).entry n = k.entry n := by
  have hne {m : Name} (hm : dpe.isDpeOf m = false) : n ≠ m := by
    rintro rfl
    rw [hm] at hn
    cases hn
  cases e with
  | register m description =>
    by_cases hc : k.closed = true
    · rw [note, if_pos hc]
    · rw [note, if_neg hc]
      exact Function.update_of_ne (hne h.2) _ _
  | unregister m => exact Function.update_of_ne (hne h.2) _ _
  | traffic e => rfl

namespace Bus

/-- The directory says of everything below the DPE what the book says. -/
def Tells (b : Bus) (dpe : Name) (book : Name → Option String) : Prop :=
  ∃ k, b.Lists k ∧ ∀ n, dpe.isDpeOf n = true → k.entry n = book n

namespace Tells

variable {b b' : Bus} {dpe : Name} {book : Name → Option String}

theorem keep (h : b.Tells dpe book) {e : DirectoryEvent} (he : e.Apart dpe) :
    (b.keep e).Tells dpe book := by
  obtain ⟨k, hk, hbook⟩ := h
  refine ⟨_, hk.step he.wellFormed, fun n hn => ?_⟩
  rw [DirectoryBook.entry_note_apart he hn, hbook n hn]

theorem keepAll (h : b.Tells dpe book) {es : List DirectoryEvent} (he : ∀ e ∈ es, e.Apart dpe) :
    (b.keepAll es).Tells dpe book := by
  induction es generalizing b with
  | nil => exact h
  | cons e es ih =>
    obtain ⟨hfirst, hrest⟩ := List.forall_mem_cons.mp he
    exact ih (h.keep hfirst) hrest

theorem register (h : b.Tells dpe book) {n : Name} (hn : n.Valid) {description : String}
    (hr : b.register n description = .ok b') :
    b'.Tells dpe (Function.update book n (some description)) := by
  obtain ⟨k, hk, hbook⟩ := h
  refine ⟨_, hk.register hn hr, fun m hm => ?_⟩
  rw [hk.entry_register hr, Function.update_apply, Function.update_apply, hbook m hm]

/-- Whatever is found below the DPE is what the book says. -/
theorem finds (h : b.Tells dpe book) {base : Name} (hbase : base.Valid)
    (hin : dpe.isDpeOf base = true) : b.Finds ⟨b.closed, book⟩ base := by
  obtain ⟨k, hk, hbook⟩ := h
  obtain ⟨hexactly, hascending⟩ := hk.finds hbase
  refine ⟨fun r => ?_, hascending⟩
  rw [hexactly]
  refine exists_congr fun n => and_congr_right fun _ => and_congr_right fun _ => ?_
  refine and_congr_left fun hincludes => ?_
  rw [hbook n (Name.isDpeOf_of_includes hin hincludes)]

end Tells

end Bus

/-! ## Leaving -/

namespace Exchange

/-- Names leave the directory, and receivers are closed. -/
structure Leaves (x : Exchange) (names receivers : List Name) (x' : Exchange) : Prop where
  lists : ∀ k, x.bus.Lists k → x'.bus.Lists (k.noteAll (names.map .unregister))
  receivers : ∀ n, n ∈ x'.memory.receivers ↔ n ∈ x.memory.receivers ∧ n ∉ receivers

variable {x x' x'' : Exchange}

theorem Leaves.refl (x : Exchange) : x.Leaves [] [] x where
  lists _ h := h
  receivers n := by simp

theorem Leaves.trans {p q r s : List Name} (h : x.Leaves p r x') (h' : x'.Leaves q s x'') :
    x.Leaves (p ++ q) (r ++ s) x'' where
  lists k hk := by
    rw [List.map_append, DirectoryBook.noteAll_append]
    exact h'.lists _ (h.lists k hk)
  receivers n := by
    rw [h'.receivers, h.receivers, List.mem_append, not_or, and_assoc]

/-- What leaves one after the other. -/
theorem Leaves.foldl {α : Type} {f : Exchange → α → Exchange} {names receivers : α → List Name}
    {as : List α} (h : ∀ a ∈ as, ∀ x : Exchange, x.Leaves (names a) (receivers a) (f x a))
    (x : Exchange) : x.Leaves (as.flatMap names) (as.flatMap receivers) (as.foldl f x) := by
  induction as generalizing x with
  | nil => exact .refl x
  | cons a as ih =>
    obtain ⟨ha, has⟩ := List.forall_mem_cons.mp h
    exact (ha x).trans (ih has (f x a))

theorem Leaves.tells {p r : List Name} (h : x.Leaves p r x') {dpe : Name}
    {book : Name → Option String} (hx : x.bus.Tells dpe book) :
    x'.bus.Tells dpe fun n => if n ∈ p then none else book n := by
  obtain ⟨k, hk, hbook⟩ := hx
  refine ⟨_, h.lists k hk, fun n hn => ?_⟩
  rw [DirectoryBook.entry_unregister, hbook n hn]

end Exchange

namespace Container

variable {E : Type}

theorem leaves_closeStation {s : Station E} (hs : s.service.name.Valid) (x : Exchange) :
    x.Leaves [s.service.name] [s.service.name] (closeStation x s) where
  lists k hk := (hk.drop s.subscription).unregister hs
  receivers n := by
    show n ∈ x.memory.receivers.erase s.service.name ↔ _
    rw [NameSet.mem_erase, List.mem_singleton]

theorem leaves_stop {c : Container E} (hc : c.name.Valid)
    (hs : ∀ s ∈ c.stations.values, s.service.name.Valid) (x : Exchange) :
    x.Leaves (c.serviceNames ++ [c.name]) c.serviceNames (c.stop x).2.1 := by
  have hservices : x.Leaves c.serviceNames c.serviceNames (c.stations.values.foldl closeStation x) := by
    have hall := Exchange.Leaves.foldl (fun s hm => leaves_closeStation (hs s hm)) x
    rwa [← List.map_eq_flatMap] at hall
  have hself (y : Exchange) : y.Leaves [c.name] [] { y with bus := y.bus.unregister c.name } :=
    ⟨fun k hk => hk.unregister hc, fun n => by simp⟩
  have hall := hservices.trans (hself _)
  rw [List.append_nil] at hall
  exact ⟨hall.lists, hall.receivers⟩

/-! ## Coming -/

section Coming

variable {x : Exchange} {dpe : Name} {book : Name → Option String}

/-- A container is there and in the directory, or nothing has changed. -/
theorem start_spec (hx : x.bus.Tells dpe book) {n : Name} (hn : n.Valid) (description : String) :
    (∃ e, Container.start (E := E) x n description = (x, .error e)) ∨
      n.kind = .container ∧ ∃ x',
        Container.start (E := E) x n description = (x', .ok ⟨n, description, ∅⟩) ∧
        x'.bus.Tells dpe (Function.update book n (some description)) ∧ x'.memory = x.memory := by
  unfold Container.start
  by_cases hk : n.kind = .container
  · rw [if_neg (not_not.mpr hk)]
    cases hr : x.bus.register n description with
    | error e => exact .inl ⟨_, rfl⟩
    | ok bus => exact .inr ⟨hk, _, rfl, hx.register hn hr, rfl⟩
  · rw [if_pos hk]
    exact .inl ⟨_, rfl⟩

/-- A station is there, its service is in the directory and its receiver is open; or nothing of it is left,
at whichever point that failed. -/
theorem openStation_spec (hx : x.bus.Tells dpe book) {es : List DirectoryEvent}
    (he : ∀ e ∈ es, e.Apart dpe) (setup : Setup E) {s : Service E} (hs : s.name.Valid) :
    (∃ x' e, openStation (·.keepAll es) setup x s = (x', .error e) ∧
        x'.bus.Tells dpe book ∧ x'.memory = x.memory) ∨
      ∃ x' station, openStation (·.keepAll es) setup x s = (x', .ok station) ∧ station.service = s ∧
        x'.bus.Tells dpe (Function.update book s.name (some s.spec.description)) ∧
        x'.memory = x.memory.openReceiver s.name := by
  unfold openStation
  cases hsub : x.bus.subscribe (.ofName s.name) with
  | error e => exact .inl ⟨x, _, rfl, hx, rfl⟩
  | ok r =>
    obtain ⟨bus, subscription⟩ := r
    have hsubscribed : bus.Tells dpe book := by
      have hkeep := hx.keep (e := .traffic (.subscribe (.ofName s.name))) trivial
      rw [Bus.keep, Bus.step, hsub] at hkeep
      exact hkeep
    have hothers := hsubscribed.keepAll he
    cases hreg : (bus.keepAll es).register s.name s.spec.description with
    | error e =>
      -- the bus was closed in between, and the subscription is given up
      exact .inl ⟨{ x with bus := (bus.keepAll es).drop subscription }, .bus e, by simp only [hreg],
        hothers.keep (e := .traffic (.drop subscription)) trivial, rfl⟩
    | ok bus' =>
      exact .inr ⟨_, _, by simp only [hreg]; rfl, rfl, hothers.register hs hreg, rfl⟩

/-- A service is deployed, or it is there already, or nothing of it is left. -/
theorem deployAmid_spec [EngineModel E] (hx : x.bus.Tells dpe book) {es : List DirectoryEvent}
    (he : ∀ e ∈ es, e.Apart dpe) (setup : Setup E) (c : Container E) {spec : ServiceSpec}
    (hspec : spec.name.Valid) :
    (∃ x' e, c.deployAmid (·.keepAll es) setup x spec = (c, x', .error e) ∧
        x'.bus.Tells dpe book ∧ x'.memory = x.memory) ∨
      (∃ s, c.service? spec.name = some s ∧
        c.deployAmid (·.keepAll es) setup x spec = (c, x, .ok s)) ∨
      ∃ x' station, c.deployAmid (·.keepAll es) setup x spec =
          (c.withStation spec.name station, x', .ok station.service) ∧
        station.service.spec = spec ∧ c.name.isContainerOf spec.name = true ∧
        c.service? spec.name = none ∧
        x'.bus.Tells dpe (Function.update book spec.name (some spec.description)) ∧
        x'.memory = x.memory.openReceiver spec.name := by
  unfold deployAmid
  cases hcheck : (do spec.validate; c.checkContains spec.name : Except DeployError Unit) with
  | error e => exact .inl ⟨x, e, rfl, hx, rfl⟩
  | ok _ =>
    obtain ⟨_, -, hcontains⟩ := bind_eq_ok.mp hcheck
    have hin : c.name.isContainerOf spec.name = true := by
      by_contra hn
      rw [checkContains, if_neg hn] at hcontains
      cases hcontains
    cases hs : c.service? spec.name with
    | some s => exact .inr (.inl ⟨s, rfl, rfl⟩)
    | none =>
      cases hengines : setup.registry.instantiate spec.engineType spec.poolSize.toNat with
      | none => exact .inl ⟨x, _, rfl, hx, rfl⟩
      | some engines =>
        rcases openStation_spec hx he setup
            (s := .new spec engines setup.settings.barrierTtl) hspec with
          ⟨x', e, hopen, htells, hmemory⟩ | ⟨x', station, hopen, hservice, htells, hmemory⟩
        · exact .inl ⟨x', e, by simp only [hopen], htells, hmemory⟩
        · refine .inr (.inr ⟨x', station, ?_, congrArg Service.spec hservice, hin, rfl, htells, hmemory⟩)
          simp only [hopen, withStation]

end Coming

end Container

namespace Dpe

variable {E : Type} {x : Exchange} {dpe : Name} {book : Name → Option String}

/-- The containers of a DPE leave with all their services. -/
theorem leaves_stopAll {cs : List (Container E)}
    (h : ∀ c ∈ cs, c.name.Valid ∧ ∀ s ∈ c.stations.values, s.service.name.Valid) (x : Exchange) :
    x.Leaves (cs.flatMap fun c => c.serviceNames ++ [c.name]) (cs.flatMap Container.serviceNames)
      (stopAll x cs) :=
  Exchange.Leaves.foldl (fun c hc => Container.leaves_stop (h c hc).1 (h c hc).2) x

theorem announce_spec (d : Dpe E) (hx : x.bus.Tells dpe book) (other : Name) (command : String) :
    (d.announce x other command).1.bus.Tells dpe book ∧
      (d.announce x other command).1.memory = x.memory := by
  unfold announce Exchange.publish
  split
  · exact ⟨hx, rfl⟩
  · generalize Message.ofCommand other d.name command = m
    cases hp : x.bus.publish m with
    | error e => exact ⟨hx, rfl⟩
    | ok bus =>
      refine ⟨?_, rfl⟩
      have hkeep := hx.keep (e := .traffic (.publish m)) trivial
      rw [Bus.keep, Bus.step, hp] at hkeep
      exact hkeep

end Dpe

end ServiceFlow
