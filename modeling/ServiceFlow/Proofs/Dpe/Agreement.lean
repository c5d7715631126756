import ServiceFlow.Dpe.Control
import ServiceFlow.Proofs.Bus.Directory

/-!
# What a DPE sees of its surroundings

What a request comes to depends on little of what surrounds the DPE: whether the bus is open, what is in the
directory and in the shared memory, and which number the next subscription has. The queues of the
subscriptions, the traffic and the log play no part, so messages that go to others make no difference.

* `Bus.Agrees`, `Exchange.Agrees`: surroundings that are alike in these respects. `Exchange.Agrees.keep` is
  what others do to both of them, and `Exchange.Agrees.acceptAll` is about messages in one of them.
* `Matches`: steps that come to the same in surroundings that are alike.
* `Dpe.apply_matches`: every request comes to the same.
-/

namespace ServiceFlow

/-! ## Buses -/

namespace Bus

/-- Alike in all that a DPE sees. -/
structure Agrees (b c : Bus) : Prop where
  closed : b.closed = c.closed
  next : b.nextSubscription = c.nextSubscription
  directory : b.directory = c.directory

namespace Agrees

variable {b c : Bus}

theorem acceptAll (h : b.Agrees c) (ms : List Message) : (ms.foldl Bus.accept b).Agrees c := by
  induction ms generalizing b with
  | nil => exact h
  | cons m ms ih => exact ih (b := b.accept m) ⟨h.closed, h.next, h.directory⟩

theorem publish (h : b.Agrees c) (m : Message) :
    (∃ e, b.publish m = .error e ∧ c.publish m = .error e) ∨
      b.publish m = .ok (b.accept m) ∧ c.publish m = .ok (c.accept m) ∧
        (b.accept m).Agrees (c.accept m) := by
  unfold Bus.publish
  cases hb : b.closed with
  | true => exact .inl ⟨.closed, rfl, if_pos (h.closed.symm.trans hb)⟩
  | false =>
    have hc : ¬ c.closed = true := Bool.eq_false_iff.mp (h.closed.symm.trans hb)
    exact .inr ⟨rfl, if_neg hc, h.closed, h.next, h.directory⟩

theorem subscribe (h : b.Agrees c) (topic : Topic) :
    (∃ e, b.subscribe topic = .error e ∧ c.subscribe topic = .error e) ∨
      ∃ b' c' n, b.subscribe topic = .ok (b', n) ∧ c.subscribe topic = .ok (c', n) ∧ b'.Agrees c' := by
  unfold Bus.subscribe
  cases hb : b.closed with
  | true => exact .inl ⟨.closed, rfl, if_pos (h.closed.symm.trans hb)⟩
  | false =>
    have hc : ¬ c.closed = true := Bool.eq_false_iff.mp (h.closed.symm.trans hb)
    rw [if_neg hc, ← h.next]
    exact .inr ⟨_, _, _, rfl, rfl, hb.symm.trans h.closed, rfl, h.directory⟩

theorem register (h : b.Agrees c) (n : Name) (description : String) :
    (∃ e, b.register n description = .error e ∧ c.register n description = .error e) ∨
      ∃ b' c', b.register n description = .ok b' ∧ c.register n description = .ok c' ∧ b'.Agrees c' := by
  unfold Bus.register
  cases hb : b.closed with
  | true => exact .inl ⟨.closed, rfl, if_pos (h.closed.symm.trans hb)⟩
  | false =>
    have hc : ¬ c.closed = true := Bool.eq_false_iff.mp (h.closed.symm.trans hb)
    rw [if_neg hc]
    have hdirectory := congrArg (·.set n.text description) h.directory
    exact .inr ⟨_, _, rfl, rfl, hb.symm.trans h.closed, h.next, hdirectory⟩

theorem unregister (h : b.Agrees c) (n : Name) : (b.unregister n).Agrees (c.unregister n) :=
  ⟨h.closed, h.next, congrArg (·.erase n.text) h.directory⟩

theorem drop (h : b.Agrees c) (subscription : Nat) : (b.drop subscription).Agrees (c.drop subscription) :=
  ⟨h.closed, h.next, h.directory⟩

/-- What others do to both buses. -/
theorem keep (h : b.Agrees c) (e : DirectoryEvent) : (b.keep e).Agrees (c.keep e) := by
  cases e with
  | register n description =>
    rcases h.register n description with ⟨e, hb, hc⟩ | ⟨b', c', hb, hc, hagree⟩
    · rwa [Bus.keep, Bus.keep, hb, hc]
    · rwa [Bus.keep, Bus.keep, hb, hc]
  | unregister n => exact h.unregister n
  | traffic e =>
    constructor
    · rw [Bus.keep, Bus.keep, step_closed, step_closed, h.closed]
    · rw [Bus.keep, Bus.keep, step_next, step_next, h.closed, h.next]
    · rw [Bus.keep, Bus.keep, step_directory, step_directory, h.directory]

end Agrees

end Bus

/-! ## Surroundings -/

namespace Exchange

/-- Alike in all that a DPE sees. -/
structure Agrees (x y : Exchange) : Prop where
  bus : x.bus.Agrees y.bus
  memory : x.memory = y.memory

namespace Agrees

variable {x y : Exchange}

theorem refl (x : Exchange) : x.Agrees x := ⟨⟨rfl, rfl, rfl⟩, rfl⟩

/-- Messages in one of them make no difference. -/
theorem acceptAll (h : x.Agrees y) (ms : List Message) (logs : List LogEvent) :
    Agrees { x with bus := ms.foldl Bus.accept x.bus, logs := logs } y :=
  ⟨h.bus.acceptAll ms, h.memory⟩

theorem keep (h : x.Agrees y) (e : DirectoryEvent) :
    Agrees { x with bus := x.bus.keep e } { y with bus := y.bus.keep e } :=
  ⟨h.bus.keep e, h.memory⟩

end Agrees

end Exchange

/-- Two steps come to the same, in surroundings that are alike afterwards. -/
structure Matches {α β : Type} (p q : α × Exchange × β) : Prop where
  fst : p.1 = q.1
  exchange : p.2.1.Agrees q.2.1
  result : p.2.2 = q.2.2

variable {E : Type} {x y : Exchange}

theorem Exchange.publish_agrees (h : x.Agrees y) (m : Message) :
    (x.publish m).1.Agrees (y.publish m).1 ∧ (x.publish m).2 = (y.publish m).2 := by
  unfold Exchange.publish
  rcases h.bus.publish m with ⟨e, hx, hy⟩ | ⟨hx, hy, hagree⟩
  · rw [hx, hy]
    exact ⟨h, rfl⟩
  · rw [hx, hy]
    exact ⟨⟨hagree, h.memory⟩, rfl⟩

/-! ## Containers -/

namespace Container

theorem start_agrees (h : x.Agrees y) (n : Name) (description : String) :
    (Container.start (E := E) x n description).1.Agrees (Container.start (E := E) y n description).1 ∧
      (Container.start (E := E) x n description).2 = (Container.start (E := E) y n description).2 := by
  unfold Container.start
  split
  · exact ⟨h, rfl⟩
  · rcases h.bus.register n description with ⟨e, hx, hy⟩ | ⟨b, c, hx, hy, hagree⟩
    · rw [hx, hy]
      exact ⟨h, rfl⟩
    · rw [hx, hy]
      exact ⟨⟨hagree, h.memory⟩, rfl⟩

theorem openStation_agrees (h : x.Agrees y) (setup : Setup E) (s : Service E) :
    (openStation id setup x s).1.Agrees (openStation id setup y s).1 ∧
      (openStation id setup x s).2 = (openStation id setup y s).2 := by
  unfold openStation
  rcases h.bus.subscribe (.ofName s.name) with ⟨e, hx, hy⟩ | ⟨b, c, n, hx, hy, hagree⟩
  · rw [hx, hy]
    exact ⟨h, rfl⟩
  · rw [hx, hy]
    simp only [id_eq]
    rcases hagree.register s.name s.spec.description with ⟨e, hb, hc⟩ | ⟨b', c', hb, hc, hagree'⟩
    · rw [hb, hc]
      exact ⟨⟨hagree.drop n, h.memory⟩, rfl⟩
    · rw [hb, hc]
      exact ⟨⟨hagree', congrArg (·.openReceiver s.name) h.memory⟩, rfl⟩

theorem deploy_matches [EngineModel E] (h : x.Agrees y) (setup : Setup E) (c : Container E)
    (spec : ServiceSpec) : Matches (c.deploy setup x spec) (c.deploy setup y spec) := by
  unfold deploy deployAmid
  split
  · exact ⟨rfl, h, rfl⟩
  · split
    · exact ⟨rfl, h, rfl⟩
    · split
      · exact ⟨rfl, h, rfl⟩
      · next engines _ =>
        obtain ⟨hagree, hresult⟩ :=
          openStation_agrees h setup (.new spec engines setup.settings.barrierTtl)
        generalize openStation id setup x (.new spec engines setup.settings.barrierTtl) = p at *
        generalize openStation id setup y (.new spec engines setup.settings.barrierTtl) = q at *
        obtain ⟨x', r⟩ := p
        obtain ⟨y', r'⟩ := q
        obtain rfl : r = r' := hresult
        cases r with
        | error e => exact ⟨rfl, hagree, rfl⟩
        | ok station => exact ⟨rfl, hagree, rfl⟩

theorem closeStation_agrees (h : x.Agrees y) (s : Station E) :
    (closeStation x s).Agrees (closeStation y s) :=
  ⟨(h.bus.drop s.subscription).unregister s.service.name,
    congrArg (·.closeReceiver s.service.name) h.memory⟩

theorem undeploy_matches (h : x.Agrees y) (c : Container E) (n : Name) :
    Matches (c.undeploy x n) (c.undeploy y n) := by
  unfold undeploy
  split
  · exact ⟨rfl, h, rfl⟩
  · split
    · exact ⟨rfl, h, rfl⟩
    · exact ⟨rfl, closeStation_agrees h _, rfl⟩

theorem stop_agrees (h : x.Agrees y) (c : Container E) : (c.stop x).2.1.Agrees (c.stop y).2.1 := by
  have hall : ∀ (ss : List (Station E)) {x y : Exchange}, x.Agrees y →
      (ss.foldl closeStation x).Agrees (ss.foldl closeStation y) := by
    intro ss
    induction ss with
    | nil => exact fun h => h
    | cons s ss ih => exact fun h => ih (closeStation_agrees h s)
  have hstations := hall c.stations.values h
  exact ⟨hstations.bus.unregister c.name, hstations.memory⟩

end Container

/-! ## Requests -/

namespace Dpe

variable {d : Dpe E}

theorem acknowledge_matches {α : Type} {p q : Dpe E × Exchange × Except DeployError α}
    (h : Matches p q) : Matches (acknowledge p) (acknowledge q) := by
  obtain ⟨d, x, r⟩ := p
  obtain ⟨d', y, r'⟩ := q
  obtain ⟨rfl, hagree, rfl⟩ := h
  cases r with
  | error e => exact ⟨rfl, hagree, rfl⟩
  | ok a => exact ⟨rfl, hagree, rfl⟩

theorem deploy_matches (h : x.Agrees y) (d : Dpe E) (n : Name) (description : String) :
    Matches (d.deploy x n description) (d.deploy y n description) := by
  unfold deploy
  split
  · exact ⟨rfl, h, rfl⟩
  · split
    · exact ⟨rfl, h, rfl⟩
    · obtain ⟨hagree, hresult⟩ := Container.start_agrees (E := E) h n description
      generalize Container.start (E := E) x n description = p at *
      generalize Container.start (E := E) y n description = q at *
      obtain ⟨x', r⟩ := p
      obtain ⟨y', r'⟩ := q
      obtain rfl : r = r' := hresult
      cases r with
      | error e => exact ⟨rfl, hagree, rfl⟩
      | ok c => exact ⟨rfl, hagree, rfl⟩

theorem undeploy_matches (h : x.Agrees y) (d : Dpe E) (n : Name) :
    Matches (d.undeploy x n) (d.undeploy y n) := by
  unfold undeploy
  split
  · exact ⟨rfl, h, rfl⟩
  · split
    · exact ⟨rfl, h, rfl⟩
    · exact ⟨rfl, Container.stop_agrees h _, rfl⟩

theorem deployService_matches [EngineModel E] (h : x.Agrees y) (d : Dpe E) (spec : ServiceSpec) :
    Matches (d.deployService x spec) (d.deployService y spec) := by
  unfold deployService deployServiceAmid
  split
  · exact ⟨rfl, h, rfl⟩
  · next c _ =>
    obtain ⟨hc, hagree, hresult⟩ := Container.deploy_matches h d.setup c spec
    exact ⟨congrArg (fun c : Container E => { d with containers := d.containers.set c.name c }) hc, hagree,
      hresult⟩

theorem removeService_matches (h : x.Agrees y) (d : Dpe E) (n : Name) :
    Matches (d.removeService x n) (d.removeService y n) := by
  unfold removeService
  split
  · exact ⟨rfl, h, rfl⟩
  · split
    · exact ⟨rfl, h, rfl⟩
    · next c _ =>
      obtain ⟨hc, hagree, hresult⟩ := Container.undeploy_matches h c n
      exact ⟨congrArg (fun c : Container E => { d with containers := d.containers.set c.name c }) hc,
        hagree, hresult⟩

theorem applyPolicy_matches (h : x.Agrees y) (d : Dpe E) (n : Name) (f : ReportPolicy → ReportPolicy) :
    Matches (d.applyPolicy x n f) (d.applyPolicy y n f) := by
  unfold applyPolicy
  split <;> exact ⟨rfl, h, rfl⟩

/-- What is answered according to whether a message could be published. -/
theorem published_matches (h : x.Agrees y) (d : Dpe E) (m : Message) (a : EngineData) :
    Matches
      (match x.publish m with
        | (x, .ok ()) => (d, x, (.ok a : Except ControlError EngineData))
        | (x, .error e) => (d, x, .error (.bus e)))
      (match y.publish m with
        | (y, .ok ()) => (d, y, .ok a)
        | (y, .error e) => (d, y, .error (.bus e))) := by
  obtain ⟨hagree, hresult⟩ := Exchange.publish_agrees h m
  generalize x.publish m = p at *
  generalize y.publish m = q at *
  obtain ⟨x', r⟩ := p
  obtain ⟨y', r'⟩ := q
  obtain rfl : r = r' := hresult
  cases r with
  | error e => exact ⟨rfl, hagree, rfl⟩
  | ok _ => exact ⟨rfl, hagree, rfl⟩

theorem applyFrontEnd_matches (h : x.Agrees y) (d : Dpe E) (f : Name) :
    Matches (d.applyFrontEnd x f) (d.applyFrontEnd y f) := by
  unfold applyFrontEnd announce
  by_cases hf : f = d.name
  · simp only [if_pos hf]
    exact ⟨rfl, h, rfl⟩
  · simp only [if_neg hf]
    exact published_matches h _ _ _

theorem applyPing_matches (h : x.Agrees y) (d : Dpe E) :
    Matches (d.applyPing x) (d.applyPing y) := by
  unfold applyPing
  rw [h.memory]
  exact published_matches h _ _ _

/-- **A request comes to the same** in surroundings that are alike. -/
theorem apply_matches [EngineModel E] (h : x.Agrees y) (d : Dpe E) (r : ControlRequest) :
    Matches (d.apply x r) (d.apply y r) := by
  cases r with
  | startContainer n description => exact acknowledge_matches (d.deploy_matches h n description)
  | stopContainer n => exact acknowledge_matches (d.undeploy_matches h n)
  | deployService n engineType poolSize description =>
    exact acknowledge_matches (d.deployService_matches h _)
  | removeService n => exact acknowledge_matches (d.removeService_matches h n)
  | reportDone n every => exact d.applyPolicy_matches h n _
  | reportData n every => exact d.applyPolicy_matches h n _
  | setFrontEnd f => exact d.applyFrontEnd_matches h f
  | startDpe n =>
    rw [Dpe.apply, Dpe.apply, applyStart, applyStart]
    split
    · exact ⟨rfl, h, rfl⟩
    · exact ⟨rfl, ⟨h.bus, h.memory⟩, rfl⟩
  | stopDpe n =>
    rw [Dpe.apply, Dpe.apply, applyStop, applyStop]
    split <;> exact ⟨rfl, h, rfl⟩
  | pingDpe => exact d.applyPing_matches h

end Dpe

end ServiceFlow
