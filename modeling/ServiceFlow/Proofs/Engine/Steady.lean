import ServiceFlow.Engine.Registry

/-!
# Engines that only a configuration changes

An engine may change whenever it is used. Those of the library keep nothing of what they execute, and what
configures them takes the place of what did before, or leaves them as they are. So an engine is what the
last configuration has made of it, whatever it has done since.

* `EngineModel.Steady`: the laws of such an engine. `EngineModel.configuredBy` is what it has become.
* `EngineModel.steady_of_setting`: the laws hold for an engine that is made of one setting.
* `Engine.steady`, `EngineRegistry.steady_of_standard`: they hold for the engines of the library, but not
  for one at the gate, which counts.
-/

namespace ServiceFlow

/-! ## The laws -/

namespace EngineModel

variable {E : Type} [EngineModel E]

/-- What an engine has become by configurations that have succeeded: the last of them counts. -/
def configuredBy (e₀ : E) (ds : List EngineData) : E :=
  match ds.getLast? with
  | none => e₀
  | some d => (configure e₀ d).1

/-- An execution leaves the engine as it is and does not wait, and a configuration does what it does to the
engine that was there first, or fails and leaves the engine as it is. -/
structure Steady (e₀ : E) : Prop where
  execute : ∀ ds input, ∃ result,
    EngineModel.execute (configuredBy e₀ ds) input = .finished ⟨configuredBy e₀ ds, result⟩
  executeGroup : ∀ ds inputs, ∃ result,
    EngineModel.executeGroup (configuredBy e₀ ds) inputs = .finished ⟨configuredBy e₀ ds, result⟩
  accepted : ∀ ds d, (configure e₀ d).2 = .ok () → configure (configuredBy e₀ ds) d = configure e₀ d
  refused : ∀ ds d f, (configure e₀ d).2 = .error f →
    configure (configuredBy e₀ ds) d = (configuredBy e₀ ds, .error f)

/-- The last configuration leaves the engine as it finds the one that was there first. -/
theorem configuredBy_concat (e₀ : E) (ds : List EngineData) (d : EngineData) :
    configuredBy e₀ (ds ++ [d]) = (configure e₀ d).1 := by
  unfold configuredBy
  rw [List.getLast?_concat]

/-- An engine that is made of one setting, which a configuration replaces if it can be read. -/
theorem steady_of_setting {α : Type} (make : α → E) (read : EngineData → Except EngineFailure α)
    (hexecute : ∀ a input, ∃ result, EngineModel.execute (make a) input = .finished ⟨make a, result⟩)
    (hgroup : ∀ a inputs, ∃ result,
      EngineModel.executeGroup (make a) inputs = .finished ⟨make a, result⟩)
    (hconfigure : ∀ a d, configure (make a) d =
      match read d with
      | .ok b => (make b, .ok ())
      | .error f => (make a, .error f)) (a : α) :
    Steady (make a) := by
  have hmade (ds : List EngineData) : ∃ b, configuredBy (make a) ds = make b := by
    unfold configuredBy
    cases ds.getLast? with
    | none => exact ⟨a, rfl⟩
    | some d =>
      simp only [hconfigure]
      cases read d with
      | ok b => exact ⟨b, rfl⟩
      | error f => exact ⟨a, rfl⟩
  constructor
  case execute =>
    intro ds input
    obtain ⟨b, hb⟩ := hmade ds
    rw [hb]
    exact hexecute b input
  case executeGroup =>
    intro ds inputs
    obtain ⟨b, hb⟩ := hmade ds
    rw [hb]
    exact hgroup b inputs
  case accepted =>
    intro ds d hok
    obtain ⟨b, hb⟩ := hmade ds
    rw [hconfigure] at hok
    rw [hb, hconfigure, hconfigure]
    cases hread : read d with
    | ok c => rfl
    | error f =>
      rw [hread] at hok
      cases hok
  case refused =>
    intro ds d f hfail
    obtain ⟨b, hb⟩ := hmade ds
    rw [hconfigure] at hfail
    rw [hb, hconfigure]
    cases hread : read d with
    | ok c =>
      rw [hread] at hfail
      cases hfail
    | error g =>
      rw [hread] at hfail
      cases hfail
      rfl

end EngineModel

open EngineModel

/-! ## The engines of the library -/

/-- An engine that takes no configuration accepts any. -/
theorem Engine.steady_of_unset (e : Engine)
    (hexecute : ∀ input, ∃ result, e.execute input = .finished ⟨e, result⟩)
    (hconfigure : ∀ d, e.configure d = (e, .ok ())) : Steady e :=
  steady_of_setting (fun _ : Unit => e) (fun _ => .ok ()) (fun _ => hexecute)
    (fun _ inputs => hexecute (EngineData.joined inputs)) (fun _ => hconfigure) ()

/-- **The engines of the library are steady**, all but the one that counts what it was asked for. -/
theorem Engine.steady {e₀ : Engine} (h : ∀ started configured, e₀ ≠ .gated started configured) :
    Steady e₀ := by
  cases e₀ with
  | changeCase case => exact steady_of_unset _ (fun _ => ⟨_, rfl⟩) fun _ => rfl
  | reverse => exact steady_of_unset _ (fun _ => ⟨_, rfl⟩) fun _ => rfl
  | countTokens => exact steady_of_unset _ (fun _ => ⟨_, rfl⟩) fun _ => rfl
  | stub name state => exact steady_of_unset _ (fun _ => ⟨_, rfl⟩) fun _ => rfl
  | failing severity => exact steady_of_unset _ (fun _ => ⟨_, rfl⟩) fun _ => rfl
  | classifyLength limit =>
    refine steady_of_setting Engine.classifyLength readLimit (fun _ _ => ⟨_, rfl⟩)
      (fun _ _ => ⟨_, rfl⟩) (fun a d => ?_) limit
    change Engine.configure (.classifyLength a) d = _
    unfold Engine.configure
    cases readLimit d <;> rfl
  | addAffixes affixes =>
    refine steady_of_setting Engine.addAffixes
      (fun d => (Affixes.read? d.payload).elim
        (.error (.invalidInput "invalid prefix/suffix config: ")) .ok)
      (fun _ _ => ⟨_, rfl⟩) (fun _ _ => ⟨_, rfl⟩) (fun a d => ?_) affixes
    change Engine.configure (.addAffixes a) d = _
    unfold Engine.configure
    cases Affixes.read? d.payload <;> rfl
  | gated started configured => exact absurd rfl (h started configured)

theorem EngineRegistry.steady_of_standard {engineType : String} {e₀ : Engine}
    (h : EngineRegistry.standard.get? engineType = some e₀) : Steady e₀ := by
  have hmem := Table.mem_of_get?_eq_some h
  simp only [standard, List.mem_cons, Prod.mk.injEq, List.not_mem_nil, or_false] at hmem
  obtain ⟨-, rfl⟩ | ⟨-, rfl⟩ | ⟨-, rfl⟩ | ⟨-, rfl⟩ | ⟨-, rfl⟩ | ⟨-, rfl⟩ | ⟨-, rfl⟩ := hmem <;>
    exact Engine.steady nofun

end ServiceFlow
