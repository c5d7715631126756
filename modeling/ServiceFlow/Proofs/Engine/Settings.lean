import ServiceFlow.Proofs.Engine.Steady
import ServiceFlow.Proofs.Text.Decimal

/-!
# What engines are set to

Two engines of the library have a setting that a payload can replace: a number, spelled with or without white
space around it, and the texts that go around others, in JSON. A payload in which the setting cannot be read
is refused. The other engines have nothing to set and take any payload.

* `Engine.readLimit_eq_ok_iff`: the payloads that spell a number.
* `Engine.SetBy`: what a payload makes of an engine. `Engine.configure_eq_ok_iff` and
  `Engine.configure_accepts_iff`: this is how engines are configured, and nothing else is taken.
* `Engine.HeldAfter`: what an engine holds after payloads that it has taken. `Engine.heldAfter_configuredBy`:
  an engine that only a configuration changes holds it.
-/

namespace ServiceFlow

open EngineModel Text

namespace Engine

variable {e e' : Engine} {d : EngineData} {n : Nat}

/-! ## One payload -/

/-- A limit is read from a text that spells it, and from nothing else. -/
theorem readLimit_eq_ok_iff :
    readLimit d = .ok n ↔ ∃ s, d.text = .ok s ∧ n ≤ maxWord ∧ Numeral n (trim s.toList) := by
  unfold readLimit
  cases d.text with
  | error f => exact ⟨nofun, fun ⟨_, hs, _⟩ => nomatch hs⟩
  | ok s =>
    have hread : (∃ s', Except.ok (ε := EngineFailure) s = .ok s' ∧ n ≤ maxWord ∧
        Numeral n (trim s'.toList)) ↔ readNat maxWord (trim s.toList) = .ok n := by
      rw [readNat_eq_ok]
      exact ⟨fun ⟨_, hs, h⟩ => Except.ok.inj hs ▸ h, fun h => ⟨s, rfl, h⟩⟩
    rw [hread]
    simp only
    cases readNat maxWord (trim s.toList) with
    | ok k => exact ⟨fun h => Except.ok.inj h ▸ rfl, fun h => Except.ok.inj h ▸ rfl⟩
    | error f => exact ⟨nofun, nofun⟩

/-- The engine has nothing to set, and does not count what it is asked for. -/
def Unset : Engine → Prop
  | .changeCase _ | .reverse | .countTokens | .stub _ _ | .failing _ => True
  | .classifyLength _ | .addAffixes _ | .gated _ _ => False

/-- What a payload makes of an engine. -/
inductive SetBy (d : EngineData) : Engine → Engine → Prop
  /-- A number takes the place of the limit. -/
  | limit (before : Nat) {n : Nat} (h : readLimit d = .ok n) :
    SetBy d (.classifyLength before) (.classifyLength n)
  /-- The texts around others are replaced together; what the payload leaves out is gone. -/
  | affixes (before : Affixes) {a : Affixes} (h : Affixes.read? d.payload = some a) :
    SetBy d (.addAffixes before) (.addAffixes a)
  | counted (started configured : Nat) :
    SetBy d (.gated started configured) (.gated started (configured + 1))
  | unset {e : Engine} (h : e.Unset) : SetBy d e e

theorem configure_of_unset (h : e.Unset) (d : EngineData) : e.configure d = (e, .ok ()) := by
  cases e with
  | changeCase | reverse | countTokens | stub | failing => rfl
  | classifyLength | addAffixes | gated => exact h.elim

/-- **An engine is configured by what it can read**, and becomes what the payload makes of it. -/
theorem configure_eq_ok_iff : e.configure d = (e', .ok ()) ↔ SetBy d e e' := by
  constructor
  · intro h
    cases e with
    | classifyLength before =>
      unfold configure at h
      cases hn : readLimit d with
      | error f =>
        rw [hn] at h
        cases h
      | ok n =>
        rw [hn] at h
        cases h
        exact .limit before hn
    | addAffixes before =>
      unfold configure at h
      cases ha : Affixes.read? d.payload with
      | none =>
        rw [ha] at h
        cases h
      | some a =>
        rw [ha] at h
        cases h
        exact .affixes before ha
    | gated started configured => cases h; exact .counted started configured
    | changeCase | reverse | countTokens | stub | failing => cases h; exact .unset trivial
  · intro h
    cases h with
    | limit before hn =>
      unfold configure
      rw [hn]
    | affixes before ha =>
      unfold configure
      rw [ha]
    | counted started configured => rfl
    | unset hunset => exact configure_of_unset hunset d

/-- It refuses any other payload. -/
theorem configure_accepts_iff : (e.configure d).2 = .ok () ↔ ∃ e', SetBy d e e' := by
  simp only [← configure_eq_ok_iff, Prod.ext_iff, exists_eq_left']

/-! ## Payloads in turn -/

/-- What an engine holds that was `e₀` at first, after payloads that it has taken: what the last of them
gives, or what it came with. -/
def HeldAfter (e₀ : Engine) (ds : List EngineData) (e : Engine) : Prop :=
  match ds.getLast? with
  | none => e = e₀
  | some d => SetBy d e₀ e

/-- An engine holds the setting of the last payload, which has to be one that it takes. -/
theorem heldAfter_configuredBy {e₀ : Engine} {ds : List EngineData}
    (hds : ∀ d ∈ ds, (EngineModel.configure e₀ d).2 = .ok ()) :
    HeldAfter e₀ ds (configuredBy e₀ ds) := by
  unfold HeldAfter configuredBy
  cases hlast : ds.getLast? with
  | none => rfl
  | some d =>
    have htaken := hds d (List.mem_of_getLast? hlast)
    exact configure_eq_ok_iff.mp (Prod.ext rfl htaken)

/-- So does each of many, if there are any. -/
theorem heldAfter_of_mem_replicate {e₀ : Engine} {ds : List EngineData}
    (hds : 0 < n → ∀ d ∈ ds, (EngineModel.configure e₀ d).2 = .ok ())
    (he : e ∈ List.replicate n (configuredBy e₀ ds)) : HeldAfter e₀ ds e := by
  obtain ⟨hn, rfl⟩ := List.mem_replicate.mp he
  exact heldAfter_configuredBy (hds (Nat.pos_of_ne_zero hn))

end Engine

end ServiceFlow
