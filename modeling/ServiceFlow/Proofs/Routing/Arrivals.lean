import Mathlib.Data.List.Induction
import Mathlib.Data.List.Nodup
import ServiceFlow.Name.Set
import ServiceFlow.Routing.States

/-!
# Messages from different senders

The messages of one request come in some order, at most one from each sender. What a group that
waits for some of the senders holds depends on the messages so far and not on their order.

* `Covered`: every input is among the senders.
* `gathered`: what a group holds after these messages.
* `Closes`: a message is the last of the inputs.
* `exists_closes`, `Closes.le`: there is one such message once all inputs are there, and only one.
-/

namespace ServiceFlow.Router

variable {P : Type}

/-- A message as it comes to the router: its sender and payload, and the states and the time that
the router has then. -/
structure Arriving (P : Type) where
  sender : Name
  payload : P
  states : StateTable
  now : Nat

/-- All inputs are among the senders. -/
def Covered (inputs : NameSet) (ms : List (Arriving P)) : Prop :=
  ∀ n ∈ inputs.toList, n ∈ ms.map (·.sender)

instance (inputs : NameSet) (ms : List (Arriving P)) : Decidable (Covered inputs ms) :=
  inferInstanceAs (Decidable (∀ n ∈ inputs.toList, n ∈ ms.map (·.sender)))

/-- The payload of a sender. -/
def payloadOf (ms : List (Arriving P)) (n : Name) : Option P :=
  (ms.find? (·.sender = n)).map (·.payload)

/-- What the group of a waiting statement holds after the messages: what its inputs have delivered,
unless all of them have. -/
def gathered (inputs : NameSet) (ms : List (Arriving P)) (n : Name) : Option P :=
  if Covered inputs ms then none else if n ∈ inputs then payloadOf ms n else none

section Messages

variable {inputs : NameSet} {ms : List (Arriving P)} {m : Arriving P} {n : Name} {p : P}

theorem mem_senders_append :
    n ∈ (ms ++ [m]).map (·.sender) ↔ n ∈ ms.map (·.sender) ∨ m.sender = n := by
  rw [List.map_append, List.mem_append, List.map_cons, List.map_nil, List.mem_singleton,
    eq_comm (a := n)]

theorem payloadOf_append {ms' : List (Arriving P)} :
    payloadOf (ms ++ ms') n = (payloadOf ms n).or (payloadOf ms' n) := by
  unfold payloadOf
  rw [List.find?_append, Option.map_or]

theorem payloadOf_singleton :
    payloadOf [m] n = if m.sender = n then some m.payload else none := by
  unfold payloadOf
  by_cases h : m.sender = n <;> simp [h]

theorem payloadOf_eq_none (h : n ∉ ms.map (·.sender)) : payloadOf ms n = none := by
  unfold payloadOf
  rw [Option.map_eq_none_iff, List.find?_eq_none]
  intro m hm he
  rw [decide_eq_true_iff] at he
  exact h (he ▸ List.mem_map_of_mem hm)

theorem exists_payloadOf (h : n ∈ ms.map (·.sender)) : ∃ p, payloadOf ms n = some p := by
  obtain ⟨m, hm, he⟩ := List.mem_map.mp h
  cases hf : ms.find? (·.sender = n) with
  | none =>
    rw [List.find?_eq_none] at hf
    exact absurd (decide_eq_true he) (hf m hm)
  | some m' => exact ⟨m'.payload, by rw [payloadOf, hf]; rfl⟩

/-- Each of the senders delivers one payload. -/
theorem payloadOf_eq_some (hn : (ms.map (·.sender)).Nodup) :
    payloadOf ms n = some p ↔ ∃ m ∈ ms, m.sender = n ∧ m.payload = p := by
  unfold payloadOf
  rw [Option.map_eq_some_iff]
  constructor
  · rintro ⟨m, hf, hp⟩
    have he := List.find?_some hf
    rw [decide_eq_true_iff] at he
    exact ⟨m, List.mem_of_find?_eq_some hf, he, hp⟩
  · rintro ⟨m, hm, he, hp⟩
    obtain ⟨p', hp'⟩ := exists_payloadOf (List.mem_map.mpr ⟨m, hm, he⟩)
    obtain ⟨m', hf, -⟩ := Option.map_eq_some_iff.mp hp'
    have he' := List.find?_some hf
    rw [decide_eq_true_iff] at he'
    obtain rfl : m' = m :=
      List.inj_on_of_nodup_map hn (List.mem_of_find?_eq_some hf) hm (he'.trans he.symm)
    exact ⟨m', hf, hp⟩

theorem not_covered (hi : n ∈ inputs) (hm : n ∉ ms.map (·.sender)) : ¬ Covered inputs ms :=
  fun h => hm (h n hi)

theorem covered_append_of_not_mem (h : m.sender ∉ inputs) :
    Covered inputs (ms ++ [m]) ↔ Covered inputs ms := by
  unfold Covered
  refine forall₂_congr fun n hn => ?_
  rw [mem_senders_append]
  exact or_iff_left fun he => h (he ▸ hn)

theorem gathered_append_of_not_mem (h : m.sender ∉ inputs) :
    gathered inputs (ms ++ [m]) n = gathered inputs ms n := by
  unfold gathered
  simp only [covered_append_of_not_mem h, payloadOf_append, payloadOf_singleton]
  by_cases hn : n ∈ inputs
  · have hne : m.sender ≠ n := fun he => h (he ▸ hn)
    rw [if_neg hne, Option.or_none]
  · rw [if_neg hn, if_neg hn]

/-- The message is from an input, and after it all inputs are there. -/
def Closes (inputs : NameSet) (ms : List (Arriving P)) (m : Arriving P) : Prop :=
  m.sender ∈ inputs ∧ Covered inputs (ms ++ [m])

theorem take_append {i : Nat} (h : ms[i]? = some m) : ms.take i ++ [m] = ms.take (i + 1) := by
  rw [List.take_add_one, h]
  rfl

theorem Covered.mono {ms' : List (Arriving P)} (h : Covered inputs ms) (hs : ms ⊆ ms') :
    Covered inputs ms' :=
  fun n hn => List.map_subset _ hs (h n hn)

theorem Closes.covered {i : Nat} (hm : ms[i]? = some m) (h : Closes inputs (ms.take i) m) :
    Covered inputs ms := by
  have hall := h.2
  rw [take_append hm] at hall
  exact hall.mono (List.take_subset _ _)

/-- What a sender among the first messages delivers is known from then on. -/
theorem payloadOf_take {i : Nat} (h : n ∈ (ms.take i).map (·.sender)) :
    payloadOf (ms.take i) n = payloadOf ms n := by
  obtain ⟨p, hp⟩ := exists_payloadOf h
  have hall : payloadOf (ms.take i ++ ms.drop i) n =
      (payloadOf (ms.take i) n).or (payloadOf (ms.drop i) n) := payloadOf_append
  rw [List.take_append_drop, hp, Option.some_or] at hall
  exact hp.trans hall.symm

theorem not_mem_senders_take (hn : (ms.map (·.sender)).Nodup) {i : Nat} (hm : ms[i]? = some m) :
    m.sender ∉ (ms.take i).map (·.sender) := by
  have hsub : (ms.take i ++ [m]).Sublist ms := take_append hm ▸ List.take_sublist _ _
  have hd := (hsub.map (·.sender)).nodup hn
  rw [List.map_append, List.nodup_append] at hd
  exact fun h => hd.2.2 _ h _ (List.mem_map_of_mem List.mem_cons_self) rfl

/-- Once all inputs are there, one of the messages was the last of them. -/
theorem exists_closes (hsome : ∃ n, n ∈ inputs) (h : Covered inputs ms) :
    ∃ i m, ms[i]? = some m ∧ Closes inputs (ms.take i) m := by
  induction ms using List.reverseRecOn with
  | nil =>
    obtain ⟨n, hn⟩ := hsome
    exact absurd (h n hn) List.not_mem_nil
  | append_singleton ms m ih =>
    by_cases hin : m.sender ∈ inputs
    · refine ⟨ms.length, m, List.getElem?_concat_length, hin, ?_⟩
      rwa [List.take_left]
    · obtain ⟨i, m', hm', hc⟩ := ih ((covered_append_of_not_mem hin).mp h)
      have hi : i < ms.length := (List.getElem?_eq_some_iff.mp hm').1
      refine ⟨i, m', ?_, ?_⟩
      · rw [List.getElem?_append_left hi, hm']
      · rwa [List.take_append_of_le_length (Nat.le_of_lt hi)]

/-- No message after the last of the inputs is from an input. -/
theorem Closes.le (hn : (ms.map (·.sender)).Nodup) {i j : Nat} {m' : Arriving P}
    (hm : ms[i]? = some m) (h : Closes inputs (ms.take i) m) (hm' : ms[j]? = some m')
    (hin : m'.sender ∈ inputs) : j ≤ i := by
  by_contra hlt
  have hall := h.2
  rw [take_append hm] at hall
  have hsub : ms.take (i + 1) ⊆ ms.take j := List.take_subset_take_left ms (by omega)
  exact not_mem_senders_take hn hm' (hall.mono hsub m'.sender hin)

end Messages

end ServiceFlow.Router
