import ServiceFlow.Name.Text
import ServiceFlow.Proofs.Results
import ServiceFlow.Text.Blank

/-!
# The characters that names are spelled with

Every text that is read as a name consists of ASCII letters and digits and of `-`, `.`, `_`, `%`,
`:` and `+`. So none of the other marks of a composition can be part of a name, and a list of names
comes apart at any of them.

* `Name.parse_chars`: every character of a text that is read as a name can be part of one.
-/

namespace ServiceFlow

open Text

/-- The character can be part of the spelling of a name. -/
def Name.spellable (c : Char) : Bool :=
  c.isAlphanum || ['-', '.', '_', '%', ':', '+'].contains c

/-- What can be decided of each character of a text holds of all of them. -/
theorem forall_mem_of_all {p : Char → Prop} [DecidablePred p] {cs : List Char}
    (h : (cs.all fun c => decide (p c)) = true) : ∀ c ∈ cs, p c :=
  fun c hc => of_decide_eq_true (List.all_eq_true.mp h c hc)

/-- No mark, letter or digit of ASCII is white. -/
theorem not_white_of_code {c : Char} (hlow : 0x21 ≤ c.toNat) (hhigh : c.toNat ≤ 0x7E) :
    isWhite c = false := by
  simp only [isWhite, Bool.or_eq_false_iff, Bool.and_eq_false_iff, decide_eq_false_iff_not,
    beq_eq_false_iff_ne]
  omega

namespace Name

/-- Names are spelled with characters from `%` to `z`. -/
theorem code_of_spellable {a : Char} (h : spellable a = true) :
    0x25 ≤ a.toNat ∧ a.toNat ≤ 0x7A := by
  rw [spellable, Bool.or_eq_true] at h
  rcases h with h | h
  · have hranges : (decide (65 ≤ a.val ∧ a.val ≤ 90) ||
        decide (97 ≤ a.val) && decide (a.val ≤ 122)) ||
        decide (48 ≤ a.val) && decide (a.val ≤ 57) := h
    simp only [Bool.or_eq_true, Bool.and_eq_true, decide_eq_true_eq,
      UInt32.le_iff_toNat_le] at hranges
    have hcodes : (65 ≤ a.toNat ∧ a.toNat ≤ 90 ∨ 97 ≤ a.toNat ∧ a.toNat ≤ 122) ∨
        48 ≤ a.toNat ∧ a.toNat ≤ 57 := hranges
    omega
  · have hmarks : ∀ c ∈ ['-', '.', '_', '%', ':', '+'], 0x25 ≤ c.toNat ∧ c.toNat ≤ 0x7A :=
      forall_mem_of_all (by decide)
    exact hmarks a (List.contains_iff_mem.mp h)

theorem not_white_of_spellable {c : Char} (h : spellable c = true) : isWhite c = false := by
  have hcode := code_of_spellable h
  exact not_white_of_code (by omega) (by omega)

theorem spellable_of_hostChar {c : Char} (h : hostChar c = true) : spellable c = true := by
  simp only [hostChar, Bool.or_eq_true, beq_iff_eq] at h
  rcases h with (h | rfl) | rfl
  · rw [spellable, h, Bool.true_or]
  · rfl
  · rfl

theorem spellable_of_allows {part : NamePart} {c : Char} (h : part.allows c = true) :
    spellable c = true := by
  have nonHost (h : (hostChar c || c == '_') = true) : spellable c = true := by
    simp only [Bool.or_eq_true, beq_iff_eq] at h
    rcases h with h | rfl
    · exact spellable_of_hostChar h
    · rfl
  cases part with
  | host => exact spellable_of_hostChar h
  | container => exact nonHost h
  | engine => exact nonHost h

theorem spellable_of_isDigit {c : Char} (h : c.isDigit = true) : spellable c = true := by
  rw [spellable, Char.isAlphanum, h, Bool.or_true, Bool.true_or]

theorem spellable_of_digit {c : Char} {d : Nat} (h : digit? c = some d) : spellable c = true := by
  unfold digit? at h
  split at h
  · rename_i hd
    exact spellable_of_isDigit hd
  · cases h

/-! ## The parts of a name -/

theorem checkPart_chars {name value : String} {part : NamePart} {u : Unit}
    (h : checkPart name part value = .ok u) : ∀ c ∈ value.toList, spellable c = true := by
  unfold checkPart at h
  split at h
  · rename_i hv
    simp only [validPart, Bool.and_eq_true, List.all_eq_true] at hv
    exact fun c hc => spellable_of_allows (hv.2 c hc)
  · cases h

theorem readDigits_chars {max value n : Nat} {cs : List Char}
    (h : readDigits max value cs = .ok n) : ∀ c ∈ cs, spellable c = true := by
  induction cs generalizing value with
  | nil => exact fun c hc => absurd hc List.not_mem_nil
  | cons d cs ih =>
    unfold readDigits at h
    split at h
    · cases h
    · rename_i v hv
      split at h
      · cases h
      · intro c hc
        rcases List.mem_cons.mp hc with rfl | hc
        · exact spellable_of_digit hv
        · exact ih h c hc

theorem readNat_chars {max n : Nat} {cs : List Char} (h : readNat max cs = .ok n) :
    ∀ c ∈ cs, spellable c = true := by
  unfold readNat at h
  split at h
  · cases h
  · cases h
  · intro c hc
    rcases List.mem_cons.mp hc with rfl | hc
    · rfl
    · exact readDigits_chars h c hc
  · exact readDigits_chars h

theorem readPort_chars {name : String} {cs : List Char} {port : UInt16}
    (h : readPort name cs = .ok port) : ∀ c ∈ cs, spellable c = true := by
  unfold readPort at h
  split at h
  · cases h
  · rename_i n hn
    exact readNat_chars hn
  · cases h

theorem ofText?_chars {s : String} {l : Lang} (h : Lang.ofText? s = some l) :
    ∀ c ∈ s.toList, spellable c = true := by
  unfold Lang.ofText? at h
  split at h
  · rename_i hs
    subst hs
    exact forall_mem_of_all (by decide)
  split at h
  · rename_i hs
    subst hs
    exact forall_mem_of_all (by decide)
  split at h
  · rename_i hs
    subst hs
    exact forall_mem_of_all (by decide)
  · cases h

/-- The host is checked apart, since it is read before it is checked. -/
theorem readDpe_chars {name host : String} {cs : List Char} {port : UInt16} {lang : Lang}
    (h : readDpe name cs = .ok (host, port, lang)) (hh : ∀ c ∈ host.toList, spellable c = true) :
    ∀ c ∈ cs, spellable c = true := by
  unfold readDpe at h
  split at h
  · cases h
  rename_i hostPort word hu
  split at h
  · cases h
  rename_i l hl
  have hword := ofText?_chars hl
  rw [String.toList_ofList] at hword
  have hhost : ∀ c ∈ hostPort, spellable c = true := by
    split at h
    · simp only [Except.ok.injEq, Prod.mk.injEq] at h
      rw [← h.1, String.toList_ofList] at hh
      exact hh
    · rename_i host' digits hp
      obtain ⟨p, hport, he⟩ := bind_eq_ok.mp h
      cases he
      rw [String.toList_ofList] at hh
      obtain ⟨rfl, -⟩ := splitFirst?_eq_some hp
      intro c hc
      rcases List.mem_append.mp hc with hc | hc
      · exact hh c hc
      rcases List.mem_cons.mp hc with rfl | hc
      · rfl
      · exact readPort_chars hport c hc
  obtain ⟨rfl, -⟩ := splitFirst?_eq_some hu
  intro c hc
  rcases List.mem_append.mp hc with hc | hc
  · exact hhost c hc
  rcases List.mem_cons.mp hc with rfl | hc
  · rfl
  · exact hword c hc

/-- **A name is spelled with letters, digits and its own marks only.** -/
theorem parse_chars {s : String} {n : Name} (h : parse s = .ok n) :
    ∀ c ∈ s.toList, spellable c = true := by
  have hj := joinWith_splitAll ':' s.toList
  have dpe {d : List Char} {host : String} {port : UInt16} {lang : Lang} {u : Unit}
      (hd : readDpe s d = .ok (host, port, lang)) (hh : checkPart s .host host = .ok u) :
      ∀ c ∈ d, spellable c = true :=
    readDpe_chars hd (checkPart_chars hh)
  have part {value : List Char} {k : NamePart} {u : Unit}
      (hv : checkPart s k (String.ofList value) = .ok u) : ∀ c ∈ value, spellable c = true := by
    have := checkPart_chars hv
    rwa [String.toList_ofList] at this
  have joined {p q : List Char} (hp : ∀ c ∈ p, spellable c = true)
      (hq : ∀ c ∈ q, spellable c = true) : ∀ c ∈ p ++ ':' :: q, spellable c = true := by
    intro c hc
    rcases List.mem_append.mp hc with hc | hc
    · exact hp c hc
    rcases List.mem_cons.mp hc with rfl | hc
    · rfl
    · exact hq c hc
  unfold parse at h
  split at h
  · cases h
  split at h
  · rename_i d hs
    rw [hs] at hj
    obtain ⟨⟨host, port, lang⟩, hd, h⟩ := bind_eq_ok.mp h
    obtain ⟨_, hh, -⟩ := bind_eq_ok.mp h
    rw [← hj]
    exact dpe hd hh
  · rename_i d c hs
    rw [hs] at hj
    obtain ⟨⟨host, port, lang⟩, hd, h⟩ := bind_eq_ok.mp h
    obtain ⟨_, hh, h⟩ := bind_eq_ok.mp h
    obtain ⟨_, hc, -⟩ := bind_eq_ok.mp h
    rw [← hj]
    exact joined (dpe hd hh) (part hc)
  · rename_i d c e hs
    rw [hs] at hj
    obtain ⟨⟨host, port, lang⟩, hd, h⟩ := bind_eq_ok.mp h
    obtain ⟨_, hh, h⟩ := bind_eq_ok.mp h
    obtain ⟨_, hc, h⟩ := bind_eq_ok.mp h
    obtain ⟨_, he, -⟩ := bind_eq_ok.mp h
    rw [← hj]
    exact joined (dpe hd hh) (joined (part hc) (part he))
  · cases h

theorem parseService_chars {s : String} {n : Name} (h : parseService s = .ok n) :
    ∀ c ∈ s.toList, spellable c = true := by
  obtain ⟨m, hm, -⟩ := bind_eq_ok.mp h
  exact parse_chars hm

/-- The service `h_java:c:engine`, which stands for any service in examples. -/
def sample (engine : String) : Name := ⟨"h", 7771, .java, .service "c" engine⟩

end Name

end ServiceFlow
