import ServiceFlow.Proofs.Name.RoundTrip

/-!
# One text for each name

Names are built from their parts or read from a text, and both ways refuse the same: the names that can
be come by are the well-formed ones. The text of such a name stands for it alone, so texts can be used as
keys for names. What is read from any spelling is written as that one text, and the names of the DPE and
of the container are the texts of the first part and of the first two.

* `Name.Obtainable`: the names that can be come by; `Name.obtainable_iff` says which.
* `Name.text_inj`: two of them with one text are one name.
* `Name.canonical_of_obtainable`: what the text of a name is good for, in one place.
-/

namespace ServiceFlow.Name

open Text

/-! ## Names that can be come by -/

/-- Names that are built from their parts or read from a text. -/
inductive Obtainable : Name → Prop
  | dpe {host : String} {port : Option UInt16} {lang : Lang} {n : Name}
      (h : makeDpe host port lang = .ok n) : Obtainable n
  | container {base : Name} {container : String} {n : Name} (hbase : Obtainable base)
      (h : makeContainer base container = .ok n) : Obtainable n
  | service {base : Name} {engine : String} {n : Name} (hbase : Obtainable base)
      (h : makeService base engine = .ok n) : Obtainable n
  | read {s : String} {n : Name} (h : parse s = .ok n) : Obtainable n

variable {n m : Name}

theorem makeDpe_eq_ok {host : String} {port : Option UInt16} {lang : Lang} :
    makeDpe host port lang = .ok n ↔
      validPart .host host = true ∧ port.getD lang.defaultPort ≠ 0 ∧
        n = ⟨host, port.getD lang.defaultPort, lang, .dpe⟩ := by
  constructor
  · intro h
    obtain ⟨_, hhost, h⟩ := bind_eq_ok.mp h
    split at h
    · cases h
    · rename_i hport
      exact ⟨checkPart_eq_ok.mp hhost, hport, (Except.ok.inj h).symm⟩
  · rintro ⟨hhost, hport, rfl⟩
    exact bind_eq_ok.mpr ⟨(), checkPart_of_valid hhost _, if_neg hport⟩

theorem makeContainer_eq_ok {base : Name} {container : String} :
    makeContainer base container = .ok n ↔
      validPart .container container = true ∧ n = { base with place := .container container } := by
  constructor
  · intro h
    obtain ⟨_, hpart, h⟩ := bind_eq_ok.mp h
    exact ⟨checkPart_eq_ok.mp hpart, (Except.ok.inj h).symm⟩
  · rintro ⟨hpart, rfl⟩
    exact bind_eq_ok.mpr ⟨(), checkPart_of_valid hpart _, rfl⟩

theorem makeService_eq_ok {base : Name} {engine : String} :
    makeService base engine = .ok n ↔
      validPart .engine engine = true ∧
        ∃ c, base.place = .container c ∧ n = { base with place := .service c engine } := by
  unfold makeService
  constructor
  · intro h
    split at h
    · rename_i c hplace
      obtain ⟨_, hpart, h⟩ := bind_eq_ok.mp h
      exact ⟨checkPart_eq_ok.mp hpart, c, hplace, (Except.ok.inj h).symm⟩
    · cases h
  · rintro ⟨hpart, c, hplace, rfl⟩
    rw [hplace]
    exact bind_eq_ok.mpr ⟨(), checkPart_of_valid hpart _, rfl⟩

/-- **The builders and the reader agree**: the names that can be come by are the well-formed ones. -/
theorem obtainable_iff : Obtainable n ↔ n.Valid := by
  constructor
  · intro h
    induction h with
    | dpe h =>
      obtain ⟨hhost, hport, rfl⟩ := makeDpe_eq_ok.mp h
      exact ⟨hhost, hport, nofun, nofun⟩
    | container _ h ih =>
      obtain ⟨hpart, rfl⟩ := makeContainer_eq_ok.mp h
      refine ⟨ih.1, ih.2.1, ?_, nofun⟩
      rintro c ⟨⟩
      exact hpart
    | service _ h ih =>
      obtain ⟨hpart, c, hplace, rfl⟩ := makeService_eq_ok.mp h
      refine ⟨ih.1, ih.2.1, ?_, ?_⟩
      · rintro c' ⟨⟩
        exact ih.2.2.1 c (by rw [containerPart?, hplace])
      · rintro e' ⟨⟩
        exact hpart
    | read h => exact (parse_eq_ok.mp h).1
  · intro h
    exact .read (parse_text h)

/-! ## Texts as keys -/

/-- **Well-formed names with one text are one name.** -/
theorem text_inj (hn : n.Valid) (hm : m.Valid) : n.text = m.text ↔ n = m := by
  constructor
  · intro h
    have hread := parse_text hn
    rw [h, parse_text hm] at hread
    exact (Except.ok.inj hread).symm
  · rintro rfl
    rfl

/-! ## The names of the enclosing DPE and container -/

theorem Valid.dpe (h : n.Valid) : n.dpe.Valid := ⟨h.1, h.2.1, nofun, nofun⟩

theorem container?_eq_some {c : Name} :
    n.container? = some c ↔
      ∃ part, n.containerPart? = some part ∧ c = { n with place := .container part } := by
  simp [container?, eq_comm]

theorem Valid.container {c : Name} (h : n.Valid) (hc : n.container? = some c) : c.Valid := by
  obtain ⟨part, hpart, rfl⟩ := container?_eq_some.mp hc
  refine ⟨h.1, h.2.1, ?_, nofun⟩
  rintro p ⟨⟩
  exact h.2.2.1 part hpart

/-- The text as far as the given number of parts between colons. -/
def upTo (parts : Nat) (s : String) : String :=
  String.ofList (joinWith ':' ((splitAll ':' s.toList).take parts))

theorem toList_dpe_text (n : Name) : n.dpe.text.toList =
    (n.host.toList ++ (portText n.port n.lang).toList) ++ '_' :: n.lang.text.toList := by
  simp [toList_text, withPort, dpe, placeText]

/-- The text of a well-formed name at the colons. -/
theorem splitAll_text (h : n.Valid) :
    splitAll ':' n.text.toList = n.dpe.text.toList :: placeParts n.place := by
  rw [toList_text, splitAll_withPort h (portSpelled_portText n.port n.lang), toList_dpe_text]

/-- The first part is the text of the DPE. -/
theorem upTo_one (h : n.Valid) : upTo 1 n.text = n.dpe.text := by
  rw [upTo, splitAll_text h, List.take_succ_cons, List.take_zero, joinWith, String.ofList_toList]

/-- The first two parts are the text of the container. -/
theorem upTo_two {c : Name} (h : n.Valid) (hc : n.container? = some c) : upTo 2 n.text = c.text := by
  obtain ⟨part, hpart, rfl⟩ := container?_eq_some.mp hc
  have hparts : (placeParts n.place).take 1 = [part.toList] := by
    unfold containerPart? at hpart
    split at hpart
    · cases hpart
    · rename_i hplace
      cases hpart
      rw [hplace]
      rfl
    · rename_i hplace
      cases hpart
      rw [hplace]
      rfl
  rw [upTo, splitAll_text h, List.take_succ_cons, hparts, ← String.toList_inj, String.toList_ofList,
    joinWith_cons _ _ (List.cons_ne_nil _ _), toList_dpe_text, toList_text]
  simp [joinWith, withPort, placeText]

theorem length_splitAll_text (h : n.Valid) :
    2 ≤ (splitAll ':' n.text.toList).length ↔ (n.container?).isSome = true := by
  rw [splitAll_text h]
  cases hplace : n.place <;> simp [placeParts, container?, containerPart?, hplace]

/-! ## What a text is good for -/

/-- What the text of a name is good for. -/
structure Canonical (n : Name) : Prop where
  /-- It is read as the name. -/
  read_back : parse n.text = .ok n
  /-- It is the text of no other name. -/
  text_eq_iff : ∀ m, Obtainable m → (n.text = m.text ↔ n = m)
  /-- The name is read from its spellings: the port left out if it is the default, or written with or
  without a `+` and any number of zeros in front. -/
  read_iff : ∀ s, parse s = .ok n ↔ n.SpelledAs s.toList
  /-- Writing what is read from a spelling, and reading that again, changes nothing. -/
  stable : ∀ s, parse s = .ok n → (do let m ← parse s; parse m.text) = parse s
  /-- The name of the DPE is what the first part of the text is read as. -/
  dpe_read : parse (upTo 1 n.text) = .ok n.dpe
  /-- There is a container if there is a second part, and its name is what the first two are read as. -/
  container_read : n.container? =
    if 2 ≤ (splitAll ':' n.text.toList).length then (parse (upTo 2 n.text)).toOption else none

/-- **The text of a name stands for it**, however the name was come by. -/
theorem canonical_of_obtainable {n : Name} (h : Obtainable n) : Canonical n := by
  have hn := obtainable_iff.mp h
  constructor
  case read_back => exact parse_text hn
  case text_eq_iff => exact fun m hm => text_inj hn (obtainable_iff.mp hm)
  case read_iff =>
    intro s
    rw [parse_eq_ok]
    exact and_iff_right hn
  case stable =>
    intro s hs
    rw [hs]
    exact parse_text hn
  case dpe_read =>
    rw [upTo_one hn]
    exact parse_text hn.dpe
  case container_read =>
    cases hc : n.container? with
    | none =>
      rw [if_neg]
      rw [length_splitAll_text hn, hc]
      exact Bool.false_ne_true
    | some c =>
      rw [if_pos ((length_splitAll_text hn).mpr (by rw [hc]; rfl)), upTo_two hn hc,
        parse_text (hn.container hc)]
      rfl

/-- The service `h%9000_cpp:a_b:C`, with a port that is not the default of its language. -/
def sampleWithPort : Name := ⟨"h", 9000, .cpp, .service "a_b" "C"⟩

theorem sampleWithPort_canonical :
    Obtainable sampleWithPort ∧ Canonical sampleWithPort ∧
      parse "h%+009000_cpp:a_b:C" = .ok sampleWithPort := by
  have hdpe : Obtainable ⟨"h", 9000, .cpp, .dpe⟩ :=
    .dpe (makeDpe_eq_ok.mpr ⟨by decide, by decide, rfl⟩ : makeDpe "h" (some 9000) .cpp = _)
  have hcontainer : Obtainable ⟨"h", 9000, .cpp, .container "a_b"⟩ :=
    .container hdpe (makeContainer_eq_ok.mpr ⟨by decide, rfl⟩)
  have hservice : Obtainable sampleWithPort :=
    .service hcontainer (makeService_eq_ok.mpr ⟨by decide, "a_b", rfl, rfl⟩)
  have hcanonical := canonical_of_obtainable hservice
  refine ⟨hservice, hcanonical, (hcanonical.read_iff _).mpr ?_⟩
  exact ⟨['%', '+', '0', '0', '9', '0', '0', '0'],
    Or.inr ⟨_, ⟨['+'], 2, Or.inr rfl, by decide⟩, rfl⟩, by decide⟩

end ServiceFlow.Name
