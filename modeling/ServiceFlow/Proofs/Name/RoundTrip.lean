import ServiceFlow.Proofs.Name.Spelling
import ServiceFlow.Proofs.Text.Decimal
import ServiceFlow.Proofs.Text.Split

/-!
# Names read back

The parts of a well-formed name hold none of the marks that are written between them. So a text comes
apart into the parts that it was put together from, and the reader accepts the spellings of well-formed
names and nothing else. A name has more than one spelling by its port alone: a default port may be left
out or written, and any port may be written with a `+` and with zeros in front.

* `Name.SpelledAs`: the spellings of a name, said without the reader.
* `Name.parse_eq_ok`: a text is read as a name if and only if it spells it and the name is well-formed.
* `Name.parse_text`, `Name.parseKind_text`: the text of a well-formed name is read as that name.
* `Name.text_chars`: so it consists of the characters of names.
-/

namespace ServiceFlow.Name

open Text

variable {n : Name}

/-! ## Spellings -/

/-- What may stand after the host for the port: nothing for the default of the language, or `%` and any
numeral of it. -/
def PortSpelled (port : UInt16) (lang : Lang) (cs : List Char) : Prop :=
  port = lang.defaultPort ∧ cs = [] ∨ ∃ digits, Numeral port.toNat digits ∧ cs = '%' :: digits

/-- The text of a name with its port written as given. -/
def withPort (n : Name) (port : List Char) : List Char :=
  ((n.host.toList ++ port) ++ '_' :: n.lang.text.toList) ++ (placeText n.place).toList

/-- The text is a spelling of the name. -/
def SpelledAs (n : Name) (cs : List Char) : Prop :=
  ∃ port, PortSpelled n.port n.lang port ∧ cs = n.withPort port

theorem portSpelled_portText (port : UInt16) (lang : Lang) :
    PortSpelled port lang (portText port lang).toList := by
  unfold portText
  by_cases h : port = lang.defaultPort
  · rw [if_pos h]
    exact Or.inl ⟨h, String.toList_empty⟩
  · rw [if_neg h, String.toList_append]
    exact Or.inr ⟨_, ⟨[], 0, Or.inl rfl, rfl⟩, rfl⟩

theorem toList_text (n : Name) : n.text.toList = n.withPort (portText n.port n.lang).toList := by
  simp [text, withPort]

theorem spelledAs_text (n : Name) : n.SpelledAs n.text.toList :=
  ⟨_, portSpelled_portText n.port n.lang, n.toList_text⟩

/-! ## What the parts are written with -/

theorem not_mem_part {part : NamePart} {value : String} (h : validPart part value = true) {c : Char}
    (hc : part.allows c = false) : c ∉ value.toList := by
  intro hm
  simp only [validPart, Bool.and_eq_true, List.all_eq_true] at h
  exact absurd (h.2 c hm) (by simp [hc])

theorem mem_numeral {k : Nat} {cs : List Char} (h : Numeral k cs) {c : Char} (hc : c ∈ cs) :
    c = '+' ∨ c.isDigit = true := by
  obtain ⟨sign, zeros, hsign, rfl⟩ := h
  rcases List.mem_append.mp hc with hc | hc
  · rcases hsign with rfl | rfl
    · cases hc
    · exact Or.inl (List.mem_singleton.mp hc)
  rcases List.mem_append.mp hc with hc | hc
  · rw [List.eq_of_mem_replicate hc]
    exact Or.inr rfl
  · exact Or.inr (isDigit_of_mem_toString hc)

theorem mem_portSpelled {port : UInt16} {lang : Lang} {cs : List Char}
    (h : PortSpelled port lang cs) {c : Char} (hc : c ∈ cs) :
    c = '%' ∨ c = '+' ∨ c.isDigit = true := by
  rcases h with ⟨-, rfl⟩ | ⟨digits, hdigits, rfl⟩
  · cases hc
  · rcases List.mem_cons.mp hc with rfl | hc
    · exact Or.inl rfl
    · exact Or.inr (mem_numeral hdigits hc)

theorem mem_langText {lang : Lang} {c : Char} (h : c ∈ lang.text.toList) : c.isLower = true := by
  cases lang with
  | java => exact forall_mem_of_all (p := (·.isLower = true)) (by decide) c h
  | cpp => exact forall_mem_of_all (p := (·.isLower = true)) (by decide) c h
  | python => exact forall_mem_of_all (p := (·.isLower = true)) (by decide) c h

/-- The host and the port hold no mark of the rest of a name. -/
theorem not_mem_hostPort {host : String} (h : validPart .host host = true) {port : UInt16}
    {lang : Lang} {cs : List Char} (hport : PortSpelled port lang cs) {c : Char}
    (hc : c = '_' ∨ c = ':') : c ∉ host.toList ++ cs := by
  intro hm
  rcases List.mem_append.mp hm with hm | hm
  · refine not_mem_part h ?_ hm
    rcases hc with rfl | rfl <;> rfl
  · rcases hc with rfl | rfl
    · rcases mem_portSpelled hport hm with he | he | he <;> cases he
    · rcases mem_portSpelled hport hm with he | he | he <;> cases he

/-! ## The DPE -/

theorem ofText?_eq_some {word : String} {lang : Lang} :
    Lang.ofText? word = some lang ↔ word = lang.text := by
  constructor
  · intro h
    unfold Lang.ofText? at h
    split at h
    · rename_i hw
      cases h
      exact hw
    split at h
    · rename_i hw
      cases h
      exact hw
    split at h
    · rename_i hw
      cases h
      exact hw
    · cases h
  · rintro rfl
    exact lang.ofText?_text

theorem readPort_eq_ok {name : String} {digits : List Char} {port : UInt16} :
    readPort name digits = .ok port ↔ port ≠ 0 ∧ Numeral port.toNat digits := by
  have hle : port.toNat ≤ 65535 := Nat.le_of_lt_succ port.toNat_lt
  unfold readPort
  constructor
  · intro h
    split at h
    · cases h
    · rename_i k hne hk
      cases h
      obtain ⟨hmax, hdigits⟩ := readNat_eq_ok.mp hk
      have hround : (UInt16.ofNat k).toNat = k := by
        rw [UInt16.toNat_ofNat']
        omega
      refine ⟨fun hzero => hne ?_, hround.symm ▸ hdigits⟩
      rw [← hround, hzero]
      rfl
    · cases h
  · rintro ⟨hne, hdigits⟩
    have hpos : port.toNat ≠ 0 := fun e => hne (UInt16.toNat_inj.mp e)
    rw [readNat_eq_ok.mpr ⟨hle, hdigits⟩]
    split
    · rename_i e
      exact absurd (Except.ok.inj e) hpos
    · rename_i k _ e
      rw [← Except.ok.inj e, UInt16.ofNat_toNat]
    · rename_i e
      cases e

/-- **The DPE part** is read as a host, a port and a language if it spells them one after the other. -/
theorem readDpe_eq_ok {name host : String} (hhost : validPart .host host = true)
    {part : List Char} {port : UInt16} {lang : Lang} :
    readDpe name part = .ok (host, port, lang) ↔
      port ≠ 0 ∧ ∃ cs, PortSpelled port lang cs ∧
        part = (host.toList ++ cs) ++ '_' :: lang.text.toList := by
  have hdefault : lang.defaultPort ≠ 0 := by cases lang <;> decide
  have hmark : '%' ∉ host.toList := not_mem_part hhost rfl
  constructor
  · intro h
    unfold readDpe at h
    split at h
    · cases h
    rename_i hostPort word hcut
    obtain ⟨rfl, -⟩ := splitFirst?_eq_some hcut
    split at h
    · cases h
    rename_i l hl
    have hword : word = l.text.toList := by
      rw [← ofText?_eq_some.mp hl, String.toList_ofList]
    subst hword
    split at h
    · rename_i hnone
      simp only [Except.ok.injEq, Prod.mk.injEq] at h
      obtain ⟨rfl, rfl, rfl⟩ := h
      exact ⟨hdefault, [], Or.inl ⟨rfl, rfl⟩, by rw [String.toList_ofList, List.append_nil]⟩
    · rename_i host' digits hport
      obtain ⟨p, hp, he⟩ := bind_eq_ok.mp h
      cases he
      obtain ⟨rfl, -⟩ := splitFirst?_eq_some hport
      obtain ⟨hne, hdigits⟩ := readPort_eq_ok.mp hp
      exact ⟨hne, '%' :: digits, Or.inr ⟨digits, hdigits, rfl⟩, by rw [String.toList_ofList]⟩
  · rintro ⟨hne, cs, hcs, rfl⟩
    unfold readDpe
    rw [splitFirst?_append (not_mem_hostPort hhost hcs (Or.inl rfl))]
    simp only [String.ofList_toList, Lang.ofText?_text]
    rcases hcs with ⟨rfl, rfl⟩ | ⟨digits, hdigits, rfl⟩
    · simp only [List.append_nil, splitFirst?_of_not_mem hmark, String.ofList_toList]
    · simp only [splitFirst?_append hmark, readPort_eq_ok.mpr ⟨hne, hdigits⟩, String.ofList_toList]
      rfl

/-! ## All names -/

theorem checkPart_eq_ok {name value : String} {part : NamePart} :
    checkPart name part value = .ok () ↔ validPart part value = true := by
  unfold checkPart
  by_cases h : validPart part value = true
  · simp [h]
  · simp [h]

theorem checkPart_of_valid {part : NamePart} {value : String} (h : validPart part value = true)
    (name : String) : checkPart name part value = .ok () := checkPart_eq_ok.mpr h

/-- The parts of a name after its DPE. -/
def placeParts : Place → List (List Char)
  | .dpe => []
  | .container c => [c.toList]
  | .service c e => [c.toList, e.toList]

theorem no_colon_of_mem_placeParts (h : n.Valid) : ∀ p ∈ placeParts n.place, ':' ∉ p := by
  intro p hp
  obtain ⟨host, port, lang, place⟩ := n
  cases place with
  | dpe => cases hp
  | container c =>
    rw [List.mem_singleton.mp hp]
    exact not_mem_part (h.2.2.1 c rfl) rfl
  | service c e =>
    rcases List.mem_cons.mp hp with rfl | hp
    · exact not_mem_part (h.2.2.1 c rfl) rfl
    · rw [List.mem_singleton.mp hp]
      exact not_mem_part (h.2.2.2 e rfl) rfl

theorem joinWith_placeParts (d : List Char) (place : Place) :
    joinWith ':' (d :: placeParts place) = d ++ (placeText place).toList := by
  cases place <;> simp [placeParts, placeText, joinWith]

/-- The reader goes by the parts between the colons. -/
theorem parse_eq_ok_of_parts {s : String} :
    parse s = .ok n ↔ validPart .host n.host = true ∧
      (∀ c, n.containerPart? = some c → validPart .container c = true) ∧
      (∀ e, n.enginePart? = some e → validPart .engine e = true) ∧
      ∃ d, splitAll ':' s.toList = d :: placeParts n.place ∧
        readDpe s d = .ok (n.host, n.port, n.lang) := by
  constructor
  · intro h
    unfold parse at h
    split at h
    · cases h
    split at h
    · rename_i d hs
      obtain ⟨⟨host, port, lang⟩, hd, h⟩ := bind_eq_ok.mp h
      obtain ⟨_, hh, h⟩ := bind_eq_ok.mp h
      cases h
      exact ⟨checkPart_eq_ok.mp hh, nofun, nofun, d, hs, hd⟩
    · rename_i d c hs
      obtain ⟨⟨host, port, lang⟩, hd, h⟩ := bind_eq_ok.mp h
      obtain ⟨_, hh, h⟩ := bind_eq_ok.mp h
      obtain ⟨_, hc, h⟩ := bind_eq_ok.mp h
      cases h
      refine ⟨checkPart_eq_ok.mp hh, ?_, nofun, d, ?_, hd⟩
      · rintro c' ⟨⟩
        exact checkPart_eq_ok.mp hc
      · rw [hs, placeParts, String.toList_ofList]
    · rename_i d c e hs
      obtain ⟨⟨host, port, lang⟩, hd, h⟩ := bind_eq_ok.mp h
      obtain ⟨_, hh, h⟩ := bind_eq_ok.mp h
      obtain ⟨_, hc, h⟩ := bind_eq_ok.mp h
      obtain ⟨_, he, h⟩ := bind_eq_ok.mp h
      cases h
      refine ⟨checkPart_eq_ok.mp hh, ?_, ?_, d, ?_, hd⟩
      · rintro c' ⟨⟩
        exact checkPart_eq_ok.mp hc
      · rintro e' ⟨⟩
        exact checkPart_eq_ok.mp he
      · rw [hs, placeParts, String.toList_ofList, String.toList_ofList]
    · cases h
  · rintro ⟨hhost, hcontainer, hengine, d, hs, hd⟩
    have hsome : s.isEmpty = false := by
      rw [Bool.eq_false_iff, ne_eq, String.isEmpty_iff]
      rintro rfl
      obtain ⟨rfl, -⟩ := List.cons.inj hs
      cases hd
    have hh := checkPart_of_valid hhost s
    unfold parse
    rw [hsome, if_neg Bool.false_ne_true, hs]
    obtain ⟨host, port, lang, place⟩ := n
    cases place with
    | dpe => exact bind_eq_ok.mpr ⟨_, hd, bind_eq_ok.mpr ⟨(), hh, rfl⟩⟩
    | container c =>
      have hc := checkPart_of_valid (hcontainer c rfl)
      refine bind_eq_ok.mpr ⟨_, hd, bind_eq_ok.mpr ⟨(), hh, ?_⟩⟩
      simp only [String.ofList_toList]
      exact bind_eq_ok.mpr ⟨(), hc _, rfl⟩
    | service c e =>
      have hc := checkPart_of_valid (hcontainer c rfl)
      have he := checkPart_of_valid (hengine e rfl)
      refine bind_eq_ok.mpr ⟨_, hd, bind_eq_ok.mpr ⟨(), hh, ?_⟩⟩
      simp only [String.ofList_toList]
      exact bind_eq_ok.mpr ⟨(), hc _, bind_eq_ok.mpr ⟨(), he _, rfl⟩⟩

/-- A spelling of a well-formed name at the colons. -/
theorem splitAll_withPort (h : n.Valid) {port : List Char} (hport : PortSpelled n.port n.lang port) :
    splitAll ':' (n.withPort port) =
      ((n.host.toList ++ port) ++ '_' :: n.lang.text.toList) :: placeParts n.place := by
  rw [withPort, ← joinWith_placeParts]
  refine splitAll_joinWith_of_not_mem (List.cons_ne_nil _ _) fun p hp hm => ?_
  rcases List.mem_cons.mp hp with rfl | hp
  · rcases List.mem_append.mp hm with hm | hm
    · exact not_mem_hostPort h.1 hport (Or.inr rfl) hm
    · rcases List.mem_cons.mp hm with hm | hm
      · cases hm
      · cases mem_langText hm
  · exact no_colon_of_mem_placeParts h p hp hm

/-- **A text is read as a name if and only if it spells it** and the name is well-formed. -/
theorem parse_eq_ok {s : String} : parse s = .ok n ↔ n.Valid ∧ n.SpelledAs s.toList := by
  rw [parse_eq_ok_of_parts]
  constructor
  · rintro ⟨hhost, hcontainer, hengine, d, hs, hd⟩
    obtain ⟨hne, port, hport, rfl⟩ := (readDpe_eq_ok hhost).mp hd
    refine ⟨⟨hhost, hne, hcontainer, hengine⟩, port, hport, ?_⟩
    rw [withPort, ← joinWith_placeParts, ← hs, joinWith_splitAll]
  · rintro ⟨h, port, hport, hs⟩
    refine ⟨h.1, h.2.2.1, h.2.2.2, _, ?_, (readDpe_eq_ok h.1).mpr ⟨h.2.1, port, hport, rfl⟩⟩
    rw [hs, splitAll_withPort h hport]

/-- **A well-formed name is read back.** -/
theorem parse_text (h : n.Valid) : parse n.text = .ok n := parse_eq_ok.mpr ⟨h, n.spelledAs_text⟩

theorem parseKind_text (h : n.Valid) : parseKind n.kind n.text = .ok n := by
  unfold parseKind
  rw [parse_text h]
  exact if_pos rfl

/-- The text of a well-formed name is spelled with the characters of names. -/
theorem text_chars (h : n.Valid) : ∀ c ∈ n.text.toList, spellable c = true :=
  parse_chars (parse_text h)

end ServiceFlow.Name
