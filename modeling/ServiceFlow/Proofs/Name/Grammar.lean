import ServiceFlow.Proofs.Name.RoundTrip

/-!
# The grammar of names

A name is written `host[%port]_lang[:container[:engine]]`. The host is made of ASCII letters, digits, `-` and
`.`, the container and the engine of these and `_`, and the port of decimal digits after a `+` or none, which
stand for a number from 1 to 65535. The reader cuts a text at its colons, then at the first `_` and the first
`%`, and checks the pieces; the grammar says which texts there are without any cutting.

* `Name.Parts`: the parts of a written name, with the text (`Parts.text`) and the name (`Parts.name`) that they
  make up, and the rules that they keep (`Parts.WellFormed`).
* `Name.parse_eq_ok_iff_parts`: the texts that are read are those that the grammar writes.
* `Name.Parts.text_inj`: no text is written in two ways.
* `Name.parseKind_eq_ok`: the names of one level are those with as many colons.
* `Name.parse_grammar`: all of it in one place.
-/

namespace ServiceFlow

open Text

/-- The colons in the names of a level. -/
def NameKind.colons : NameKind → Nat
  | .dpe => 0
  | .container => 1
  | .service => 2

theorem NameKind.colons_inj {a b : NameKind} (h : a.colons = b.colons) : a = b := by
  cases a <;> cases b <;> simp_all [NameKind.colons]

namespace Name

/-! ## What is written -/

/-- A port as it is written: with a `+` in front or without, and its digits. -/
structure WrittenPort where
  plus : Bool
  digits : List Char
deriving DecidableEq

/-- The parts of a written name. -/
structure Parts where
  host : String
  port : Option WrittenPort
  lang : Lang
  place : Place
deriving DecidableEq

/-- An ASCII letter or digit, `-` or `.`. -/
def HostLetter (c : Char) : Prop :=
  'a' ≤ c ∧ c ≤ 'z' ∨ 'A' ≤ c ∧ c ≤ 'Z' ∨ '0' ≤ c ∧ c ≤ '9' ∨ c = '-' ∨ c = '.'

/-- A letter of hosts, or `_`. -/
def PartLetter (c : Char) : Prop := HostLetter c ∨ c = '_'

/-- The text has letters of one kind, and at least one. -/
def MadeOf (letter : Char → Prop) (s : String) : Prop := s ≠ "" ∧ ∀ c ∈ s.toList, letter c

/-- The sign and the digits. -/
def WrittenPort.text (p : WrittenPort) : List Char := (if p.plus then ['+'] else []) ++ p.digits

/-- There is a digit at least, and the value lies between 1 and 65535. -/
structure WrittenPort.WellFormed (p : WrittenPort) : Prop where
  nonempty : p.digits ≠ []
  digits : ∀ c ∈ p.digits, '0' ≤ c ∧ c ≤ '9'
  pos : 1 ≤ decimal p.digits
  le : decimal p.digits ≤ 65535

/-- The container and the engine, as far as a place has them. -/
def placeTexts : Place → List String
  | .dpe => []
  | .container c => [c]
  | .service c e => [c, e]

namespace Parts

/-- What is written for the port. -/
def portText (p : Parts) : List Char := p.port.elim [] fun port => '%' :: port.text

/-- The text that the parts make up. -/
def text (p : Parts) : List Char :=
  p.host.toList ++ p.portText ++ '_' :: p.lang.text.toList ++
    (placeTexts p.place).flatMap fun part => ':' :: part.toList

/-- The name that the parts make up; a port that is not written is the default of the language. -/
def name (p : Parts) : Name :=
  ⟨p.host, p.port.elim p.lang.defaultPort fun port => UInt16.ofNat (decimal port.digits), p.lang,
    p.place⟩

/-- Each part is of its kind. -/
structure WellFormed (p : Parts) : Prop where
  host : MadeOf HostLetter p.host
  port : ∀ port ∈ p.port, port.WellFormed
  place : ∀ part ∈ placeTexts p.place, MadeOf PartLetter part

end Parts

/-! ## Letters -/

theorem isUpper_iff {c : Char} : c.isUpper = true ↔ 'A' ≤ c ∧ c ≤ 'Z' := decide_eq_true_iff

theorem isLower_iff {c : Char} : c.isLower = true ↔ 'a' ≤ c ∧ c ≤ 'z' :=
  Bool.and_eq_true_iff.trans (and_congr decide_eq_true_iff decide_eq_true_iff)

theorem isDigit_iff {c : Char} : c.isDigit = true ↔ '0' ≤ c ∧ c ≤ '9' :=
  Bool.and_eq_true_iff.trans (and_congr decide_eq_true_iff decide_eq_true_iff)

theorem hostChar_iff {c : Char} : hostChar c = true ↔ HostLetter c := by
  have hletters : hostChar c = (c.isUpper || c.isLower || c.isDigit || c == '-' || c == '.') := rfl
  rw [hletters, HostLetter]
  simp only [Bool.or_eq_true, isUpper_iff, isLower_iff, isDigit_iff, beq_iff_eq]
  tauto

theorem validPart_iff {part : NamePart} {letter : Char → Prop} {value : String}
    (h : ∀ c, part.allows c = true ↔ letter c) :
    validPart part value = true ↔ MadeOf letter value := by
  simp [validPart, MadeOf, h]

theorem validPart_host_iff {value : String} :
    validPart .host value = true ↔ MadeOf HostLetter value := validPart_iff fun _ => hostChar_iff

theorem partChar_iff {c : Char} : (hostChar c || c == '_') = true ↔ PartLetter c := by
  rw [Bool.or_eq_true, hostChar_iff, beq_iff_eq]
  rfl

theorem validPart_container_iff {value : String} :
    validPart .container value = true ↔ MadeOf PartLetter value := validPart_iff fun _ => partChar_iff

theorem validPart_engine_iff {value : String} :
    validPart .engine value = true ↔ MadeOf PartLetter value := validPart_iff fun _ => partChar_iff

/-! ## Ports -/

/-- A port is spelled by the digits that stand for it. -/
theorem numeral_port_iff {port : UInt16} (hne : port ≠ 0) {cs : List Char} :
    Numeral port.toNat cs ↔
      ∃ p : WrittenPort, p.WellFormed ∧ UInt16.ofNat (decimal p.digits) = port ∧ cs = p.text := by
  have hle : port.toNat ≤ 65535 := Nat.le_of_lt_succ port.toNat_lt
  have hpos : port.toNat ≠ 0 := fun e => hne (UInt16.toNat_inj.mp e)
  rw [numeral_iff]
  constructor
  · rintro ⟨sign, digits, hsign, hsome, hdigits, hvalue, rfl⟩
    refine ⟨⟨decide (sign = ['+']), digits⟩, ⟨hsome, fun c hc => isDigit_iff.mp (hdigits c hc), ?_, ?_⟩,
      ?_, ?_⟩
    · exact hvalue ▸ Nat.one_le_iff_ne_zero.mpr hpos
    · exact hvalue ▸ hle
    · rw [hvalue, UInt16.ofNat_toNat]
    · rcases hsign with rfl | rfl <;> rfl
  · rintro ⟨⟨plus, digits⟩, hp, rfl, rfl⟩
    refine ⟨if plus then ['+'] else [], digits, ?_, hp.nonempty,
      fun c hc => isDigit_iff.mpr (hp.digits c hc), ?_, rfl⟩
    · cases plus
      · exact .inl rfl
      · exact .inr rfl
    · rw [UInt16.toNat_ofNat', Nat.mod_eq_of_lt (Nat.lt_succ_of_le hp.le)]

/-! ## Names -/

variable {n : Name} {p q : Parts} {cs : List Char}

theorem mem_placeTexts_iff {part : String} :
    part ∈ placeTexts n.place ↔ n.containerPart? = some part ∨ n.enginePart? = some part := by
  unfold containerPart? enginePart?
  cases n.place <;> simp [placeTexts, eq_comm]

theorem toList_placeText (place : Place) :
    (placeText place).toList = (placeTexts place).flatMap fun part => ':' :: part.toList := by
  cases place <;> simp [placeText, placeTexts]

namespace Parts

theorem text_eq_withPort (p : Parts) : p.text = p.name.withPort p.portText := by
  rw [withPort, toList_placeText]
  rfl

namespace WellFormed

theorem port_ne_zero (h : p.WellFormed) : p.name.port ≠ 0 := by
  unfold name
  cases hport : p.port with
  | none =>
    have hdefault : p.lang.defaultPort ≠ 0 := by cases p.lang <;> decide
    exact hdefault
  | some port =>
    have hp := h.port port hport
    intro hzero
    have hvalue : (UInt16.ofNat (decimal port.digits)).toNat = 0 := congrArg UInt16.toNat hzero
    rw [UInt16.toNat_ofNat', Nat.mod_eq_of_lt (Nat.lt_succ_of_le hp.le)] at hvalue
    exact Nat.ne_of_gt hp.pos hvalue

theorem portSpelled (h : p.WellFormed) : PortSpelled p.name.port p.name.lang p.portText := by
  have hne := h.port_ne_zero
  unfold portText
  cases hport : p.port with
  | none => exact .inl ⟨by rw [name, hport, Option.elim_none], rfl⟩
  | some port =>
    refine .inr ⟨port.text, (numeral_port_iff hne).mpr ⟨port, h.port port hport, ?_, rfl⟩, rfl⟩
    rw [name, hport, Option.elim_some]

theorem valid (h : p.WellFormed) : p.name.Valid := by
  refine ⟨validPart_host_iff.mpr h.host, h.port_ne_zero, fun c hc => ?_, fun e he => ?_⟩
  · exact validPart_container_iff.mpr (h.place c (mem_placeTexts_iff.mpr (.inl hc)))
  · exact validPart_engine_iff.mpr (h.place e (mem_placeTexts_iff.mpr (.inr he)))

theorem spelledAs (h : p.WellFormed) : p.name.SpelledAs p.text :=
  ⟨p.portText, h.portSpelled, p.text_eq_withPort⟩

end WellFormed

/-- The spellings of a well-formed name are written by the grammar. -/
theorem exists_of_spelledAs (hn : n.Valid) (hs : n.SpelledAs cs) :
    ∃ p : Parts, p.WellFormed ∧ p.text = cs ∧ p.name = n := by
  obtain ⟨portText, hport, rfl⟩ := hs
  have hhost : MadeOf HostLetter n.host := validPart_host_iff.mp hn.1
  have hplace : ∀ part ∈ placeTexts n.place, MadeOf PartLetter part := by
    intro part hpart
    rcases mem_placeTexts_iff.mp hpart with hc | he
    · exact validPart_container_iff.mp (hn.2.2.1 part hc)
    · exact validPart_engine_iff.mp (hn.2.2.2 part he)
  rcases hport with ⟨hdefault, rfl⟩ | ⟨digits, hdigits, rfl⟩
  · have hname : name ⟨n.host, none, n.lang, n.place⟩ = n := by
      rw [name, Option.elim_none, ← hdefault]
    exact ⟨⟨n.host, none, n.lang, n.place⟩, ⟨hhost, nofun, hplace⟩,
      by rw [text_eq_withPort, hname]; rfl, hname⟩
  · obtain ⟨port, hp, hvalue, rfl⟩ := (numeral_port_iff hn.2.1).mp hdigits
    have hname : name ⟨n.host, some port, n.lang, n.place⟩ = n := by
      rw [name, Option.elim_some, hvalue]
    refine ⟨⟨n.host, some port, n.lang, n.place⟩, ⟨hhost, ?_, hplace⟩,
      by rw [text_eq_withPort, hname]; rfl, hname⟩
    rintro _ ⟨⟩
    exact hp

end Parts

/-- **The texts that are read** are those that the grammar writes, with the parts written there. -/
theorem parse_eq_ok_iff_parts {s : String} :
    parse s = .ok n ↔ ∃ p : Parts, p.WellFormed ∧ p.text = s.toList ∧ p.name = n := by
  rw [parse_eq_ok]
  constructor
  · rintro ⟨hn, hs⟩
    exact Parts.exists_of_spelledAs hn hs
  · rintro ⟨p, hp, htext, rfl⟩
    exact ⟨hp.valid, htext ▸ hp.spelledAs⟩

/-! ## One way to write a text -/

/-- The sign and the digits are told apart by the text: a digit is no sign. -/
theorem WrittenPort.text_inj {a b : WrittenPort} (ha : a.WellFormed) (hb : b.WellFormed)
    (h : a.text = b.text) : a = b := by
  have hsign {c : WrittenPort} (hc : c.WellFormed) : '+' ∉ c.digits :=
    fun hm => absurd (hc.digits '+' hm) (by decide)
  obtain ⟨plus, digits⟩ := a
  obtain ⟨plus', digits'⟩ := b
  cases plus <;> cases plus'
  case false.false | true.true => simpa [text] using h
  case false.true =>
    have h : digits = '+' :: digits' := h
    exact absurd (h ▸ List.mem_cons_self) (hsign ha)
  case true.false =>
    have h : '+' :: digits = digits' := h
    exact absurd (h ▸ List.mem_cons_self) (hsign hb)

/-- **No text is written in two ways.** The name that is read has all of the parts but for the spelling of the
port, which is what is left of the text. -/
theorem Parts.text_inj (hp : p.WellFormed) (hq : q.WellFormed) (h : p.text = q.text) : p = q := by
  have hread {r : Parts} (hr : r.WellFormed) : parse (String.ofList r.text) = .ok r.name :=
    parse_eq_ok_iff_parts.mpr ⟨r, hr, (String.toList_ofList).symm, rfl⟩
  have hname : p.name = q.name := Except.ok.inj ((hread hp).symm.trans (h ▸ hread hq))
  have hport : p.portText = q.portText := by
    rw [text_eq_withPort, text_eq_withPort, hname] at h
    simpa [withPort] using h
  obtain ⟨host, port, lang, place⟩ := p
  obtain ⟨host', port', lang', place'⟩ := q
  obtain ⟨rfl, -, rfl, rfl⟩ := Name.mk.inj hname
  congr 1
  cases port with
  | none =>
    cases port' with
    | none => rfl
    | some b => cases hport
  | some a =>
    cases port' with
    | none => cases hport
    | some b =>
      have htext : a.text = b.text := (List.cons.inj hport).2
      rw [WrittenPort.text_inj (hp.port a rfl) (hq.port b rfl) htext]

/-! ## Levels -/

theorem count_colon_of_spelledAs (hn : n.Valid) (hs : n.SpelledAs cs) :
    cs.count ':' = n.kind.colons := by
  obtain ⟨port, hport, rfl⟩ := hs
  have hfront : ':' ∉ (n.host.toList ++ port) ++ '_' :: n.lang.text.toList := by
    intro hm
    rcases List.mem_append.mp hm with hm | hm
    · exact not_mem_hostPort hn.1 hport (.inr rfl) hm
    · rcases List.mem_cons.mp hm with hm | hm
      · cases hm
      · cases mem_langText hm
  have hparts := no_colon_of_mem_placeParts hn
  rw [withPort, List.count_append, List.count_eq_zero_of_not_mem hfront, Nat.zero_add]
  unfold kind
  cases hplace : n.place with
  | dpe => rfl
  | container c =>
    have hc : ':' ∉ c.toList := hparts _ (by rw [hplace]; exact List.mem_cons_self)
    simp [placeText, NameKind.colons, List.count_eq_zero_of_not_mem hc]
  | service c e =>
    have hc : ':' ∉ c.toList := hparts _ (by rw [hplace]; exact List.mem_cons_self)
    have he : ':' ∉ e.toList :=
      hparts _ (by rw [hplace]; exact List.mem_cons_of_mem _ List.mem_cons_self)
    simp [placeText, NameKind.colons, List.count_eq_zero_of_not_mem hc,
      List.count_eq_zero_of_not_mem he]

/-- **The names of one level** are the texts that are read and have as many colons. -/
theorem parseKind_eq_ok {kind : NameKind} {s : String} :
    parseKind kind s = .ok n ↔ parse s = .ok n ∧ s.toList.count ':' = kind.colons := by
  have hcolons (h : parse s = .ok n) : n.kind = kind ↔ s.toList.count ':' = kind.colons := by
    obtain ⟨hn, hs⟩ := parse_eq_ok.mp h
    rw [count_colon_of_spelledAs hn hs]
    exact ⟨congrArg NameKind.colons, NameKind.colons_inj⟩
  unfold parseKind
  constructor
  · intro h
    obtain ⟨m, hm, h⟩ := bind_eq_ok.mp h
    split at h
    · rename_i hkind
      cases h
      exact ⟨hm, (hcolons hm).mp hkind⟩
    · cases h
  · rintro ⟨hn, hcount⟩
    exact bind_eq_ok.mpr ⟨n, hn, if_pos ((hcolons hn).mpr hcount)⟩

/-- **The grammar of names.** A text is read as a name exactly if the grammar writes it with parts that make up
the name; it writes it in no other way; and the readers for one level take those of the texts that have the
colons of that level: none, one or two. -/
theorem parse_grammar (s : String) :
    (∀ n, parse s = .ok n ↔ ∃ p : Parts, p.WellFormed ∧ p.text = s.toList ∧ p.name = n) ∧
    (∀ p q : Parts, p.WellFormed → q.WellFormed → p.text = s.toList → q.text = s.toList → p = q) ∧
    ∀ kind n, parseKind kind s = .ok n ↔ parse s = .ok n ∧ s.toList.count ':' = kind.colons :=
  ⟨fun _ => parse_eq_ok_iff_parts,
    fun _ _ hp hq hptext hqtext => Parts.text_inj hp hq (hptext.trans hqtext.symm),
    fun _ _ => parseKind_eq_ok⟩

/-- The parts of `h%+08_cpp:a_b:C`. -/
def signedPort : Parts := ⟨"h", some ⟨true, ['0', '8']⟩, .cpp, .service "a_b" "C"⟩

theorem signedPort_grammar :
    signedPort.WellFormed ∧ signedPort.text = "h%+08_cpp:a_b:C".toList ∧
      parse "h%+08_cpp:a_b:C" = .ok ⟨"h", 8, .cpp, .service "a_b" "C"⟩ ∧
      parseKind .service "h%+08_cpp:a_b:C" = .ok ⟨"h", 8, .cpp, .service "a_b" "C"⟩ ∧
      ∀ q : Parts, q.WellFormed → q.text = "h%+08_cpp:a_b:C".toList → q = signedPort := by
  have hport : WrittenPort.WellFormed ⟨true, ['0', '8']⟩ :=
    ⟨by decide, List.forall_mem_cons.mpr ⟨by decide, List.forall_mem_singleton.mpr (by decide)⟩,
      by decide, by decide⟩
  have hwf : signedPort.WellFormed := by
    refine ⟨validPart_host_iff.mp (by decide), ?_, List.forall_mem_cons.mpr
      ⟨validPart_container_iff.mp (by decide),
        List.forall_mem_singleton.mpr (validPart_engine_iff.mp (by decide))⟩⟩
    rintro _ ⟨⟩
    exact hport
  have htext : signedPort.text = "h%+08_cpp:a_b:C".toList := by decide
  obtain ⟨hread, honce, hkind⟩ := parse_grammar "h%+08_cpp:a_b:C"
  have hparse := (hread _).mpr ⟨signedPort, hwf, htext, rfl⟩
  exact ⟨hwf, htext, hparse, (hkind .service _).mpr ⟨hparse, by decide⟩,
    fun q hq hqtext => honce q signedPort hq hwf hqtext htext⟩

end Name

end ServiceFlow
