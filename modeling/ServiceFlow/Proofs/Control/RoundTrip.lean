import ServiceFlow.Dpe.Control
import ServiceFlow.Orchestrator
import ServiceFlow.Proofs.Name.Canonical
import ServiceFlow.Proofs.Text.Trim
import ServiceFlow.Proofs.Text.Utf8

/-!
# Control requests read back

The line of a request is cut at each `?`, and only a description may hold one: it is put together
again from what stands after the arguments before it. So a line is read as the request that it was
written for, but for one thing: white space around a line does not count, and a description ends the
line. White space at the end of a description is lost.

* `ControlRequest.Fits`: the requests that can be carried out, by their names.
* `ControlRequest.trimmed`: the request that is read, so what a DPE is asked to do.
* `ControlRequest.fits_of_parse`: all requests that are read can be carried out, by their names.
* `ControlRequest.read_trimmed`: reading gives that request, which is the one written if and only if
  its description does not end in white space.
-/

namespace ServiceFlow

open Text

/-! ## Lines -/

namespace ControlVerb

theorem ofText?_text (v : ControlVerb) : ofText? v.text = some v := by
  cases v <;> decide

theorem not_mem_text (v : ControlVerb) : '?' ∉ v.text.toList := by
  cases v <;> decide

theorem exists_cons_text (v : ControlVerb) :
    ∃ c cs, v.text.toList = c :: cs ∧ isWhite c = false := by
  cases v <;> exact ⟨_, _, rfl, by decide⟩

end ControlVerb

theorem toList_join (texts : List String) :
    (join "?" texts).toList = joinWith '?' (texts.map String.toList) := by
  have parts (ps : List (List Char)) : ['?'].intercalate ps = joinWith '?' ps := by
    induction ps with
    | nil => rfl
    | cons p ps ih =>
      cases ps with
      | nil => simp [List.intercalate, joinWith]
      | cons q ps =>
        rw [joinWith, ← ih]
        simp [List.intercalate]
  rw [join, String.toList_intercalate, ← parts]
  rfl

namespace ControlRequest

variable {v : ControlVerb}

/-- **A line comes apart into its verb and its arguments**, the last one without the white space at
its end and cut at each `?` in it. -/
theorem parse_join (v : ControlVerb) {front : List String} (h : ∀ a ∈ front, '?' ∉ a.toList)
    (last : String) :
    parse (join "?" (v.text :: (front ++ [last]))) =
      ofArguments v (front.map String.toList ++ splitAll '?' (trimEnd last.toList)) := by
  obtain ⟨c, cs, hverb, hc⟩ := v.exists_cons_text
  have hparts : ∀ p ∈ front.map String.toList, '?' ∉ p := by
    intro p hp
    obtain ⟨a, ha, rfl⟩ := List.mem_map.mp hp
    exact h a ha
  have hne (q : List Char) : front.map String.toList ++ [q] ≠ [] := by simp
  have hline : (join "?" (v.text :: (front ++ [last]))).toList =
      v.text.toList ++ '?' :: joinWith '?' (front.map String.toList ++ [last.toList]) := by
    rw [toList_join, List.map_cons, List.map_append, List.map_singleton, joinWith_cons _ _ (hne _)]
  have htrim : trim (join "?" (v.text :: (front ++ [last]))).toList =
      v.text.toList ++ '?' :: joinWith '?' (front.map String.toList ++ [trimEnd last.toList]) := by
    rw [hline, hverb, List.cons_append, trim_cons hc, ← List.cons_append,
      trimEnd_append_cons (by decide), trimEnd_joinWith (by decide)]
  have hsome (r : List Char) : (v.text.toList ++ '?' :: r).isEmpty = false := by simp
  unfold parse
  simp only [htrim, hsome, splitFirst?_append v.not_mem_text, splitAll_joinWith hparts,
    String.ofList_toList, v.ofText?_text]
  rfl

/-- An argument that stays as it is also at the end of a line: all its characters are those of names. -/
def Plain (a : String) : Prop := ∀ c ∈ a.toList, Name.spellable c = true

theorem Plain.no_mark {a : String} (h : Plain a) : '?' ∉ a.toList := by
  intro hm
  cases h _ hm

theorem Plain.trimEnd {a : String} (h : Plain a) : trimEnd a.toList = a.toList := by
  rw [trimEnd_eq_self_iff]
  exact fun c hc => Name.not_white_of_spellable (h c (List.mem_of_getLast? hc))

theorem plain_number (n : Nat) : Plain (toString n) :=
  fun _ hc => Name.spellable_of_isDigit (isDigit_of_mem_toString hc)

theorem plain_lang (l : Lang) : Plain l.text :=
  Name.ofText?_chars l.ofText?_text

theorem parse_plain (v : ControlVerb) {front : List String} (h : ∀ a ∈ front, '?' ∉ a.toList)
    {last : String} (hlast : Plain last) :
    parse (join "?" (v.text :: (front ++ [last]))) =
      ofArguments v ((front ++ [last]).map String.toList) := by
  rw [parse_join v h, hlast.trimEnd, splitAll_of_not_mem hlast.no_mark, List.map_append,
    List.map_singleton]

/-! ## Arguments -/

theorem nameArgument_text {n : Name} (h : n.Valid) (v : ControlVerb) {parts : List (List Char)}
    {i : Nat} (hi : argument parts i = n.text.toList) : nameArgument v parts i n.kind = .ok n := by
  unfold nameArgument
  simp only [hi, String.ofList_toList, Name.parseKind_text h]

theorem numberArgument_text {n max : Nat} (h : n ≤ max) (v : ControlVerb)
    {parts : List (List Char)} {i : Nat} (hi : argument parts i = (toString n).toList) :
    numberArgument v parts i max = .ok n := by
  unfold numberArgument
  simp only [hi, readNat_toString h]

theorem frontEndArguments_text {n : Name} (h : n.Valid) (hkind : n.kind = .dpe) :
    frontEndArguments [n.host.toList, (toString n.port.toNat).toList, n.lang.text.toList] =
      .ok n := by
  have hport : n.port.toNat ≤ 65535 := Nat.le_of_lt_succ n.port.toNat_lt
  have hn : n = ⟨n.host, n.port, n.lang, .dpe⟩ := by
    obtain ⟨host, port, lang, place⟩ := n
    cases place with
    | dpe => rfl
    | container c => cases hkind
    | service c e => cases hkind
  have hmake : Name.makeDpe n.host (some n.port) n.lang = .ok n := by
    refine bind_eq_ok.mpr ⟨(), Name.checkPart_of_valid h.1 _, ?_⟩
    exact (if_neg h.2.1).trans (congrArg Except.ok hn.symm)
  refine bind_eq_ok.mpr ⟨_, numberArgument_text hport _ rfl, ?_⟩
  simp only [argument, List.getD_cons_succ, List.getD_cons_zero, String.ofList_toList,
    n.lang.ofText?_text, UInt16.ofNat_toNat, hmake]
  rfl

/-! ## Requests -/

/-- The names are well-formed and of the level that the verb asks for, and the engine type holds no
`?`. -/
def Fits : ControlRequest → Prop
  | .startDpe n | .stopDpe n | .setFrontEnd n => n.Valid ∧ n.kind = .dpe
  | .pingDpe => True
  | .startContainer n _ | .stopContainer n => n.Valid ∧ n.kind = .container
  | .deployService n engineType _ _ => (n.Valid ∧ n.kind = .service) ∧ '?' ∉ engineType.toList
  | .removeService n | .reportDone n _ | .reportData n _ => n.Valid ∧ n.kind = .service

/-- The description, empty for a verb that takes none. -/
def description : ControlRequest → String
  | .startContainer _ description | .deployService _ _ _ description => description
  | _ => ""

/-- The request without the white space at the end of its description. -/
def trimmed : ControlRequest → ControlRequest
  | .startContainer n description =>
    .startContainer n (String.ofList (trimEnd description.toList))
  | .deployService n engineType poolSize description =>
    .deployService n engineType poolSize (String.ofList (trimEnd description.toList))
  | r => r

theorem trimmed_eq_self_iff {r : ControlRequest} :
    r.trimmed = r ↔ ∀ c, r.description.toList.getLast? = some c → isWhite c = false := by
  have hempty : ∀ c, "".toList.getLast? = some c → isWhite c = false := by
    intro c hc
    cases hc
  have hdescription (s : String) : String.ofList (trimEnd s.toList) = s ↔
      ∀ c, s.toList.getLast? = some c → isWhite c = false := by
    rw [← trimEnd_eq_self_iff, ← String.toList_inj, String.toList_ofList]
  cases r with
  | startContainer n s =>
    simp only [trimmed, description, startContainer.injEq, true_and, hdescription]
  | deployService n e p s =>
    simp only [trimmed, description, deployService.injEq, true_and, hdescription]
  | startDpe | stopDpe | pingDpe | setFrontEnd | stopContainer | removeService | reportDone |
    reportData => exact iff_of_true rfl hempty

/-- **A description is put together again** from what stands after the arguments before it. -/
theorem parse_described (v : ControlVerb) {front : List String} (h : ∀ a ∈ front, '?' ∉ a.toList)
    {last : String} (hlast : Plain last) (description : String) :
    ∃ parts,
      parse (join "?" (v.text :: (front ++ [last] ++ descriptionArguments description))) =
        ofArguments v ((front ++ [last]).map String.toList ++ parts) ∧
      descriptionFrom ((front ++ [last]).map String.toList ++ parts) (front.length + 1) =
        String.ofList (trimEnd description.toList) := by
  have hlength : front.length + 1 = ((front ++ [last]).map String.toList).length := by simp
  have hdrop (parts : List (List Char)) :
      ((front ++ [last]).map String.toList ++ parts).drop (front.length + 1) = parts := by
    rw [hlength, List.drop_left]
  unfold descriptionArguments
  split
  · rename_i hempty
    refine ⟨[], ?_, ?_⟩
    · rw [List.append_nil, List.append_nil, parse_plain v h hlast]
    · rw [descriptionFrom, hdrop, String.isEmpty_iff.mp hempty]
      rfl
  · refine ⟨splitAll '?' (trimEnd description.toList), ?_, ?_⟩
    · refine parse_join v (fun a ha => ?_) description
      rcases List.mem_append.mp ha with ha | ha
      · exact h a ha
      · rw [List.mem_singleton.mp ha]
        exact hlast.no_mark
    · rw [descriptionFrom, hdrop, joinWith_splitAll]

/-- The line of a request is read as the request without the white space at its end. -/
theorem parse_text {r : ControlRequest} (h : r.Fits) : parse r.text = .ok r.trimmed := by
  have nothing : ∀ a ∈ ([] : List String), '?' ∉ a.toList := fun a ha => absurd ha List.not_mem_nil
  have single {n : Name} (hn : n.Valid) : ∀ a ∈ [n.text], '?' ∉ a.toList := by
    intro a ha
    rw [List.mem_singleton.mp ha]
    exact Plain.no_mark (Name.text_chars hn)
  cases r with
  | pingDpe => decide
  | startDpe n | stopDpe n | stopContainer n | removeService n =>
    obtain ⟨hn, hkind⟩ := h
    refine (parse_plain _ nothing (Name.text_chars hn)).trans ?_
    exact bind_eq_ok.mpr ⟨n, hkind ▸ nameArgument_text hn _ rfl, rfl⟩
  | setFrontEnd n =>
    obtain ⟨hn, hkind⟩ := h
    have hfront : ∀ a ∈ [n.host, toString n.port.toNat], '?' ∉ a.toList := by
      intro a ha
      rcases List.mem_cons.mp ha with rfl | ha
      · exact Name.not_mem_part hn.1 rfl
      · rw [List.mem_singleton.mp ha]
        exact (plain_number _).no_mark
    refine (parse_plain .setFrontEnd hfront (plain_lang n.lang)).trans ?_
    exact bind_eq_ok.mpr ⟨n, frontEndArguments_text hn hkind, rfl⟩
  | reportDone n every | reportData n every =>
    obtain ⟨hn, hkind⟩ := h
    have hevery : every.toNat ≤ UInt32.size - 1 := Nat.le_sub_one_of_lt every.toNat_lt
    refine (parse_plain _ (single hn) (plain_number every.toNat)).trans ?_
    refine bind_eq_ok.mpr ⟨n, hkind ▸ nameArgument_text hn _ rfl, ?_⟩
    refine bind_eq_ok.mpr ⟨every.toNat, numberArgument_text hevery _ rfl, ?_⟩
    rw [UInt32.ofNat_toNat]
    rfl
  | startContainer n description =>
    obtain ⟨hn, hkind⟩ := h
    obtain ⟨parts, hparse, hdescription⟩ :=
      parse_described .startContainer nothing (Name.text_chars hn) description
    refine hparse.trans ?_
    refine bind_eq_ok.mpr ⟨n, hkind ▸ nameArgument_text hn _ rfl, ?_⟩
    rw [trimmed, ← hdescription]
    rfl
  | deployService n engineType poolSize description =>
    obtain ⟨⟨hn, hkind⟩, hengine⟩ := h
    have hfront : ∀ a ∈ [n.text, engineType], '?' ∉ a.toList := by
      intro a ha
      rcases List.mem_cons.mp ha with rfl | ha
      · exact Plain.no_mark (Name.text_chars hn)
      · rw [List.mem_singleton.mp ha]
        exact hengine
    have hsize : poolSize.toNat ≤ maxWord := Nat.le_sub_one_of_lt poolSize.toNat_lt
    obtain ⟨parts, hparse, hdescription⟩ :=
      parse_described .deployService hfront (plain_number poolSize.toNat) description
    refine hparse.trans ?_
    refine bind_eq_ok.mpr ⟨n, hkind ▸ nameArgument_text hn _ rfl, ?_⟩
    refine bind_eq_ok.mpr ⟨poolSize.toNat, numberArgument_text hsize _ rfl, ?_⟩
    rw [trimmed, ← hdescription, UInt64.ofNat_toNat]
    exact congrArg (fun e => Except.ok (ControlRequest.deployService n e poolSize _))
      String.ofList_toList

/-! ## What can be read -/

theorem nameArgument_spec {v : ControlVerb} {parts : List (List Char)} {i : Nat} {kind : NameKind}
    {n : Name} (h : nameArgument v parts i kind = .ok n) : n.Valid ∧ n.kind = kind := by
  unfold nameArgument at h
  simp only at h
  split at h
  · rename_i n' hn'
    cases h
    obtain ⟨n', hparse, hkind⟩ := bind_eq_ok.mp hn'
    split at hkind
    · rename_i hk
      cases hkind
      exact ⟨(Name.parse_eq_ok.mp hparse).1, hk⟩
    · cases hkind
  · cases h

theorem frontEndArguments_spec {parts : List (List Char)} {n : Name}
    (h : frontEndArguments parts = .ok n) : n.Valid ∧ n.kind = .dpe := by
  obtain ⟨port, -, h⟩ := bind_eq_ok.mp h
  simp only at h
  split at h
  · cases h
  · split at h
    · rename_i n' hmake
      cases h
      obtain ⟨hhost, hport, rfl⟩ := Name.makeDpe_eq_ok.mp hmake
      exact ⟨⟨hhost, hport, nofun, nofun⟩, rfl⟩
    · cases h

/-- Whatever arguments are taken, the request can be carried out by its names. -/
theorem fits_of_ofArguments {v : ControlVerb} {parts : List (List Char)} {r : ControlRequest}
    (hparts : ∀ p ∈ parts, '?' ∉ p) (h : ofArguments v parts = .ok r) : r.Fits := by
  unfold ofArguments at h
  split at h
  · cases h
  · cases v with
    | pingDpe =>
      cases h
      trivial
    | startDpe | stopDpe | stopContainer | removeService | startContainer =>
      obtain ⟨n, hn, h⟩ := bind_eq_ok.mp h
      cases h
      exact nameArgument_spec hn
    | setFrontEnd =>
      obtain ⟨n, hn, h⟩ := bind_eq_ok.mp h
      cases h
      exact frontEndArguments_spec hn
    | reportDone | reportData =>
      obtain ⟨n, hn, h⟩ := bind_eq_ok.mp h
      obtain ⟨every, -, h⟩ := bind_eq_ok.mp h
      cases h
      exact nameArgument_spec hn
    | deployService =>
      obtain ⟨n, hn, h⟩ := bind_eq_ok.mp h
      obtain ⟨size, -, h⟩ := bind_eq_ok.mp h
      cases h
      refine ⟨nameArgument_spec hn, ?_⟩
      rw [String.toList_ofList, argument, List.getD_eq_getElem?_getD]
      cases hget : parts[1]? with
      | none => exact List.not_mem_nil
      | some p => exact hparts p (List.mem_of_getElem? hget)

/-- Whatever line is read, the request can be carried out by its names. -/
theorem fits_of_parse {s : String} {r : ControlRequest} (h : parse s = .ok r) : r.Fits := by
  unfold parse at h
  simp only at h
  split at h
  · cases h
  · split at h
    · cases h
    · refine fits_of_ofArguments (fun p hp => ?_) h
      split at hp
      · exact not_mem_of_mem_splitAll hp
      · cases hp

/-! ## Messages -/

/-- The request in a command. -/
theorem requestOf_ofCommand {r : ControlRequest} (h : r.Fits) (target author : Name) :
    Dpe.requestOf (.ofCommand target author r.text) = .ok r.trimmed := by
  have htext : (Message.ofCommand target author r.text).text = .ok r.text :=
    Utf8.decode_encode r.text
  unfold Dpe.requestOf
  simp only [htext, parse_text h]

theorem fits_of_requestOf {m : Message} {r : ControlRequest} (h : Dpe.requestOf m = .ok r) :
    r.Fits := by
  unfold Dpe.requestOf at h
  split at h
  · cases h
  · split at h
    · rename_i hparse
      cases h
      exact fits_of_parse hparse
    · cases h

/-- The request in a message of an orchestrator. -/
theorem requestOf_controlMessage {r : ControlRequest} (h : r.Fits) (o : Orchestrator)
    (target : Name) : Dpe.requestOf (o.controlMessage target r) = .ok r.trimmed :=
  requestOf_ofCommand h target o.name

/-- **Control requests are read back** but for white space at the end of a description, and that is
what a DPE is made to do. -/
theorem read_trimmed {r : ControlRequest} (h : r.Fits) :
    parse r.text = .ok r.trimmed ∧
    (parse r.text = .ok r ↔ ∀ c, r.description.toList.getLast? = some c → isWhite c = false) ∧
    ∀ {E : Type} [EngineModel E] (d : Dpe E) (x : Exchange) (o : Orchestrator) (target : Name),
      d.applyMessage x (o.controlMessage target r) = d.apply x r.trimmed := by
  refine ⟨parse_text h, ?_, fun d x o target => ?_⟩
  · rw [parse_text h, Except.ok.injEq, trimmed_eq_self_iff]
  · unfold Dpe.applyMessage
    rw [requestOf_controlMessage h]

/-- A service with an empty engine type and a description that holds `?`, and ends in a blank. -/
def described : ControlRequest :=
  .deployService (Name.sample "A") "" 18446744073709551615 "a?b ?? "

theorem described_read :
    described.Fits ∧ parse described.text =
      .ok (.deployService (Name.sample "A") "" 18446744073709551615 "a?b ??") := by
  have hfits : described.Fits := by
    refine ⟨⟨⟨by decide, by decide, ?_, ?_⟩, rfl⟩, by decide⟩
    · rintro c ⟨⟩
      decide
    · rintro e ⟨⟩
      decide
  exact ⟨hfits, (read_trimmed hfits).1⟩

/-- The container `10.1.1.1_java:c` with a description that ends in a blank. -/
def blankAtEnd : ControlRequest :=
  .startContainer ⟨"10.1.1.1", 7771, .java, .container "c"⟩ "x "

theorem blank_at_end_lost : blankAtEnd.Fits ∧ parse blankAtEnd.text ≠ .ok blankAtEnd := by
  have hfits : blankAtEnd.Fits := by
    refine ⟨⟨by decide, by decide, ?_, ?_⟩, rfl⟩
    · rintro c ⟨⟩
      decide
    · rintro e ⟨⟩
  exact ⟨hfits, by decide⟩

end ControlRequest

end ServiceFlow
