import ServiceFlow.Proofs.Name.Canonical
import ServiceFlow.Report

/-!
# Topics contain each other as names do

A topic covers the topics that begin with its parts, the parts being what stands between the colons. No
part of a topic that is made here holds a colon, and the text of a DPE is the text of no other. So covering
can be read off what the topics were made for.

* `Topic.covers_iff_parts`: covering is a prefix of the parts.
* `Name.Includes`: a name and those that it contains; `Name.parts_prefix_iff` is containment by parts.
* `Purpose.Covers`: what a topic is made for against what another is made for. Topics are made for data,
  for reports, for control and for replies; what is made for one of these never covers what is made for
  another, and a category of reports counts among the reports.
* `Purpose.covers_iff`: covering is exactly that.
-/

namespace ServiceFlow

open Text

/-! ## Covering by parts -/

namespace Topic

/-- The parts of a topic between the colons. -/
def parts (t : Topic) : List (List Char) := splitAll ':' t.text.toList

theorem covers_iff_parts {a b : Topic} : a.covers b = true ↔ a.parts <+: b.parts := by
  rw [covers_iff]
  constructor
  · rintro (h | ⟨r, h⟩)
    · have hparts : b.parts = a.parts := congrArg (splitAll ':') h
      exact hparts ▸ List.prefix_refl _
    · rw [parts, parts, h, splitAll_cut]
      exact List.prefix_append _ _
  · rintro ⟨rest, h⟩
    have hne : a.parts ≠ [] := splitAll_ne_nil _ _
    have hjoin : b.text.toList = joinWith ':' (a.parts ++ rest) := by
      rw [h, parts, joinWith_splitAll]
    by_cases hrest : rest = []
    · subst hrest
      left
      rw [hjoin, List.append_nil, parts, joinWith_splitAll]
    · right
      exact ⟨joinWith ':' rest, by rw [hjoin, joinWith_append ':' hne hrest, parts, joinWith_splitAll]⟩

end Topic

/-! ## Names -/

namespace Name

variable {a b : Name}

/-- The name is the other one, or the name of the DPE or container that it is in. -/
def Includes (a b : Name) : Prop := a = b ∨ a.isDpeOf b = true ∨ a.isContainerOf b = true

/-- The parts of the text of a name. -/
def parts (n : Name) : List (List Char) := n.dpe.text.toList :: placeParts n.place

theorem toList_text_inj (ha : a.Valid) (hb : b.Valid) : a.text.toList = b.text.toList ↔ a = b := by
  rw [String.toList_inj, text_inj ha hb]

theorem dpe_eq_iff : a.dpe = b.dpe ↔ a.host = b.host ∧ a.port = b.port ∧ a.lang = b.lang := by
  simp [dpe]

/-- **Names contain each other as their parts are prefixes of each other.** -/
theorem parts_prefix_iff (ha : a.Valid) (hb : b.Valid) : a.parts <+: b.parts ↔ a.Includes b := by
  rw [parts, parts, List.cons_prefix_cons, toList_text_inj ha.dpe hb.dpe, dpe_eq_iff]
  obtain ⟨host, port, lang, place⟩ := a
  obtain ⟨host', port', lang', place'⟩ := b
  cases place <;> cases place' <;>
    simp [placeParts, Includes, isDpeOf, isContainerOf, kind, sameProcess, container?,
      containerPart?, String.toList_inj] <;> grind

/-- No keyword is the first part of a name, for that holds a `_`. -/
theorem dpe_text_ne {word : String} (h : '_' ∉ word.toList) (n : Name) :
    n.dpe.text.toList ≠ word.toList := by
  intro he
  apply h
  rw [← he, toList_dpe_text]
  simp

end Name

/-! ## What topics are made for -/

namespace Report

/-- The reports are of one category, whatever their severity. -/
def SameCategory : Report → Report → Prop
  | .warning _, .warning _ | .error _, .error _ => True
  | r, r' => r = r'

/-- What stands between the word of a report and the name. -/
def severityParts : Report → List (List Char)
  | .warning s | .error s => [(toString s.level).toList]
  | _ => []

theorem word_eq_iff {r r' : Report} : r.word.toList = r'.word.toList ↔ r.SameCategory r' := by
  cases r <;> cases r' <;> simp [word, SameCategory]

theorem no_mark_in_word (r : Report) : '_' ∉ r.word.toList ∧ ':' ∉ r.word.toList := by
  cases r with
  | done | data | warning _ | error _ | info => exact ⟨by simp [word], by simp [word]⟩

/-- No report has the keyword of control or of replies. -/
theorem word_ne (r : Report) : r.word.toList ≠ "dpe".toList ∧ r.word.toList ≠ "ret".toList := by
  cases r with
  | done | data | warning _ | error _ | info => exact ⟨by simp [word], by simp [word]⟩

theorem level_text_inj {s s' : Severity} :
    (toString s.level).toList = (toString s'.level).toList ↔ s = s' := by
  cases s <;> cases s' <;> decide

end Report

/-- What a topic is made for. -/
inductive Purpose where
  /-- Data for a component. -/
  | data (n : Name)
  /-- The reports of one kind by a component. -/
  | report (r : Report) (n : Name)
  /-- All reports of a category. -/
  | category (r : Report)
  /-- Commands for the DPE of a component. -/
  | control (n : Name)
  /-- The reply with this number. -/
  | reply (number : Nat)

namespace Purpose

/-- The topic that is made for a purpose. -/
def topic : Purpose → Topic
  | data n => .ofName n
  | report r n => r.topic n
  | category r => r.category
  | control n => .control n
  | reply number => .reply number

/-- The name in a purpose, if there is one, is well-formed. -/
def WellFormed : Purpose → Prop
  | data n | report _ n | control n => n.Valid
  | category _ | reply _ => True

/-- What the topic of one purpose covers of the topics of others. -/
def Covers : Purpose → Purpose → Prop
  | data a, data b => a.Includes b
  | report r a, report r' b => r = r' ∧ a.Includes b
  | category r, report r' _ => r.SameCategory r'
  | category r, category r' => r.SameCategory r'
  | control a, control b => a.dpe = b.dpe
  | reply i, reply j => i = j
  | _, _ => False

/-- The parts of the topic for a purpose. -/
def parts : Purpose → List (List Char)
  | data n => n.parts
  | report r n => r.word.toList :: (r.severityParts ++ n.parts)
  | category r => [r.word.toList]
  | control n => ["dpe".toList, n.dpe.text.toList]
  | reply number => ["ret".toList, (toString number).toList]

theorem splitAll_digits (k : Nat) : splitAll ':' (toString k).toList = [(toString k).toList] := by
  refine splitAll_of_not_mem fun h => ?_
  cases isDigit_of_mem_toString h

theorem numeral_inj {i j : Nat} : (toString i).toList = (toString j).toList ↔ i = j := by
  constructor
  · intro h
    have hread := readNat_toString (le_max_left i j)
    rw [h, readNat_toString (le_max_right i j)] at hread
    exact (Except.ok.inj hread).symm
  · rintro rfl
    rfl

theorem parts_topic {p : Purpose} (h : p.WellFormed) : p.topic.parts = p.parts := by
  unfold Topic.parts
  cases p with
  | data n => exact Name.splitAll_text h
  | report r n =>
    have hword := (r.no_mark_in_word).2
    have hname := Name.splitAll_text h
    have htext : (r.topic n).text.toList =
        r.word.toList ++ ':' :: (r.severityText.toList ++ n.text.toList) := by
      simp [Report.topic]
    -- the severity stands with its own colon in front of the name
    have hseverity : splitAll ':' (r.severityText.toList ++ n.text.toList) =
        r.severityParts ++ n.parts := by
      have level (s : Severity) : splitAll ':' ((toString s.level ++ ":").toList ++ n.text.toList) =
          [(toString s.level).toList] ++ n.parts := by
        rw [String.toList_append, List.append_assoc]
        refine (splitAll_cut ':' _ n.text.toList).trans ?_
        rw [splitAll_digits, hname, Name.parts]
      cases r with
      | warning s => exact level s
      | error s => exact level s
      | done | data | info => exact hname
    rw [topic, htext, splitAll_append_separator hword, hseverity, parts]
  | category r => exact splitAll_of_not_mem (r.no_mark_in_word).2
  | control n =>
    have htext : (Topic.control n).text.toList = "dpe".toList ++ ':' :: n.dpe.text.toList := by
      simp [Topic.control]
    rw [topic, htext, splitAll_append_separator (by decide), Name.splitAll_text h.dpe]
    rfl
  | reply number =>
    have htext : (Topic.reply number).text.toList = "ret".toList ++ ':' :: (toString number).toList := by
      simp [Topic.reply]
    rw [topic, htext, splitAll_append_separator (by decide), splitAll_digits]
    rfl

theorem not_prefix_of_head {p q : List Char} (h : p ≠ q) (ps qs : List (List Char)) :
    ¬ p :: ps <+: q :: qs := fun hp => h (List.cons_prefix_cons.mp hp).1

/-- The parts of two reports: the word, the severity and the name. -/
theorem report_prefix_iff {r r' : Report} {a b : Name} (ha : a.Valid) (hb : b.Valid) :
    (report r a).parts <+: (report r' b).parts ↔ r = r' ∧ a.Includes b := by
  have level (s s' : Severity) :
      [(toString s.level).toList] ++ a.parts <+: [(toString s'.level).toList] ++ b.parts ↔
        s = s' ∧ a.Includes b := by
    rw [List.singleton_append, List.singleton_append, List.cons_prefix_cons, Report.level_text_inj,
      Name.parts_prefix_iff ha hb]
  rw [parts, parts, List.cons_prefix_cons, Report.word_eq_iff]
  by_cases hsame : r.SameCategory r'
  · rw [and_iff_right hsame]
    cases r with
    | warning s =>
      cases r' with
      | warning s' => rw [Report.warning.injEq]; exact level s s'
      | done | data | error _ | info => cases hsame
    | error s =>
      cases r' with
      | error s' => rw [Report.error.injEq]; exact level s s'
      | done | data | warning _ | info => cases hsame
    | done | data | info =>
      cases hsame
      rw [and_iff_right rfl]
      exact Name.parts_prefix_iff ha hb
  · refine iff_of_false (fun h => hsame h.1) fun h => hsame ?_
    rw [h.1]
    exact Report.word_eq_iff.mp rfl

theorem parts_prefix_iff {p q : Purpose} (hp : p.WellFormed) (hq : q.WellFormed) :
    p.parts <+: q.parts ↔ p.Covers q := by
  cases p with
  | data a =>
    have hname {word : String} (h : '_' ∉ word.toList) (rest : List (List Char)) :
        ¬ a.parts <+: word.toList :: rest := not_prefix_of_head (a.dpe_text_ne h) _ _
    cases q with
    | data b => exact Name.parts_prefix_iff hp hq
    | report r b | category r => exact iff_of_false (hname (r.no_mark_in_word).1 _) id
    | control b | reply j => exact iff_of_false (hname (by decide) _) id
  | report r a =>
    cases q with
    | data b =>
      exact iff_of_false (not_prefix_of_head (b.dpe_text_ne (r.no_mark_in_word).1).symm _ _) id
    | report r' b => exact report_prefix_iff hp hq
    | category r' =>
      refine iff_of_false (fun h => ?_) id
      have hnil := List.prefix_nil.mp (List.cons_prefix_cons.mp h).2
      exact List.cons_ne_nil _ _ (List.append_eq_nil_iff.mp hnil).2
    | control b => exact iff_of_false (not_prefix_of_head (r.word_ne).1 _ _) id
    | reply j => exact iff_of_false (not_prefix_of_head (r.word_ne).2 _ _) id
  | category r =>
    cases q with
    | data b =>
      exact iff_of_false (not_prefix_of_head (b.dpe_text_ne (r.no_mark_in_word).1).symm _ _) id
    | report r' b | category r' =>
      refine List.cons_prefix_cons.trans ?_
      rw [and_iff_left List.nil_prefix]
      exact Report.word_eq_iff
    | control b => exact iff_of_false (not_prefix_of_head (r.word_ne).1 _ _) id
    | reply j => exact iff_of_false (not_prefix_of_head (r.word_ne).2 _ _) id
  | control a =>
    cases q with
    | data b => exact iff_of_false (not_prefix_of_head (b.dpe_text_ne (by decide)).symm _ _) id
    | report r b | category r => exact iff_of_false (not_prefix_of_head (r.word_ne).1.symm _ _) id
    | control b =>
      simp only [parts, Covers, List.cons_prefix_cons, true_and, List.nil_prefix, and_true]
      exact Name.toList_text_inj hp.dpe hq.dpe
    | reply j => exact iff_of_false (not_prefix_of_head (by decide) _ _) id
  | reply i =>
    cases q with
    | data b => exact iff_of_false (not_prefix_of_head (b.dpe_text_ne (by decide)).symm _ _) id
    | report r b | category r => exact iff_of_false (not_prefix_of_head (r.word_ne).2.symm _ _) id
    | control b => exact iff_of_false (not_prefix_of_head (by decide) _ _) id
    | reply j =>
      simp only [parts, Covers, List.cons_prefix_cons, true_and, List.nil_prefix, and_true]
      exact numeral_inj

/-- **Topics cover each other as what they were made for.** -/
theorem covers_iff {p q : Purpose} (hp : p.WellFormed) (hq : q.WellFormed) :
    p.topic.covers q.topic = true ↔ p.Covers q := by
  rw [Topic.covers_iff_parts, parts_topic hp, parts_topic hq, parts_prefix_iff hp hq]

end Purpose

end ServiceFlow
