import Mathlib.Algebra.Group.Nat.Even
import Mathlib.Data.List.Induction
import ServiceFlow.Proofs.Composition.Verdict

/-!
# Gaps in compositions

White space may stand between any two tokens of a composition but not inside a name. The scanner that takes
it out looks at each gap between two characters of names, and lets one pass if what it has kept so far ends
with `else` and what follows begins with `if`. It looks at four characters only, not at the whole word, so
`Xelse if1` passes as well and becomes the one word `Xelseif1`.

* `Scan`, `Scan.Stops`: what the scanner knows of a text that it has passed, and where it stops.
  `stripBlanksFrom_eq_ok` says that this is the reader.
* `Gap`: white space outside literals between two characters of names. `Scan.stops_iff_gap` finds the gap
  behind a stop.
* `stripBlanks_ok_iff`: which texts pass, all gaps taken together.
* `gap_refused_iff`: what that means for the compiler, and which gaps should have been let pass.
* `words_joined`: two words that become one name.
-/

namespace ServiceFlow.Composition

open Text

/-! ## The scanner -/

/-- What is known of a text that has been passed: whether a literal is open, whether white space was just
passed, and what was kept, last character first. -/
structure Scan where
  quoted : Bool
  gap : Bool
  kept : List Char

namespace Scan

/-- Before the first character. -/
def start : Scan := ⟨false, false, []⟩

/-- One character is passed. -/
def pass (s : Scan) (c : Char) : Scan :=
  if s.quoted then ⟨c != '"', s.gap, c :: s.kept⟩
  else if isWhite c then ⟨false, true, s.kept⟩
  else ⟨c == '"', false, c :: s.kept⟩

/-- A text is passed. -/
def past (s : Scan) (cs : List Char) : Scan := cs.foldl pass s

/-- The scanner stops at the character `c`, which `ahead` follows: a gap lies between it and a character of
a name before it, and it is not the one of `else if`. -/
def Stops (s : Scan) (c : Char) (ahead : List Char) : Prop :=
  s.quoted = false ∧ s.gap = true ∧ isNameChar c = true ∧ endsInName s.kept = true ∧
    joinsElseIf s.kept (c :: ahead) = false

/-- The scanner goes through the text. -/
def Clear (s : Scan) (cs : List Char) : Prop :=
  ∀ pre c post, cs = pre ++ c :: post → ¬ (s.past pre).Stops c post

variable {s : Scan} {c d : Char} {cs pre post : List Char}

@[simp] theorem past_nil (s : Scan) : s.past [] = s := rfl

@[simp] theorem past_cons (s : Scan) (c : Char) (cs : List Char) :
    s.past (c :: cs) = (s.pass c).past cs := rfl

theorem past_append (s : Scan) (p q : List Char) : s.past (p ++ q) = (s.past p).past q :=
  List.foldl_append

theorem past_snoc (s : Scan) (p : List Char) (c : Char) : s.past (p ++ [c]) = (s.past p).pass c :=
  s.past_append p [c]

theorem pass_quoted (h : s.quoted = true) : s.pass c = ⟨c != '"', s.gap, c :: s.kept⟩ := if_pos h

theorem pass_white (h : s.quoted = false) (hc : isWhite c = true) : s.pass c = ⟨false, true, s.kept⟩ := by
  rw [pass, h, if_neg Bool.false_ne_true, if_pos hc]

theorem pass_mark (h : s.quoted = false) (hc : isWhite c = false) :
    s.pass c = ⟨c == '"', false, c :: s.kept⟩ := by
  rw [pass, h, if_neg Bool.false_ne_true, hc, if_neg Bool.false_ne_true]

theorem not_white_of_nameChar (h : isNameChar c = true) : isWhite c = false := by
  unfold isNameChar at h
  rw [Bool.and_eq_true, Bool.not_eq_true'] at h
  exact h.1

theorem ne_quote_of_nameChar (h : isNameChar c = true) : c ≠ '"' := by
  rintro rfl
  exact absurd h (by decide)

theorem clear_nil : s.Clear [] := fun pre c post he => by simp at he

theorem clear_cons : s.Clear (c :: cs) ↔ ¬ s.Stops c cs ∧ (s.pass c).Clear cs := forall_split_cons

/-- No stop comes before the end of a part of the text. -/
theorem Clear.of_append (h : s.Clear (pre ++ c :: post)) : ¬ (s.past pre).Stops c post :=
  h pre c post rfl

end Scan

open Scan in
/-- **The reader is the scanner**: it gives what the scanner keeps, if that goes through and no literal is
left open. -/
theorem stripBlanksFrom_eq_ok {s : Scan} {byte : Nat} {cs t : List Char} :
    stripBlanksFrom s.quoted s.gap byte s.kept cs = .ok t ↔
      s.Clear cs ∧ (s.past cs).quoted = false ∧ (s.past cs).kept.reverse = t := by
  induction cs generalizing s byte with
  | nil =>
    rw [stripBlanksFrom, past_nil, and_iff_right clear_nil]
    cases s.quoted <;> simp
  | cons c cs ih =>
    rw [clear_cons, and_assoc, past_cons, stripBlanksFrom]
    have hstops : s.Stops c cs ↔ s.quoted = false ∧
        (s.gap && isNameChar c && endsInName s.kept && !joinsElseIf s.kept (c :: cs)) = true := by
      simp only [Stops, Bool.and_eq_true, Bool.not_eq_true', and_assoc]
    have hstep (h : ¬ s.Stops c cs) (n : Nat) :
        stripBlanksFrom (s.pass c).quoted (s.pass c).gap n (s.pass c).kept cs = .ok t ↔
          ¬ s.Stops c cs ∧ (s.pass c).Clear cs ∧ ((s.pass c).past cs).quoted = false ∧
            ((s.pass c).past cs).kept.reverse = t :=
      ih.trans (and_iff_right h).symm
    cases hquoted : s.quoted with
    | true =>
      have hno : ¬ s.Stops c cs := fun h => Bool.false_ne_true (h.1.symm.trans hquoted)
      rw [if_pos rfl, ← hstep hno (byte + c.utf8Size), pass_quoted hquoted]
    | false =>
      rw [if_neg Bool.false_ne_true]
      cases hwhite : isWhite c with
      | true =>
        have hno : ¬ s.Stops c cs := fun h => by
          rw [not_white_of_nameChar h.2.2.1] at hwhite
          cases hwhite
        rw [if_pos rfl, ← hstep hno (byte + c.utf8Size), pass_white hquoted hwhite]
      | false =>
        rw [if_neg Bool.false_ne_true]
        by_cases hstop : s.Stops c cs
        · rw [if_pos (hstops.mp hstop).2]
          exact iff_of_false (fun h => by cases h) fun h => h.1 hstop
        · rw [if_neg fun h => hstop (hstops.mpr ⟨hquoted, h⟩),
            ← hstep hstop (byte + c.utf8Size), pass_mark hquoted hwhite]

theorem stripBlanks_eq_ok {cs t : List Char} :
    stripBlanks cs = .ok t ↔ Scan.start.Clear cs ∧ (Scan.start.past cs).quoted = false ∧
      (Scan.start.past cs).kept.reverse = t :=
  stripBlanksFrom_eq_ok (s := .start)

/-! ## What the scanner knows -/

namespace Scan

variable {s : Scan} {c d : Char} {cs p w : List Char}

/-- A literal is open after an odd number of quotes. -/
theorem quoted_past_start (p : List Char) : (start.past p).quoted = false ↔ Even (p.count '"') := by
  induction p using List.reverseRecOn with
  | nil => exact iff_of_true rfl (by decide)
  | append_singleton p c ih =>
    rw [past_snoc, List.count_append, List.count_singleton]
    by_cases hc : c = '"'
    · subst hc
      rw [beq_self_eq_true, if_pos rfl, Nat.even_add_one, ← ih]
      cases hq : (start.past p).quoted with
      | true => simp [pass_quoted hq]
      | false => simp [pass_mark hq (show isWhite '"' = false by decide)]
    · rw [beq_false_of_ne hc, if_neg Bool.false_ne_true, Nat.add_zero, ← ih]
      cases hq : (start.past p).quoted with
      | true => simp [pass_quoted hq, hc]
      | false =>
        cases hw : isWhite c with
        | true => simp [pass_white hq hw]
        | false => simp [pass_mark hq hw, hc]

/-- White space outside literals leaves a gap and is not kept. -/
theorem past_white (h : s.quoted = false) (hne : w ≠ []) (hw : ∀ c ∈ w, isWhite c = true) :
    s.past w = ⟨false, true, s.kept⟩ := by
  induction w generalizing s with
  | nil => exact absurd rfl hne
  | cons c w ih =>
    rw [past_cons, pass_white h (hw c List.mem_cons_self)]
    cases w with
    | nil => rfl
    | cons d w => exact ih rfl nofun fun a ha => hw a (List.mem_cons_of_mem c ha)

/-- A character of a name that was passed outside a literal is kept, and leaves no gap. -/
theorem past_snoc_nameChar (hc : isNameChar c = true) (h : (s.past (p ++ [c])).quoted = false) :
    (s.past p).quoted = false ∧ s.past (p ++ [c]) = ⟨false, false, c :: (s.past p).kept⟩ := by
  have hquote := ne_quote_of_nameChar hc
  rw [past_snoc] at h ⊢
  cases hq : (s.past p).quoted with
  | true => rw [pass_quoted hq] at h; simp [hquote] at h
  | false =>
    refine ⟨rfl, ?_⟩
    rw [pass_mark hq (not_white_of_nameChar hc), beq_false_of_ne hquote]

/-- What leaves no gap is kept. -/
theorem kept_snoc (hg : (s.past (p ++ [c])).gap = false) :
    (s.past (p ++ [c])).kept = c :: (s.past p).kept := by
  rw [past_snoc] at hg ⊢
  cases hs : (s.past p).quoted with
  | true => rw [pass_quoted hs]
  | false =>
    cases hw : isWhite c with
    | true => rw [pass_white hs hw] at hg; cases hg
    | false => rw [pass_mark hs hw]

/-- Without a gap the text that was passed and the text that is kept end alike. -/
theorem endsInName_kept (hg : (start.past p).gap = false) :
    endsInName (start.past p).kept = endsInName p.reverse := by
  rcases List.eq_nil_or_concat' p with rfl | ⟨p, c, rfl⟩
  · rfl
  · rw [kept_snoc hg, List.reverse_concat]
    rfl

/-- Behind a gap lies white space, and before that the character that was kept last. -/
theorem blanks_of_gap (hq : (start.past p).quoted = false) (hg : (start.past p).gap = true)
    (hn : endsInName (start.past p).kept = true) :
    ∃ before blanks, p = before ++ blanks ∧ blanks ≠ [] ∧ (∀ c ∈ blanks, isWhite c = true) ∧
      (start.past before).quoted = false ∧ endsInName before.reverse = true := by
  induction p using List.reverseRecOn with
  | nil => cases hg
  | append_singleton p c ih =>
    rw [past_snoc] at hq hg hn
    cases hs : (start.past p).quoted with
    | true =>
      -- what closes a literal is no character of a name
      rw [pass_quoted hs] at hq hn
      obtain rfl : c = '"' := by simpa using hq
      exact absurd (show isNameChar '"' = true from hn) (by decide)
    | false =>
      cases hw : isWhite c with
      | false => rw [pass_mark hs hw] at hg; cases hg
      | true =>
        rw [pass_white hs hw] at hn
        cases hgap : (start.past p).gap with
        | false =>
          refine ⟨p, [c], rfl, nofun, ?_, hs, endsInName_kept hgap ▸ hn⟩
          rintro a ha
          rw [List.mem_singleton.mp ha, hw]
        | true =>
          obtain ⟨before, blanks, rfl, hne, hwhite, hbefore, hname⟩ := ih hs hgap hn
          refine ⟨before, blanks ++ [c], List.append_assoc .., by simp, ?_, hbefore, hname⟩
          rintro a ha
          rcases List.mem_append.mp ha with ha | ha
          · exact hwhite a ha
          · rw [List.mem_singleton.mp ha, hw]

/-- A word is kept as it stands. -/
theorem past_word (hw : ∀ c ∈ w, isNameChar c = true) (hq : s.quoted = false) :
    (s.past w).quoted = false ∧ (s.past w).kept = w.reverse ++ s.kept := by
  induction w generalizing s with
  | nil => exact ⟨hq, rfl⟩
  | cons c w ih =>
    have hc := hw c List.mem_cons_self
    have hpass : s.pass c = ⟨false, false, c :: s.kept⟩ := by
      rw [pass_mark hq (not_white_of_nameChar hc), beq_false_of_ne (ne_quote_of_nameChar hc)]
    rw [past_cons, hpass, List.reverse_cons, List.append_assoc]
    exact ih (fun a ha => hw a (List.mem_cons_of_mem c ha)) rfl

end Scan

/-! ## Gaps -/

/-- White space outside literals stands between two characters of names. -/
structure Gap (cs before blanks after : List Char) : Prop where
  text : cs = before ++ (blanks ++ after)
  ne_nil : blanks ≠ []
  white : ∀ c ∈ blanks, isWhite c = true
  outside : Even (before.count '"')
  left : endsInName before.reverse = true
  right : ∃ c rest, after = c :: rest ∧ isNameChar c = true

/-- The characters of names that a text ends with. -/
def lastWord (before : List Char) : List Char := (before.reverse.takeWhile isNameChar).reverse

/-- The characters of names that a text begins with. -/
def firstWord (after : List Char) : List Char := after.takeWhile isNameChar

/-- The gap lies between the keyword `else` and a word that begins with `if`. -/
def ElseIf (before after : List Char) : Prop :=
  lastWord before = ['e', 'l', 's', 'e'] ∧ ['i', 'f'] <+: firstWord after

/-- The gap lies between a word that ends with `else` and one that begins with `if`. -/
def LikeElseIf (before after : List Char) : Prop :=
  ['e', 'l', 's', 'e'] <:+ lastWord before ∧ ['i', 'f'] <+: firstWord after

/-- To begin with a word is to have it in the first word. -/
theorem prefix_firstWord {w cs : List Char} (hw : ∀ c ∈ w, isNameChar c = true) :
    w <+: firstWord cs ↔ w <+: cs := by
  constructor
  · exact fun h => h.trans (List.takeWhile_prefix _)
  · rintro ⟨rest, rfl⟩
    rw [firstWord, List.takeWhile_append_of_pos hw]
    exact List.prefix_append w _

/-- The reader's test looks at the words on the two sides. -/
theorem joinsElseIf_iff {before after : List Char} :
    joinsElseIf before.reverse after = true ↔ LikeElseIf before after := by
  have helse : ∀ c ∈ ['e', 's', 'l', 'e'], isNameChar c = true := forall_mem_of_all (by decide)
  have hif : ∀ c ∈ ['i', 'f'], isNameChar c = true := forall_mem_of_all (by decide)
  rw [joinsElseIf, Bool.and_eq_true, List.isPrefixOf_iff_prefix, List.isPrefixOf_iff_prefix,
    ← prefix_firstWord hif, ← prefix_firstWord helse, LikeElseIf, ← List.reverse_prefix, lastWord,
    List.reverse_reverse]
  rfl

namespace Scan

variable {s : Scan} {before blanks after pre post w cs : List Char} {c : Char}

/-- What the scanner knows where a gap begins and where it ends. -/
theorem past_gap (h : Gap cs before blanks after) :
    (start.past before).quoted = false ∧ (start.past before).gap = false ∧
      endsInName (start.past before).kept = true ∧
      start.past (before ++ blanks) = ⟨false, true, (start.past before).kept⟩ := by
  have hq := (quoted_past_start before).mpr h.outside
  have hg : (start.past before).gap = false := by
    have hleft := h.left
    rcases List.eq_nil_or_concat' before with rfl | ⟨p, c, rfl⟩
    · rfl
    · rw [List.reverse_concat] at hleft
      rw [(past_snoc_nameChar hleft hq).2]
  refine ⟨hq, hg, endsInName_kept hg ▸ h.left, ?_⟩
  rw [past_append, past_white hq h.ne_nil h.white]

/-- Where the scanner stops there is a gap that it does not excuse. -/
theorem stops_iff_gap :
    (start.past pre).Stops c post ↔ ∃ before blanks, pre = before ++ blanks ∧
      Gap (pre ++ c :: post) before blanks (c :: post) ∧
      joinsElseIf (start.past before).kept (c :: post) = false := by
  constructor
  · rintro ⟨hq, hg, hc, hn, hjoin⟩
    obtain ⟨before, blanks, rfl, hne, hwhite, hbefore, hleft⟩ := blanks_of_gap hq hg hn
    have hgap : Gap (before ++ blanks ++ c :: post) before blanks (c :: post) :=
      ⟨List.append_assoc .., hne, hwhite, (quoted_past_start before).mp hbefore, hleft, c, post, rfl, hc⟩
    rw [(past_gap hgap).2.2.2] at hjoin
    exact ⟨before, blanks, rfl, hgap, hjoin⟩
  · rintro ⟨before, blanks, rfl, hgap, hjoin⟩
    obtain ⟨-, -, hn, hpast⟩ := past_gap hgap
    obtain ⟨c', rest, he, hc⟩ := hgap.right
    obtain ⟨rfl, rfl⟩ := List.cons.inj he
    rw [hpast]
    exact ⟨rfl, rfl, hc, hn, hjoin⟩

/-- A word that ends the text passed so far ends what was kept. -/
theorem kept_of_suffix (hw : ∀ c ∈ w, isNameChar c = true) (hq : (start.past before).quoted = false)
    (h : w <+: before.reverse) : w <+: (start.past before).kept := by
  have hword : ∀ c ∈ w.reverse, isNameChar c = true := fun c hc => hw c (List.mem_reverse.mp hc)
  rw [← List.reverse_reverse w, List.reverse_prefix] at h
  obtain ⟨p, rfl⟩ := h
  have heven : Even (p.count '"') := by
    have hnone : w.reverse.count '"' = 0 :=
      List.count_eq_zero.mpr fun hmem => ne_quote_of_nameChar (hword _ hmem) rfl
    have := (quoted_past_start _).mp hq
    rwa [List.count_append, hnone, Nat.add_zero] at this
  rw [past_append, (past_word hword ((quoted_past_start p).mpr heven)).2, List.reverse_reverse]
  exact List.prefix_append w _

/-- A word that ends what was kept ends the text passed so far, if the scanner has gone through: it would
have stopped inside a word that has a gap, as only a character that `if` begins with could follow it. -/
theorem suffix_of_kept (hw : ∀ c ∈ w, isNameChar c = true ∧ c ≠ 'i')
    (hclear : start.Clear (before ++ after)) (hq : (start.past before).quoted = false)
    (hg : (start.past before).gap = false) (h : w <+: (start.past before).kept) :
    w <+: before.reverse := by
  induction w generalizing before after with
  | nil => exact List.nil_prefix
  | cons x w ih =>
    obtain ⟨hx, hi⟩ := hw x List.mem_cons_self
    rcases List.eq_nil_or_concat' before with rfl | ⟨p, c, rfl⟩
    · simp [start] at h
    · rw [kept_snoc hg, List.cons_prefix_cons] at h
      obtain ⟨rfl, h⟩ := h
      have hqp := (past_snoc_nameChar hx hq).1
      rw [List.append_assoc] at hclear
      rw [List.reverse_concat, List.cons_prefix_cons]
      refine ⟨rfl, ?_⟩
      cases hgp : (start.past p).gap with
      | false => exact ih (fun a ha => hw a (List.mem_cons_of_mem _ ha)) hclear hqp hgp h
      | true =>
        cases w with
        | nil => exact List.nil_prefix
        | cons y w =>
          obtain ⟨k, hk⟩ := h
          have hy : endsInName (start.past p).kept = true :=
            hk ▸ (hw y (List.mem_cons_of_mem x List.mem_cons_self)).1
          have hjoin : joinsElseIf (start.past p).kept (x :: after) = false := by
            rw [joinsElseIf, Bool.and_eq_false_iff]
            refine Or.inr (Bool.eq_false_iff.mpr fun hif => hi ?_)
            exact (List.cons_prefix_cons.mp (List.isPrefixOf_iff_prefix.mp hif)).1.symm
          exact absurd ⟨hqp, hgp, hx, hy, hjoin⟩ hclear.of_append

/-- The scanner goes through exactly if all gaps look like the one of `else if`. -/
theorem clear_iff : start.Clear cs ↔
    ∀ before blanks after, Gap cs before blanks after → LikeElseIf before after := by
  have hword : ∀ c ∈ ['e', 's', 'l', 'e'], isNameChar c = true ∧ c ≠ 'i' :=
    forall_mem_of_all (by decide)
  constructor
  · intro hclear before blanks after hgap
    obtain ⟨hq, hg, -, -⟩ := past_gap hgap
    obtain ⟨c, rest, rfl, -⟩ := hgap.right
    have hjoin : joinsElseIf (start.past before).kept (c :: rest) = true := by
      by_contra hno
      have hstop : (start.past (before ++ blanks)).Stops c rest :=
        stops_iff_gap.mpr ⟨before, blanks, rfl, by rwa [List.append_assoc, ← hgap.text],
          Bool.eq_false_iff.mpr hno⟩
      exact hclear _ c rest (by rw [List.append_assoc, hgap.text]) hstop
    rw [joinsElseIf, Bool.and_eq_true, List.isPrefixOf_iff_prefix] at hjoin
    have hsuffix := suffix_of_kept hword (hgap.text ▸ hclear) hq hg hjoin.1
    rw [← joinsElseIf_iff, joinsElseIf, Bool.and_eq_true, List.isPrefixOf_iff_prefix]
    exact ⟨hsuffix, hjoin.2⟩
  · intro hlike pre c post he hstop
    obtain ⟨before, blanks, rfl, hgap, hjoin⟩ := stops_iff_gap.mp hstop
    have hexcused := joinsElseIf_iff.mpr (hlike before blanks (c :: post) (he ▸ hgap))
    rw [joinsElseIf, Bool.and_eq_true, List.isPrefixOf_iff_prefix] at hexcused
    have hkept := kept_of_suffix (fun c hc => (hword c hc).1) (past_gap hgap).1 hexcused.1
    rw [joinsElseIf, List.isPrefixOf_iff_prefix.mpr hkept, hexcused.2] at hjoin
    cases hjoin

end Scan

/-- **Which texts pass**: those that close their literals and in which every gap looks like that of
`else if`. -/
theorem stripBlanks_ok_iff {cs : List Char} :
    (∃ t, stripBlanks cs = .ok t) ↔
      Even (cs.count '"') ∧ ∀ before blanks after, Gap cs before blanks after → LikeElseIf before after := by
  simp only [stripBlanks_eq_ok, exists_and_left, exists_eq', and_true]
  rw [Scan.clear_iff, Scan.quoted_past_start, and_comm]

/-! ## Refusals -/

/-- No one can use the text: it is malformed for every owner, and has no entry services. -/
structure Refused (text : String) : Prop where
  compiled : ∀ owner, ∃ fault, compile text owner = .error (.malformed text fault)
  entered : ∃ fault, entryServices text = .error (.malformed text fault)

theorem refused_of_stripBlanks {text : String} {fault : CompositionFault}
    (h : stripBlanks text.toList = .error fault) : Refused text := by
  have hcut : clauseTexts text = .error fault := by
    rw [clauseTexts, h]
    rfl
  constructor
  · intro owner
    rw [malformed_iff]
    intro clauses hr
    obtain ⟨texts, ht, -⟩ := bind_eq_ok.mp hr
    rw [hcut] at ht
    cases ht
  · refine ⟨fault, ?_⟩
    rw [entryServices, readEntry, hcut]
    rfl

/-- **Which gaps make a text unusable.** It is refused if some gap does not lie between a word that ends
with `else` and one that begins with `if`; and if all gaps do, white space is no ground for a refusal, as
only an open literal can then keep it from being taken out. -/
theorem gap_refused_iff (text : String) :
    ((∃ fault, stripBlanks text.toList = .error fault) ↔ ¬ Even (text.toList.count '"') ∨
      ∃ before blanks after, Gap text.toList before blanks after ∧ ¬ LikeElseIf before after) ∧
    ((∃ fault, stripBlanks text.toList = .error fault) → Refused text) := by
  refine ⟨?_, fun ⟨fault, h⟩ => refused_of_stripBlanks h⟩
  have hfails : (∃ fault, stripBlanks text.toList = .error fault) ↔
      ¬ ∃ t, stripBlanks text.toList = .ok t := by
    cases stripBlanks text.toList <;> simp
  rw [hfails, stripBlanks_ok_iff, not_and_or]
  simp only [not_forall, exists_prop]

/-- Two words, the first of which ends with `else`. -/
def joinedText : String := "h_java:c:Xelse if1"

/-- The two words become one name, which can be compiled for. -/
theorem words_joined :
    Gap joinedText.toList "h_java:c:Xelse".toList [' '] "if1".toList ∧
      lastWord "h_java:c:Xelse".toList = "h_java:c:Xelse".toList ∧
      ¬ ElseIf "h_java:c:Xelse".toList "if1".toList ∧
      stripBlanks joinedText.toList = .ok "h_java:c:Xelseif1".toList ∧
      (∃ c, compile joinedText (.sample "Xelseif1") = .ok c) ∧
      entryServices joinedText = .ok [.sample "Xelseif1"] := by
  refine ⟨⟨by decide, nofun, forall_mem_of_all (by decide), by decide, by decide, 'i', ['f', '1'], rfl,
      by decide⟩,
    by decide, fun h => absurd h.1 (by decide), eq_ok_of_toOption (by decide +kernel),
    exists_of_isOk (by decide +kernel), eq_ok_of_toOption (by decide +kernel)⟩

end ServiceFlow.Composition
