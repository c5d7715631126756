import Mathlib.Logic.Relation
import ServiceFlow.Proofs.Composition.Gaps
import ServiceFlow.Proofs.Composition.Literals

/-!
# White space does not count

White space may be put in or taken out wherever it neither parts nor joins words: outside literals, where
the nearest characters to the left and to the right are not both part of names. The compiler cannot tell
texts apart that differ in such edits, whether they compile or not.

* `Respaced`: texts that differ by edits of white space.
* `Scan.clear_respaced`, `Scan.past_respaced`: an edit neither makes the scanner stop nor changes what it
  keeps.
* `stripBlanks_respaced`: the reader goes on with the same text.
* `respaced_alike`: what the compiler makes of two such texts.
-/

namespace ServiceFlow.Composition

open Text

/-! ## Edits -/

/-- The first character that is not white. -/
def nearest (cs : List Char) : Option Char := cs.find? fun c => !isWhite c

/-- The nearest characters on both sides are part of names. -/
def BetweenNames (before after : List Char) : Prop :=
  (nearest before.reverse).any isNameChar = true ∧ (nearest after).any isNameChar = true

/-- White space is put in outside literals, where it does not stand between names. -/
inductive Inserted : List Char → List Char → Prop
  | mk (before blanks after : List Char) (hwhite : ∀ c ∈ blanks, isWhite c = true)
      (houtside : Even (before.count '"')) (hnames : ¬ BetweenNames before after) :
      Inserted (before ++ after) (before ++ (blanks ++ after))

/-- The texts differ by white space that was put in or taken out, any number of times. -/
def Respaced : List Char → List Char → Prop := Relation.EqvGen Inserted

namespace Scan

variable {p before blanks after : List Char} {c : Char} {cs ds : List Char} {s : Scan}

theorem any_nearest (hc : isNameChar c = true) : (nearest (c :: cs)).any isNameChar = true := by
  rw [nearest, List.find?_cons, not_white_of_nameChar hc]
  exact hc

/-- What was kept last is the nearest character to the left. -/
theorem head?_kept (hq : (start.past p).quoted = false) :
    (start.past p).kept.head? = nearest p.reverse := by
  induction p using List.reverseRecOn with
  | nil => rfl
  | append_singleton p c ih =>
    rw [past_snoc] at hq ⊢
    rw [List.reverse_concat, nearest, List.find?_cons]
    cases hs : (start.past p).quoted with
    | true =>
      rw [pass_quoted hs] at hq ⊢
      obtain rfl : c = '"' := by simpa using hq
      rw [show isWhite '"' = false by decide]
      rfl
    | false =>
      cases hw : isWhite c with
      | true =>
        rw [pass_white hs hw]
        exact ih hs
      | false =>
        rw [pass_mark hs hw]
        rfl

/-- A gap makes no difference once another character is passed outside literals. -/
theorem pass_of_gap (hq : s.quoted = false) (g : Bool) : Scan.pass ⟨false, g, s.kept⟩ c = s.pass c := by
  cases hw : isWhite c with
  | true => rw [pass_white rfl hw, pass_white hq hw]
  | false => rw [pass_mark rfl hw, pass_mark hq hw]

/-- No stop is made between characters that are not both part of names, whether there is a gap or not. -/
theorem not_stops_of_not_between (hq : (start.past before).quoted = false)
    (hnames : ¬ BetweenNames before (c :: cs)) (g : Bool) :
    ¬ Scan.Stops ⟨false, g, (start.past before).kept⟩ c cs := by
  rintro ⟨-, -, hc, hkept, -⟩
  refine hnames ⟨?_, ?_⟩
  · rw [← head?_kept hq]
    cases hk : (start.past before).kept with
    | nil => rw [hk] at hkept; cases hkept
    | cons k ks => rw [hk] at hkept; exact hkept
  · exact any_nearest hc

/-- The scanner goes through a text exactly if it goes through each part of it, knowing what comes next. -/
theorem clear_append {p q : List Char} : s.Clear (p ++ q) ↔
    (∀ pre c post, p = pre ++ c :: post → ¬ (s.past pre).Stops c (post ++ q)) ∧ (s.past p).Clear q := by
  induction p generalizing s with
  | nil => simp
  | cons c p ih =>
    rw [List.cons_append, clear_cons, ih, ← and_assoc, past_cons]
    refine and_congr_left fun _ => ?_
    exact (forall_split_cons (P := fun pre d post => ¬ (s.past pre).Stops d (post ++ q))).symm

/-- The scanner does not stop in white space. -/
theorem clear_white (hwhite : ∀ c ∈ blanks, isWhite c = true) :
    s.Clear (blanks ++ after) ↔ (s.past blanks).Clear after := by
  rw [clear_append]
  refine and_iff_right fun pre c post he hstop => ?_
  have hc := hwhite c (he ▸ List.mem_append_right pre List.mem_cons_self)
  rw [not_white_of_nameChar hstop.2.2.1] at hc
  cases hc

/-- The word `if` is not found or lost by an edit behind its first letter. -/
theorem prefix_if_respaced {pre post : List Char} (hwhite : ∀ c ∈ blanks, isWhite c = true)
    (hnames : ¬ BetweenNames before after) (he : before = pre ++ c :: post) :
    ['i', 'f'] <+: c :: (post ++ (blanks ++ after)) ↔ ['i', 'f'] <+: c :: (post ++ after) := by
  cases post with
  | cons d post => simp only [List.cons_append, List.cons_prefix_cons, List.nil_prefix]
  | nil =>
    rw [List.nil_append, List.nil_append, List.cons_prefix_cons, List.cons_prefix_cons]
    refine and_congr_right fun hi => ?_
    cases blanks with
    | nil => rfl
    | cons b blanks =>
      refine iff_of_false (fun h => ?_) fun ⟨rest, h⟩ => hnames ?_
      · have hb := hwhite b List.mem_cons_self
        rw [← (List.cons_prefix_cons.mp h).1] at hb
        exact absurd hb (by decide)
      · rw [he, ← h, ← hi, BetweenNames, List.reverse_concat]
        exact ⟨any_nearest (by decide), any_nearest (by decide)⟩

/-- **An edit of white space does not make the scanner stop**, nor does it keep it from that. -/
theorem clear_respaced (h : Inserted cs ds) : start.Clear ds ↔ start.Clear cs := by
  obtain ⟨before, blanks, after, hwhite, houtside, hnames⟩ := h
  have hq := (quoted_past_start before).mpr houtside
  rw [clear_append (p := before), clear_append (p := before), clear_white hwhite]
  refine and_congr ?_ ?_
  · refine forall₄_congr fun pre c post he => not_congr ?_
    have hif := prefix_if_respaced hwhite hnames he
    rw [← List.isPrefixOf_iff_prefix, ← List.isPrefixOf_iff_prefix, ← Bool.eq_iff_iff] at hif
    rw [Stops, Stops, joinsElseIf, joinsElseIf, hif]
  · cases blanks with
    | nil => rfl
    | cons b blanks =>
      rw [past_white hq (List.cons_ne_nil b blanks) hwhite]
      cases after with
      | nil => exact iff_of_true clear_nil clear_nil
      | cons c after =>
        rw [clear_cons, clear_cons, pass_of_gap hq]
        have hgap : start.past before = ⟨false, (start.past before).gap, (start.past before).kept⟩ := by
          rw [← hq]
        refine and_congr_left fun _ => iff_of_true (not_stops_of_not_between hq hnames true) ?_
        rw [hgap]
        exact not_stops_of_not_between hq hnames _

/-- An edit of white space changes nothing about what is kept, or whether a literal is open. -/
theorem past_respaced (h : Inserted cs ds) :
    (start.past ds).quoted = (start.past cs).quoted ∧ (start.past ds).kept = (start.past cs).kept := by
  obtain ⟨before, blanks, after, hwhite, houtside, -⟩ := h
  have hq := (quoted_past_start before).mpr houtside
  rw [past_append, past_append, past_append]
  cases blanks with
  | nil => exact ⟨rfl, rfl⟩
  | cons b blanks =>
    rw [past_white hq (List.cons_ne_nil b blanks) hwhite]
    cases after with
    | nil => exact ⟨hq.symm, rfl⟩
    | cons c after => rw [past_cons, past_cons, pass_of_gap hq]; exact ⟨rfl, rfl⟩

end Scan

/-- **The reader goes on with the same text**, if it goes on at all. -/
theorem stripBlanks_respaced {cs ds t : List Char} (h : Respaced cs ds) :
    stripBlanks cs = .ok t ↔ stripBlanks ds = .ok t := by
  induction h with
  | refl _ => rfl
  | symm _ _ _ ih => exact ih.symm
  | trans _ _ _ _ _ ih ih' => exact ih.trans ih'
  | rel cs ds h =>
    obtain ⟨hq, hk⟩ := Scan.past_respaced h
    rw [stripBlanks_eq_ok, stripBlanks_eq_ok, Scan.clear_respaced h, hq, hk]

/-! ## What the compiler makes of it -/

/-- Two attempts at two texts end alike: with related results, both with a malformed text, or both without
a place for the owner. -/
inductive Alike {α : Type} (text text' : String) (R : α → α → Prop) :
    Except CompositionError α → Except CompositionError α → Prop
  | ok {a b : α} (h : R a b) : Alike text text' R (.ok a) (.ok b)
  | malformed (fault fault' : CompositionFault) :
      Alike text text' R (.error (.malformed text fault)) (.error (.malformed text' fault'))
  | ownerNotFound (owner : String) :
      Alike text text' R (.error (.ownerNotFound owner text)) (.error (.ownerNotFound owner text'))

variable {text text' : String} {owner : Name}

theorem alike_of_malformed {α : Type} {R : α → α → Prop} {r r' : Except CompositionError α}
    (h : ∃ fault, r = .error (.malformed text fault))
    (h' : ∃ fault, r' = .error (.malformed text' fault)) : Alike text text' R r r' := by
  obtain ⟨fault, rfl⟩ := h
  obtain ⟨fault', rfl⟩ := h'
  exact .malformed fault fault'

/-- Both texts have the same clauses, or neither gets so far. -/
theorem clauseTexts_respaced (h : Respaced text.toList text'.toList) :
    clauseTexts text = clauseTexts text' ∨
      (∃ fault, stripBlanks text.toList = .error fault) ∧
        ∃ fault, stripBlanks text'.toList = .error fault := by
  cases hs : stripBlanks text.toList with
  | ok t =>
    left
    rw [clauseTexts, clauseTexts, hs, (stripBlanks_respaced h).mp hs]
  | error fault =>
    right
    refine ⟨⟨fault, rfl⟩, ?_⟩
    cases hs' : stripBlanks text'.toList with
    | ok t =>
      rw [(stripBlanks_respaced h).mpr hs'] at hs
      cases hs
    | error fault' => exact ⟨fault', rfl⟩

/-- The same clauses give the same composition but for the text it keeps. -/
theorem compile_alike (h : clauseTexts text = clauseTexts text') :
    Alike text text' (fun c c' => c' = { c with text := text' }) (compile text owner)
      (compile text' owner) := by
  unfold compile readClauses
  rw [h]
  cases (clauseTexts text' >>= fun texts => texts.mapM (readClause (refuseWaitingHead owner))) with
  | error fault => exact .malformed fault fault
  | ok clauses =>
    simp only
    split
    · exact .ownerNotFound owner.text
    · exact .ok rfl

theorem entryServices_alike (h : clauseTexts text = clauseTexts text') :
    Alike text text' (· = ·) (entryServices text) (entryServices text') := by
  unfold entryServices readEntry
  rw [h]
  split
  · exact .malformed _ _
  · exact .ok rfl

/-- **White space does not count.** Texts that differ by white space outside literals and not between
names compile to the same for every owner but for the text that is kept, have the same entry services, or
fail in the same way. White space in literals does count: the guards compare with the literals as they are
written. -/
theorem respaced_alike (h : Respaced text.toList text'.toList) (owner : Name) :
    Alike text text' (fun c c' => c' = { c with text := text' }) (compile text owner)
        (compile text' owner) ∧
      Alike text text' (· = ·) (entryServices text) (entryServices text') ∧
      (∀ c, compile text owner = .ok c → c.guardStates = literals text.toList) := by
  have hguards : ∀ c, compile text owner = .ok c → c.guardStates = literals text.toList :=
    fun c hc => guardStates_of_compile hc
  rcases clauseTexts_respaced h with he | ⟨⟨fault, hs⟩, fault', hs'⟩
  · exact ⟨compile_alike he, entryServices_alike he, hguards⟩
  · have hr := refused_of_stripBlanks hs
    have hr' := refused_of_stripBlanks hs'
    exact ⟨alike_of_malformed (hr.compiled owner) (hr'.compiled owner),
      alike_of_malformed hr.entered hr'.entered, hguards⟩

/-- Blanks around a `+`, and two in a literal. -/
def looseText : String := "h_java:c:A +h_java:c:B;if(h_java:c:A==\"a  b\")\x7bh_java:c:B\x7d"

/-- The same with a line break between the clauses instead. -/
def brokenText : String := "h_java:c:A+h_java:c:B;\nif(h_java:c:A==\"a  b\")\x7bh_java:c:B\x7d"

/-- Moving the blank changes nothing for `B`, whose guard keeps the two in the literal. -/
theorem looseText_alike :
    Respaced looseText.toList brokenText.toList ∧
      ∃ c, compile looseText (.sample "B") = .ok c ∧
        compile brokenText (.sample "B") = .ok { c with text := brokenText } ∧
        entryServices looseText = .ok [.sample "A"] ∧
        entryServices brokenText = .ok [.sample "A"] ∧ c.guardStates = ["a  b"] := by
  have hout : Inserted
      ("h_java:c:A".toList ++ "+h_java:c:B;if(h_java:c:A==\"a  b\")\x7bh_java:c:B\x7d".toList)
      looseText.toList :=
    .mk "h_java:c:A".toList [' '] _ (forall_mem_of_all (by decide)) (by decide)
      fun h => absurd h.2 (by decide)
  have hin : Inserted
      ("h_java:c:A+h_java:c:B;".toList ++ "if(h_java:c:A==\"a  b\")\x7bh_java:c:B\x7d".toList)
      brokenText.toList :=
    .mk "h_java:c:A+h_java:c:B;".toList ['\n'] _ (forall_mem_of_all (by decide)) (by decide)
      fun h => absurd h.1 (by decide)
  have h : Respaced looseText.toList brokenText.toList :=
    ((Relation.EqvGen.rel _ _ hout).symm _ _).trans _ _ _ (.rel _ _ hin)
  obtain ⟨c, hc⟩ : ∃ c, compile looseText (.sample "B") = .ok c := exists_of_isOk (by decide +kernel)
  have hstarts : entryServices looseText = .ok [.sample "A"] := eq_ok_of_toOption (by decide +kernel)
  obtain ⟨hcompile, hentry, hstates⟩ := respaced_alike h (.sample "B")
  rw [hc] at hcompile
  rw [hstarts] at hentry
  refine ⟨h, c, hc, ?_, hstarts, ?_, (hstates c hc).trans (by decide)⟩
  · generalize compile brokenText (.sample "B") = r at hcompile ⊢
    cases hcompile with
    | ok he => rw [he]
  · generalize entryServices brokenText = r at hentry ⊢
    cases hentry with
    | ok he => rw [he]

end ServiceFlow.Composition
