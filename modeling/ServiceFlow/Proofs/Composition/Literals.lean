import ServiceFlow.Proofs.Composition.Verdict

/-!
# Literals of compositions

The states that services report are compared with the literals in the guards. A literal may hold anything
but a quote: operators, brackets and white space stand for themselves in it, and white space is taken out
only around it. So the states in the guards of a compiled composition are the texts between the quotes of
its raw text, character by character and in the same order.

* `literals`: the texts between quotes.
* `Holds`: which literals a part of a text adds, whatever follows it. Each production of the grammar has its
  lemma.
* `guardStates_of_compile`: the states in the guards of what was compiled.
-/

namespace ServiceFlow

open Text ServiceFlow.Composition

/-! ## States in guards -/

/-- The states that a condition compares with. -/
def Condition.states (c : Condition) : List String := c.predicates.map (·.state)

/-- The states that the guards of an instruction compare with. -/
def Instruction.guardStates : Instruction → List String
  | .unconditional _ => []
  | .conditional branches _ => branches.flatMap (·.condition.states)

/-- The states that the guards of a clause compare with. -/
def Clause.guardStates : Clause → List String
  | .chain _ => []
  | .conditional blocks _ => blocks.flatMap (·.condition.states)

namespace Composition

/-- The states that the guards of a composition compare with, in the order of its instructions. -/
def guardStates (c : Composition) : List String := c.instructions.flatMap (·.guardStates)

/-! ## Literals -/

/-- The texts between quotes, given what has been read of an open literal, last character first. -/
def literalsFrom : Option (List Char) → List Char → List String
  | _, [] => []
  | none, c :: cs => if c = '"' then literalsFrom (some []) cs else literalsFrom none cs
  | some read, c :: cs =>
    if c = '"' then String.ofList read.reverse :: literalsFrom none cs
    else literalsFrom (some (c :: read)) cs

/-- The texts between quotes, from the left. -/
def literals (cs : List Char) : List String := literalsFrom none cs

/-- Taking out white space leaves the literals alone. -/
theorem literals_unspaced (cs : List Char) : literals (unspaced false cs) = literals cs := by
  have both (cs : List Char) : literalsFrom none (unspaced false cs) = literalsFrom none cs ∧
      ∀ read, literalsFrom (some read) (unspaced true cs) = literalsFrom (some read) cs := by
    induction cs with
    | nil => exact ⟨rfl, fun _ => rfl⟩
    | cons c cs ih =>
      by_cases hc : c = '"'
      · subst hc
        simp [unspaced, literalsFrom, ih]
      · cases hw : isWhite c <;> simp [unspaced, literalsFrom, ih, hc, hw]
  exact (both cs).1

/-- The text adds these literals to those of whatever follows it. -/
def Holds (cs : List Char) (states : List String) : Prop :=
  ∀ rest, literals (cs ++ rest) = states ++ literals rest

namespace Holds

variable {cs ds : List Char} {ss ts : List String} {c : Char}

theorem eq (h : Holds cs ss) : literals cs = ss := by
  have hnil := h []
  rwa [List.append_nil, show literals [] = [] from rfl, List.append_nil] at hnil

theorem nil : Holds [] [] := fun _ => rfl

theorem append (h : Holds cs ss) (h' : Holds ds ts) : Holds (cs ++ ds) (ss ++ ts) := by
  intro rest
  rw [List.append_assoc, h, h', List.append_assoc]

/-- A part that adds none may follow. -/
theorem append_bare (h : Holds cs ss) (h' : Holds ds []) : Holds (cs ++ ds) ss := by
  have happ := h.append h'
  rwa [List.append_nil] at happ

theorem cons (hc : c ≠ '"') (h : Holds cs ss) : Holds (c :: cs) ss := by
  intro rest
  rw [List.cons_append, literals, literalsFrom, if_neg hc]
  exact h rest

/-- A text without quotes adds none. -/
theorem of_unquoted (h : ∀ c ∈ cs, c ≠ '"') : Holds cs [] := by
  induction cs with
  | nil => exact nil
  | cons c cs ih =>
    exact (ih fun a ha => h a (List.mem_cons_of_mem c ha)).cons (h c List.mem_cons_self)

/-- Marks and keywords add none. -/
theorem of_marks (h : (cs.all fun c => decide (c ≠ '"')) = true) : Holds cs [] :=
  of_unquoted (forall_mem_of_all h)

/-- What stands between the quotes is taken as it is. -/
theorem of_quoted {state : String} (h : '"' ∉ state.toList) : Holds (quoted state) [state] := by
  have inside (read cs rest : List Char) (hcs : '"' ∉ cs) :
      literalsFrom (some read) (cs ++ '"' :: rest) =
        String.ofList (read.reverse ++ cs) :: literals rest := by
    induction cs generalizing read with
    | nil => simp [literalsFrom, literals]
    | cons c cs ih =>
      have hc : c ≠ '"' := fun he => hcs (he ▸ List.mem_cons_self)
      rw [List.cons_append, literalsFrom, if_neg hc, ih _ fun hmem => hcs (List.mem_cons_of_mem c hmem),
        List.reverse_cons, List.append_assoc]
      rfl
  intro rest
  rw [quoted, List.cons_append, List.append_assoc, literals, literalsFrom, if_pos rfl, List.singleton_append,
    inside _ _ _ h, List.reverse_nil, List.nil_append, String.ofList_toList]
  rfl

variable {α : Type} {sep : List Char} {Spells : α → List Char → Prop} {xs : List α}
  {f : α → List String}

theorem separated (hsep : Holds sep []) (hs : ∀ x p, Spells x p → Holds p (f x))
    (h : Separated sep Spells xs cs) : Holds cs (xs.flatMap f) := by
  induction h with
  | one hx =>
    rw [List.flatMap_singleton]
    exact hs _ _ hx
  | more hx _ ih =>
    rw [List.flatMap_cons]
    exact ((hs _ _ hx).append_bare hsep).append ih

theorem listed (hs : ∀ x p, Spells x p → Holds p (f x)) (h : Listed Spells xs cs) :
    Holds cs (xs.flatMap f) := by
  induction h with
  | nil => exact nil
  | one hx =>
    rw [List.flatMap_singleton]
    exact hs _ _ hx
  | skip _ ih => exact ih.cons (by decide)
  | cons hx _ ih =>
    rw [List.flatMap_cons]
    exact (hs _ _ hx).append (ih.cons (by decide))

end Holds

end Composition

/-! ## The grammar -/

theorem Name.Spelled.holds {n : Name} {cs : List Char} (h : n.Spelled cs) : Holds cs [] := by
  refine .of_unquoted fun c hc => ?_
  rintro rfl
  exact absurd (h.chars _ hc) (by decide)

theorem Chain.Written.holds {chain : Chain} {cs : List Char} (h : Chain.Written chain cs) :
    Holds cs [] :=
  .of_unquoted fun c hc => (bare_of_chainChar (h.chars c hc)).2

theorem Block.Written.holds {chains : List Chain} {body : List Char} (h : Block.Written chains body) :
    Holds body [] := by
  have hchains := Holds.listed (f := fun _ => []) (fun _ _ hc => Chain.Written.holds hc) h
  rwa [List.flatMap_eq_nil_iff.mpr fun _ _ => rfl] at hchains

theorem Predicate.Written.holds {p : Predicate} {cs : List Char} (h : p.Written cs) :
    Holds cs [p.state] := by
  have hequals : Holds ['=', '='] [] := .of_marks (by decide)
  have hdiffers : Holds ['!', '='] [] := .of_marks (by decide)
  cases h with
  | equals hn hs => exact hn.holds.append (hequals.append (.of_quoted hs))
  | differs hn hs => exact hn.holds.append (hdiffers.append (.of_quoted hs))

theorem Condition.Written.holds {c : Condition} {cs : List Char} (h : c.Written cs) :
    Holds cs c.states := by
  have joined {sep cs : List Char} {ps : List Predicate} (hsep : ∀ c ∈ sep, c ≠ '"')
      (h : Separated sep Predicate.Written ps cs) : Holds cs (ps.map (·.state)) := by
    have hps := Holds.separated (.of_unquoted hsep) (fun _ _ hp => Predicate.Written.holds hp) h
    rwa [← List.map_eq_flatMap] at hps
  cases h with
  | all h => exact joined (forall_mem_of_all (by decide)) h
  | any h _ => exact joined (forall_mem_of_all (by decide)) h

theorem GuardedBlock.Written.holds {b : GuardedBlock} {cs : List Char} (h : b.Written cs) :
    Holds cs b.condition.states := by
  obtain ⟨hc, hb⟩ := h
  have hopen : Holds [')', '\x7b'] [] := .of_marks (by decide)
  have hclose : Holds ['\x7d'] [] := .of_marks (by decide)
  exact hc.holds.append_bare (hopen.append (hb.holds.append hclose))

theorem Alternatives.Written.holds {bs : List GuardedBlock} {o : Option (List Chain)} {cs : List Char}
    (h : Alternatives.Written bs o cs) : Holds cs (bs.flatMap (·.condition.states)) := by
  induction h with
  | none => exact .nil
  | otherwise hb =>
    have hopen : Holds ['e', 'l', 's', 'e', '\x7b'] [] := .of_marks (by decide)
    have hclose : Holds ['\x7d'] [] := .of_marks (by decide)
    exact hopen.append (hb.holds.append hclose)
  | elseIf hb _ ih =>
    have hkeyword : Holds ['e', 'l', 's', 'e', 'i', 'f', '('] [] := .of_marks (by decide)
    rw [List.flatMap_cons]
    exact hkeyword.append (hb.holds.append ih)

theorem Clause.Written.holds {clause : Clause} {cs : List Char} (h : clause.Written cs) :
    Holds cs clause.guardStates := by
  cases h with
  | chain h => exact h.holds
  | conditional hb hr =>
    have hkeyword : Holds ['i', 'f', '('] [] := .of_marks (by decide)
    exact hkeyword.append (hb.holds.append hr.holds)

namespace Composition

variable {owner : Name}

/-! ## Instructions -/

theorem states_branchesOf (first : Nat) (bs : List GuardedBlock) :
    (branchesOf owner first bs).flatMap (·.condition.states) = bs.flatMap (·.condition.states) := by
  induction bs generalizing first with
  | nil => rfl
  | cons b bs ih =>
    rw [branchesOf, List.flatMap_cons]
    exact congrArg (b.condition.states ++ ·) (ih _)

/-- The instruction of a clause has its guards, also where the owner has no statements. -/
theorem guardStates_instructionOf (first : Nat) (clause : Clause) :
    (instructionOf owner first clause).guardStates = clause.guardStates := by
  cases clause with
  | chain chain => rfl
  | conditional bs o => exact states_branchesOf first bs

/-- An instruction that is left out has no guards. -/
theorem guardStates_of_isVacant {i : Instruction} (h : isVacant i = true) : i.guardStates = [] := by
  unfold isVacant at h
  split at h
  · rfl
  · cases h

theorem guardStates_instructionsOf (first : Nat) (clauses : List Clause) :
    (instructionsOf owner first clauses).flatMap (·.guardStates) =
      clauses.flatMap (·.guardStates) := by
  induction clauses generalizing first with
  | nil => rfl
  | cons clause clauses ih =>
    rw [List.flatMap_cons, ← guardStates_instructionOf first clause]
    unfold instructionsOf
    simp only
    split
    · rename_i hvacant
      rw [ih, guardStates_of_isVacant hvacant, List.nil_append]
    · rw [List.flatMap_cons, ih]

/-- **Literals are kept as they are**: the guards of a compiled composition compare with the texts between
the quotes of the raw text, white space included. -/
theorem guardStates_of_compile {text : String} {c : Composition} (h : compile text owner = .ok c) :
    c.guardStates = literals text.toList := by
  obtain ⟨clauses, hw, -, -, rfl⟩ := compile_eq_ok h
  have hclauses := Holds.listed (fun _ _ hc => Clause.Written.holds hc) hw
  rw [← literals_unspaced, hclauses.eq]
  exact guardStates_instructionsOf 0 clauses

end Composition

end ServiceFlow
