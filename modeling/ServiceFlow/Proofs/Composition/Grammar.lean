import ServiceFlow.Composition.Clause

/-!
# The grammar of compositions as a relation

What it means that a text is written for a composition, said without the reader: one constructor
for each production of the grammar in `Composition/Clause.lean`. Names are the only tokens whose
spelling is taken from elsewhere (`Name.parseService`), since the same name may be spelled with or
without its default port.

* `Separated` and `Listed` are the two kinds of lists: items with a separator between each two, and
  items between `;` where nothing at all may stand as well.
* `Chain.Written`, `Condition.Written`, `Clause.Written` relate each part of a composition to its
  texts, from which all white space outside literals has been taken (`unspaced`).
* `Composition.Written` relates the clauses of a composition to its raw text.

A `+` may stand in the port of a name (`h%+7771_java:c:S`), so a name in a guard may hold one while
a name in a chain may not; a condition of a single predicate counts as a conjunction.
-/

namespace ServiceFlow

/-! ## Lists -/

namespace Composition

/-- The text spells the items in order, with `sep` between each two of them. -/
inductive Separated {α : Type} (sep : List Char) (Spells : α → List Char → Prop) :
    List α → List Char → Prop
  | one {x : α} {cs : List Char} (hx : Spells x cs) : Separated sep Spells [x] cs
  | more {x : α} {xs : List α} {cs rest : List Char} (hx : Spells x cs)
      (hxs : Separated sep Spells xs rest) : Separated sep Spells (x :: xs) (cs ++ sep ++ rest)

/-- The text spells the items in order, each ended by `;` or the end of the text; a `;` may also
stand where no item ends. -/
inductive Listed {α : Type} (Spells : α → List Char → Prop) : List α → List Char → Prop
  | nil : Listed Spells [] []
  | one {x : α} {cs : List Char} (hx : Spells x cs) : Listed Spells [x] cs
  | skip {xs : List α} {rest : List Char} (hxs : Listed Spells xs rest) :
      Listed Spells xs (';' :: rest)
  | cons {x : α} {xs : List α} {cs rest : List Char} (hx : Spells x cs)
      (hxs : Listed Spells xs rest) : Listed Spells (x :: xs) (cs ++ ';' :: rest)

end Composition

open ServiceFlow.Composition

/-! ## Chains -/

/-- The text is a spelling of the name of a service. -/
def Name.Spelled (n : Name) (cs : List Char) : Prop :=
  Name.parseService (String.ofList cs) = .ok n

/-- The text is a spelling of the name of a service that may stand in a chain. -/
def Name.SpelledInChain (n : Name) (cs : List Char) : Prop := n.Spelled cs ∧ '+' ∉ cs

/-- A term: names separated by `,`, after a `&` if it waits for all its inputs. -/
inductive Term.Written : Term → List Char → Prop
  | plain {ns : List Name} {cs : List Char} (h : Separated [','] Name.SpelledInChain ns cs) :
      Term.Written ⟨false, ns⟩ cs
  | marked {ns : List Name} {cs : List Char} (h : Separated [','] Name.SpelledInChain ns cs) :
      Term.Written ⟨true, ns⟩ ('&' :: cs)

/-- A chain: terms separated by `+`. -/
def Chain.Written (chain : Chain) (cs : List Char) : Prop := Separated ['+'] Term.Written chain cs

/-- A block: chains separated by `;`, of which any may be empty. -/
def Block.Written (chains : List Chain) (cs : List Char) : Prop := Listed Chain.Written chains cs

/-! ## Guards -/

/-- A quoted literal. -/
def quoted (state : String) : List Char := '"' :: (state.toList ++ ['"'])

/-- A predicate: a name, `==` or `!=`, and a literal without quotes in it. -/
inductive Predicate.Written : Predicate → List Char → Prop
  | equals {n : Name} {cs : List Char} {state : String} (hn : n.Spelled cs)
      (hs : '"' ∉ state.toList) :
      Predicate.Written ⟨n, .equals, state⟩ (cs ++ '=' :: '=' :: quoted state)
  | differs {n : Name} {cs : List Char} {state : String} (hn : n.Spelled cs)
      (hs : '"' ∉ state.toList) :
      Predicate.Written ⟨n, .differs, state⟩ (cs ++ '!' :: '=' :: quoted state)

/-- A condition: predicates all joined by `&&`, or all by `||`. -/
inductive Condition.Written : Condition → List Char → Prop
  | all {ps : List Predicate} {cs : List Char} (h : Separated ['&', '&'] Predicate.Written ps cs) :
      Condition.Written ⟨.all, ps⟩ cs
  | any {ps : List Predicate} {cs : List Char} (h : Separated ['|', '|'] Predicate.Written ps cs)
      (hl : 1 < ps.length) : Condition.Written ⟨.any, ps⟩ cs

/-! ## Clauses -/

/-- A guarded block after its keyword and opening parenthesis. -/
inductive GuardedBlock.Written : GuardedBlock → List Char → Prop
  | mk {c : Condition} {chains : List Chain} {guard body : List Char} (hc : c.Written guard)
      (hb : Block.Written chains body) :
      GuardedBlock.Written ⟨c, chains⟩ (guard ++ ')' :: '\x7b' :: (body ++ ['\x7d']))

/-- What may follow a guarded block: `elseif` blocks, and at last an `else` block. -/
inductive Alternatives.Written : List GuardedBlock → Option (List Chain) → List Char → Prop
  | none : Alternatives.Written [] none []
  | otherwise {chains : List Chain} {body : List Char} (hb : Block.Written chains body) :
      Alternatives.Written [] (some chains)
        (['e', 'l', 's', 'e', '\x7b'] ++ (body ++ ['\x7d']))
  | elseIf {b : GuardedBlock} {bs : List GuardedBlock} {o : Option (List Chain)}
      {cs rest : List Char} (hb : b.Written cs) (hr : Alternatives.Written bs o rest) :
      Alternatives.Written (b :: bs) o (['e', 'l', 's', 'e', 'i', 'f', '('] ++ (cs ++ rest))

/-- A clause: a chain, or a conditional. -/
inductive Clause.Written : Clause → List Char → Prop
  | chain {c : Chain} {cs : List Char} (h : Chain.Written c cs) : Clause.Written (.chain c) cs
  | conditional {b : GuardedBlock} {bs : List GuardedBlock} {o : Option (List Chain)}
      {cs rest : List Char} (hb : b.Written cs) (hr : Alternatives.Written bs o rest) :
      Clause.Written (.conditional (b :: bs) o) (['i', 'f', '('] ++ (cs ++ rest))

/-! ## Compositions -/

namespace Composition

/-- The text without the white space outside literals; `quoted` says whether a literal is open. -/
def unspaced (quoted : Bool) : List Char → List Char
  | [] => []
  | c :: cs =>
    if c = '"' then c :: unspaced (!quoted) cs
    else if !quoted && Text.isWhite c then unspaced quoted cs
    else c :: unspaced quoted cs

/-- **The text is written for the clauses**: without its white space outside literals it spells
them in order, separated by `;`. -/
def Written (text : String) (clauses : List Clause) : Prop :=
  Listed Clause.Written clauses (unspaced false text.toList)

end Composition

end ServiceFlow
