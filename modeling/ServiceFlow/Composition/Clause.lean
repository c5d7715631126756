import ServiceFlow.Composition.Tokens

/-!
# Clauses of compositions

A composition is a sequence of clauses, each a chain of terms or a conditional.

    composition ::= clause (';' clause)*
    clause      ::= chain | conditional
    chain       ::= term ('+' term)*
    conditional ::= 'if' '(' condition ')' '\x7b' block '\x7d'
                    ('elseif' '(' condition ')' '\x7b' block '\x7d')*
                    ('else' '\x7b' block '\x7d')?
    block       ::= chain (';' chain)*
    condition   ::= predicate (('&&' | '||') predicate)*
    predicate   ::= name ('==' | '!=') '"' literal '"'
    term        ::= '&'? name (',' name)*

Empty clauses and chains are passed over. White space outside literals does not count, and a
condition joins its predicates by one of the two operators.

* `Composition.readClauses` reads a whole composition. It is given a test that may refuse a chain, which is
  applied to each chain as soon as the chain has been read: which of several faults is reported
  depends on the order in which the text is gone through.
* `Predicate.holds`, `Condition.holds` say when a guard holds, given the states that services have
  reported.
-/

namespace ServiceFlow

open Text

/-! ## Guards -/

/-- How a state is compared. -/
inductive Comparison where
  | equals
  | differs
deriving DecidableEq, Repr

/-- A comparison of the state of a service with a literal. -/
structure Predicate where
  service : Name
  comparison : Comparison
  state : String
deriving DecidableEq, Repr

/-- A service that has reported nothing differs from every literal. -/
def Predicate.holds (p : Predicate) (observed : Option String) : Bool :=
  match p.comparison with
  | .equals => observed == some p.state
  | .differs => observed != some p.state

/-- How the predicates of a condition are joined. -/
inductive Junction where
  | all
  | any
deriving DecidableEq, Repr

/-- The guard of a block. -/
structure Condition where
  junction : Junction
  predicates : List Predicate
deriving DecidableEq, Repr

/-- The condition holds for the states that `stateOf` gives. -/
def Condition.holds (c : Condition) (stateOf : Name → Option String) : Bool :=
  match c.junction with
  | .all => c.predicates.all fun p => p.holds (stateOf p.service)
  | .any => c.predicates.any fun p => p.holds (stateOf p.service)

/-! ## Chains and clauses -/

/-- A position of a chain: the services there, and whether each waits for all its inputs. -/
structure Term where
  awaitsAll : Bool
  names : List Name
deriving DecidableEq, Repr

/-- Terms in the order in which data passes through them. -/
abbrev Chain := List Term

/-- A block with its guard. -/
structure GuardedBlock where
  condition : Condition
  chains : List Chain
deriving DecidableEq, Repr

/-- A clause of a composition. -/
inductive Clause where
  | chain (chain : Chain)
  | conditional (blocks : List GuardedBlock) (otherwise : Option (List Chain))
deriving DecidableEq, Repr

/-- The chains of a clause in the order of the text. -/
def Clause.chains : Clause → List Chain
  | .chain c => [c]
  | .conditional blocks otherwise => blocks.flatMap (·.chains) ++ otherwise.getD []

namespace Composition

/-! ## Reading chains -/

/-- A name in a term. -/
def readService (cs : List Char) : Except CompositionFault Name :=
  match Name.parseService (String.ofList cs) with
  | .ok n => .ok n
  | .error e => .error (.serviceName e)

/-- A term: services separated by commas, after an optional `&`. -/
def readTerm (cs : List Char) : Except CompositionFault Term :=
  match cs with
  | [] => .error .emptyTerm
  | '&' :: cs => do return ⟨true, ← (splitAll ',' cs).mapM readService⟩
  | cs => do return ⟨false, ← (splitAll ',' cs).mapM readService⟩

/-- The text begins a conditional. -/
def startsGuarded (cs : List Char) : Bool := ['i', 'f', '('].isPrefixOf cs

/-- A chain: terms separated by `+`. -/
def readChain (cs : List Char) : Except CompositionFault Chain :=
  if startsGuarded cs || cs.any fun c => ['\x7b', '\x7d', '(', ')'].contains c then
    .error (.blockInChain (String.ofList cs))
  else (splitAll '+' cs).mapM readTerm

/-- A chain that passes the test. -/
def readChainWith (refuse : Chain → Option CompositionFault) (cs : List Char) :
    Except CompositionFault Chain := do
  let chain ← readChain cs
  match refuse chain with
  | some fault => throw fault
  | none => return chain

/-- The chains of a block. -/
def readBlock (refuse : Chain → Option CompositionFault) (cs : List Char) :
    Except CompositionFault (List Chain) :=
  ((splitAll ';' cs).filter fun part => !part.isEmpty).mapM (readChainWith refuse)

/-! ## Reading conditions -/

/-- The state in a literal, which is quoted and holds no quote. -/
def readState (cs : List Char) : Except CompositionFault String :=
  match cs with
  | '"' :: rest =>
    match rest.reverse with
    | '"' :: content =>
      if content.contains '"' then .error (.stateNotQuoted (String.ofList cs))
      else .ok (String.ofList content.reverse)
    | _ => .error (.stateNotQuoted (String.ofList cs))
  | _ => .error (.stateNotQuoted (String.ofList cs))

/-- A predicate whose comparison has been found. -/
def readCompared (comparison : Comparison) (service literal : List Char) :
    Except CompositionFault Predicate := do
  let state ← readState literal
  match Name.parseService (String.ofList service) with
  | .ok n => return ⟨n, comparison, state⟩
  | .error e => throw (.guardService e)

/-- A predicate; `==` is looked for before `!=`. -/
def readPredicate (cs : List Char) : Except CompositionFault Predicate :=
  match cutFirstPair? '=' '=' false cs with
  | some (service, literal) => readCompared .equals service literal
  | none =>
    match cutFirstPair? '!' '=' false cs with
    | some (service, literal) => readCompared .differs service literal
    | none => .error (.noComparison (String.ofList cs))

/-- A condition: predicates joined by one operator. -/
def readCondition (cs : List Char) : Except CompositionFault Condition :=
  let all := cutPairs '&' '&' false cs
  let any := cutPairs '|' '|' false cs
  if 1 < all.length && 1 < any.length then .error .mixedJunctions
  else if 1 < any.length then do return ⟨.any, ← any.mapM readPredicate⟩
  else do return ⟨.all, ← all.mapM readPredicate⟩

/-! ## Reading clauses -/

/-- A guarded block whose opening `if(` has been read, and what follows it. -/
def readGuarded (refuse : Chain → Option CompositionFault) (cs : List Char) :
    Except CompositionFault (GuardedBlock × List Char) :=
  match readEnclosed '(' ')' cs with
  | .error e => .error e
  | .ok (guard, rest) =>
    match readCondition guard with
    | .error e => .error e
    | .ok condition =>
      match rest with
      | '\x7b' :: rest =>
        match readEnclosed '\x7b' '\x7d' rest with
        | .error e => .error e
        | .ok (body, rest) =>
          match readBlock refuse body with
          | .error e => .error e
          | .ok chains => .ok (⟨condition, chains⟩, rest)
      | _ => .error .noBlock

theorem length_readGuarded {refuse : Chain → Option CompositionFault} {cs rest : List Char}
    {block : GuardedBlock} (h : readGuarded refuse cs = .ok (block, rest)) :
    rest.length < cs.length := by
  rw [readGuarded] at h
  split at h
  · cases h
  · next guard r1 h1 =>
    split at h
    · cases h
    · split at h
      · split at h
        · cases h
        · next body r2 h2 =>
          split at h
          · cases h
          · cases h
            have e1 := congrArg List.length (readEnclosed_eq h1)
            have e2 := congrArg List.length (readEnclosed_eq h2)
            simp only [List.length_append, List.length_cons] at e1 e2
            omega
      · cases h

/-- The `else` block of a conditional, which ends its clause. -/
def readElse (refuse : Chain → Option CompositionFault) (cs : List Char) :
    Except CompositionFault (List Chain) := do
  let (body, rest) ← readEnclosed '\x7b' '\x7d' cs
  let chains ← readBlock refuse body
  if rest.isEmpty then return chains else throw (.afterElse (String.ofList rest))

/-- What may follow a guarded block: further ones, and at last an `else` block. -/
def readAlternatives (refuse : Chain → Option CompositionFault) (cs : List Char) :
    Except CompositionFault (List GuardedBlock × Option (List Chain)) :=
  if cs.isEmpty then .ok ([], none)
  else
    match _hif : after? ['e', 'l', 's', 'e', 'i', 'f', '('] cs with
    | some after =>
      match _hb : readGuarded refuse after with
      | .error e => .error e
      | .ok (block, rest) =>
        match readAlternatives refuse rest with
        | .error e => .error e
        | .ok (blocks, otherwise) => .ok (block :: blocks, otherwise)
    | none =>
      match after? ['e', 'l', 's', 'e', '\x7b'] cs with
      | some after =>
        match readElse refuse after with
        | .error e => .error e
        | .ok chains => .ok ([], some chains)
      | none => .error (.stray (String.ofList cs))
termination_by cs.length
decreasing_by
  have h1 := congrArg List.length (after?_eq_some.1 _hif)
  have h2 := length_readGuarded _hb
  simp only [List.length_append] at h1
  omega

/-- A clause; one that begins with `if(` is a conditional. -/
def readClause (refuse : Chain → Option CompositionFault) (cs : List Char) :
    Except CompositionFault Clause :=
  match after? ['i', 'f', '('] cs with
  | some after => do
    let (block, rest) ← readGuarded refuse after
    let (blocks, otherwise) ← readAlternatives refuse rest
    return .conditional (block :: blocks) otherwise
  | none => do return .chain (← readChainWith refuse cs)

/-- The texts of the clauses that are not empty. -/
def clauseTexts (text : String) : Except CompositionFault (List (List Char)) := do
  let cs ← stripBlanks text.toList
  let parts ← splitClauses cs
  return parts.filter fun part => !part.isEmpty

/-- The clauses of a composition, each of its chains passing the test. -/
def readClauses (refuse : Chain → Option CompositionFault) (text : String) :
    Except CompositionFault (List Clause) := do
  (← clauseTexts text).mapM (readClause refuse)

end Composition

end ServiceFlow
