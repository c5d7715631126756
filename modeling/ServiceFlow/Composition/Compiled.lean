import ServiceFlow.Composition.Clause
import ServiceFlow.Name.Set

/-!
# Compositions as one service sees them

Compiling a composition for a service, its owner, keeps of each chain the places where the owner
stands: the services of the term before it, from which its input may come, and of the term after it,
to which its output goes. Each such place is a `Statement`; places of one chain that agree are one
statement.

* `Composition.compile` reads the text and gives the statements, in instructions that follow the
  clauses. Statements are numbered through the whole composition in the order of the text.
* `Instruction.select` is the list of statements active under the reported states.
* `Composition.accepts` says which senders start a plain statement. One that heads its chain starts
  only for senders from outside the composition: in `S1+S3+S1` what `S3` sends back ends at the last
  place and does not start the chain again.
* `entryServices` are the services that a request is first sent to.
-/

namespace ServiceFlow

/-! ## Statements and instructions -/

/-- Where the owner stands in a chain: the terms before and after it. -/
structure Position where
  inputs : NameSet
  outputs : NameSet
  awaitsAll : Bool
deriving DecidableEq

/-- A position of the owner with the number that identifies it in its composition. -/
structure Statement extends Position where
  id : Nat
deriving DecidableEq

namespace Statement

/-- The owner heads the chain. -/
def isHead (s : Statement) : Bool := s.inputs.isEmpty

/-- The services that all have to deliver before the statement fires, if it waits for all. -/
def group? (s : Statement) : Option NameSet := if s.awaitsAll then some s.inputs else none

end Statement

/-- The statements of a guarded block. -/
structure Branch where
  condition : Condition
  statements : List Statement
deriving DecidableEq

/-- A clause, as it concerns the owner. -/
inductive Instruction where
  | unconditional (statements : List Statement)
  | conditional (branches : List Branch) (otherwise : Option (List Statement))
deriving DecidableEq

namespace Instruction

/-- All statements, whatever their guards. -/
def statements : Instruction → List Statement
  | .unconditional ss => ss
  | .conditional branches otherwise => branches.flatMap (·.statements) ++ otherwise.getD []

/-- The active statements: those of the first branch whose guard holds, else those of the `else`
block, if there is one. -/
def select (stateOf : Name → Option String) : Instruction → Option (List Statement)
  | .unconditional ss => some ss
  | .conditional branches otherwise =>
    match branches.find? fun b => b.condition.holds stateOf with
    | some b => some b.statements
    | none => otherwise

end Instruction

/-- A composition compiled for its owner. -/
structure Composition where
  text : String
  owner : Name
  instructions : List Instruction
  participants : NameSet
deriving DecidableEq

namespace Composition

/-- All statements in the order of their numbers. -/
def statements (c : Composition) : List Statement := c.instructions.flatMap (·.statements)

/-- The statements active under the reported states. -/
def selected (c : Composition) (stateOf : Name → Option String) : List Statement :=
  c.instructions.flatMap fun i => (i.select stateOf).getD []

/-- A message from `sender` may start the plain statement `s`. -/
def accepts (c : Composition) (s : Statement) (sender : Name) : Bool :=
  if s.isHead then decide (sender ∉ c.participants) else decide (sender ∈ s.inputs)

/-- Some statement waits for all its inputs. -/
def hasGroups (c : Composition) : Bool := c.statements.any (·.awaitsAll)

/-! ## Positions of the owner -/

/-- The services of the first term of a chain. -/
def headNames : Chain → NameSet
  | [] => ∅
  | t :: _ => NameSet.ofList t.names

/-- Where `owner` stands in a chain that follows a term with the services `before`. -/
def positionsAfter (owner : Name) (before : NameSet) : Chain → List Position
  | [] => []
  | t :: ts =>
    let rest := positionsAfter owner (NameSet.ofList t.names) ts
    if owner ∈ t.names then ⟨before, headNames ts, t.awaitsAll⟩ :: rest else rest

/-- Where `owner` stands in a chain; of positions that agree the first is kept. -/
def positions (owner : Name) (chain : Chain) : List Position :=
  (positionsAfter owner ∅ chain).eraseDups

/-- The owner may not wait at the head of a chain, where nothing arrives. -/
def refuseWaitingHead (owner : Name) : Chain → Option CompositionFault
  | [] => none
  | t :: _ => if t.awaitsAll && t.names.contains owner then some (.headWaits owner) else none

/-! ## Numbering -/

/-- Positions as statements numbered from `first` on. -/
def numberFrom (first : Nat) : List Position → List Statement
  | [] => []
  | p :: ps => ⟨p, first⟩ :: numberFrom (first + 1) ps

/-- The statements of a list of chains. -/
def statementsOf (owner : Name) (first : Nat) (chains : List Chain) : List Statement :=
  numberFrom first (chains.flatMap (positions owner))

/-- The branches of a list of blocks. -/
def branchesOf (owner : Name) (first : Nat) : List GuardedBlock → List Branch
  | [] => []
  | b :: bs =>
    let ss := statementsOf owner first b.chains
    ⟨b.condition, ss⟩ :: branchesOf owner (first + ss.length) bs

/-- The instruction of a clause. -/
def instructionOf (owner : Name) (first : Nat) : Clause → Instruction
  | .chain chain => .unconditional (statementsOf owner first [chain])
  | .conditional blocks otherwise =>
    let branches := branchesOf owner first blocks
    let count := (branches.flatMap (·.statements)).length
    .conditional branches (otherwise.map (statementsOf owner (first + count)))

/-- A chain that the owner has no place in; it leaves no instruction. -/
def isVacant : Instruction → Bool
  | .unconditional [] => true
  | _ => false

/-- The instructions of a list of clauses. -/
def instructionsOf (owner : Name) (first : Nat) : List Clause → List Instruction
  | [] => []
  | c :: cs =>
    let i := instructionOf owner first c
    let rest := instructionsOf owner (first + i.statements.length) cs
    if isVacant i then rest else i :: rest

/-- The services named in the chains of a list of clauses. -/
def namesOf (clauses : List Clause) : List Name :=
  clauses.flatMap fun c => c.chains.flatMap fun chain => chain.flatMap (·.names)

/-! ## Compiling -/

/-- The composition as `owner` sees it. -/
def compile (text : String) (owner : Name) : Except CompositionError Composition :=
  match readClauses (refuseWaitingHead owner) text with
  | .error fault => .error (.malformed text fault)
  | .ok clauses =>
    let instructions := instructionsOf owner 0 clauses
    if instructions.all fun i => i.statements.isEmpty then
      .error (.ownerNotFound owner.text text)
    else .ok ⟨text, owner, instructions, NameSet.ofList (namesOf clauses)⟩

/-- The services of the first term of the first clause of a text. -/
def readEntry (text : String) : Except CompositionFault (List Name) := do
  match ← clauseTexts text with
  | [] => throw .emptyComposition
  | first :: _ =>
    if startsGuarded first then throw .guardedStart
    let term ← readTerm (first.takeWhile (· ≠ '+'))
    return term.names

/-- The services that a request with this composition is first sent to. -/
def entryServices (text : String) : Except CompositionError (List Name) :=
  match readEntry text with
  | .error fault => .error (.malformed text fault)
  | .ok names => .ok names

end Composition

end ServiceFlow
