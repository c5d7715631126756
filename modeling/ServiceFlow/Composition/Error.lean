import ServiceFlow.Name.Text

/-!
# Faults of compositions

A composition is refused for a fault of its text, or because the service it is compiled for does not
appear in it. Each fault keeps what its wording shows.
-/

namespace ServiceFlow

/-- What is wrong with the text of a composition. -/
inductive CompositionFault where
  | blankInName (byte : Nat)
  | openLiteral
  | unbalancedClose
  | unbalancedOpen
  | emptyTerm
  | serviceName (cause : NameError)
  | blockInChain (chain : String)
  | headWaits (owner : Name)
  | missing (close : Char)
  | nested (opening : Char)
  | noBlock
  | mixedJunctions
  | noComparison (predicate : String)
  | stateNotQuoted (literal : String)
  | guardService (cause : NameError)
  | afterElse (rest : String)
  | stray (rest : String)
  | emptyComposition
  | guardedStart
deriving DecidableEq, Repr

/-- The wording of each fault. -/
def CompositionFault.message : CompositionFault → String
  | .blankInName byte => s!"whitespace inside a name at byte {byte}"
  | .openLiteral => "unterminated string literal"
  | .unbalancedClose => "unbalanced '\x7d'"
  | .unbalancedOpen => "unbalanced '\x7b'"
  | .emptyTerm => "empty term in chain"
  | .serviceName cause => "invalid service name: " ++ cause.message
  | .blockInChain chain => s!"unexpected block in chain '{chain}'"
  | .headWaits owner => "'&" ++ owner.text ++ "' heads its chain and has nothing to wait for"
  | .missing close => "missing '" ++ close.toString ++ "'"
  | .nested opening => "nested '" ++ opening.toString ++ "' is not allowed"
  | .noBlock => "expected '\x7b' after condition"
  | .mixedJunctions => "a condition cannot mix '&&' and '||'"
  | .noComparison predicate => s!"'{predicate}' is not a state comparison"
  | .stateNotQuoted literal => s!"state '{literal}' must be a quoted literal"
  | .guardService cause => "invalid service in condition: " ++ cause.message
  | .afterElse rest => s!"unexpected '{rest}' after else block"
  | .stray rest => s!"unexpected '{rest}' in conditional clause"
  | .emptyComposition => "composition is empty"
  | .guardedStart => "composition cannot start with a condition"

/-- Why a composition is refused. -/
inductive CompositionError where
  | malformed (composition : String) (fault : CompositionFault)
  | ownerNotFound (owner composition : String)
deriving DecidableEq, Repr

/-- The wording of a refusal. -/
def CompositionError.message : CompositionError → String
  | .malformed composition fault => "invalid composition '" ++ composition ++ "': " ++ fault.message
  | .ownerNotFound owner composition =>
    s!"service '{owner}' does not appear in composition '{composition}'"

end ServiceFlow
