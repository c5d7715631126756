import ServiceFlow.Engine.Catalog
import ServiceFlow.Table
import ServiceFlow.Text.Quoted

/-!
# Engine types by name

Services are deployed with the name of an engine type. A registry holds, for each name, the engine
that instances of the type start as.
-/

namespace ServiceFlow

/-- The engines that the known types start as. -/
abbrev EngineRegistry (E : Type) := Table String E

namespace EngineRegistry

variable {E : Type}

/-- The type is known. -/
def contains (r : EngineRegistry E) (engineType : String) : Bool := Table.has r engineType

/-- The names of the known types in ascending order. -/
def types (r : EngineRegistry E) : List String :=
  (Table.keys r).mergeSort fun a b => (compare a b).isLE

/-- As many instances of a type as asked for, if the type is known. -/
def instantiate (r : EngineRegistry E) (engineType : String) (count : Nat) : Option (List E) :=
  (Table.get? r engineType).map (List.replicate count)

/-- How a registry shows itself. -/
def display (r : EngineRegistry E) : String :=
  "EngineRegistry \x7b engine_types: " ++ Text.quotedList r.types ++ " \x7d"

/-- The registry of the text engines. -/
def standard : EngineRegistry Engine :=
  [("change_text_case_upper", .changeCase .upper),
   ("change_text_case_lower", .changeCase .lower),
   ("change_text_case_title", .changeCase .title),
   ("reverse_text", .reverse),
   ("token_counter", .countTokens),
   ("text_length_classifier", .classifyLength 16),
   ("prefix_suffix_adder", .addAffixes ⟨none, none⟩)]

end EngineRegistry

end ServiceFlow
