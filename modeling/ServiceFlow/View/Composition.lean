import ServiceFlow.Composition.Compiled
import ServiceFlow.Json.Fields
import ServiceFlow.Topic

/-!
# Names and compositions as JSON

How names and compiled compositions show themselves to tools: names as their texts, sets of names in
their order.
-/

namespace ServiceFlow

/-- A name as its text. -/
def Name.toJson (n : Name) : Json := .str n.text

/-- Names as their texts. -/
def Json.ofNames (names : List Name) : Json := .arr (names.map Name.toJson)

/-- A set of names in its order. -/
def NameSet.toJson (s : NameSet) : Json := .ofNames s.toList

/-- The word for a level of names. -/
def NameKind.word : NameKind → String
  | .dpe => "dpe"
  | .container => "container"
  | .service => "service"

/-- A name with its parts, its enclosing names and its topics. -/
def Name.describe (n : Name) : Json :=
  .obj [("text", n.toJson), ("kind", .str n.kind.word), ("host", .str n.host),
    ("port", .int n.port.toNat), ("lang", .str n.lang.text),
    ("container", .optional .str n.containerPart?), ("engine", .optional .str n.enginePart?),
    ("dpe", n.dpe.toJson), ("container_name", .optional Name.toJson n.container?),
    ("topic", .str (Topic.ofName n).text), ("control", .str (Topic.control n).text)]

/-- A statement. -/
def Statement.toJson (s : Statement) : Json :=
  .obj [("id", .int s.id), ("in", s.inputs.toJson), ("out", s.outputs.toJson),
    ("and", .optional NameSet.toJson s.group?), ("head", .bool s.isHead)]

/-- A list of statements. -/
def Json.ofStatements (l : List Statement) : Json := .arr (l.map Statement.toJson)

/-- The numbers of statements. -/
def Json.ofIds (l : List Statement) : Json := .ofNats (l.map Statement.id)

/-- A predicate of a guard. -/
def Predicate.toJson (p : Predicate) : Json :=
  .obj [("service", p.service.toJson),
    ("comparison", .str (match p.comparison with
      | .equals => "=="
      | .differs => "!=")),
    ("state", .str p.state)]

/-- A guarded branch. -/
def Branch.toJson (b : Branch) : Json :=
  .obj [("junction", .str (match b.condition.junction with
      | .all => "all"
      | .any => "any")),
    ("predicates", .arr (b.condition.predicates.map Predicate.toJson)),
    ("statements", .ofStatements b.statements)]

/-- An instruction. -/
def Instruction.toJson : Instruction → Json
  | .unconditional l => .obj [("kind", .str "unconditional"), ("statements", .ofStatements l)]
  | .conditional branches otherwise =>
    .obj [("kind", .str "conditional"), ("branches", .arr (branches.map Branch.toJson)),
      ("otherwise", .optional .ofStatements otherwise)]

/-- A compiled composition. -/
def Composition.toJson (c : Composition) : Json :=
  .obj [("owner", c.owner.toJson), ("instructions", .arr (c.instructions.map Instruction.toJson)),
    ("participants", c.participants.toJson), ("has_and", .bool c.hasGroups),
    ("ids", .ofIds c.statements)]

end ServiceFlow
