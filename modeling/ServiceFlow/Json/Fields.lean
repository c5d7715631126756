import ServiceFlow.Json.Basic

/-!
# Reading members of JSON objects

Short ways to read members that may be missing: a member that is missing, null or of another kind than
asked for reads as nothing.
-/

namespace ServiceFlow

namespace Json

/-- The member of a key, null if there is none. -/
def get (j : Json) (key : String) : Json := (j.member? key).getD .null

/-- A string. -/
def asString? : Json → Option String
  | .str s => some s
  | _ => none

/-- An integer. -/
def asInt? : Json → Option Int
  | .int n => some n
  | _ => none

/-- The items of an array, none if it is no array. -/
def items : Json → List Json
  | .arr l => l
  | _ => []

/-- The members of an object, none if it is no object. -/
def members : Json → List (String × Json)
  | .obj l => l
  | _ => []

/-- The value is `true`. -/
def isTrue : Json → Bool
  | .bool b => b
  | _ => false

/-- The value is `false`. -/
def isFalse : Json → Bool
  | .bool b => !b
  | _ => false

/-- A member that is a string. -/
def string? (j : Json) (key : String) : Option String := (j.get key).asString?

/-- A member that is a string, with a default. -/
def string (j : Json) (key : String) (default : String := "") : String := (j.string? key).getD default

/-- A member that is an integer, 0 if it is none. -/
def integer (j : Json) (key : String) : Int := (j.get key).asInt?.getD 0

/-- A member that is a natural number. -/
def nat? (j : Json) (key : String) : Option Nat := (j.get key).asInt?.map Int.toNat

/-- A member that is a natural number, with a default. -/
def nat (j : Json) (key : String) (default : Nat := 0) : Nat := (j.nat? key).getD default

/-- The items of a member that is an array. -/
def list (j : Json) (key : String) : List Json := (j.get key).items

/-- The strings in a member that is an array. -/
def strings (j : Json) (key : String) : List String := (j.list key).filterMap asString?

/-- What is there, or null. -/
def optional {α : Type} (f : α → Json) : Option α → Json
  | none => .null
  | some a => f a

/-- A list of numbers as an array. -/
def ofNats (ns : List Nat) : Json := .arr (ns.map fun n : Nat => .int n)

end Json

end ServiceFlow
