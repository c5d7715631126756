import ServiceFlow.Json.Reader

/-!
# The texts that are put around a text

An engine that adds a text before and after its input is configured by JSON: an object with the
members `prefix` and `suffix`, each a string or null and both optional, or an array of the two. Other
members are passed over; one of the two may not be repeated.
-/

namespace ServiceFlow

open Json

/-- What is put before and after a text. -/
structure Affixes where
  before : Option String
  after : Option String
deriving DecidableEq, Repr

namespace Affixes

/-- Puts the texts around another. -/
def around (a : Affixes) (s : String) : String := a.before.getD "" ++ s ++ a.after.getD ""

/-- A string or null. -/
def readOptional (bs : Bytes) : Option (Option String × Bytes) :=
  match skipBlanks bs with
  | [] => none
  | b :: r =>
    if b == byte 'n' then (skipWord "ull" r).map fun r => (none, r)
    else if b == byte '"' then (readString r).map fun (s, r) => (some s, r)
    else none

/-- The members that have been read; a member that was null is there, too. -/
structure Members where
  before : Option (Option String)
  after : Option (Option String)

/-- Takes one byte after blanks. -/
def expect (c : Char) (bs : Bytes) : Option Bytes :=
  match skipBlanks bs with
  | [] => none
  | b :: r => if b == byte c then some r else none

/-- One member. -/
def readMember (m : Members) (bs : Bytes) : Option (Members × Bytes) := do
  let r ← expect '"' bs
  let (key, r) ← readString r
  let r ← expect ':' r
  if key = "prefix" then
    if m.before.isSome then none
    else do
      let (v, r) ← readOptional r
      return ({ m with before := some v }, r)
  else if key = "suffix" then
    if m.after.isSome then none
    else do
      let (v, r) ← readOptional r
      return ({ m with after := some v }, r)
  else do
    let r ← skipValue (depthBound r) r
    return (m, r)

/-- The members up to the closing brace; there is at least one. -/
def readMembers : Nat → Members → Bytes → Option (Members × Bytes)
  | 0, _, _ => none
  | fuel + 1, m, bs => do
    let (m, r) ← readMember m bs
    match skipBlanks r with
    | [] => none
    | c :: r =>
      if c == byte '\x7d' then some (m, r)
      else if c == byte ',' then readMembers fuel m r
      else none

/-- An object whose opening brace has been read. -/
def readObject (bs : Bytes) : Option (Affixes × Bytes) :=
  match skipBlanks bs with
  | [] => none
  | c :: r =>
    if c == byte '\x7d' then some (⟨none, none⟩, r)
    else do
      let (m, r) ← readMembers (bs.length + 1) ⟨none, none⟩ bs
      return (⟨m.before.getD none, m.after.getD none⟩, r)

/-- An array whose opening bracket has been read. -/
def readPair (bs : Bytes) : Option (Affixes × Bytes) := do
  let (before, r) ← readOptional bs
  let r ← expect ',' r
  let (after, r) ← readOptional r
  let r ← expect ']' r
  return (⟨before, after⟩, r)

/-- The texts that a configuration gives. -/
def read? (bs : Bytes) : Option Affixes := do
  let (a, r) ←
    match skipBlanks bs with
    | [] => none
    | c :: r =>
      if c == byte '\x7b' then readObject r
      else if c == byte '[' then readPair r
      else none
  if (skipBlanks r).isEmpty then some a else none

end Affixes

end ServiceFlow
