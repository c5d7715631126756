import ServiceFlow.Composition.Error
import ServiceFlow.Text.Blank
import ServiceFlow.Text.Split

/-!
# Blanks, literals and brackets in compositions

The text of a composition is cut in stages, and at each of them a string literal, from one quote to
the next, is left whole.

* `stripBlanks` drops white space outside literals. A gap may stand between any two tokens but not
  inside a name; `else if` is the one pair of words that it joins.
* `splitClauses` cuts at the `;` outside braces and literals, and requires the braces to balance.
* `cutPairs a b` cuts at each operator `ab` outside literals, `cutFirstPair?` at the first.
* `readEnclosed` takes what stands before the closing bracket of an open pair.

Results:
* `readEnclosed_eq`: body, bracket and rest make up the text, so the rest is shorter.
-/

namespace ServiceFlow.Composition

open Text

/-! ## Blanks -/

/-- The characters that stand for themselves wherever they are written without quotes. -/
def marks : List Char := ['+', ',', ';', '&', '(', ')', '\x7b', '\x7d', '=', '!', '|', '"']

/-- A character that can be part of a name or keyword. -/
def isNameChar (c : Char) : Bool := !isWhite c && !marks.contains c

/-- The last character written is part of a name. -/
def endsInName : List Char → Bool
  | [] => false
  | c :: _ => isNameChar c

/-- The text written so far, last character first, ends with the word `else`, and the text to come
begins with `if`. -/
def joinsElseIf (written ahead : List Char) : Bool :=
  ['e', 's', 'l', 'e'].isPrefixOf written && ['i', 'f'].isPrefixOf ahead

/-- Drops white space outside literals. The state is whether a literal is open, whether white space
was just passed, the index of the next byte, and what was kept, last character first. -/
def stripBlanksFrom (quoted gap : Bool) (byte : Nat) (written : List Char) :
    List Char → Except CompositionFault (List Char)
  | [] => if quoted then .error .openLiteral else .ok written.reverse
  | c :: cs =>
    if quoted then stripBlanksFrom (c != '"') gap (byte + c.utf8Size) (c :: written) cs
    else if isWhite c then stripBlanksFrom false true (byte + c.utf8Size) written cs
    else if gap && isNameChar c && endsInName written && !joinsElseIf written (c :: cs) then
      .error (.blankInName byte)
    else stripBlanksFrom (c == '"') false (byte + c.utf8Size) (c :: written) cs

/-- The text without white space outside literals. -/
def stripBlanks (cs : List Char) : Except CompositionFault (List Char) :=
  stripBlanksFrom false false 0 [] cs

/-! ## Clauses -/

/-- The parts between the `;` outside braces and literals, `depth` braces being open. -/
def splitClausesFrom (depth : Nat) (quoted : Bool) :
    List Char → Except CompositionFault (List (List Char))
  | [] => if depth = 0 then .ok [[]] else .error .unbalancedOpen
  | c :: cs =>
    if c = '"' then (splitClausesFrom depth (!quoted) cs).map (consPart c)
    else if quoted then (splitClausesFrom depth quoted cs).map (consPart c)
    else if c = '\x7b' then (splitClausesFrom (depth + 1) quoted cs).map (consPart c)
    else if c = '\x7d' then
      match depth with
      | 0 => .error .unbalancedClose
      | depth + 1 => (splitClausesFrom depth quoted cs).map (consPart c)
    else if c = ';' && depth = 0 then (splitClausesFrom depth quoted cs).map ([] :: ·)
    else (splitClausesFrom depth quoted cs).map (consPart c)

/-- The parts between the `;` outside braces and literals. -/
def splitClauses (cs : List Char) : Except CompositionFault (List (List Char)) :=
  splitClausesFrom 0 false cs

/-! ## Operators of two characters -/

/-- The parts between the operators `ab` outside literals, from the left. -/
def cutPairs (a b : Char) (quoted : Bool) : List Char → List (List Char)
  | [] => [[]]
  | [c] => [[c]]
  | c :: d :: cs =>
    if c = '"' then consPart c (cutPairs a b (!quoted) (d :: cs))
    else if !quoted && c = a && d = b then [] :: cutPairs a b quoted cs
    else consPart c (cutPairs a b quoted (d :: cs))

/-- What stands before and after the first operator `ab` outside literals. -/
def cutFirstPair? (a b : Char) (quoted : Bool) : List Char → Option (List Char × List Char)
  | [] => none
  | [_] => none
  | c :: d :: cs =>
    if c = '"' then
      (cutFirstPair? a b (!quoted) (d :: cs)).map fun (p, r) => (c :: p, r)
    else if !quoted && c = a && d = b then some ([], cs)
    else (cutFirstPair? a b quoted (d :: cs)).map fun (p, r) => (c :: p, r)

/-! ## Brackets -/

/-- What stands before and after the next `close` outside literals; another `opening` may not stand
before it. -/
def readEnclosedFrom (opening close : Char) (quoted : Bool) :
    List Char → Except CompositionFault (List Char × List Char)
  | [] => .error (.missing close)
  | c :: cs =>
    if c = '"' then
      (readEnclosedFrom opening close (!quoted) cs).map fun (p, r) => (c :: p, r)
    else if quoted then
      (readEnclosedFrom opening close quoted cs).map fun (p, r) => (c :: p, r)
    else if c = close then .ok ([], cs)
    else if c = opening then .error (.nested opening)
    else (readEnclosedFrom opening close quoted cs).map fun (p, r) => (c :: p, r)

/-- What stands before and after the closing bracket of a pair just opened. -/
def readEnclosed (opening close : Char) (cs : List Char) :
    Except CompositionFault (List Char × List Char) :=
  readEnclosedFrom opening close false cs

theorem readEnclosedFrom_eq {opening close : Char} {quoted : Bool} {cs p r : List Char}
    (h : readEnclosedFrom opening close quoted cs = .ok (p, r)) : cs = p ++ close :: r := by
  induction cs generalizing quoted p r with
  | nil => cases h
  | cons c cs ih =>
    have step {q : Bool}
        (h : (readEnclosedFrom opening close q cs).map (fun (p, r) => (c :: p, r)) = .ok (p, r)) :
        c :: cs = p ++ close :: r := by
      cases hr : readEnclosedFrom opening close q cs with
      | error e => rw [hr] at h; cases h
      | ok v => rw [hr] at h; cases h; simp [ih hr]
    rw [readEnclosedFrom] at h
    split at h
    · exact step h
    · split at h
      · exact step h
      · split at h
        · next hc => cases h; simp [hc]
        · split at h
          · cases h
          · exact step h

theorem readEnclosed_eq {opening close : Char} {cs p r : List Char}
    (h : readEnclosed opening close cs = .ok (p, r)) : cs = p ++ close :: r :=
  readEnclosedFrom_eq h

end ServiceFlow.Composition
