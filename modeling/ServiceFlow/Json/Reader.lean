import ServiceFlow.Json.Basic
import ServiceFlow.Text.Utf8

/-!
# Reading JSON

A strict reader of JSON from bytes: one value with blanks around it and nothing after it.

* `readString` takes a string and requires its bytes to be UTF-8 and its escaped surrogates to be
  paired; `skipString` only requires its escapes to be of the right shape.
* `skipValue` passes over a value whose content does not matter, `readValue` takes one.
* Each function gives what stands after the part it took, or nothing if the text is malformed.

Recursion into arrays and objects is bounded by an explicit depth. `Json.parse?` computes a depth
from the length of the input that no text of that length can exceed.
-/

namespace ServiceFlow.Json

open Text

/-- A byte for an ASCII character. -/
def byte (c : Char) : UInt8 := UInt8.ofNat c.toNat

/-- The four blanks of the grammar. -/
def isBlank (b : UInt8) : Bool := b == 0x20 || b == 0x09 || b == 0x0A || b == 0x0D

/-- Passes over blanks. -/
def skipBlanks (bs : Bytes) : Bytes := bs.dropWhile isBlank

/-- The value of a hexadecimal digit of either case. -/
def hexValue? (b : UInt8) : Option Nat :=
  let n := b.toNat
  if 0x30 ≤ n && n ≤ 0x39 then some (n - 0x30)
  else if 0x61 ≤ n && n ≤ 0x66 then some (n - 0x61 + 10)
  else if 0x41 ≤ n && n ≤ 0x46 then some (n - 0x41 + 10)
  else none

/-- Four hexadecimal digits. -/
def readHex4 : Bytes → Option (Nat × Bytes)
  | a :: b :: c :: d :: r => do
    let a ← hexValue? a
    let b ← hexValue? b
    let c ← hexValue? c
    let d ← hexValue? d
    return (a * 0x1000 + b * 0x100 + c * 0x10 + d, r)
  | _ => none

/-- The character of an escape of one letter. -/
def shortEscape? (b : UInt8) : Option UInt8 :=
  if b == byte '"' || b == byte '\\' || b == byte '/' then some b
  else if b == byte 'b' then some 0x08
  else if b == byte 'f' then some 0x0C
  else if b == byte 'n' then some 0x0A
  else if b == byte 'r' then some 0x0D
  else if b == byte 't' then some 0x09
  else none

/-- The bytes of a string up to its closing quote, escapes resolved. -/
def readStringBytes : Nat → Bytes → Option (Bytes × Bytes)
  | 0, _ => none
  | _ + 1, [] => none
  | n + 1, b :: r =>
    if b == byte '"' then some ([], r)
    else if b == byte '\\' then
      match r with
      | [] => none
      | e :: r =>
        if e == byte 'u' then do
          let (high, r) ← readHex4 r
          if 0xDC00 ≤ high && high ≤ 0xDFFF then none
          else if 0xD800 ≤ high && high ≤ 0xDBFF then
            match r with
            | s :: u :: r =>
              if s == byte '\\' && u == byte 'u' then do
                let (low, r) ← readHex4 r
                if 0xDC00 ≤ low && low ≤ 0xDFFF then do
                  let c := Char.ofNat (0x10000 + (high - 0xD800) * 0x400 + (low - 0xDC00))
                  let (cs, r) ← readStringBytes n r
                  return (String.utf8EncodeChar c ++ cs, r)
                else none
              else none
            | _ => none
          else do
            let (cs, r) ← readStringBytes n r
            return (String.utf8EncodeChar (Char.ofNat high) ++ cs, r)
        else do
          let c ← shortEscape? e
          let (cs, r) ← readStringBytes n r
          return (c :: cs, r)
    else if b < 0x20 then none
    else do
      let (cs, r) ← readStringBytes n r
      return (b :: cs, r)

/-- A string whose opening quote has been read. -/
def readString (bs : Bytes) : Option (String × Bytes) := do
  let (content, r) ← readStringBytes (bs.length + 1) bs
  let s ← Utf8.decode? content
  return (s, r)

/-- What follows a string whose opening quote has been read. -/
def skipString : Nat → Bytes → Option Bytes
  | 0, _ => none
  | _ + 1, [] => none
  | n + 1, b :: r =>
    if b == byte '"' then some r
    else if b == byte '\\' then
      match r with
      | [] => none
      | e :: r =>
        if e == byte 'u' then do
          let (_, r) ← readHex4 r
          skipString n r
        else if (shortEscape? e).isSome then skipString n r
        else none
    else if b < 0x20 then none
    else skipString n r

/-- A decimal digit. -/
def isDigit (b : UInt8) : Bool := 0x30 ≤ b && b ≤ 0x39

/-- The digits before the point: one zero, or a number without leading zeros. -/
def readWhole : Bytes → Option (Bytes × Bytes)
  | [] => none
  | b :: r =>
    if b == byte '0' then
      match r with
      | d :: _ => if isDigit d then none else some ([b], r)
      | [] => some ([b], r)
    else if isDigit b then some (b :: r.takeWhile isDigit, r.dropWhile isDigit)
    else none

/-- A point and the digits after it, or nothing. -/
def readFraction : Bytes → Option (Bytes × Bytes)
  | b :: r =>
    if b == byte '.' then
      let digits := r.takeWhile isDigit
      if digits.isEmpty then none else some (b :: digits, r.dropWhile isDigit)
    else some ([], b :: r)
  | [] => some ([], [])

/-- An exponent, or nothing. -/
def readExponent : Bytes → Option (Bytes × Bytes)
  | b :: r =>
    if b == byte 'e' || b == byte 'E' then
      let (sign, r) :=
        match r with
        | s :: t => if s == byte '+' || s == byte '-' then ([s], t) else ([], r)
        | [] => ([], r)
      let digits := r.takeWhile isDigit
      if digits.isEmpty then none else some (b :: sign ++ digits, r.dropWhile isDigit)
    else some ([], b :: r)
  | [] => some ([], [])

/-- The value of a run of digits. -/
def digitsValue (digits : Bytes) : Nat := digits.foldl (fun n d => n * 10 + (d.toNat - 0x30)) 0

/-- The text of ASCII bytes. -/
def asciiText (bs : Bytes) : String := String.ofList (bs.map fun b => Char.ofNat b.toNat)

/-- A number with its sign; `-0` and integers beyond 64 bits are decimals. -/
def readNumber (bs : Bytes) : Option (Json × Bytes) := do
  let (negative, r) :=
    match bs with
    | b :: r => if b == byte '-' then (true, r) else (false, bs)
    | [] => (false, bs)
  let (whole, r) ← readWhole r
  let (fraction, r) ← readFraction r
  let (exponent, r) ← readExponent r
  let written := (if negative then [byte '-'] else []) ++ whole ++ fraction ++ exponent
  let n := digitsValue whole
  let integral := fraction.isEmpty && exponent.isEmpty
  if integral && !negative && n < UInt64.size then return (.int n, r)
  else if integral && negative && 0 < n && n ≤ UInt64.size / 2 then return (.int (-n), r)
  else return (.decimal (asciiText written), r)

/-- Passes over the given word. -/
def skipWord (word : String) (bs : Bytes) : Option Bytes :=
  let w := Utf8.encode word
  if w.isPrefixOf bs then some (bs.drop w.length) else none

mutual

/-- One value. -/
def readValue : Nat → Bytes → Option (Json × Bytes)
  | 0, _ => none
  | depth + 1, bs =>
    match skipBlanks bs with
    | [] => none
    | b :: r =>
      if b == byte 'n' then do return (.null, ← skipWord "ull" r)
      else if b == byte 't' then do return (.bool true, ← skipWord "rue" r)
      else if b == byte 'f' then do return (.bool false, ← skipWord "alse" r)
      else if b == byte '"' then do
        let (s, r) ← readString r
        return (.str s, r)
      else if b == byte '[' then
        match skipBlanks r with
        | c :: r' => if c == byte ']' then some (.arr [], r') else do
            let (items, r) ← readItems depth r
            return (.arr items, r)
        | [] => none
      else if b == byte '\x7b' then
        match skipBlanks r with
        | c :: r' => if c == byte '\x7d' then some (.obj [], r') else do
            let (members, r) ← readMembers depth r
            return (.obj members, r)
        | [] => none
      else readNumber (b :: r)

/-- The items of an array up to its closing bracket; there is at least one. -/
def readItems : Nat → Bytes → Option (List Json × Bytes)
  | 0, _ => none
  | depth + 1, bs => do
    let (v, r) ← readValue depth bs
    match skipBlanks r with
    | [] => none
    | c :: r =>
      if c == byte ']' then some ([v], r)
      else if c == byte ',' then do
        let (vs, r) ← readItems depth r
        return (v :: vs, r)
      else none

/-- The members of an object up to its closing brace; there is at least one. -/
def readMembers : Nat → Bytes → Option (List (String × Json) × Bytes)
  | 0, _ => none
  | depth + 1, bs =>
    match skipBlanks bs with
    | [] => none
    | q :: r =>
      if q == byte '"' then do
        let (k, r) ← readString r
        match skipBlanks r with
        | [] => none
        | c :: r =>
          if c == byte ':' then do
            let (v, r) ← readValue depth r
            match skipBlanks r with
            | [] => none
            | c :: r =>
              if c == byte '\x7d' then some ([(k, v)], r)
              else if c == byte ',' then do
                let (ms, r) ← readMembers depth r
                return ((k, v) :: ms, r)
              else none
          else none
      else none

end

mutual

/-- What follows a value. -/
def skipValue : Nat → Bytes → Option Bytes
  | 0, _ => none
  | depth + 1, bs =>
    match skipBlanks bs with
    | [] => none
    | b :: r =>
      if b == byte 'n' then skipWord "ull" r
      else if b == byte 't' then skipWord "rue" r
      else if b == byte 'f' then skipWord "alse" r
      else if b == byte '"' then skipString (r.length + 1) r
      else if b == byte '[' then
        match skipBlanks r with
        | c :: r' => if c == byte ']' then some r' else skipItems depth r
        | [] => none
      else if b == byte '\x7b' then
        match skipBlanks r with
        | c :: r' => if c == byte '\x7d' then some r' else skipMembers depth r
        | [] => none
      else (readNumber (b :: r)).map (·.2)

/-- What follows the items of an array and its closing bracket. -/
def skipItems : Nat → Bytes → Option Bytes
  | 0, _ => none
  | depth + 1, bs => do
    let r ← skipValue depth bs
    match skipBlanks r with
    | [] => none
    | c :: r =>
      if c == byte ']' then some r
      else if c == byte ',' then skipItems depth r
      else none

/-- What follows the members of an object and its closing brace. -/
def skipMembers : Nat → Bytes → Option Bytes
  | 0, _ => none
  | depth + 1, bs =>
    match skipBlanks bs with
    | [] => none
    | q :: r =>
      if q == byte '"' then do
        let r ← skipString (r.length + 1) r
        match skipBlanks r with
        | [] => none
        | c :: r =>
          if c == byte ':' then do
            let r ← skipValue depth r
            match skipBlanks r with
            | [] => none
            | c :: r =>
              if c == byte '\x7d' then some r
              else if c == byte ',' then skipMembers depth r
              else none
          else none
      else none

end

/-- A depth that the nesting of a text of this length cannot exceed. -/
def depthBound (bs : Bytes) : Nat := 2 * bs.length + 2

/-- The value that the bytes write, if they write exactly one. -/
def parse? (bs : Bytes) : Option Json := do
  let (v, r) ← readValue (depthBound bs) bs
  if (skipBlanks r).isEmpty then some v else none

end ServiceFlow.Json
