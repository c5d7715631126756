/-!
# UTF-8

Payloads are bytes and texts are strings; this module goes between the two.

* `encode` writes a string, `decode` reads one. Overlong forms, surrogates and values above the last
  code point are refused, as is a sequence that stops early.
* A refusal gives the index of the first byte of the offending sequence, and either the number of
  bytes that could have begun a character (`invalid`) or that the text ends too early (`incomplete`).
* `decodeLossy` reads on after such a sequence, in place of which it puts U+FFFD.
-/

namespace ServiceFlow

/-- A list of octets. -/
abbrev Bytes := List UInt8

namespace Text.Utf8

/-- Why bytes are not the encoding of a text. -/
inductive Utf8Error where
  | invalid (length index : Nat)
  | incomplete (index : Nat)
deriving DecidableEq, Repr

/-- The wording of each cause. -/
def Utf8Error.message : Utf8Error → String
  | .invalid length index => s!"invalid utf-8 sequence of {length} bytes from index {index}"
  | .incomplete index => s!"incomplete utf-8 byte sequence from index {index}"

/-- The bytes of a text. -/
def encode (s : String) : Bytes := s.toList.flatMap String.utf8EncodeChar

/-- A byte that continues a character. -/
def isTail (b : UInt8) : Bool := 0x80 ≤ b && b ≤ 0xBF

/-- The second bytes that may follow the first byte of three. -/
def isSecondOfThree (a b : UInt8) : Bool :=
  if a = 0xE0 then 0xA0 ≤ b && b ≤ 0xBF
  else if a = 0xED then 0x80 ≤ b && b ≤ 0x9F
  else isTail b

/-- The second bytes that may follow the first byte of four. -/
def isSecondOfFour (a b : UInt8) : Bool :=
  if a = 0xF0 then 0x90 ≤ b && b ≤ 0xBF
  else if a = 0xF4 then 0x80 ≤ b && b ≤ 0x8F
  else isTail b

/-- The six payload bits of a continuing byte. -/
def tailBits (b : UInt8) : Nat := b.toNat - 0x80

/-- Reads characters from the byte at index `pos` on. -/
def decodeFrom (pos : Nat) : Bytes → Except Utf8Error (List Char)
  | [] => .ok []
  | a :: r =>
    if a < 0x80 then do
      let cs ← decodeFrom (pos + 1) r
      return Char.ofNat a.toNat :: cs
    else if 0xC2 ≤ a && a ≤ 0xDF then
      match r with
      | [] => .error (.incomplete pos)
      | b :: r =>
        if isTail b then do
          let cs ← decodeFrom (pos + 2) r
          return Char.ofNat ((a.toNat - 0xC0) * 0x40 + tailBits b) :: cs
        else .error (.invalid 1 pos)
    else if 0xE0 ≤ a && a ≤ 0xEF then
      match r with
      | [] => .error (.incomplete pos)
      | b :: r =>
        if isSecondOfThree a b then
          match r with
          | [] => .error (.incomplete pos)
          | c :: r =>
            if isTail c then do
              let cs ← decodeFrom (pos + 3) r
              return Char.ofNat ((a.toNat - 0xE0) * 0x1000 + tailBits b * 0x40 + tailBits c) :: cs
            else .error (.invalid 2 pos)
        else .error (.invalid 1 pos)
    else if 0xF0 ≤ a && a ≤ 0xF4 then
      match r with
      | [] => .error (.incomplete pos)
      | b :: r =>
        if isSecondOfFour a b then
          match r with
          | [] => .error (.incomplete pos)
          | c :: r =>
            if isTail c then
              match r with
              | [] => .error (.incomplete pos)
              | d :: r =>
                if isTail d then do
                  let cs ← decodeFrom (pos + 4) r
                  return Char.ofNat ((a.toNat - 0xF0) * 0x40000 + tailBits b * 0x1000
                    + tailBits c * 0x40 + tailBits d) :: cs
                else .error (.invalid 3 pos)
            else .error (.invalid 2 pos)
        else .error (.invalid 1 pos)
    else .error (.invalid 1 pos)

/-- The text that the bytes encode. -/
def decode (bs : Bytes) : Except Utf8Error String := (decodeFrom 0 bs).map String.ofList

/-- The text that the bytes encode, if they encode one. -/
def decode? (bs : Bytes) : Option String := (decode bs).toOption

/-- Reads characters, with U+FFFD for what is none, in at most `fuel` pieces. -/
def decodePieces : Nat → Bytes → List Char
  | 0, _ => []
  | fuel + 1, bs =>
    match decodeFrom 0 bs with
    | .ok cs => cs
    | .error e =>
      let (index, after) := match e with
        | .invalid length index => (index, bs.drop (index + length))
        | .incomplete index => (index, [])
      let before := (decodeFrom 0 (bs.take index)).toOption.getD []
      before ++ '\uFFFD' :: decodePieces fuel after

/-- The text that the bytes encode, as far as they encode one. -/
def decodeLossy (bs : Bytes) : String := String.ofList (decodePieces (bs.length + 1) bs)

end Text.Utf8

end ServiceFlow
