import ServiceFlow.Json.Basic
import ServiceFlow.Text.Utf8

/-!
# Bytes in hexadecimal

Two lower-case digits for each byte.
-/

namespace ServiceFlow.Text.Hex

/-- The digits of bytes. -/
def encode (bs : Bytes) : String :=
  String.ofList (bs.flatMap fun b => [Json.hexDigit (b.toNat / 16), Json.hexDigit (b.toNat % 16)])

/-- The value of a digit. -/
def digit (c : Char) : Nat :=
  if c.isDigit then c.toNat - '0'.toNat else c.toNat - 'a'.toNat + 10

/-- The bytes of pairs of digits. -/
def decodeChars : List Char → Bytes
  | a :: b :: r => UInt8.ofNat (digit a * 16 + digit b) :: decodeChars r
  | _ => []

/-- The bytes that digits stand for. -/
def decode (s : String) : Bytes := decodeChars s.toList

end ServiceFlow.Text.Hex
