import RegistryClient.Text.Digit

/-!
# Percent-encoding

A text as one segment of a request path: the letters and digits of ASCII and the
characters `-`, `_`, `.` and `~` stand for themselves, and every other character
is written byte by byte of its UTF-8 form, each byte as a percent sign and two
upper-case hexadecimal digits.  The names of hosts may have such escapes too.
-/

namespace RegistryClient.Text

/-- A character that stands for itself in a path segment. -/
def isUnreserved (c : Char) : Bool :=
  c.isAlphanum || c == '-' || c == '_' || c == '.' || c == '~'

/-- A byte as a percent sign and two digits. -/
def percentByte (byte : UInt8) : List Char :=
  ['%', upperDigit (byte.toNat / 16), upperDigit (byte.toNat % 16)]

/-- A character in a path segment. -/
def percentChar (c : Char) : List Char :=
  if isUnreserved c then [c] else (String.utf8EncodeChar c).flatMap percentByte

/-- The bytes of a text in which a percent sign and two digits stand for a byte. -/
def percentDecode : List Char → List UInt8
  | '%' :: high :: low :: rest =>
    match numeral? 16 [high, low] with
    | some byte => byte.toUInt8 :: percentDecode rest
    | none => String.utf8EncodeChar '%' ++ percentDecode (high :: low :: rest)
  | c :: rest => String.utf8EncodeChar c ++ percentDecode rest
  | [] => []

/-- A text as a path segment. -/
def percentEncode (text : String) : String :=
  String.ofList (text.toList.flatMap percentChar)

end RegistryClient.Text
