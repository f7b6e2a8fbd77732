import RegistryClient.Text.Digit

/-!
# Text for a terminal

A complaint may quote what a caller wrote, and is shown on a terminal.  The
controls with which a terminal is steered are written as escapes: of ASCII the
bell, backspace, form feed, escape and delete characters, and all controls from
U+0080 to U+009F.  Line breaks and tabs stay as they are.
-/

namespace RegistryClient.Text

/-- The code points of the ASCII characters that steer a terminal. -/
def steeringCodes : List Nat := [0x07, 0x08, 0x0C, 0x1B, 0x7F]

/-- A character as it is shown. -/
def terminalChar (c : Char) : List Char :=
  let code := c.toNat
  if steeringCodes.contains code then ['\\', 'x'] ++ hexPadded 2 code
  else if 0x80 ≤ code ∧ code ≤ 0x9F then ['\\', 'u', '\x7b'] ++ hexPadded 2 code ++ ['\x7d']
  else [c]

/-- A text as it is shown. -/
def terminalText (text : String) : String :=
  String.ofList (text.toList.flatMap terminalChar)

end RegistryClient.Text
