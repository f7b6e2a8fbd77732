import RegistryClient.Http.Host.Mark

/-!
# Direction in hosts

A host with characters in it that are written from right to left obeys a rule by
which no label can be taken for part of its neighbour: every label begins with a
letter, has only characters that fit the direction of that letter, and ends with
a letter or a digit, apart from marks.

A character that is read as another text has the direction of that text.
-/

namespace RegistryClient.Http.Host

open Text

/-- How a character is written among others. -/
inductive Direction where
  | leftToRight
  | rightToLeft
  /-- A digit, written as in Arabic. -/
  | arabicNumber
  /-- A digit, written as in Europe. -/
  | europeanNumber
  /-- A mark that takes up no space. -/
  | mark
  /-- Anything that is written as what is around it. -/
  | neutral
deriving DecidableEq, Repr

/-- The characters that are written from right to left. -/
def rightToLeftRanges : List (Nat × Nat) :=
  [(0x5BE, 0x5BE), (0x5C0, 0x5C0), (0x5C3, 0x5C3), (0x5C6, 0x5C6), (0x5D0, 0x5F4), (0x608, 0x608),
    (0x60B, 0x60B), (0x60D, 0x60D), (0x61B, 0x64A), (0x66D, 0x66F), (0x671, 0x6D5), (0x6E5, 0x6E6),
    (0x6EE, 0x6EF), (0x6FA, 0x710), (0x712, 0x72F), (0x74D, 0x7A5), (0x7B1, 0x7EA), (0x7F4, 0x7F5),
    (0x7FA, 0x7FA), (0x7FE, 0x815), (0x81A, 0x81A), (0x824, 0x824), (0x828, 0x828), (0x830, 0x858),
    (0x85E, 0x88E), (0x8A0, 0x8C9), (0x2135, 0x2138), (0xFB1D, 0xFB1D), (0xFB1F, 0xFD3D),
    (0xFD50, 0xFDC7), (0xFDF0, 0xFDFC), (0xFE71, 0xFEFC), (0x10800, 0x1091B), (0x10920, 0x10A00),
    (0x10A10, 0x10A35), (0x10A40, 0x10AE4), (0x10AEB, 0x10B35), (0x10B40, 0x10D23),
    (0x10D40, 0x10D65), (0x10D6F, 0x10D8F), (0x10E80, 0x10EA9), (0x10EAD, 0x10EC4),
    (0x10F00, 0x10F45), (0x10F51, 0x10F81), (0x10F86, 0x10FF6), (0x1E800, 0x1E8CF),
    (0x1E900, 0x1E943), (0x1E94B, 0x1EEBB)]

/-- The Arabic digits and number signs. -/
def arabicNumberRanges : List (Nat × Nat) :=
  [(0x660, 0x669), (0x66B, 0x66C), (0x10D30, 0x10D39), (0x10E60, 0x10E7E)]

/-- The European digits outside ASCII. -/
def europeanNumberRanges : List (Nat × Nat) :=
  [(0x6F0, 0x6F9), (0x102E1, 0x102FB)]

/-- The characters outside ASCII that are written as what is around them. -/
def neutralRanges : List (Nat × Nat) :=
  [(0xA1, 0xB1), (0xB6, 0xBF), (0xD7, 0xD7), (0xF7, 0xF7), (0x2B9, 0x2BA), (0x2C2, 0x2CF),
    (0x2D2, 0x2DF), (0x2E5, 0x2ED), (0x2EF, 0x2FF), (0x374, 0x375), (0x387, 0x387), (0x3F6, 0x3F6),
    (0x58A, 0x58F), (0x606, 0x607), (0x609, 0x60A), (0x60C, 0x60C), (0x60E, 0x60F), (0x66A, 0x66A),
    (0x6DE, 0x6DE), (0x6E9, 0x6E9), (0x7F6, 0x7F9), (0x9F2, 0x9F3), (0x9FB, 0x9FB), (0xAF1, 0xAF1),
    (0xBF3, 0xBFA), (0xC78, 0xC7E), (0xE3F, 0xE3F), (0xF3A, 0xF3D), (0x1390, 0x1399),
    (0x1400, 0x1400), (0x169B, 0x169C), (0x17DB, 0x17DB), (0x17F0, 0x180A), (0x1940, 0x1945),
    (0x19DE, 0x19FF), (0x200C, 0x208B), (0x20A0, 0x20C0), (0x2104, 0x2104), (0x2108, 0x2108),
    (0x2114, 0x2125), (0x2127, 0x2129), (0x212E, 0x212E), (0x213A, 0x213A), (0x2140, 0x214D),
    (0x218A, 0x2335), (0x237B, 0x2394), (0x2396, 0x26AB), (0x26AD, 0x27FF), (0x2900, 0x2BFF),
    (0x2CE5, 0x2CEA), (0x2CF9, 0x2CFF), (0x2E00, 0x2E9E), (0x2EA0, 0x2EF2), (0x3001, 0x3004),
    (0x3008, 0x3020), (0x3030, 0x3030), (0x3036, 0x3037), (0x303D, 0x303F), (0x30A0, 0x30A0),
    (0x30FB, 0x30FB), (0x31C0, 0x31E5), (0x4DC0, 0x4DFF), (0xA490, 0xA4C6), (0xA60D, 0xA60F),
    (0xA673, 0xA673), (0xA67E, 0xA67F), (0xA700, 0xA721), (0xA788, 0xA788), (0xA828, 0xA82B),
    (0xA838, 0xA839), (0xA874, 0xA877), (0xAB6A, 0xAB6B), (0xFD3E, 0xFD4F), (0xFDCF, 0xFDCF),
    (0xFDFD, 0xFE18), (0xFE31, 0xFE5E), (0xFF5F, 0xFF65), (0xFFE0, 0xFFEE), (0x10101, 0x10101),
    (0x10140, 0x1018C), (0x10190, 0x101A0), (0x1091F, 0x1091F), (0x10B39, 0x10B3F),
    (0x10D6E, 0x10D6E), (0x11052, 0x11065), (0x11660, 0x1166C), (0x11FD5, 0x11FF1),
    (0x16FE2, 0x16FE2), (0x1CC00, 0x1CEB3), (0x1D1E9, 0x1D241), (0x1D245, 0x1D245),
    (0x1D300, 0x1D356), (0x1D6C1, 0x1D6C1), (0x1D6DB, 0x1D6DB), (0x1D6FB, 0x1D6FB),
    (0x1D715, 0x1D715), (0x1D735, 0x1D735), (0x1D74F, 0x1D74F), (0x1D76F, 0x1D76F),
    (0x1D789, 0x1D789), (0x1D7A9, 0x1D7A9), (0x1D7C3, 0x1D7C3), (0x1E2FF, 0x1E2FF),
    (0x1EEF0, 0x1F12F), (0x1F16D, 0x1F16F), (0x1F1AD, 0x1F1AD), (0x1F260, 0x1FBEF)]

/-- The direction of a character that may stand in a host. -/
def direction (c : Char) : Direction :=
  if c.toNat < 0x80 then
    if c.isAlpha then .leftToRight else if c.isDigit then .europeanNumber else .neutral
  else if inRanges rightToLeftRanges c then .rightToLeft
  else if inRanges arabicNumberRanges c then .arabicNumber
  else if inRanges europeanNumberRanges c then .europeanNumber
  else if inRanges neutralRanges c then .neutral
  else if isNonspacing c then .mark
  else .leftToRight

/-- A character that makes the host obey the rule. -/
def Direction.isFromRight : Direction → Bool
  | .rightToLeft => true
  | .arabicNumber => true
  | _ => false

/-- The direction in which a label ends, apart from marks. -/
def ending? (directions : List Direction) : Option Direction :=
  (directions.filter (· ≠ .mark)).getLast?

/-- The rule for a label with these directions. -/
def keepsDirection (directions : List Direction) : Bool :=
  match directions.head? with
  | none => true
  | some .leftToRight =>
    directions.all (!·.isFromRight) &&
      (ending? directions == some .leftToRight || ending? directions == some .europeanNumber)
  | some .rightToLeft =>
    !directions.contains .leftToRight && ending? directions ≠ some .neutral &&
      !(directions.contains .arabicNumber && directions.contains .europeanNumber)
  | some _ => false

/-- The rule for all labels of a host, if there is anything from right to left in it. -/
def keepsDirections (labels : List (List Char)) : Bool :=
  let directions := labels.map (·.map direction)
  !directions.any (·.any (·.isFromRight)) || directions.all keepsDirection

end RegistryClient.Http.Host
