import RegistryClient.Text.Percent
import RegistryClient.Text.Utf8

/-!
# Reading escaped texts back

A text that has been written as a path segment is read back in two steps.  `percentDecode`
takes the segment apart into bytes: those of the text's UTF-8 form, because the characters that
stand for themselves are no percent signs, and every other character is escaped byte by byte.
`decodeBytes` puts the bytes together again.  So no two texts have the same segment, whatever
characters they have: `decodeBytes_percentDecode`.
-/

namespace RegistryClient.Text

/-! ## Bytes as characters -/

theorem toNat_byte {value : Nat} (h : value < 256) : (UInt8.ofNat value).toNat = value := by
  rw [UInt8.toNat_ofNat']
  exact Nat.mod_eq_of_lt h

theorem decodeFrom_cons (pending : Option Unfinished) (byte : UInt8) (rest : List UInt8) :
    decodeFrom pending (byte :: rest) =
      (step pending byte.toNat).1 ++ decodeFrom (step pending byte.toNat).2 rest :=
  rfl

/-- The first of several bytes of a character. -/
theorem decodeFrom_first {value : Nat} {begun : Unfinished} (rest : List UInt8)
    (hvalue : value < 256) (hstart : startCharacter value = ([], some begun)) :
    decodeFrom none (UInt8.ofNat value :: rest) = decodeFrom (some begun) rest := by
  rw [decodeFrom_cons, step, toNat_byte hvalue, hstart, List.nil_append]

section LaterByte

variable {bits lower upper low : Nat} (rest : List UInt8) (hlow : low < 64)
  (hlower : lower ≤ low + 128) (hupper : low + 128 ≤ upper)
include hlow hlower hupper

theorem decodeFrom_next {missing : Nat} :
    decodeFrom (some ⟨bits, missing + 2, lower, upper⟩) (UInt8.ofNat (low + 128) :: rest) =
      decodeFrom (some ⟨bits * 64 + low, missing + 1, 0x80, 0xBF⟩) rest := by
  have hrange : lower ≤ low + 128 ∧ low + 128 ≤ upper := ⟨hlower, hupper⟩
  have hmissing : ¬ missing + 2 = 1 := by omega
  have hbits : (low + 128) % 64 = low := by omega
  have hless : missing + 2 - 1 = missing + 1 := rfl
  have hstep : step (some ⟨bits, missing + 2, lower, upper⟩) (low + 128) =
      ([], some ⟨bits * 64 + low, missing + 1, 0x80, 0xBF⟩) := by
    simp only [step, if_pos hrange, if_neg hmissing, hbits, hless]
  rw [decodeFrom_cons, toNat_byte (by omega), hstep, List.nil_append]

theorem decodeFrom_last :
    decodeFrom (some ⟨bits, 1, lower, upper⟩) (UInt8.ofNat (low + 128) :: rest) =
      Char.ofNat (bits * 64 + low) :: decodeFrom none rest := by
  have hrange : lower ≤ low + 128 ∧ low + 128 ≤ upper := ⟨hlower, hupper⟩
  have hbits : (low + 128) % 64 = low := by omega
  have hstep : step (some ⟨bits, 1, lower, upper⟩) (low + 128) =
      ([Char.ofNat (bits * 64 + low)], none) := by
    simp only [step, if_pos hrange, if_true, hbits]
  rw [decodeFrom_cons, toNat_byte (by omega), hstep, List.singleton_append]

end LaterByte

/-! ### The bytes of a code point -/

section CodePoint

variable {code : Nat} (rest : List UInt8)

theorem decodeFrom_one (h : code ≤ 0x7F) :
    decodeFrom none (UInt8.ofNat code :: rest) = Char.ofNat code :: decodeFrom none rest := by
  have hsmall : code < 0x80 := by omega
  have hstart : startCharacter code = ([Char.ofNat code], none) := if_pos hsmall
  rw [decodeFrom_cons, step, toNat_byte (by omega), hstart, List.singleton_append]

theorem decodeFrom_two (hlower : 0x7F < code) (hupper : code ≤ 0x7FF) :
    decodeFrom none
        (UInt8.ofNat (code / 64 % 32 + 192) :: UInt8.ofNat (code % 64 + 128) :: rest) =
      Char.ofNat code :: decodeFrom none rest := by
  have hhigh : code / 64 % 32 = code / 64 := by omega
  have hstart : startCharacter (code / 64 + 192) = ([], some ⟨code / 64, 1, 0x80, 0xBF⟩) := by
    have hsmall : ¬ code / 64 + 192 < 0x80 := by omega
    have hrange : 0xC2 ≤ code / 64 + 192 ∧ code / 64 + 192 ≤ 0xDF := by omega
    have hbits : code / 64 + 192 - 0xC0 = code / 64 := by omega
    rw [startCharacter, if_neg hsmall, if_pos hrange, hbits]
  have hcode : code / 64 * 64 + code % 64 = code := by omega
  rw [hhigh, decodeFrom_first _ (by omega) hstart,
    decodeFrom_last rest (by omega) (by omega) (by omega), hcode]

theorem decodeFrom_three (hlower : 0x7FF < code) (hupper : code ≤ 0xFFFF)
    (hscalar : code < 0xD800 ∨ 0xDFFF < code) :
    decodeFrom none
        (UInt8.ofNat (code / 4096 % 16 + 224) :: UInt8.ofNat (code / 64 % 64 + 128) ::
          UInt8.ofNat (code % 64 + 128) :: rest) =
      Char.ofNat code :: decodeFrom none rest := by
  have hhigh : code / 4096 % 16 = code / 4096 := by omega
  -- the bounds on the second byte keep out longer forms and surrogates, and the code is neither
  obtain ⟨lower, upper, hstart, hleast, hgreatest⟩ : ∃ lower upper,
      startCharacter (code / 4096 + 224) = ([], some ⟨code / 4096, 2, lower, upper⟩) ∧
        lower ≤ code / 64 % 64 + 128 ∧ code / 64 % 64 + 128 ≤ upper := by
    have hsmall : ¬ code / 4096 + 224 < 0x80 := by omega
    have hnotTwo : ¬ (0xC2 ≤ code / 4096 + 224 ∧ code / 4096 + 224 ≤ 0xDF) := by omega
    have hthree : 0xE0 ≤ code / 4096 + 224 ∧ code / 4096 + 224 ≤ 0xEF := by omega
    have hbits : code / 4096 + 224 - 0xE0 = code / 4096 := by omega
    rw [startCharacter, if_neg hsmall, if_neg hnotTwo, if_pos hthree, hbits]
    refine ⟨_, _, rfl, ?_, ?_⟩ <;> split <;> omega
  have hcode : (code / 4096 * 64 + code / 64 % 64) * 64 + code % 64 = code := by omega
  rw [hhigh, decodeFrom_first _ (by omega) hstart,
    decodeFrom_next _ (by omega) hleast hgreatest,
    decodeFrom_last rest (by omega) (by omega) (by omega), hcode]

theorem decodeFrom_four (hlower : 0xFFFF < code) (hupper : code < 0x110000) :
    decodeFrom none
        (UInt8.ofNat (code / 262144 % 8 + 240) :: UInt8.ofNat (code / 4096 % 64 + 128) ::
          UInt8.ofNat (code / 64 % 64 + 128) :: UInt8.ofNat (code % 64 + 128) :: rest) =
      Char.ofNat code :: decodeFrom none rest := by
  have hhigh : code / 262144 % 8 = code / 262144 := by omega
  obtain ⟨lower, upper, hstart, hleast, hgreatest⟩ : ∃ lower upper,
      startCharacter (code / 262144 + 240) = ([], some ⟨code / 262144, 3, lower, upper⟩) ∧
        lower ≤ code / 4096 % 64 + 128 ∧ code / 4096 % 64 + 128 ≤ upper := by
    have hsmall : ¬ code / 262144 + 240 < 0x80 := by omega
    have hnotTwo : ¬ (0xC2 ≤ code / 262144 + 240 ∧ code / 262144 + 240 ≤ 0xDF) := by omega
    have hnotThree : ¬ (0xE0 ≤ code / 262144 + 240 ∧ code / 262144 + 240 ≤ 0xEF) := by omega
    have hfour : 0xF0 ≤ code / 262144 + 240 ∧ code / 262144 + 240 ≤ 0xF4 := by omega
    have hbits : code / 262144 + 240 - 0xF0 = code / 262144 := by omega
    rw [startCharacter, if_neg hsmall, if_neg hnotTwo, if_neg hnotThree, if_pos hfour, hbits]
    refine ⟨_, _, rfl, ?_, ?_⟩ <;> split <;> omega
  have hcode : ((code / 262144 * 64 + code / 4096 % 64) * 64 + code / 64 % 64) * 64 + code % 64 =
      code := by omega
  rw [hhigh, decodeFrom_first _ (by omega) hstart,
    decodeFrom_next _ (by omega) hleast hgreatest,
    decodeFrom_next _ (by omega) (by omega) (by omega),
    decodeFrom_last rest (by omega) (by omega) (by omega), hcode]

end CodePoint

/-- The UTF-8 form of a character is read as that character. -/
theorem decodeFrom_utf8EncodeChar (c : Char) (rest : List UInt8) :
    decodeFrom none (String.utf8EncodeChar c ++ rest) = c :: decodeFrom none rest := by
  have hscalar : c.toNat < 0xD800 ∨ 0xDFFF < c.toNat ∧ c.toNat < 0x110000 := c.valid
  have hchar : Char.ofNat c.toNat = c := Char.ofNat_toNat c
  have hencode : String.utf8EncodeChar c =
      if c.toNat ≤ 0x7F then [UInt8.ofNat c.toNat]
      else if c.toNat ≤ 0x7FF then
        [UInt8.ofNat (c.toNat / 64 % 32 + 192), UInt8.ofNat (c.toNat % 64 + 128)]
      else if c.toNat ≤ 0xFFFF then
        [UInt8.ofNat (c.toNat / 4096 % 16 + 224), UInt8.ofNat (c.toNat / 64 % 64 + 128),
          UInt8.ofNat (c.toNat % 64 + 128)]
      else
        [UInt8.ofNat (c.toNat / 262144 % 8 + 240), UInt8.ofNat (c.toNat / 4096 % 64 + 128),
          UInt8.ofNat (c.toNat / 64 % 64 + 128), UInt8.ofNat (c.toNat % 64 + 128)] := rfl
  rw [hencode]
  by_cases hone : c.toNat ≤ 0x7F
  · rw [if_pos hone]
    exact (decodeFrom_one rest hone).trans (by rw [hchar])
  rw [if_neg hone]
  by_cases htwo : c.toNat ≤ 0x7FF
  · rw [if_pos htwo]
    exact (decodeFrom_two rest (by omega) htwo).trans (by rw [hchar])
  rw [if_neg htwo]
  by_cases hthree : c.toNat ≤ 0xFFFF
  · rw [if_pos hthree]
    exact (decodeFrom_three rest (by omega) hthree (by omega)).trans (by rw [hchar])
  rw [if_neg hthree]
  exact (decodeFrom_four rest (by omega) (by omega)).trans (by rw [hchar])

theorem decodeFrom_flatMap_utf8EncodeChar (chars : List Char) :
    decodeFrom none (chars.flatMap String.utf8EncodeChar) = chars := by
  induction chars with
  | nil => rfl
  | cons c rest ih => rw [List.flatMap_cons, decodeFrom_utf8EncodeChar, ih]

/-! ## Escaped bytes -/

theorem hexValue?_upperDigit {value : Nat} (h : value < 16) :
    hexValue? (upperDigit value) = some value := by
  have hall : ∀ value < 16, hexValue? (upperDigit value) = some value := by decide
  exact hall value h

theorem numeral?_upperDigits {number : Nat} (h : number < 256) :
    numeral? 16 [upperDigit (number / 16), upperDigit (number % 16)] = some number := by
  have hhigh : number / 16 < 16 := by omega
  have hlow : number % 16 < 16 := Nat.mod_lt _ (by decide)
  have hdigit : ∀ {value}, value < 16 → digitValue? 16 (upperDigit value) = some value := by
    intro value hvalue
    rw [digitValue?, hexValue?_upperDigit hvalue, Option.bind_some, if_pos hvalue]
  have hnumber : (0 * 16 + number / 16) * 16 + number % 16 = number := by omega
  show numeralFrom? 16 0 _ = _
  rw [numeralFrom?, hdigit hhigh, Option.bind_some, numeralFrom?, hdigit hlow, Option.bind_some,
    numeralFrom?, hnumber]

theorem percentDecode_percentByte (byte : UInt8) (rest : List Char) :
    percentDecode (percentByte byte ++ rest) = byte :: percentDecode rest := by
  have hnumeral := numeral?_upperDigits byte.toNat_lt
  unfold percentByte
  simp only [List.cons_append, List.nil_append]
  rw [percentDecode, hnumeral]
  simp

theorem percentDecode_flatMap_percentByte (bytes : List UInt8) (rest : List Char) :
    percentDecode (bytes.flatMap percentByte ++ rest) = bytes ++ percentDecode rest := by
  induction bytes with
  | nil => rfl
  | cons byte bytes ih =>
      rw [List.flatMap_cons, List.append_assoc, percentDecode_percentByte, ih, List.cons_append]

/-- A character that is no percent sign stands for itself. -/
theorem percentDecode_cons {c : Char} (rest : List Char) (hc : c ≠ '%') :
    percentDecode (c :: rest) = String.utf8EncodeChar c ++ percentDecode rest := by
  rw [percentDecode]
  rintro high low more rfl
  exact absurd rfl hc

theorem percentDecode_percentChar (c : Char) (rest : List Char) :
    percentDecode (percentChar c ++ rest) = String.utf8EncodeChar c ++ percentDecode rest := by
  unfold percentChar
  by_cases hplain : isUnreserved c = true
  · have hc : c ≠ '%' := by
      rintro rfl
      exact absurd hplain (by decide)
    rw [if_pos hplain, List.singleton_append, percentDecode_cons rest hc]
  · rw [if_neg hplain, percentDecode_flatMap_percentByte]

theorem percentDecode_flatMap_percentChar (chars : List Char) :
    percentDecode (chars.flatMap percentChar) = chars.flatMap String.utf8EncodeChar := by
  induction chars with
  | nil => rfl
  | cons c rest ih => rw [List.flatMap_cons, percentDecode_percentChar, ih, List.flatMap_cons]

/-- **A text is read back from its segment.** -/
theorem decodeBytes_percentDecode (text : String) :
    decodeBytes (percentDecode (percentEncode text).toList) = text := by
  rw [percentEncode, String.toList_ofList, percentDecode_flatMap_percentChar, decodeBytes,
    decodeFrom_flatMap_utf8EncodeChar, String.ofList_toList]

end RegistryClient.Text
