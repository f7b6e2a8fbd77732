import Mathlib.Data.List.Induction
import RegistryClient.Text.Digit

/-!
# Numerals and their numbers

A decimal numeral, as `Nat.repr` writes it, denotes its number: `numeral?_toDigits`.  Any other
numeral of the number has zeros in front of that one: `exists_zeros_append_toDigits`.
-/

namespace RegistryClient.Text

theorem digitValue?_of_isDigit {c : Char} (hc : c.isDigit = true) :
    digitValue? 10 c = some (c.toNat - '0'.toNat) := by
  have hrange : 48 ≤ c.toNat ∧ c.toNat ≤ 57 := Char.isDigit_iff_toNat.mp hc
  have hvalue : hexValue? c = some (c.toNat - 48) := by
    simp only [hexValue?, if_pos hrange]
  have hsmall : c.toNat - 48 < 10 := by omega
  rw [digitValue?, hvalue, Option.bind_some, if_pos hsmall]
  rfl

/-- Decimal digits are read from left to right. -/
theorem numeralFrom?_of_isDigit {digits : List Char} (h : ∀ c ∈ digits, c.isDigit = true)
    (soFar : Nat) : numeralFrom? 10 soFar digits = some (Nat.ofDigitChars 10 digits soFar) := by
  induction digits generalizing soFar with
  | nil => rw [numeralFrom?, Nat.ofDigitChars_nil]
  | cons c digits ih =>
      obtain ⟨hc, hdigits⟩ := List.forall_mem_cons.mp h
      rw [numeralFrom?, digitValue?_of_isDigit hc, Option.bind_some, ih hdigits,
        Nat.ofDigitChars_cons, Nat.mul_comm]

theorem isDigit_of_mem_toDigits {number : Nat} {c : Char} (hc : c ∈ Nat.toDigits 10 number) :
    c.isDigit = true :=
  Nat.isDigit_of_mem_toDigits (by decide) (by decide) hc

/-- A decimal numeral denotes the number it was written for. -/
theorem numeral?_toDigits (number : Nat) : numeral? 10 (Nat.toDigits 10 number) = some number := by
  have hne : (Nat.toDigits 10 number).isEmpty = false := by simp
  rw [numeral?, hne, numeralFrom?_of_isDigit fun c => isDigit_of_mem_toDigits,
    Nat.ofDigitChars_ten_toDigits]
  rfl

theorem digitChar_of_isDigit {c : Char} (hc : c.isDigit = true) :
    c.toNat - '0'.toNat < 10 ∧ (c.toNat - '0'.toNat).digitChar = c := by
  have hrange : 48 ≤ c.toNat ∧ c.toNat ≤ 57 := Char.isDigit_iff_toNat.mp hc
  have hzero : '0'.toNat = 48 := rfl
  have hsmall : c.toNat - '0'.toNat < 10 := by omega
  refine ⟨hsmall, Char.toNat_inj.mp ?_⟩
  rw [Nat.toNat_digitChar_of_lt_ten hsmall]
  omega

/-- A run of digits is the numeral of the number that it denotes, perhaps behind some zeros. -/
theorem exists_zeros_append_toDigits {digits : List Char} (hne : digits ≠ [])
    (h : ∀ c ∈ digits, c.isDigit = true) :
    ∃ zeros, digits =
      List.replicate zeros '0' ++ Nat.toDigits 10 (Nat.ofDigitChars 10 digits 0) := by
  induction digits using List.reverseRecOn with
  | nil => exact absurd rfl hne
  | append_singleton front c ih =>
      obtain ⟨hsmall, hchar⟩ :=
        digitChar_of_isDigit (h c (List.mem_append_right _ (List.mem_singleton_self c)))
      have hlast : Nat.toDigits 10 (c.toNat - '0'.toNat) = [c] := by
        rw [Nat.toDigits_of_lt_base hsmall, hchar]
      rw [Nat.ofDigitChars_append, Nat.ofDigitChars_cons, Nat.ofDigitChars_nil]
      by_cases hfront : front = []
      · refine ⟨0, ?_⟩
        rw [hfront, Nat.ofDigitChars_nil, Nat.mul_zero, Nat.zero_add, hlast]
        rfl
      obtain ⟨zeros, hzeros⟩ := ih hfront fun d hd => h d (List.mem_append_left _ hd)
      by_cases hzero : Nat.ofDigitChars 10 front 0 = 0
      · -- the front denotes nothing, so all of it is zeros
        rw [hzero, Nat.toDigits_zero] at hzeros
        refine ⟨zeros + 1, ?_⟩
        rw [hzero, Nat.mul_zero, Nat.zero_add, hlast, hzeros, List.replicate_succ']
      · refine ⟨zeros, ?_⟩
        rw [← Nat.toDigits_append_toDigits (by decide) (Nat.pos_of_ne_zero hzero) hsmall, hlast,
          ← List.append_assoc, ← hzeros]

/-- Zeros in front of a numeral do not change its number. -/
theorem ofDigitChars_zeros_append (zeros number : Nat) :
    Nat.ofDigitChars 10 (List.replicate zeros '0' ++ Nat.toDigits 10 number) 0 = number := by
  rw [Nat.ofDigitChars_append, Nat.ofDigitChars_replicate_zero, Nat.mul_zero,
    Nat.ofDigitChars_ten_toDigits]

theorem isDigit_of_mem_zeros_append {zeros number : Nat} {c : Char}
    (hc : c ∈ List.replicate zeros '0' ++ Nat.toDigits 10 number) : c.isDigit = true := by
  rcases List.mem_append.mp hc with hzero | hdigit
  · obtain rfl := List.eq_of_mem_replicate hzero
    rfl
  · exact isDigit_of_mem_toDigits hdigit

end RegistryClient.Text
