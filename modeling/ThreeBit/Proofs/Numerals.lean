import Mathlib
import ThreeBit.Listing.Parser

/-! # Numerals and the numbers they stand for

`Text.IsNumeral text number` says what a numeral is without reading it: an optional plus sign before
one or more decimal digits, whose number is their positional value. Reading from left to right
against a bound, as `Text.readNumeral` does, accepts exactly the numerals of numbers within the
bound (`readNumeral_eq_ok_iff`): a number that was cut short by the bound could only have grown. -/

namespace ThreeBit

namespace Text

/-- The number that a sequence of decimal digits stands for, the most significant digit first. -/
def decimal (digits : List Char) : ℕ :=
  Nat.ofDigits 10 (digits.map digitValue).reverse

/-- A **numeral** with its number: decimal digits, at least one and any number of leading zeros,
after an optional plus sign. -/
inductive IsNumeral : List Char → ℕ → Prop
  /-- Digits alone. -/
  | plain {digits : List Char} : digits ≠ [] → (∀ c ∈ digits, c.isDigit = true) →
      IsNumeral digits (decimal digits)
  /-- Digits after a plus sign. -/
  | signed {digits : List Char} : digits ≠ [] → (∀ c ∈ digits, c.isDigit = true) →
      IsNumeral ('+' :: digits) (decimal digits)

@[simp] theorem decimal_nil : decimal [] = 0 := rfl

/-- The first digit counts for as many tens as digits follow. -/
theorem decimal_cons (c : Char) (rest : List Char) :
    decimal (c :: rest) = digitValue c * 10 ^ rest.length + decimal rest := by
  rw [decimal, List.map_cons, List.reverse_cons, Nat.ofDigits_append, Nat.ofDigits_singleton,
    List.length_reverse, List.length_map, decimal]
  ring

/-- The empty text is no numeral. -/
theorem not_isNumeral_nil {number : ℕ} : ¬IsNumeral [] number := by
  rintro (⟨hne, -⟩ | _)
  exact hne rfl

/-- **Reading digits after a number within the bound.** The result is the number with the digits
appended, and the bound need only be held against that. -/
theorem readDigits_eq_ok_iff {bound value : ℕ} {digits : List Char} {number : ℕ}
    (hvalue : value ≤ bound) :
    readDigits bound value digits = .ok number ↔
      (∀ c ∈ digits, c.isDigit = true) ∧
        number = value * 10 ^ digits.length + decimal digits ∧ number ≤ bound := by
  induction digits generalizing value with
  | nil =>
    simp only [readDigits, Except.ok.injEq, List.length_nil, pow_zero, mul_one, decimal_nil,
      add_zero, List.not_mem_nil, false_implies, implies_true, true_and]
    constructor
    · rintro rfl
      exact ⟨rfl, hvalue⟩
    · rintro ⟨rfl, -⟩
      rfl
  | cons c rest ih =>
    rw [readDigits, decimal_cons, List.length_cons, List.forall_mem_cons]
    have hshift : value * 10 ^ (rest.length + 1) + (digitValue c * 10 ^ rest.length + decimal rest)
        = (10 * value + digitValue c) * 10 ^ rest.length + decimal rest := by ring
    rw [hshift]
    by_cases hdigit : c.isDigit = true
    · rw [if_pos hdigit]
      by_cases hle : 10 * value + digitValue c ≤ bound
      · rw [if_pos hle, ih hle]
        simp only [hdigit, true_and]
      · -- the digits still to come cannot bring the number back below the bound
        have hgrow : 10 * value + digitValue c
            ≤ (10 * value + digitValue c) * 10 ^ rest.length :=
          Nat.le_mul_of_pos_right _ (by positivity)
        rw [if_neg hle]
        constructor
        · intro h
          cases h
        · rintro ⟨-, rfl, hbound⟩
          omega
    · rw [if_neg hdigit]
      constructor
      · intro h
        cases h
      · rintro ⟨⟨hc, -⟩, -⟩
        exact absurd hc hdigit

/-- Reading digits alone. -/
theorem readDigits_zero_eq_ok_iff {bound : ℕ} {digits : List Char} {number : ℕ} :
    readDigits bound 0 digits = .ok number ↔
      (∀ c ∈ digits, c.isDigit = true) ∧ number = decimal digits ∧ number ≤ bound := by
  rw [readDigits_eq_ok_iff (Nat.zero_le bound), Nat.zero_mul, Nat.zero_add]

/-- **Reading accepts exactly the numerals within the bound.** -/
theorem readNumeral_eq_ok_iff {bound : ℕ} {text : List Char} {number : ℕ} :
    readNumeral bound text = .ok number ↔ IsNumeral text number ∧ number ≤ bound := by
  have hplus : '+'.isDigit = false := rfl
  constructor
  · intro h
    unfold readNumeral at h
    split at h
    · cases h
    · cases h
    · -- what follows the sign is not empty, for a sign alone was refused before
      next digits hne =>
      obtain ⟨hdigits, rfl, hle⟩ := readDigits_zero_eq_ok_iff.mp h
      exact ⟨.signed (fun hnil => hne (by rw [hnil])) hdigits, hle⟩
    · next digits hne _ _ =>
      obtain ⟨hdigits, rfl, hle⟩ := readDigits_zero_eq_ok_iff.mp h
      exact ⟨.plain hne hdigits, hle⟩
  · rintro ⟨hnumeral, hle⟩
    cases hnumeral with
    | plain hne hdigits =>
      -- a text of digits does not begin with the sign, so it takes the last branch
      unfold readNumeral
      split
      · exact absurd rfl hne
      · exact absurd (hdigits '+' (by simp)) (by simp [hplus])
      · exact absurd (hdigits '+' (by simp)) (by simp [hplus])
      · exact readDigits_zero_eq_ok_iff.mpr ⟨hdigits, rfl, hle⟩
    | @signed digits hne hdigits =>
      obtain ⟨c, rest, rfl⟩ := List.exists_cons_of_ne_nil hne
      exact readDigits_zero_eq_ok_iff.mpr ⟨hdigits, rfl, hle⟩

end Text

/-! ## Values in a listing -/

namespace Listing

/-- A register value is read exactly from its numerals. That the number is below `2 ^ 64` is in the
type of the register. -/
theorem readRegister_eq_ok_iff {text : List Char} {value : Register} :
    readRegister text = .ok value ↔ Text.IsNumeral text value.toNat := by
  constructor
  · intro h
    unfold readRegister at h
    split at h
    · next number hread =>
      obtain ⟨hnumeral, hle⟩ := Text.readNumeral_eq_ok_iff.mp hread
      cases h
      have hlt : number < UInt64.size := by
        simp only [UInt64.size] at hle ⊢
        omega
      rwa [Nat.toUInt64, UInt64.toNat_ofNat_of_lt' hlt]
    · cases h
  · intro hnumeral
    have hread : Text.readNumeral (UInt64.size - 1) text = .ok value.toNat :=
      Text.readNumeral_eq_ok_iff.mpr ⟨hnumeral, Nat.le_sub_one_of_lt value.toNat_lt_size⟩
    rw [readRegister, hread]
    exact congrArg Except.ok UInt64.ofNat_toNat

/-- A word is read exactly from the numerals of numbers up to seven, though the numeral itself may
be of any byte. -/
theorem readWord_eq_ok_iff {text : List Char} {word : Word} :
    readWord text = .ok word ↔ Text.IsNumeral text word.toNat ∧ word.toNat ≤ 7 := by
  constructor
  · intro h
    unfold readWord at h
    split at h
    · next number hread =>
      obtain ⟨hnumeral, -⟩ := Text.readNumeral_eq_ok_iff.mp hread
      split at h
      · next hle =>
        cases h
        have hlt : number < UInt8.size := lt_of_le_of_lt hle (by decide)
        rw [Nat.toUInt8, UInt8.toNat_ofNat_of_lt' hlt]
        exact ⟨hnumeral, hle⟩
      · cases h
    · cases h
  · rintro ⟨hnumeral, hle⟩
    have hread : Text.readNumeral (UInt8.size - 1) text = .ok word.toNat :=
      Text.readNumeral_eq_ok_iff.mpr ⟨hnumeral, Nat.le_sub_one_of_lt word.toNat_lt_size⟩
    rw [readWord, hread]
    simp only [if_pos hle]
    exact congrArg Except.ok UInt8.ofNat_toNat

end Listing

end ThreeBit
