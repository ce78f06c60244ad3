import Mathlib
import ThreeBit.Proofs.Grammar

/-! # Values that are refused

`Text.IsNumeral` says what a numeral is; this module says why a text is none. Reading goes from left
to right and stops at the first character that cannot go on, so the reason is found there: either it
is no digit, or it is one digit too many for the bound (`Text.readNumeral_eq_error_iff`).

From numerals the reasons go up to the values of a listing, again with no reader in them:

* **`Listing.WordFault`** — what is wrong with one word of a program;
* **`Listing.ValueFault`** — what is wrong with the value of a field: for the program the first
  faulty word, and an odd number of words only if there is no such word;
* **`Listing.Draft.define_eq_error_iff`** — a definition fails exactly by these faults. -/

namespace ThreeBit

namespace Text

/-! ## Numerals -/

/-- A numeral without its plus sign, if there is one. -/
def unsigned : List Char → List Char
  | '+' :: digits => digits
  | digits => digits

/-- Reading **stops at** a character behind some digits: because it is no digit, or because with it
the number exceeds the bound. -/
inductive StopsAt (bound : ℕ) (digits : List Char) (c : Char) : NumeralError → Prop
  /-- The character is no digit. -/
  | noDigit : c.isDigit = false → StopsAt bound digits c .invalidDigit
  /-- The digit is one too many. -/
  | tooLarge : c.isDigit = true → bound < decimal (digits ++ [c]) → StopsAt bound digits c .tooLarge

/-- A text is **refused** as a numeral within a bound. -/
inductive IsRefused (bound : ℕ) : List Char → NumeralError → Prop
  /-- There is nothing to read. -/
  | empty : IsRefused bound [] .empty
  /-- There is nothing after the sign. -/
  | sign : IsRefused bound ['+'] .invalidDigit
  /-- Some character, the first that cannot go on, stops the reading. -/
  | stopped {text digits rest : List Char} {c : Char} {cause : NumeralError} :
      unsigned text = digits ++ c :: rest → (∀ d ∈ digits, d.isDigit = true) →
      decimal digits ≤ bound → StopsAt bound digits c cause → IsRefused bound text cause

/-- One more digit at the end. -/
theorem decimal_concat (digits : List Char) (c : Char) :
    decimal (digits ++ [c]) = 10 * decimal digits + digitValue c := by
  rw [decimal, List.map_append, List.reverse_append, List.map_singleton, List.reverse_singleton,
    List.singleton_append, Nat.ofDigits_cons, decimal, Nat.add_comm]

/-- Digits are read one part after the other. -/
theorem readDigits_append (bound value : ℕ) (digits rest : List Char) :
    readDigits bound value (digits ++ rest) =
      (do let value ← readDigits bound value digits; readDigits bound value rest) := by
  induction digits generalizing value with
  | nil => rfl
  | cons c digits ih =>
    rw [List.cons_append, readDigits, readDigits]
    split
    · split
      · exact ih _
      · rfl
    · rfl

/-- Reading fails at the character where it stops. -/
theorem readDigits_of_stopsAt {bound : ℕ} {digits rest : List Char} {c : Char}
    {cause : NumeralError} (hstop : StopsAt bound digits c cause) :
    readDigits bound (decimal digits) (c :: rest) = .error cause := by
  rw [readDigits, ← decimal_concat]
  cases hstop with
  | noDigit hno => rw [if_neg (Bool.eq_false_iff.mp hno)]
  | tooLarge hdigit hlt => rw [if_pos hdigit, if_neg (not_le.mpr hlt)]

/-- A character at which reading fails stops it. -/
theorem stopsAt_of_readDigits {bound : ℕ} {digits : List Char} {c : Char} {cause : NumeralError}
    (h : readDigits bound (decimal digits) [c] = .error cause) : StopsAt bound digits c cause := by
  rw [readDigits, ← decimal_concat] at h
  split at h
  · next hdigit =>
    split at h
    · cases h
    · next hle =>
      cases h
      exact .tooLarge hdigit (not_le.mp hle)
  · next hno =>
    cases h
    exact .noDigit (Bool.eq_false_iff.mpr hno)

/-- **Where reading digits stops.** It fails exactly if it gets through some digits within the bound
and then stops at a character. The induction is on the text from its end: what follows the place
does not matter. -/
theorem readDigits_zero_eq_error_iff {bound : ℕ} {text : List Char} {cause : NumeralError} :
    readDigits bound 0 text = .error cause ↔
      ∃ digits c rest, text = digits ++ c :: rest ∧ (∀ d ∈ digits, d.isDigit = true) ∧
        decimal digits ≤ bound ∧ StopsAt bound digits c cause := by
  constructor
  · intro h
    induction text using List.reverseRecOn with
    | nil => cases h
    | append_singleton text c ih =>
      rw [readDigits_append] at h
      obtain hearlier | ⟨value, hvalue, hlast⟩ := bind_eq_error_iff.mp h
      · obtain ⟨digits, c', rest, rfl, hdigits, hle, hstop⟩ := ih hearlier
        exact ⟨digits, c', rest ++ [c], by simp, hdigits, hle, hstop⟩
      · obtain ⟨hdigits, rfl, hle⟩ := readDigits_zero_eq_ok_iff.mp hvalue
        exact ⟨text, c, [], rfl, hdigits, hle, stopsAt_of_readDigits hlast⟩
  · rintro ⟨digits, c, rest, rfl, hdigits, hle, hstop⟩
    rw [readDigits_append, readDigits_zero_eq_ok_iff.mpr ⟨hdigits, rfl, hle⟩]
    exact readDigits_of_stopsAt hstop

/-- **Reading fails exactly on the texts that are refused**, and gives the reason. -/
theorem readNumeral_eq_error_iff {bound : ℕ} {text : List Char} {cause : NumeralError} :
    readNumeral bound text = .error cause ↔ IsRefused bound text cause := by
  constructor
  · intro h
    have hstopped : readDigits bound 0 (unsigned text) = .error cause →
        IsRefused bound text cause := by
      intro hread
      obtain ⟨digits, c, rest, hsplit, hdigits, hle, hstop⟩ := readDigits_zero_eq_error_iff.mp hread
      exact .stopped hsplit hdigits hle hstop
    unfold readNumeral at h
    split at h
    · cases h
      exact .empty
    · cases h
      exact .sign
    · exact hstopped h
    · next digits _ _ hplain =>
      refine hstopped ?_
      rw [unsigned]
      · exact h
      · exact hplain
  · intro h
    cases h with
    | empty => rfl
    | sign => rfl
    | @stopped _ digits rest c _ hsplit hdigits hle hstop =>
      have hread : readDigits bound 0 (unsigned text) = .error cause :=
        readDigits_zero_eq_error_iff.mpr ⟨digits, c, rest, hsplit, hdigits, hle, hstop⟩
      unfold readNumeral
      split
      · simp [unsigned] at hsplit
      · simp [unsigned] at hsplit
      · exact hread
      · next hplain =>
        rw [unsigned] at hread
        · exact hread
        · exact hplain

/-- **A text is refused exactly if it is no numeral within the bound.** -/
theorem exists_isRefused_iff {bound : ℕ} {text : List Char} :
    (∃ cause, IsRefused bound text cause) ↔ ∀ number ≤ bound, ¬IsNumeral text number := by
  constructor
  · rintro ⟨cause, hrefused⟩ number hle hnumeral
    have hread := readNumeral_eq_ok_iff.mpr ⟨hnumeral, hle⟩
    rw [readNumeral_eq_error_iff.mpr hrefused] at hread
    cases hread
  · intro hnone
    cases hread : readNumeral bound text with
    | error cause => exact ⟨cause, readNumeral_eq_error_iff.mp hread⟩
    | ok number =>
      obtain ⟨hnumeral, hle⟩ := readNumeral_eq_ok_iff.mp hread
      exact absurd hnumeral (hnone number hle)

end Text

/-! ## Values in a listing -/

namespace Listing

/-- A piece of a program **is a word**: a numeral of a number up to seven, blanks around it
ignored. -/
def IsWord (piece : List Char) : Prop :=
  ∃ word : Word, Text.IsNumeral (Text.trim piece) word.toNat ∧ word.toNat ≤ 7

/-- What is **wrong with a word** of a program. -/
inductive WordFault (piece : List Char) : Fault → Prop
  /-- It is no numeral of a byte. -/
  | noNumeral {cause : Text.NumeralError} :
      (∀ number ≤ 255, ¬Text.IsNumeral (Text.trim piece) number) →
      Text.IsRefused 255 (Text.trim piece) cause →
      WordFault piece (.badInteger (String.ofList (Text.trim piece)) cause)
  /-- It is a byte that needs more than three bits. -/
  | outOfRange {byte : Word} : Text.IsNumeral (Text.trim piece) byte.toNat → 7 < byte.toNat →
      WordFault piece (.wordOutOfRange byte)

/-- What is **wrong with a value** in a field. The empty value is a program without words, so there
is nothing wrong with it there. -/
inductive ValueFault : Field → List Char → Fault → Prop
  /-- The value of a register is no numeral of a register. -/
  | register {name : RegisterName} {value : List Char} {cause : Text.NumeralError} :
      (∀ number ≤ 2 ^ 64 - 1, ¬Text.IsNumeral value number) →
      Text.IsRefused (2 ^ 64 - 1) value cause →
      ValueFault (.register name) value (.badInteger (String.ofList value) cause)
  /-- The first piece of a program that is no word is at fault. -/
  | word {value piece : List Char} {before after : List (List Char)} {fault : Fault} :
      value ≠ [] → value.splitOn ',' = before ++ piece :: after →
      (∀ earlier ∈ before, IsWord earlier) → WordFault piece fault →
      ValueFault .program value fault
  /-- All pieces are words, and their number is odd. -/
  | oddLength {value : List Char} :
      value ≠ [] → (∀ piece ∈ value.splitOn ',', IsWord piece) →
      (value.splitOn ',').length % 2 = 1 →
      ValueFault .program value (.program (.oddLength (value.splitOn ',').length))

/-- A register value is refused exactly if it is wrong. -/
theorem readRegister_eq_error_iff {name : RegisterName} {value : List Char} {fault : Fault} :
    readRegister value = .error fault ↔ ValueFault (.register name) value fault := by
  rw [readRegister]
  constructor
  · intro h
    split at h
    · cases h
    · next cause hread =>
      cases h
      have hrefused := Text.readNumeral_eq_error_iff.mp hread
      exact .register (Text.exists_isRefused_iff.mp ⟨cause, hrefused⟩) hrefused
  · rintro ⟨-, hrefused⟩
    have hread := Text.readNumeral_eq_error_iff.mpr hrefused
    rw [show Text.readNumeral (UInt64.size - 1) value = _ from hread]

/-- A word is refused exactly if it is wrong. -/
theorem readWord_eq_error_iff {piece : List Char} {fault : Fault} :
    readWord (Text.trim piece) = .error fault ↔ WordFault piece fault := by
  rw [readWord]
  constructor
  · intro h
    split at h
    · next number hread =>
      obtain ⟨hnumeral, hle⟩ := Text.readNumeral_eq_ok_iff.mp hread
      split at h
      · cases h
      · next hlarge =>
        cases h
        have hbyte : number.toUInt8.toNat = number :=
          UInt8.toNat_ofNat_of_lt' (by simp only [UInt8.size] at hle ⊢; omega)
        exact .outOfRange (by rwa [hbyte]) (by rw [hbyte]; exact not_le.mp hlarge)
    · next cause hread =>
      cases h
      have hrefused := Text.readNumeral_eq_error_iff.mp hread
      exact .noNumeral (Text.exists_isRefused_iff.mp ⟨cause, hrefused⟩) hrefused
  · rintro (⟨-, hrefused⟩ | ⟨hnumeral, hlarge⟩)
    · have hread := Text.readNumeral_eq_error_iff.mpr hrefused
      rw [show Text.readNumeral (UInt8.size - 1) (Text.trim piece) = _ from hread]
    · next byte =>
      have hread : Text.readNumeral (UInt8.size - 1) (Text.trim piece) = .ok byte.toNat :=
        Text.readNumeral_eq_ok_iff.mpr ⟨hnumeral, Nat.le_sub_one_of_lt byte.toNat_lt_size⟩
      simp only [hread, if_neg (not_le.mpr hlarge)]
      exact congrArg (fun word => Except.error (Fault.wordOutOfRange word)) UInt8.ofNat_toNat

/-- Words are refused exactly if the first piece that is no word is wrong. -/
theorem readWords_eq_error_iff {value : List Char} {fault : Fault} :
    readWords value = .error fault ↔
      value ≠ [] ∧ ∃ before piece after, value.splitOn ',' = before ++ piece :: after ∧
        (∀ earlier ∈ before, IsWord earlier) ∧ WordFault piece fault := by
  rw [readWords]
  by_cases hempty : value = []
  · simp [hempty]
  · rw [if_neg hempty, mapM_eq_error_iff]
    simp only [readWord_eq_ok_iff, readWord_eq_error_iff, IsWord, ne_eq, hempty, not_false_iff,
      true_and]

/-- There is nothing wrong with a word. -/
theorem IsWord.not_wordFault {piece : List Char} (h : IsWord piece) (fault : Fault) :
    ¬WordFault piece fault := by
  obtain ⟨word, hword⟩ := h
  rw [← readWord_eq_error_iff, readWord_eq_ok_iff.mpr hword]
  exact fun herror => by cases herror

/-- Where words have been read from a value that is not empty, every piece of it is one of them. -/
theorem isWord_of_readWords {value : List Char} {words : List Word} (hne : value ≠ [])
    (hread : readWords value = .ok words) :
    words.length = (value.splitOn ',').length ∧ ∀ piece ∈ value.splitOn ',', IsWord piece := by
  obtain ⟨hempty, -⟩ | hpieces := readWords_eq_ok_iff.mp hread
  · exact absurd hempty hne
  · exact ⟨hpieces.length_eq.symm, fun piece hmem => exists_of_forall₂_of_mem hpieces.flip hmem⟩

/-- **A program is refused exactly if its value is wrong.** The number of words is held against the
pairs only after all words have been read. -/
theorem readProgram_eq_error_iff {value : List Char} {fault : Fault} :
    readProgram value = .error fault ↔ ValueFault .program value fault := by
  rw [readProgram]
  cases hread : readWords value with
  | error fault' =>
    obtain ⟨hne, before, piece, after, hsplit, hbefore, hfault⟩ := readWords_eq_error_iff.mp hread
    constructor
    · intro h
      obtain rfl := Except.error.inj h
      exact .word hne hsplit hbefore hfault
    · rintro (_ | ⟨hne', hsplit', hbefore', hfault'⟩ | ⟨-, hwords, -⟩)
      · -- the first piece that is no word is the same in both accounts
        have hread' := readWords_eq_error_iff.mpr ⟨hne', _, _, _, hsplit', hbefore', hfault'⟩
        exact hread.symm.trans hread' ▸ rfl
      · have hmem : piece ∈ value.splitOn ',' := by rw [hsplit]; simp
        exact absurd hfault ((hwords piece hmem).not_wordFault _)
  | ok words =>
    -- no word is at fault, so only the number of words is left
    have hodd_iff : ValueFault .program value fault ↔
        words.length % 2 = 1 ∧ fault = .program (.oddLength words.length) := by
      constructor
      · rintro (_ | ⟨hne, hsplit, hbefore, hfault⟩ | ⟨hne, -, hodd⟩)
        · rw [readWords_eq_error_iff.mpr ⟨hne, _, _, _, hsplit, hbefore, hfault⟩] at hread
          cases hread
        · rw [(isWord_of_readWords hne hread).1]
          exact ⟨hodd, rfl⟩
      · rintro ⟨hodd, rfl⟩
        have hne : value ≠ [] := by
          rintro rfl
          cases hread
          cases hodd
        obtain ⟨hcount, hwords⟩ := isWord_of_readWords hne hread
        rw [hcount] at hodd ⊢
        exact .oddLength hne hwords hodd
    rw [hodd_iff]
    by_cases heven : words.length % 2 = 0
    · simp [Program.ofWords, heven]
    · simp [Program.ofWords, Nat.mod_two_ne_zero.mp heven, eq_comm]

/-- **A definition fails exactly if its value is wrong.** -/
theorem Draft.define_eq_error_iff {draft : Draft} {field : Field} {value : List Char}
    {fault : Fault} : draft.define field value = .error fault ↔ ValueFault field value fault := by
  rcases field with (_ | _ | _) | _
  all_goals rw [define, map_eq_error_iff]
  · exact readRegister_eq_error_iff
  · exact readRegister_eq_error_iff
  · exact readRegister_eq_error_iff
  · exact readProgram_eq_error_iff

end Listing

end ThreeBit
