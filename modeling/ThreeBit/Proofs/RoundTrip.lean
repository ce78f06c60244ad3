import Mathlib
import ThreeBit.Proofs.Faults

/-! # Writing a listing and reading it back

`Listing.layout` writes down any three registers and any words, so what it writes need not be a
listing: a word may be too large, or one word too many. `Listing.parse_layout` says what the parser
makes of the text in each case.

* **Numerals** — a number is written by a numeral of it (`Text.isNumeral_toString`).
* **Words** — the commas between words divide the text again, and the words are read back up to the
  first that needs more than three bits (`Listing.readWords_wordsText`).
* **Lines** — values are written without blanks (`Text.IsSolid`), so a line ends where it was
  written to end (`Listing.lines_ended`), and has the key and the value it was written with
  (`Listing.isDefinition_written`).

Whether a text is a listing, and which, does not depend on the order of its lines
(`Listing.parse_of_perm`). -/

namespace ThreeBit

namespace Text

/-! ## Texts without blanks -/

/-- A text is **solid** when there is no blank in it. -/
def IsSolid (text : List Char) : Prop := ∀ c ∈ text, isBlank c = false

namespace IsSolid

variable {text : List Char}

/-- There is nothing to trim from a solid text. -/
theorem trim_eq_self (h : IsSolid text) : trim text = text := by
  have hfront : text.dropWhile isBlank = text :=
    List.dropWhile_eq_self_iff.mpr fun hpos => Bool.eq_false_iff.mp (h _ (List.getElem_mem hpos))
  have hback : text.rdropWhile isBlank = text :=
    List.rdropWhile_eq_self_iff.mpr fun hne => Bool.eq_false_iff.mp (h _ (List.getLast_mem hne))
  rw [trim_eq, hfront, hback]

/-- A blank is not in a solid text. -/
theorem not_mem (h : IsSolid text) {c : Char} (hblank : isBlank c = true) : c ∉ text := by
  intro hmem
  rw [h c hmem] at hblank
  cases hblank

/-- Solid pieces with a solid text between them are a solid text. -/
theorem intercalate {separator : List Char} {pieces : List (List Char)}
    (hseparator : IsSolid separator) (hpieces : ∀ piece ∈ pieces, IsSolid piece) :
    IsSolid (separator.intercalate pieces) := by
  induction pieces with
  | nil => simp [IsSolid]
  | cons piece pieces ih =>
    obtain ⟨hpiece, hrest⟩ := List.forall_mem_cons.mp hpieces
    by_cases hne : pieces = []
    · rwa [hne, List.intercalate_singleton]
    · rw [List.intercalate_cons_of_ne_nil hne]
      intro c hmem
      rcases List.mem_append.mp hmem with hmem | hmem
      · exact (List.mem_append.mp hmem).elim (hpiece c) (hseparator c)
      · exact ih hrest c hmem

end IsSolid

/-- A blank in front is trimmed. -/
theorem trim_cons_of_isBlank {c : Char} (hblank : isBlank c = true) (text : List Char) :
    trim (c :: text) = trim text := by
  rw [trim_eq, List.dropWhile_cons_of_pos hblank, ← trim_eq]

/-- A digit is no blank. -/
theorem isBlank_of_isDigit {c : Char} (hdigit : c.isDigit = true) : isBlank c = false := by
  have hrange := Char.isDigit_iff_toNat.mp hdigit
  simp only [isBlank]
  grind

/-! ## Numerals that were written -/

/-- The digits that a number is written with stand for it. -/
theorem decimal_toDigits (number : ℕ) : decimal (Nat.toDigits 10 number) = number := by
  have hread : ∀ digits, Nat.ofDigitChars 10 digits 0 = decimal digits := by
    intro digits
    induction digits using List.reverseRecOn with
    | nil => rfl
    | append_singleton digits c ih =>
      rw [Nat.ofDigitChars_append, ih, decimal_concat, Nat.ofDigitChars_cons, Nat.ofDigitChars_nil,
        digitValue]
  rw [← hread, Nat.ofDigitChars_ten_toDigits]

/-- A number is written with digits only. -/
theorem isDigit_of_mem_toString {number : ℕ} {c : Char} (hmem : c ∈ (toString number).toList) :
    c.isDigit = true := by
  rw [Nat.toString_eq_repr, Nat.toList_repr] at hmem
  exact Nat.isDigit_of_mem_toDigits (by decide) (by decide) hmem

/-- **A number is written by a numeral of it.** -/
theorem isNumeral_toString (number : ℕ) : IsNumeral (toString number).toList number := by
  have hdigits : ∀ c ∈ (toString number).toList, c.isDigit = true :=
    fun c => isDigit_of_mem_toString
  rw [Nat.toString_eq_repr, Nat.toList_repr] at hdigits ⊢
  have hnumeral := IsNumeral.plain Nat.toDigits_ne_nil hdigits
  rwa [decimal_toDigits] at hnumeral

/-- A number is written without blanks. -/
theorem isSolid_toString (number : ℕ) : IsSolid (toString number).toList :=
  fun _ hmem => isBlank_of_isDigit (isDigit_of_mem_toString hmem)

end Text

namespace Listing

/-! ## Values that were written -/

/-- A word that was written is read back, unless it needs more than three bits. -/
theorem readWord_toString (word : Word) :
    readWord (Text.trim (toString word.toNat).toList) =
      if 7 < word.toNat then .error (.wordOutOfRange word) else .ok word := by
  have hnumeral : Text.IsNumeral (Text.trim (toString word.toNat).toList) word.toNat := by
    rw [(Text.isSolid_toString _).trim_eq_self]
    exact Text.isNumeral_toString _
  split
  · next hlarge => exact readWord_eq_error_iff.mpr (.outOfRange hnumeral hlarge)
  · next hsmall => exact readWord_eq_ok_iff.mpr ⟨hnumeral, not_lt.mp hsmall⟩

/-- **The commas between words** are where the text is divided again. -/
theorem splitOn_wordsText {words : List Word} (hne : words ≠ []) :
    (wordsText words).toList.splitOn ',' = words.map fun word => (toString word.toNat).toList := by
  rw [wordsText, String.toList_intercalate, List.map_map]
  refine List.splitOn_intercalate ',' ?_ (by simpa using hne)
  intro piece hpiece hcomma
  obtain ⟨word, -, rfl⟩ := List.mem_map.mp hpiece
  have hdigit := Text.isDigit_of_mem_toString hcomma
  cases hdigit

/-- Words are written without blanks. -/
theorem isSolid_wordsText (words : List Word) : Text.IsSolid (wordsText words).toList := by
  rw [wordsText, String.toList_intercalate, List.map_map]
  refine Text.IsSolid.intercalate (by simp [Text.IsSolid, Text.isBlank]) ?_
  intro piece hpiece
  obtain ⟨word, -, rfl⟩ := List.mem_map.mp hpiece
  exact Text.isSolid_toString _

/-- The text of some words is not empty. -/
theorem wordsText_ne_nil {words : List Word} (hne : words ≠ []) :
    (wordsText words).toList ≠ [] := by
  intro hnil
  -- else the only piece of it would be empty, and a numeral
  have hpieces := splitOn_wordsText hne
  obtain ⟨word, words, rfl⟩ := List.exists_cons_of_ne_nil hne
  rw [hnil, List.map_cons] at hpieces
  have hempty : [] = (toString word.toNat).toList := (List.cons.inj hpieces).1
  have hnumeral := Text.isNumeral_toString word.toNat
  rw [← hempty] at hnumeral
  exact Text.not_isNumeral_nil hnumeral

/-- Words are read one by one, up to the first that needs more than three bits. -/
theorem mapM_readWord_toString (words : List Word) :
    (words.mapM fun word => readWord (Text.trim (toString word.toNat).toList)) =
      match words.find? fun word => 7 < word.toNat with
      | some value => .error (.wordOutOfRange value)
      | none => .ok words := by
  induction words with
  | nil => rfl
  | cons word words ih =>
    rw [List.mapM_cons, ih, readWord_toString]
    by_cases hlarge : 7 < word.toNat
    · rw [if_pos hlarge, List.find?_cons_of_pos (by simpa using hlarge)]
      rfl
    · rw [if_neg hlarge, List.find?_cons_of_neg (by simpa using hlarge)]
      cases words.find? fun word => 7 < word.toNat <;> rfl

/-- **Words that were written are read back**, if none of them needs more than three bits. -/
theorem readWords_wordsText (words : List Word) :
    readWords (wordsText words).toList =
      match words.find? fun word => 7 < word.toNat with
      | some value => .error (.wordOutOfRange value)
      | none => .ok words := by
  by_cases hne : words = []
  · subst hne
    rfl
  · rw [readWords, if_neg (wordsText_ne_nil hne), splitOn_wordsText hne, List.mapM_map,
      Function.comp_def, mapM_readWord_toString]

/-! ## Lines that were written -/

/-- A definition without the end of its line. -/
def written (field : Field) (value : String) : String := field.key ++ ": " ++ value

/-- The lines of the customary layout, one of them empty. -/
def layoutLines (a b c : Register) (words : List Word) : List String :=
  [written (.register .a) (toString a.toNat), written (.register .b) (toString b.toNat),
    written (.register .c) (toString c.toNat), "", written .program (wordsText words)]

/-- The text of some lines, each with its end. -/
def ended (lines : List String) : String := String.join (lines.map fun line => line ++ "\n")

/-- The customary layout is the text of its lines. -/
theorem layout_eq_ended (a b c : Register) (words : List Word) :
    layout a b c words = ended (layoutLines a b c words) := by
  rw [← String.toList_inj]
  simp [layout, definition, ended, layoutLines, written]

example : layout 729 0 0 [0, 1, 5, 4, 3, 0] =
    "Register A: 729\nRegister B: 0\nRegister C: 0\n\nProgram: 0,1,5,4,3,0\n" := by
  decide +kernel

/-- The lines of a text are those it was put together from, if none of them has a line end in it. -/
theorem lines_ended {lines : List String}
    (hlines : ∀ line ∈ lines, '\n' ∉ line.toList ∧ '\r' ∉ line.toList) :
    Text.lines (ended lines).toList = lines.map String.toList := by
  have htext : (ended lines).toList
      = (lines.map String.toList).flatMap fun line => line ++ ['\n'] := by
    simp [ended, List.flatMap_map]
  rw [htext, Text.lines_flatMap (by simpa using hlines)]

/-- **A line that was written is a definition** under the key and with the value it was written
with. -/
theorem isDefinition_written (field : Field) {value : String} (hvalue : Text.IsSolid value.toList) :
    Text.IsDefinition (written field value).toList field.key.toList value.toList := by
  have hline : (written field value).toList = field.key.toList ++ ':' :: ' ' :: value.toList := by
    simp [written]
  refine ⟨field.key.toList, ' ' :: value.toList, hline, ?_, ?_, ?_⟩
  · rcases field with (_ | _ | _) | _ <;> decide
  · rcases field with (_ | _ | _) | _ <;> decide
  · rw [Text.trim_cons_of_isBlank rfl, hvalue.trim_eq_self]

/-- There is no line end in a line that was written. -/
theorem not_mem_written (field : Field) {value : String} (hvalue : Text.IsSolid value.toList) :
    '\n' ∉ (written field value).toList ∧ '\r' ∉ (written field value).toList := by
  have hfeed := hvalue.not_mem (c := '\n') rfl
  have hreturn := hvalue.not_mem (c := '\r') rfl
  rcases field with (_ | _ | _) | _ <;>
    simp [written, Field.key, RegisterName.letter, hfeed, hreturn]

/-- There is no line end in a line of the customary layout. -/
theorem not_mem_layoutLines {a b c : Register} {words : List Word} {line : String}
    (hline : line ∈ layoutLines a b c words) : '\n' ∉ line.toList ∧ '\r' ∉ line.toList := by
  simp only [layoutLines, List.mem_cons, List.not_mem_nil, or_false] at hline
  rcases hline with rfl | rfl | rfl | rfl | rfl
  · exact not_mem_written _ (Text.isSolid_toString _)
  · exact not_mem_written _ (Text.isSolid_toString _)
  · exact not_mem_written _ (Text.isSolid_toString _)
  · decide
  · exact not_mem_written _ (isSolid_wordsText _)

/-- A line that was written defines its field, if that is open, by its value. -/
theorem Draft.readLine_written {draft : Draft} {field : Field} {value : String}
    (hvalue : Text.IsSolid value.toList) (hopen : draft.defines field = false) :
    draft.readLine (written field value).toList = draft.define field value.toList := by
  rw [readLine_of_isDefinition (isDefinition_written field hvalue), ofKey?_eq_some_iff.mpr rfl]
  simp only [hopen, Bool.false_eq_true, if_false]

/-- A register that was written fills its field, if that is open, from any listing that has it
there. -/
theorem Draft.readLine_register {draft : Draft} {name : RegisterName} {register : Register}
    (hopen : draft.defines (.register name) = false) (listing : Listing)
    (hvalue : listing.HasValue (.register name) (toString register.toNat).toList) :
    draft.readLine (written (.register name) (toString register.toNat)).toList =
      .ok (draft.fill listing (.register name)) := by
  rw [readLine_written (Text.isSolid_toString _) hopen]
  exact define_eq_fill_iff.mpr hvalue

/-- **The lines of the customary layout are read** up to the program, and what is wrong with that is
the fault of the fifth line. -/
theorem Draft.readLines_layoutLines (a b c : Register) (words : List Word) :
    ({} : Draft).readLines 1 ((layoutLines a b c words).map String.toList) =
      match readProgram (wordsText words).toList with
      | .ok program => .ok (ofListing { a, b, c, program })
      | .error fault => .error (.faulty 5 fault) := by
  -- whatever the program, the registers are those of this listing
  let start : Listing := { a, b, c, program := .empty }
  have ha : ({} : Draft).readLine (written (.register .a) (toString a.toNat)).toList =
      .ok { a := some a } := readLine_register rfl start (Text.isNumeral_toString _)
  have hb : ({ a := some a } : Draft).readLine (written (.register .b) (toString b.toNat)).toList =
      .ok { a := some a, b := some b } := readLine_register rfl start (Text.isNumeral_toString _)
  have hc : ({ a := some a, b := some b } : Draft).readLine
      (written (.register .c) (toString c.toNat)).toList =
        .ok { a := some a, b := some b, c := some c } :=
    readLine_register rfl start (Text.isNumeral_toString _)
  have hempty : ({ a := some a, b := some b, c := some c } : Draft).readLine "".toList =
      .ok { a := some a, b := some b, c := some c } := readLine_of_blank rfl
  have hprogram : ({ a := some a, b := some b, c := some c } : Draft).readLine
      (written .program (wordsText words)).toList =
        (readProgram (wordsText words).toList).map fun program => ofListing { a, b, c, program } :=
    readLine_written (isSolid_wordsText words) rfl
  simp only [layoutLines, List.map_cons, List.map_nil, readLines, ha, hb, hc, hempty, hprogram]
  cases readProgram (wordsText words).toList <;> rfl

/-! ## The parser -/

/-- **The order of the lines does not matter.** A text with the same lines as a listing, blank ones
apart, is that listing. -/
theorem parse_of_perm {text other : String} {listing : Listing}
    (hperm : (inked (Text.lines other.toList)).Perm (inked (Text.lines text.toList)))
    (hparse : parse text = .ok listing) : parse other = .ok listing := by
  rw [parse_eq_ok_iff_readLines, Draft.readLines_eq_ok_iff] at hparse ⊢
  obtain ⟨hagrees, fields, hfields, hlines⟩ := hparse
  -- the fields of the lines are permuted as the lines are
  obtain ⟨fields', hlines', hfields'⟩ := List.perm_comp_forall₂ hperm hlines
  exact ⟨hagrees, fields', hfields'.trans hfields, hlines'⟩

/-- **What the parser makes of the customary layout.** The first word that needs more than three
bits is a fault of the fifth line; if there is none, an odd number of words is; and an even number
of words is read back as the program, with the registers that were written. A listing is read back
from its lines in any order, too. -/
theorem parse_layout (a b c : Register) (words : List Word) :
    (parse (layout a b c words) =
      match words.find? fun word => 7 < word.toNat with
      | some value => .error (.faulty 5 (.wordOutOfRange value))
      | none =>
        if heven : words.length % 2 = 0 then .ok { a, b, c, program := ⟨words.toArray, heven⟩ }
        else .error (.faulty 5 (.program (.oddLength words.length)))) ∧
    ∀ listing lines, parse (layout a b c words) = .ok listing →
      lines.Perm (layoutLines a b c words) → parse (ended lines) = .ok listing := by
  refine ⟨?_, fun listing lines hparse hperm => parse_of_perm ?_ hparse⟩
  · rw [parse, layout_eq_ended, lines_ended fun line => not_mem_layoutLines,
      Draft.readLines_layoutLines, readProgram, readWords_wordsText]
    cases words.find? fun word => 7 < word.toNat with
    | some value => rfl
    | none =>
      by_cases heven : words.length % 2 = 0
      · have hprogram : Program.ofWords words.toArray = .ok ⟨words.toArray, heven⟩ := dif_pos heven
        simp only [hprogram, dif_pos heven]
        rfl
      · have hprogram : Program.ofWords words.toArray = .error (.oddLength words.length) :=
          dif_neg heven
        simp only [hprogram, dif_neg heven]
  · rw [layout_eq_ended, lines_ended fun line => not_mem_layoutLines,
      lines_ended fun line hline => not_mem_layoutLines (hperm.mem_iff.mp hline)]
    exact (hperm.map _).filter _

/-- A listing in the customary layout is read back, and read the same with its lines in another
order. -/
theorem parse_layout_program_first :
    let listing : Listing := { a := 729, b := 0, c := 0, program := ⟨#[0, 1, 5, 4, 3, 0], rfl⟩ }
    parse (layout 729 0 0 [0, 1, 5, 4, 3, 0]) = .ok listing ∧
      parse "Program: 0,1,5,4,3,0\nRegister C: 0\n\nRegister A: 729\nRegister B: 0\n" =
        .ok listing := by
  intro listing
  obtain ⟨hread, horder⟩ := parse_layout 729 0 0 [0, 1, 5, 4, 3, 0]
  have htext : "Program: 0,1,5,4,3,0\nRegister C: 0\n\nRegister A: 729\nRegister B: 0\n" =
      ended ["Program: 0,1,5,4,3,0", "Register C: 0", "", "Register A: 729", "Register B: 0"] := by
    decide +kernel
  refine ⟨hread, ?_⟩
  rw [htext]
  exact horder listing _ hread (by decide +kernel)

end Listing

end ThreeBit
