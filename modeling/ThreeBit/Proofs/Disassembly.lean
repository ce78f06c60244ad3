import Mathlib
import ThreeBit.Program.Text
import ThreeBit.Proofs.Replacement
import ThreeBit.Proofs.RoundTrip

/-! # What a disassembly says

The disassembly of a program shows every word of it but one kind: the operand of `bxc`, which has no
effect. What it shows can be read off it again, so programs with the same disassembly are alike.

* **`Combo.ofText_text`** — a combo operand is read back from its text;
* **`Instruction.operation_eq_of_text_eq`** and **`Instruction.operand_eq_of_text_eq`** — the text
  of an instruction determines its operation and the operand that is shown;
* **`Program.lines_text`** — the lines of a disassembly are read back, one for every instruction;
* **`Program.text_eq_iff_alike`** — programs have the same disassembly exactly if they are alike;
* **`Program.same_text_same_run`** — so a disassembly with even jumps settles what a program
  does. -/

namespace ThreeBit

/-! ## Operands -/

/-- A word is determined by how it is written. -/
theorem eq_of_toString_eq {first second : Word}
    (h : toString first.toNat = toString second.toNat) : first = second :=
  UInt8.toNat_inj.mp (Nat.repr_injective h)

/-- A number is written without anything but digits. -/
theorem Text.not_mem_toString {c : Char} (hdigit : c.isDigit = false) (number : ℕ) :
    c ∉ (toString number).toList := fun hmem => by
  rw [isDigit_of_mem_toString hmem] at hdigit
  cases hdigit

/-- The digits in the text of a word are those of the word. -/
theorem toUInt8_decimal_filter (word : Word) :
    (Text.decimal ((toString word.toNat).toList.filter Char.isDigit)).toUInt8 = word := by
  have hdigits : (toString word.toNat).toList.filter Char.isDigit = (toString word.toNat).toList :=
    List.filter_eq_self.mpr fun c => Text.isDigit_of_mem_toString
  rw [hdigits, Nat.toString_eq_repr, Nat.toList_repr, Text.decimal_toDigits]
  exact UInt8.ofNat_toNat

namespace Combo

/-- The **word of a combo operand**: the one it is decoded from. -/
def word : Combo → Word
  | literal word => word
  | a => 4
  | b => 5
  | c => 6
  | reserved word => word

/-- Decoding an operand loses nothing. -/
@[simp] theorem word_ofWord (word : Word) : (ofWord word).word = word := by
  unfold ofWord
  split <;> simp_all [Combo.word, ← UInt8.toNat_inj]

/-- A combo operand **read back** from its text: a letter names a register, and digits are those of
the word. -/
def ofText (text : List Char) : Combo :=
  let word := (Text.decimal (text.filter Char.isDigit)).toUInt8
  match text.head? with
  | some 'a' => a
  | some 'b' => b
  | some 'c' => c
  | some '<' => reserved word
  | _ => literal word

/-- **A combo operand is read back from its text.** -/
theorem ofText_text (combo : Combo) : ofText combo.text.toList = combo := by
  cases combo with
  | literal word =>
    -- the text begins with a digit, so none of the marks is taken for it
    have hne : (toString word.toNat).toList ≠ [] := by
      rw [Nat.toString_eq_repr, Nat.toList_repr]
      exact Nat.toDigits_ne_nil
    obtain ⟨c, rest, hdigits⟩ := List.exists_cons_of_ne_nil hne
    have hdigit : c.isDigit = true := Text.isDigit_of_mem_toString (by rw [hdigits]; simp)
    rw [text, ofText, toUInt8_decimal_filter, hdigits]
    simp only [List.head?_cons]
    split <;> simp_all
  | a => rfl
  | b => rfl
  | c => rfl
  | reserved word =>
    have htext : (reserved word).text.toList
        = "<reserved ".toList ++ (toString word.toNat).toList ++ ">".toList := by simp [text]
    have hbefore : "<reserved ".toList.filter Char.isDigit = [] := rfl
    have hafter : ">".toList.filter Char.isDigit = [] := rfl
    rw [ofText, htext, List.filter_append, List.filter_append, hbefore, hafter, List.nil_append,
      List.append_nil, toUInt8_decimal_filter]
    rfl

/-- An operand is determined by its text as a combo operand. -/
theorem eq_of_text_ofWord_eq {first second : Word}
    (h : (ofWord first).text = (ofWord second).text) : first = second := by
  have hcombo : ofWord first = ofWord second := by
    rw [← ofText_text (ofWord first), h, ofText_text]
  rw [← word_ofWord first, hcombo, word_ofWord]

end Combo

/-! ## Instructions -/

namespace Opcode

/-- The **lead** of an operation: the three characters that its instructions begin with. -/
def lead : Opcode → List Char
  | undefined _ => ['.', 'w', 'o']
  | named => named.mnemonic.toList

/-- The lead tells the named operations from each other, and from the rest. -/
theorem eq_or_undefined_of_lead_eq {first second : Opcode} (h : first.lead = second.lead) :
    first = second ∨ ∃ word other, first = undefined word ∧ second = undefined other := by
  cases first <;> cases second <;> simp_all [lead, mnemonic]

end Opcode

namespace Instruction

variable {first second : Instruction}

/-- The text of an instruction begins with the lead of its operation. -/
theorem take_text (instruction : Instruction) :
    instruction.text.toList.take 3 = instruction.operation.lead := by
  unfold text
  cases instruction.operation with
  | undefined word => simp [Opcode.lead]
  | _ => simp [Opcode.lead, Opcode.mnemonic]

/-- The text of a word that selects no operation: two numbers, with a comma behind the first. -/
theorem text_of_undefined {instruction : Instruction} {word : Word}
    (h : instruction.operation = .undefined word) :
    instruction.text.toList = ".word ".toList ++
      ((toString word.toNat).toList ++
        ',' :: ' ' :: (toString instruction.operand.toNat).toList) := by
  rw [text, h]
  simp

/-- **The operation is determined by the text.** -/
theorem operation_eq_of_text_eq (h : first.text = second.text) :
    first.operation = second.operation := by
  have hlead : first.operation.lead = second.operation.lead := by rw [← take_text, h, take_text]
  rcases Opcode.eq_or_undefined_of_lead_eq hlead with hsame | ⟨word, other, hfirst, hsecond⟩
  · exact hsame
  · -- both are data, and the number up to the comma is the word
    have hnumbers := congrArg String.toList h
    rw [text_of_undefined hfirst, text_of_undefined hsecond, List.append_cancel_left_eq,
      List.append_cons_inj_of_notMem (Text.not_mem_toString rfl _)
        (List.not_mem_cons_of_ne_of_not_mem (by decide) (Text.not_mem_toString rfl _))] at hnumbers
    rw [hfirst, hsecond, eq_of_toString_eq (String.toList_inj.mp hnumbers.1)]

/-- **The operand is determined by the text**, if it is shown. -/
theorem operand_eq_of_text_eq (h : first.text = second.text) (hshown : first.operation ≠ .bxc) :
    first.operand = second.operand := by
  have hsame := operation_eq_of_text_eq h
  unfold text at h
  rw [← hsame] at h
  -- what stands before the operand is the same on both sides
  cases hoperation : first.operation with
  | bxc => exact absurd hoperation hshown
  | undefined word | bxl | jnz =>
    rw [hoperation] at h
    exact eq_of_toString_eq ((String.append_right_inj _).mp h)
  | adv | bst | out | bdv | cdv =>
    rw [hoperation] at h
    exact Combo.eq_of_text_ofWord_eq ((String.append_right_inj _).mp h)

/-- **Instructions have the same text exactly if they are alike.** -/
theorem text_eq_iff_alike : first.text = second.text ↔ first.Alike second := by
  constructor
  · intro h
    refine ⟨?_, fun hopcode => operand_eq_of_text_eq h ?_⟩
    · rw [← Opcode.word_ofWord first.opcode, ← Opcode.word_ofWord second.opcode]
      exact congrArg Opcode.word (operation_eq_of_text_eq h)
    · exact fun hbxc => hopcode ((operation_eq_iff (by simp)).mp hbxc)
  · intro h
    rcases h.eq_or_bxc with rfl | ⟨hfirst, hsecond⟩
    · rfl
    · simp only [text, hfirst, hsecond]

/-- The text of an instruction is one line. -/
theorem not_mem_text (instruction : Instruction) :
    '\n' ∉ instruction.text.toList ∧ '\r' ∉ instruction.text.toList := by
  have hfeed (number : ℕ) : '\n' ∉ (toString number).toList := Text.not_mem_toString rfl number
  have hreturn (number : ℕ) : '\r' ∉ (toString number).toList := Text.not_mem_toString rfl number
  have hcombo : '\n' ∉ instruction.combo.text.toList ∧ '\r' ∉ instruction.combo.text.toList := by
    cases instruction.combo <;> simp [Combo.text, -Nat.toString_eq_repr, hfeed, hreturn]
  unfold text
  cases instruction.operation <;>
    simp [Opcode.mnemonic, Opcode.usesCombo, -Nat.toString_eq_repr, hfeed, hreturn, hcombo]

end Instruction

/-! ## Programs -/

/-- A text in a column has blanks in front. -/
theorem Text.toList_rightAligned (width : ℕ) (text : String) :
    (rightAligned width text).toList = List.replicate (width - text.length) ' ' ++ text.toList := by
  have hblanks (count : ℕ) : ("".pushn ' ' count).toList = List.replicate count ' ' := by
    rw [String.pushn_eq_repeat_push]
    induction count with
    | zero => rfl
    | succ count ih => rw [Nat.repeat, String.toList_push, ih, List.replicate_succ']
  rw [rightAligned, String.toList_append, hblanks]

namespace Program

variable {first second : Program}

/-- The **label** of a line: its offset, set in a column, and a colon. -/
def label (offset : ℕ) : String := Text.rightAligned 4 (toString offset) ++ ": "

/-- The label is part of one line. -/
theorem not_mem_label (offset : ℕ) :
    '\n' ∉ (label offset).toList ∧ '\r' ∉ (label offset).toList := by
  have hfeed : '\n' ∉ (toString offset).toList := Text.not_mem_toString rfl offset
  have hreturn : '\r' ∉ (toString offset).toList := Text.not_mem_toString rfl offset
  simp [label, Text.toList_rightAligned, -Nat.toString_eq_repr, hfeed, hreturn]

/-- The **lines** of a disassembly, without their ends. -/
def lines (program : Program) : List String :=
  program.instructions.mapIdx fun index instruction => label (2 * index) ++ instruction.text

/-- A disassembly is the text of its lines. -/
theorem text_eq_ended (program : Program) : program.text = Listing.ended program.lines := by
  have hlines : program.lines.map (fun line => line ++ "\n")
      = program.instructions.mapIdx fun index => lineText (2 * index) := by
    refine List.ext_getElem? fun index => ?_
    simp only [lines, List.getElem?_map, List.getElem?_mapIdx, Option.map_map]
    rfl
  rw [text, Listing.ended, hlines]

/-- **The lines of a disassembly are read back.** -/
theorem lines_text (program : Program) :
    Text.lines program.text.toList = program.lines.map String.toList := by
  rw [text_eq_ended, Listing.lines_ended]
  intro line hline
  obtain ⟨index, hindex, rfl⟩ := List.mem_mapIdx.mp hline
  obtain ⟨hfeed, hreturn⟩ := (program.instructions[index]).not_mem_text
  obtain ⟨hfeed', hreturn'⟩ := not_mem_label (2 * index)
  simp [hfeed, hreturn, hfeed', hreturn']

/-- Lines are the same exactly if their instructions are alike: in front of these stand the same
labels. -/
theorem lines_eq_iff_alike : first.lines = second.lines ↔ first.Alike second := by
  rw [Alike, List.forall₂_iff_get, List.ext_getElem_iff]
  simp only [lines, List.length_mapIdx, List.getElem_mapIdx, String.append_right_inj,
    Instruction.text_eq_iff_alike, List.get_eq_getElem]

/-- **Programs have the same disassembly exactly if they are alike.** -/
theorem text_eq_iff_alike : first.text = second.text ↔ first.Alike second := by
  rw [← lines_eq_iff_alike]
  constructor
  · intro h
    have hlines : first.lines.map String.toList = second.lines.map String.toList := by
      rw [← lines_text, h, lines_text]
    exact List.map_injective_iff.mpr (fun _ _ => String.toList_inj.mp) hlines
  · intro h
    rw [text_eq_ended, h, ← text_eq_ended]

/-! ## Equal disassemblies -/

/-- **A disassembly settles what a program does**, if its jumps are even. Programs with the same
disassembly have the same size, and the same words up to operands of `bxc`. If every jump that is
written in one of them goes to an even offset, then both have the same result within any limit, from
any register file with an even pointer: the same error, or the same registers, outputs and steps.
The program is no larger than its pointer can tell. -/
theorem same_text_same_run (first second : Program) (htext : first.text = second.text) :
    first.size = second.size ∧
    List.Forall₂ (fun instruction other => instruction.opcode = other.opcode ∧
        (instruction.opcode ≠ 4 → instruction.operand = other.operand))
      first.instructions second.instructions ∧
    (first.size < 2 ^ 64 →
      (∀ instruction ∈ first.instructions, instruction.opcode = 3 →
        instruction.operand.toNat % 2 = 0) →
      ∀ registers : Registers, registers.ip.toNat % 2 = 0 → ∀ limit,
        ({ program := first, registers } : Machine).runWithLimit limit
          = ({ program := second, registers } : Machine).runWithLimit limit) := by
  have halike : first.Alike second := text_eq_iff_alike.mp htext
  refine ⟨halike.size_eq, halike, fun hsize hjumps registers heven limit => ?_⟩
  let machine : Machine := { program := first, registers }
  exact (machine.runWithLimit_withProgram halike hjumps hsize heven limit).symm

/-- A loop with a hidden operand, which is a jump in one program and none in the other. From the
second instruction on it goes round twice, in seven steps. -/
theorem same_text_same_run_hidden_jump :
    let first : Program := ⟨#[4, 3, 0, 1, 5, 4, 3, 0], rfl⟩
    let second : Program := ⟨#[4, 9, 0, 1, 5, 4, 3, 0], rfl⟩
    let registers : Registers := { a := 3, b := 6, c := 5, ip := 2 }
    let outcome : Outcome :=
      { registers := { a := 0, b := 3, c := 5, ip := 8 }, outputs := #[1, 0], steps := 7 }
    first.text = second.text ∧ first ≠ second ∧
      ({ program := first, registers } : Machine).runWithLimit 7 = .ok outcome ∧
      ({ program := second, registers } : Machine).runWithLimit 7 = .ok outcome := by
  intro first second registers outcome
  have htext : first.text = second.text := by decide +kernel
  have hfirst : ({ program := first, registers } : Machine).runWithLimit 7 = .ok outcome := by
    decide +kernel
  have hsame := (same_text_same_run first second htext).2.2 (by decide) (by decide) registers
    (by decide) 7
  exact ⟨htext, by decide, hfirst, hsame.symm.trans hfirst⟩

/-- A jump to an odd offset brings the hidden operand to light: it emits in one program and not in
the other. -/
example :
    let first : Program := ⟨#[3, 3, 4, 5, 4, 0], rfl⟩
    let second : Program := ⟨#[3, 3, 4, 0, 4, 0], rfl⟩
    let registers : Registers := { a := 6 }
    first.text = second.text ∧
      ({ program := first, registers } : Machine).runWithLimit 3
        ≠ ({ program := second, registers } : Machine).runWithLimit 3 := by
  decide +kernel

end Program

end ThreeBit
