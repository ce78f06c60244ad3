import Mathlib
import ThreeBit.Proofs.Lines
import ThreeBit.Proofs.Refusals

/-! # The first faulty line

A line is faulty in view of the lines before it, for what they have defined must not be defined
again. `Listing.LineFault` says which fault a line has, with no reader in it, and `Listing.parse`
reports the first line that has one, with its number and its fault (`Listing.parse_eq_faulty_iff`).
A text without a faulty line is a listing, or lacks a definition (`Listing.parse_eq_missing_iff`).

What the reader knows of the lines so far is which fields they define: a draft *records* lines when
it defines just these (`Draft.Records`). One line keeps this (`Draft.Records.readLine`), and the
faults of the next line can be read off it (`Draft.Records.readLine_eq_error_iff`). -/

namespace ThreeBit.Listing

/-! ## Faulty lines -/

/-- Some lines **define** a field: one of them is a definition under its key. -/
def Defines (lines : List (List Char)) (field : Field) : Prop :=
  ∃ line ∈ lines, ∃ value, Text.IsDefinition line field.key.toList value

/-- The **fault of a line** behind some earlier lines. A definition of a field that was defined
before is at fault whatever its value. -/
inductive LineFault (earlier : List (List Char)) (line : List Char) : Fault → Prop
  /-- The line is not blank, and has no colon, or has a key that introduces no field. -/
  | unknownLine : Text.trim line ≠ [] →
      (':' ∉ line ∨ ∃ key value, Text.IsDefinition line key value ∧
        ∀ field : Field, field.key.toList ≠ key) →
      LineFault earlier line (.unknownLine (String.ofList (Text.trim line)))
  /-- The field of the line is defined on an earlier line. -/
  | duplicate {field : Field} {value : List Char} :
      Text.IsDefinition line field.key.toList value → Defines earlier field →
      LineFault earlier line (.duplicate field)
  /-- The field is new, and its value is wrong. -/
  | value {field : Field} {value : List Char} {fault : Fault} :
      Text.IsDefinition line field.key.toList value → ¬Defines earlier field →
      ValueFault field value fault → LineFault earlier line fault

/-- Lines are **faultless** when none of them has a fault behind those before it. -/
def Faultless (lines : List (List Char)) : Prop :=
  ∀ before line after fault, lines = before ++ line :: after → ¬LineFault before line fault

/-- Lines define what all but the last of them define, and what the last does. -/
theorem defines_concat_iff {lines : List (List Char)} {line : List Char} {field : Field} :
    Defines (lines ++ [line]) field ↔
      Defines lines field ∨ ∃ value, Text.IsDefinition line field.key.toList value := by
  simp only [Defines, List.mem_append, List.mem_singleton, or_and_right, exists_or, exists_eq_left]

/-! ## Reading one line -/

/-- No two fields have the same key. -/
theorem key_injective {field other : Field} (h : field.key.toList = other.key.toList) :
    field = other := by
  have hfield := ofKey?_eq_some_iff.mpr h
  rw [ofKey?_eq_some_iff.mpr rfl] at hfield
  exact (Option.some.inj hfield).symm

/-- A key that is no field's introduces nothing. -/
theorem ofKey?_eq_none_iff {key : List Char} :
    Field.ofKey? key = none ↔ ∀ field : Field, field.key.toList ≠ key := by
  rw [Option.eq_none_iff_forall_ne_some]
  exact forall_congr' fun field => not_congr ofKey?_eq_some_iff

namespace Draft

variable {draft draft' : Draft} {earlier : List (List Char)} {line : List Char}

/-- A blank line is passed over. -/
theorem readLine_of_blank (hblank : Text.trim line = []) : draft.readLine line = .ok draft := by
  simp only [readLine, if_pos hblank]

/-- A line without a colon is unknown, unless it is blank. -/
theorem readLine_of_not_mem (hblank : Text.trim line ≠ []) (hcolon : ':' ∉ line) :
    draft.readLine line = .error (.unknownLine (String.ofList (Text.trim line))) := by
  have hcut : Text.cutAt ':' (Text.trim line) = none := by
    rw [Option.eq_none_iff_forall_ne_some]
    rintro ⟨before, after⟩ hcut
    exact hcolon (Text.exists_isDefinition_iff.mp
      ⟨_, _, Text.isDefinition_iff_cutAt.mpr ⟨before, after, hcut, rfl, rfl⟩⟩)
  simp only [readLine, if_neg hblank, hcut]

/-- **Reading a definition.** The key comes first, then whether the field is new, then the value. -/
theorem readLine_of_isDefinition {key value : List Char}
    (hdefinition : Text.IsDefinition line key value) :
    draft.readLine line =
      match Field.ofKey? key with
      | none => .error (.unknownLine (String.ofList (Text.trim line)))
      | some field =>
        if draft.defines field then .error (.duplicate field) else draft.define field value := by
  obtain ⟨before, after, hcut, rfl, rfl⟩ := Text.isDefinition_iff_cutAt.mp hdefinition
  cases hkey : Field.ofKey? (Text.trim before) <;>
    simp only [readLine, if_neg hdefinition.trim_ne_nil, hcut, hkey]

/-- A definition that succeeds defines its field and nothing else. -/
theorem defines_of_define {field : Field} {value : List Char}
    (hdefine : draft.define field value = .ok draft') (other : Field) :
    draft'.defines other = true ↔ draft.defines other = true ∨ other = field := by
  rcases field with (_ | _ | _) | _ <;> obtain ⟨result, -, rfl⟩ := map_eq_ok_iff.mp hdefine <;>
    rcases other with (_ | _ | _) | _ <;> simp [defines]

/-- A draft **records** some lines when it defines exactly what they define. -/
def Records (draft : Draft) (lines : List (List Char)) : Prop :=
  ∀ field, draft.defines field = true ↔ Defines lines field

/-- The empty draft records no lines. -/
theorem records_empty : ({} : Draft).Records [] := by
  intro field
  rcases field with (_ | _ | _) | _ <;> simp [defines, Defines]

/-- **One line is recorded.** -/
theorem Records.readLine (h : draft.Records earlier) (hline : draft.readLine line = .ok draft') :
    draft'.Records (earlier ++ [line]) := by
  intro field
  rw [defines_concat_iff, ← h field]
  obtain ⟨hblank, rfl⟩ | ⟨new, value, hdefinition, -, hdefine⟩ := readLine_eq_ok_iff.mp hline
  · -- a blank line defines nothing
    exact ⟨Or.inl, fun hdefines => hdefines.resolve_right
      fun ⟨_, hdefinition⟩ => hdefinition.trim_ne_nil hblank⟩
  · rw [defines_of_define hdefine]
    refine or_congr_right ⟨?_, fun ⟨_, hother⟩ => key_injective (hother.unique hdefinition).1⟩
    rintro rfl
    exact ⟨value, hdefinition⟩

/-- **The fault of the next line.** A draft that records the earlier lines fails to read a line
exactly if the line has a fault behind them. -/
theorem Records.readLine_eq_error_iff (h : draft.Records earlier) {fault : Fault} :
    draft.readLine line = .error fault ↔ LineFault earlier line fault := by
  constructor
  · intro herror
    by_cases hblank : Text.trim line = []
    · rw [readLine_of_blank hblank] at herror
      cases herror
    by_cases hcolon : ':' ∈ line
    · obtain ⟨key, value, hdefinition⟩ := Text.exists_isDefinition_iff.mpr hcolon
      rw [readLine_of_isDefinition hdefinition] at herror
      cases hkey : Field.ofKey? key with
      | none =>
        simp only [hkey] at herror
        obtain rfl := Except.error.inj herror
        exact .unknownLine hblank (Or.inr ⟨key, value, hdefinition, ofKey?_eq_none_iff.mp hkey⟩)
      | some field =>
        simp only [hkey] at herror
        obtain rfl := ofKey?_eq_some_iff.mp hkey
        by_cases hdefines : draft.defines field = true
        · rw [if_pos hdefines] at herror
          obtain rfl := Except.error.inj herror
          exact .duplicate hdefinition ((h field).mp hdefines)
        · rw [if_neg hdefines] at herror
          exact .value hdefinition (mt (h field).mpr hdefines) (define_eq_error_iff.mp herror)
    · rw [readLine_of_not_mem hblank hcolon] at herror
      obtain rfl := Except.error.inj herror
      exact .unknownLine hblank (Or.inl hcolon)
  · rintro (⟨hblank, hcolon | ⟨key, value, hdefinition, hkey⟩⟩ | ⟨hdefinition, hdefines⟩ |
      ⟨hdefinition, hnew, hvalue⟩)
    · exact readLine_of_not_mem hblank hcolon
    · rw [readLine_of_isDefinition hdefinition, ofKey?_eq_none_iff.mpr hkey]
    · rw [readLine_of_isDefinition hdefinition, ofKey?_eq_some_iff.mpr rfl]
      exact if_pos ((h _).mpr hdefines)
    · rw [readLine_of_isDefinition hdefinition, ofKey?_eq_some_iff.mpr rfl]
      exact (if_neg (mt (h _).mp hnew)).trans (define_eq_error_iff.mpr hvalue)

/-! ## Reading lines -/

/-- Lines are read one part after the other. -/
theorem readLines_append (draft : Draft) (number : ℕ) (before after : List (List Char)) :
    draft.readLines number (before ++ after) =
      (do let draft ← draft.readLines number before
          draft.readLines (number + before.length) after) := by
  induction before generalizing draft number with
  | nil => rfl
  | cons line before ih =>
    rw [List.cons_append, readLines, readLines]
    cases draft.readLine line with
    | error fault => rfl
    | ok draft' =>
      show draft'.readLines (number + 1) (before ++ after) = _
      rw [ih, List.length_cons, Nat.add_assoc, Nat.add_comm 1]

/-- One line is read by itself. -/
theorem readLines_singleton_eq_ok_iff {number : ℕ} :
    draft.readLines number [line] = .ok draft' ↔ draft.readLine line = .ok draft' := by
  rw [readLines]
  cases draft.readLine line <;> simp [readLines]

/-- One line fails by its own fault. -/
theorem readLines_singleton_eq_error_iff {number : ℕ} {error : Error} :
    draft.readLines number [line] = .error error ↔
      ∃ fault, draft.readLine line = .error fault ∧ error = .faulty number fault := by
  rw [readLines]
  cases draft.readLine line <;> simp [readLines, eq_comm]

variable {lines : List (List Char)}

/-- **All lines that are read are recorded.** -/
theorem records_of_readLines (h : ({} : Draft).readLines 1 lines = .ok draft) :
    draft.Records lines := by
  induction lines using List.reverseRecOn generalizing draft with
  | nil =>
    obtain rfl := Except.ok.inj h
    exact records_empty
  | append_singleton lines line ih =>
    rw [readLines_append] at h
    obtain ⟨before, hbefore, hline⟩ := bind_eq_ok_iff.mp h
    exact (ih hbefore).readLine (readLines_singleton_eq_ok_iff.mp hline)

/-- **Where reading stops.** If it fails, it has got through some lines and failed at the one behind
them, by its fault. The induction is on the lines from their end: what follows the faulty line is
not read. -/
theorem exists_lineFault_of_readLines {error : Error}
    (h : ({} : Draft).readLines 1 lines = .error error) :
    ∃ before line after draft fault, lines = before ++ line :: after ∧
      ({} : Draft).readLines 1 before = .ok draft ∧ LineFault before line fault ∧
      error = .faulty (before.length + 1) fault := by
  induction lines using List.reverseRecOn with
  | nil => cases h
  | append_singleton lines last ih =>
    rw [readLines_append] at h
    obtain hearlier | ⟨draft, hdraft, hlast⟩ := bind_eq_error_iff.mp h
    · obtain ⟨before, line, after, draft, fault, rfl, hread, hfault, rfl⟩ := ih hearlier
      exact ⟨before, line, after ++ [last], draft, fault, by simp, hread, hfault, rfl⟩
    · obtain ⟨fault, hfault, rfl⟩ := readLines_singleton_eq_error_iff.mp hlast
      refine ⟨lines, last, [], draft, fault, rfl, hdraft, ?_, by rw [Nat.add_comm]⟩
      exact (records_of_readLines hdraft).readLine_eq_error_iff.mp hfault

/-- **Lines can be read exactly if they are faultless.** -/
theorem exists_readLines_eq_ok_iff :
    (∃ draft, ({} : Draft).readLines 1 lines = .ok draft) ↔ Faultless lines := by
  constructor
  · rintro ⟨draft, h⟩ before line after fault rfl hfault
    rw [readLines_append] at h
    obtain ⟨middle, hmiddle, hrest⟩ := bind_eq_ok_iff.mp h
    rw [readLines, (records_of_readLines hmiddle).readLine_eq_error_iff.mpr hfault] at hrest
    cases hrest
  · intro hfaultless
    cases hread : ({} : Draft).readLines 1 lines with
    | ok draft => exact ⟨draft, rfl⟩
    | error error =>
      obtain ⟨before, line, after, -, fault, hsplit, -, hfault, -⟩ :=
        exists_lineFault_of_readLines hread
      exact absurd hfault (hfaultless before line after fault hsplit)

/-- **The first faulty line decides.** -/
theorem readLines_eq_error_iff {error : Error} :
    ({} : Draft).readLines 1 lines = .error error ↔
      ∃ before line after fault, lines = before ++ line :: after ∧ Faultless before ∧
        LineFault before line fault ∧ error = .faulty (before.length + 1) fault := by
  constructor
  · intro h
    obtain ⟨before, line, after, draft, fault, hsplit, hread, hfault, herror⟩ :=
      exists_lineFault_of_readLines h
    exact ⟨before, line, after, fault, hsplit, exists_readLines_eq_ok_iff.mp ⟨draft, hread⟩, hfault,
      herror⟩
  · rintro ⟨before, line, after, fault, rfl, hfaultless, hfault, rfl⟩
    obtain ⟨draft, hread⟩ := exists_readLines_eq_ok_iff.mpr hfaultless
    have hline := (records_of_readLines hread).readLine_eq_error_iff.mpr hfault
    rw [readLines_append, hread]
    show draft.readLines (1 + before.length) (line :: after) = _
    rw [Nat.add_comm 1, readLines, hline]

/-- A draft that cannot be finished lacks the first of its open fields. -/
theorem finish_eq_error_iff_openFields {error : Error} :
    draft.finish = .error error ↔
      ∃ field rest, draft.openFields = field :: rest ∧ error = .missing field := by
  obtain ⟨a, b, c, program⟩ := draft
  cases a <;> cases b <;> cases c <;> cases program <;>
    simp [finish, openFields, Field.all, defines, eq_comm]

/-- **The first field that no line defines is missed**, by a draft that records the lines. -/
theorem Records.finish_eq_error_iff (h : draft.Records lines) {error : Error} :
    draft.finish = .error error ↔
      ∃ before field after, Field.all = before ++ field :: after ∧
        (∀ earlier ∈ before, Defines lines earlier) ∧ ¬Defines lines field ∧
        error = .missing field := by
  simp only [finish_eq_error_iff_openFields, openFields, List.filter_eq_cons_iff, ← h _,
    Bool.not_eq_true', Bool.not_eq_false]
  constructor
  · rintro ⟨field, rest, ⟨before, after, hall, hbefore, hopen, -⟩, rfl⟩
    exact ⟨before, field, after, hall, by simpa using hbefore, by simpa using hopen, rfl⟩
  · rintro ⟨before, field, after, hall, hbefore, hopen, rfl⟩
    exact ⟨field, _, ⟨before, after, hall, by simpa using hbefore, by simpa using hopen, rfl⟩, rfl⟩

end Draft

/-! ## The parser -/

/-- A text fails at its first faulty line; without one, at the first field that no line defines. -/
theorem parse_eq_error_iff {text : String} {error : Error} :
    parse text = .error error ↔
      (∃ before line after fault, Text.lines text.toList = before ++ line :: after ∧
        Faultless before ∧ LineFault before line fault ∧
        error = .faulty (before.length + 1) fault) ∨
      (Faultless (Text.lines text.toList) ∧ ∃ before field after,
        Field.all = before ++ field :: after ∧
        (∀ earlier ∈ before, Defines (Text.lines text.toList) earlier) ∧
        ¬Defines (Text.lines text.toList) field ∧ error = .missing field) := by
  have hparse : parse text
      = (({} : Draft).readLines 1 (Text.lines text.toList) >>= Draft.finish) := by
    rw [parse]
    cases ({} : Draft).readLines 1 (Text.lines text.toList) <;> rfl
  rw [hparse, bind_eq_error_iff, Draft.readLines_eq_error_iff]
  refine or_congr_right ?_
  constructor
  · rintro ⟨draft, hread, hfinish⟩
    exact ⟨Draft.exists_readLines_eq_ok_iff.mp ⟨draft, hread⟩,
      (Draft.records_of_readLines hread).finish_eq_error_iff.mp hfinish⟩
  · rintro ⟨hfaultless, hmissing⟩
    obtain ⟨draft, hread⟩ := Draft.exists_readLines_eq_ok_iff.mpr hfaultless
    exact ⟨draft, hread, (Draft.records_of_readLines hread).finish_eq_error_iff.mpr hmissing⟩

/-- **The first faulty line is reported**, with its number and its fault. -/
theorem parse_eq_faulty_iff {text : String} {number : ℕ} {fault : Fault} :
    parse text = .error (.faulty number fault) ↔
      ∃ before line after, Text.lines text.toList = before ++ line :: after ∧
        number = before.length + 1 ∧ Faultless before ∧ LineFault before line fault := by
  rw [parse_eq_error_iff]
  constructor
  · rintro (⟨before, line, after, fault, hsplit, hfaultless, hfault, herror⟩ |
      ⟨-, _, _, _, -, -, -, herror⟩)
    · obtain ⟨rfl, rfl⟩ := Error.faulty.inj herror
      exact ⟨before, line, after, hsplit, rfl, hfaultless, hfault⟩
    · cases herror
  · rintro ⟨before, line, after, hsplit, rfl, hfaultless, hfault⟩
    exact Or.inl ⟨before, line, after, fault, hsplit, hfaultless, hfault, rfl⟩

/-- **A field is missed** if no line is faulty and it is the first that no line defines. -/
theorem parse_eq_missing_iff {text : String} {field : Field} :
    parse text = .error (.missing field) ↔
      Faultless (Text.lines text.toList) ∧ ∃ before after, Field.all = before ++ field :: after ∧
        (∀ earlier ∈ before, Defines (Text.lines text.toList) earlier) ∧
        ¬Defines (Text.lines text.toList) field := by
  rw [parse_eq_error_iff]
  constructor
  · rintro (⟨_, _, _, _, -, -, -, herror⟩ |
      ⟨hfaultless, before, field, after, hall, hbefore, hmissing, herror⟩)
    · cases herror
    · obtain rfl := Error.missing.inj herror
      exact ⟨hfaultless, before, after, hall, hbefore, hmissing⟩
  · rintro ⟨hfaultless, before, after, hall, hbefore, hmissing⟩
    exact Or.inr ⟨hfaultless, before, field, after, hall, hbefore, hmissing, rfl⟩

/-- Faultless lines make a listing, or lack a field. -/
theorem parse_of_faultless {text : String} (h : Faultless (Text.lines text.toList)) :
    (∃ listing, parse text = .ok listing) ∨ ∃ field, parse text = .error (.missing field) := by
  cases hparse : parse text with
  | ok listing => exact Or.inl ⟨listing, rfl⟩
  | error error =>
    cases error with
    | missing field => exact Or.inr ⟨field, rfl⟩
    | faulty number fault =>
      obtain ⟨before, line, after, hsplit, -, -, hfault⟩ := parse_eq_faulty_iff.mp hparse
      exact absurd hfault (h before line after fault hsplit)

/-- **The parser reports the first faulty line.** An error with a line number is that of every text
with the same lines up to that number, while the lines before it alone make a listing or lack a
field. It is reported exactly of the first line with a fault, and is the fault of that line behind
the lines before it. A field is missed exactly if no line is faulty and the field is the first, in
the order of the registers and the program, that no line defines. -/
theorem parse_reports_first_fault (text : String) :
    let lines := Text.lines text.toList
    (∀ number fault, parse text = .error (.faulty number fault) →
      (∀ other : String, (Text.lines other.toList).take number = lines.take number →
        parse other = .error (.faulty number fault)) ∧
      (∀ shorter : String, Text.lines shorter.toList = lines.take (number - 1) →
        (∃ listing, parse shorter = .ok listing) ∨
          ∃ field, parse shorter = .error (.missing field)) ∧
      let shorter := String.ofList (Text.firstLines (number - 1) text.toList)
      (∃ listing, parse shorter = .ok listing) ∨ ∃ field, parse shorter = .error (.missing field)) ∧
    (∀ number fault, parse text = .error (.faulty number fault) ↔
      ∃ before line after, lines = before ++ line :: after ∧ number = before.length + 1 ∧
        Faultless before ∧ LineFault before line fault) ∧
    (∀ field, parse text = .error (.missing field) ↔
      Faultless lines ∧ ∃ before after, Field.all = before ++ field :: after ∧
        (∀ earlier ∈ before, Defines lines earlier) ∧ ¬Defines lines field) := by
  intro lines
  refine ⟨fun number fault herror => ?_, fun number fault => parse_eq_faulty_iff,
    fun field => parse_eq_missing_iff⟩
  obtain ⟨before, line, after, hsplit, rfl, hfaultless, hfault⟩ := parse_eq_faulty_iff.mp herror
  have hupto : lines.take (before.length + 1) = before ++ [line] := by
    rw [show lines = _ from hsplit, List.take_length_add_append]
    rfl
  have hbefore : lines.take (before.length + 1 - 1) = before := by
    rw [show lines = _ from hsplit, Nat.add_sub_cancel, List.take_left]
  have hshorter : ∀ shorter : String,
      Text.lines shorter.toList = lines.take (before.length + 1 - 1) →
      (∃ listing, parse shorter = .ok listing) ∨
        ∃ field, parse shorter = .error (.missing field) := by
    intro shorter hlines
    exact parse_of_faultless (by rwa [hlines, hbefore])
  refine ⟨fun other hlines => ?_, hshorter, hshorter _ ?_⟩
  · -- the other text goes on with lines of its own behind the faulty one
    refine parse_eq_faulty_iff.mpr ⟨before, line,
      (Text.lines other.toList).drop (before.length + 1), ?_, rfl, hfaultless, hfault⟩
    rw [← List.singleton_append, ← List.append_assoc, ← hupto, ← hlines, List.take_append_drop]
  · rw [String.toList_ofList, Text.lines_firstLines]

/-- A register is defined again, by a value that is no numeral, on the third line, counting the
blank one: it is the second definition that is reported, whatever comes after it. -/
theorem parse_reports_first_fault_duplicate :
    parse "Register A: 1\n\nRegister A: x\nRegister B: y" =
        .error (.faulty 3 (.duplicate (.register .a))) ∧
      parse "Register A: 1\n\nRegister A: x\nhello\n" =
        .error (.faulty 3 (.duplicate (.register .a))) := by
  have herror : parse "Register A: 1\n\nRegister A: x\nRegister B: y" =
      .error (.faulty 3 (.duplicate (.register .a))) := by decide +kernel
  exact ⟨herror, ((parse_reports_first_fault _).1 _ _ herror).1 _ (by decide +kernel)⟩

end ThreeBit.Listing
