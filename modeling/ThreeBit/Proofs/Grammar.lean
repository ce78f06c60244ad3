import Mathlib
import ThreeBit.Proofs.Definitions
import ThreeBit.Proofs.Numerals
import ThreeBit.Proofs.Success

/-! # The grammar of listings

`Listing.IsWritten text listing` says what the text of a listing is, with no reader in it: the lines
that are not blank are definitions of the four fields, each of them once and in any order, and each
value is written as the listing has it. `Listing.parse` accepts exactly these texts and returns the
listing written (`parse_eq_ok_iff_isWritten`).

The reader goes through the lines with a draft. The proof is one induction over the lines, with two
facts about the draft as its invariant: it *agrees* with the listing on all that it defines, and the
lines still to come define just the fields that it leaves *open*. -/

namespace ThreeBit.Listing

/-! ## What is written -/

/-- A text is a **list of words**: empty for no words, or pieces between commas, an even number of
them and each the numeral of a word of three bits. -/
def IsWordList (text : List Char) (words : List Word) : Prop :=
  (text = [] ∧ words = []) ∨
    ((text.splitOn ',').length % 2 = 0 ∧
      List.Forall₂ (fun piece (word : Word) =>
        Text.IsNumeral (Text.trim piece) word.toNat ∧ word.toNat ≤ 7) (text.splitOn ',') words)

/-- The value that a listing has in a field, as a text: a numeral of the register, or a list of the
words of the program. A register holds any number below `2 ^ 64` and no other. -/
def HasValue (listing : Listing) : Field → List Char → Prop
  | .register .a, value => Text.IsNumeral value listing.a.toNat
  | .register .b, value => Text.IsNumeral value listing.b.toNat
  | .register .c, value => Text.IsNumeral value listing.c.toNat
  | .program, value => IsWordList value listing.program.words.toList

/-- A line defines a field as the listing has it. -/
def IsLineOf (listing : Listing) (line : List Char) (field : Field) : Prop :=
  ∃ value, Text.IsDefinition line field.key.toList value ∧ listing.HasValue field value

/-- The lines that are not blank. -/
def inked (lines : List (List Char)) : List (List Char) :=
  lines.filter fun line => Text.trim line ≠ []

/-- A text is a **written form** of a listing: its lines that are not blank are, in some order, one
line for each of the four fields. -/
def IsWritten (text : String) (listing : Listing) : Prop :=
  ∃ fields : List Field, fields.Perm Field.all ∧
    List.Forall₂ listing.IsLineOf (inked (Text.lines text.toList)) fields

/-! ## Reading values -/

/-- Words are read exactly from the texts that list them, whatever the number of words. -/
theorem readWords_eq_ok_iff {text : List Char} {words : List Word} :
    readWords text = .ok words ↔
      (text = [] ∧ words = []) ∨
        List.Forall₂ (fun piece (word : Word) =>
          Text.IsNumeral (Text.trim piece) word.toNat ∧ word.toNat ≤ 7)
          (text.splitOn ',') words := by
  rw [readWords]
  by_cases hempty : text = []
  · subst hempty
    have hpiece : ¬List.Forall₂ (fun piece (word : Word) =>
        Text.IsNumeral (Text.trim piece) word.toNat ∧ word.toNat ≤ 7)
        (([] : List Char).splitOn ',') words := by
      -- the one piece of the empty text is empty, and no numeral
      rintro (_ | ⟨⟨hnumeral, -⟩, -⟩)
      exact Text.not_isNumeral_nil hnumeral
    rw [if_pos rfl, Except.ok.injEq, eq_comm]
    simp only [hpiece, true_and, or_false]
  · rw [if_neg hempty, mapM_eq_ok_iff]
    simp only [readWord_eq_ok_iff, hempty, false_and, false_or]

/-- **A program is read exactly from the lists of its words.** That their number is even is what
makes them a program. -/
theorem readProgram_eq_ok_iff {text : List Char} {program : Program} :
    readProgram text = .ok program ↔ IsWordList text program.words.toList := by
  constructor
  · intro h
    unfold readProgram at h
    split at h
    · cases h
    · next words hread =>
      rw [Program.ofWords] at h
      split at h
      · next program' hprogram =>
        cases h
        split at hprogram
        · next heven =>
          cases hprogram
          rcases readWords_eq_ok_iff.mp hread with hempty | hpieces
          · exact Or.inl hempty
          · exact Or.inr ⟨by rw [hpieces.length_eq]; exact heven, hpieces⟩
        · cases hprogram
      · cases h
  · intro h
    have hread : readWords text = .ok program.words.toList :=
      readWords_eq_ok_iff.mpr (h.imp_right And.right)
    rw [readProgram, hread]
    simp only [Program.ofWords, Array.toArray_toList, dif_pos program.even_size]

/-! ## Keys -/

/-- Every field is asked for. -/
theorem mem_all (field : Field) : field ∈ Field.all := by
  rcases field with (_ | _ | _) | _ <;> decide

/-- No field is asked for twice. -/
theorem nodup_all : Field.all.Nodup := by decide

/-- A key introduces the field that has it. -/
theorem ofKey?_eq_some_iff {key : List Char} {field : Field} :
    Field.ofKey? key = some field ↔ field.key.toList = key := by
  constructor
  · intro h
    have hfound := List.find?_some h
    exact beq_iff_eq.mp hfound
  · rintro rfl
    rcases field with (_ | _ | _) | _ <;> decide

example : Field.all.map Field.key = ["Register A", "Register B", "Register C", "Program"] := by
  decide

/-! ## Drafts -/

namespace Draft

/-- A draft **agrees** with a listing when all that it defines is as the listing has it. -/
@[mk_iff]
structure Agrees (draft : Draft) (listing : Listing) : Prop where
  /-- Register `A`, if defined. -/
  a : ∀ value, draft.a = some value → value = listing.a
  /-- Register `B`, if defined. -/
  b : ∀ value, draft.b = some value → value = listing.b
  /-- Register `C`, if defined. -/
  c : ∀ value, draft.c = some value → value = listing.c
  /-- The program, if defined. -/
  program : ∀ value, draft.program = some value → value = listing.program

/-- The fields that a draft leaves **open**, in the order in which they are asked for. -/
def openFields (draft : Draft) : List Field :=
  Field.all.filter fun field => !draft.defines field

/-- The draft of a listing in which everything is defined. -/
def ofListing (listing : Listing) : Draft where
  a := some listing.a
  b := some listing.b
  c := some listing.c
  program := some listing.program

/-- A draft with one more field defined as a listing has it. -/
def fill (draft : Draft) (listing : Listing) : Field → Draft
  | .register .a => { draft with a := some listing.a }
  | .register .b => { draft with b := some listing.b }
  | .register .c => { draft with c := some listing.c }
  | .program => { draft with program := some listing.program }

variable {draft draft' : Draft} {listing : Listing} {field : Field}

theorem mem_openFields_iff : field ∈ draft.openFields ↔ draft.defines field = false := by
  rw [openFields, List.mem_filter, Bool.not_eq_true']
  exact and_iff_right (mem_all field)

/-- A draft finishes to a listing exactly when it is the full draft of it. -/
theorem finish_eq_ok_iff : draft.finish = .ok listing ↔ draft = ofListing listing := by
  constructor
  · intro h
    unfold finish at h
    split at h
    case h_5 a b c program ha hb hc hprogram =>
      cases h
      obtain ⟨_, _, _, _⟩ := draft
      cases ha
      cases hb
      cases hc
      cases hprogram
      rfl
    all_goals cases h
  · rintro rfl
    rfl

/-- A draft is the full draft of a listing when it agrees with it and leaves nothing open. -/
theorem eq_ofListing_iff :
    draft = ofListing listing ↔ draft.Agrees listing ∧ draft.openFields = [] := by
  constructor
  · rintro rfl
    refine ⟨⟨?_, ?_, ?_, ?_⟩, rfl⟩ <;> · rintro value ⟨⟩; rfl
  · rintro ⟨hagrees, hnone⟩
    -- nothing is open, so there is something in each of the four places
    have hdefined : ∀ field, draft.defines field = true := fun field => by
      have hnot : field ∉ draft.openFields := by rw [hnone]; exact List.not_mem_nil
      rwa [mem_openFields_iff, Bool.not_eq_false] at hnot
    obtain ⟨a, b, c, program⟩ := draft
    obtain ⟨a, rfl⟩ := Option.isSome_iff_exists.mp (hdefined (.register .a))
    obtain ⟨b, rfl⟩ := Option.isSome_iff_exists.mp (hdefined (.register .b))
    obtain ⟨c, rfl⟩ := Option.isSome_iff_exists.mp (hdefined (.register .c))
    obtain ⟨program, rfl⟩ := Option.isSome_iff_exists.mp (hdefined .program)
    rw [hagrees.a a rfl, hagrees.b b rfl, hagrees.c c rfl, hagrees.program program rfl]
    rfl

/-- Filling a field defines it and nothing else. -/
theorem defines_fill (draft : Draft) (listing : Listing) (field other : Field) :
    (draft.fill listing field).defines other = (decide (other = field) || draft.defines other) := by
  rcases field with (_ | _ | _) | _ <;> rcases other with (_ | _ | _) | _ <;> rfl

/-- Filling a field closes it and leaves the others open. -/
theorem openFields_fill (draft : Draft) (listing : Listing) (field : Field) :
    (draft.fill listing field).openFields = draft.openFields.erase field := by
  -- erasing one of several different fields is filtering it out
  rw [openFields, openFields, (nodup_all.filter _).erase_eq_filter, List.filter_filter]
  congr 1
  funext other
  rw [defines_fill, Bool.not_or]
  rfl

/-- Filling an open field neither makes nor breaks agreement. -/
theorem agrees_fill_iff (hopen : draft.defines field = false) :
    (draft.fill listing field).Agrees listing ↔ draft.Agrees listing := by
  rcases field with (_ | _ | _) | _ <;>
    simp_all [defines, fill, agrees_iff]

/-- A value defines a field as a listing has it exactly when it is a text of what the listing
has. -/
theorem define_eq_fill_iff {value : List Char} :
    draft.define field value = .ok (draft.fill listing field) ↔ listing.HasValue field value := by
  rcases field with (_ | _ | _) | _ <;>
    simp [define, fill, HasValue, map_eq_ok_iff, readRegister_eq_ok_iff, readProgram_eq_ok_iff]

/-- Defining a field fills it, from any listing that the result agrees with. -/
theorem eq_fill_of_define {value : List Char} (hdefine : draft.define field value = .ok draft')
    (hagrees : draft'.Agrees listing) : draft' = draft.fill listing field := by
  rcases field with (_ | _ | _) | _ <;> obtain ⟨result, -, rfl⟩ := map_eq_ok_iff.mp hdefine
  · rw [hagrees.a result rfl, fill]
  · rw [hagrees.b result rfl, fill]
  · rw [hagrees.c result rfl, fill]
  · rw [hagrees.program result rfl, fill]

/-- **Defining an open field.** The draft that comes out agrees with a listing exactly when the
draft before did and the value is what the listing has there; and then it is the draft filled from
the listing. -/
theorem define_agrees_iff {value : List Char} (hopen : draft.defines field = false) :
    draft.define field value = .ok draft' ∧ draft'.Agrees listing ↔
      draft.Agrees listing ∧ listing.HasValue field value ∧ draft' = draft.fill listing field := by
  constructor
  · rintro ⟨hdefine, hagrees⟩
    obtain rfl := eq_fill_of_define hdefine hagrees
    exact ⟨(agrees_fill_iff hopen).mp hagrees, define_eq_fill_iff.mp hdefine, rfl⟩
  · rintro ⟨hagrees, hvalue, rfl⟩
    exact ⟨define_eq_fill_iff.mpr hvalue, (agrees_fill_iff hopen).mpr hagrees⟩

/-! ## Reading lines -/

/-- **Reading one line.** A blank line changes nothing; any other has to be the definition of a
field that is still open. -/
theorem readLine_eq_ok_iff {line : List Char} :
    draft.readLine line = .ok draft' ↔
      (Text.trim line = [] ∧ draft' = draft) ∨
        ∃ field value, Text.IsDefinition line field.key.toList value ∧
          draft.defines field = false ∧ draft.define field value = .ok draft' := by
  constructor
  · intro h
    simp only [readLine] at h
    split at h
    · next hblank => exact Or.inl ⟨hblank, (Except.ok.inj h).symm⟩
    · split at h
      · cases h
      · next key value hcut =>
        split at h
        · cases h
        · next field hkey =>
          split at h
          · cases h
          · next hopen =>
            have hdefinition : Text.IsDefinition line field.key.toList (Text.trim value) :=
              Text.isDefinition_iff_cutAt.mpr
                ⟨key, value, hcut, (ofKey?_eq_some_iff.mp hkey).symm, rfl⟩
            exact Or.inr ⟨field, _, hdefinition, Bool.eq_false_iff.mpr hopen, h⟩
  · rintro (⟨hblank, rfl⟩ | ⟨field, value, hdefinition, hopen, hdefine⟩)
    · simp only [readLine, if_pos hblank]
    · obtain ⟨before, after, hcut, hkey, rfl⟩ := Text.isDefinition_iff_cutAt.mp hdefinition
      simp only [readLine, if_neg hdefinition.trim_ne_nil, hcut,
        ofKey?_eq_some_iff.mpr hkey.symm, hopen]
      exact hdefine

/-- **Reading lines up to a full draft.** The draft so far has to agree with the listing, and the
lines that are not blank to define the open fields as the listing has them, each once. The induction
is over the lines, and every line that is not blank closes one field. -/
theorem readLines_eq_ok_iff {number : ℕ} {lines : List (List Char)} :
    draft.readLines number lines = .ok (ofListing listing) ↔
      draft.Agrees listing ∧ ∃ fields : List Field, fields.Perm draft.openFields ∧
        List.Forall₂ listing.IsLineOf (inked lines) fields := by
  induction lines generalizing draft number with
  | nil =>
    rw [readLines, Except.ok.injEq, eq_ofListing_iff]
    refine and_congr_right fun _ => ⟨fun hnone => ⟨[], by rw [hnone], .nil⟩, ?_⟩
    rintro ⟨fields, hperm, hlines⟩
    cases hlines
    exact hperm.nil_eq.symm
  | cons line rest ih =>
    by_cases hblank : Text.trim line = []
    · -- a blank line leaves the draft, and is not among those that count
      have hline : draft.readLine line = .ok draft :=
        readLine_eq_ok_iff.mpr (Or.inl ⟨hblank, rfl⟩)
      have hinked : inked (line :: rest) = inked rest := by simp [inked, hblank]
      rw [readLines, hline, hinked]
      exact ih
    · have hinked : inked (line :: rest) = line :: inked rest := by simp [inked, hblank]
      rw [hinked]
      constructor
      · intro h
        rw [readLines] at h
        split at h
        · next draft' hline =>
          -- the draft after this line agrees with the listing, hence so does the value just read
          obtain ⟨hagrees', fields, hperm, hlines⟩ := ih.mp h
          obtain ⟨hblank', -⟩ | ⟨field, value, hdefinition, hopen, hdefine⟩ :=
            readLine_eq_ok_iff.mp hline
          · exact absurd hblank' hblank
          · obtain ⟨hagrees, hvalue, rfl⟩ := (define_agrees_iff hopen).mp ⟨hdefine, hagrees'⟩
            rw [openFields_fill] at hperm
            refine ⟨hagrees, field :: fields, ?_, .cons ⟨value, hdefinition, hvalue⟩ hlines⟩
            exact List.cons_perm_iff_perm_erase.mpr ⟨mem_openFields_iff.mpr hopen, hperm⟩
        · cases h
      · rintro ⟨hagrees, _, hperm, hlines⟩
        obtain ⟨field, fields, ⟨value, hdefinition, hvalue⟩, hrest, rfl⟩ :=
          List.forall₂_cons_left_iff.mp hlines
        -- the field of this line is one of the open ones, so its definition is no duplicate
        obtain ⟨hmem, hperm'⟩ := List.cons_perm_iff_perm_erase.mp hperm
        have hopen : draft.defines field = false := mem_openFields_iff.mp hmem
        obtain ⟨hdefine, hagrees'⟩ := (define_agrees_iff hopen).mpr ⟨hagrees, hvalue, rfl⟩
        rw [readLines, readLine_eq_ok_iff.mpr (Or.inr ⟨field, value, hdefinition, hopen, hdefine⟩)]
        exact ih.mpr ⟨hagrees', fields, by rw [openFields_fill]; exact hperm', hrest⟩

end Draft

/-! ## The parser -/

/-- A text is parsed to a listing when its lines are read up to the full draft of it. -/
theorem parse_eq_ok_iff_readLines {text : String} {listing : Listing} :
    parse text = .ok listing ↔
      ({} : Draft).readLines 1 (Text.lines text.toList) = .ok (Draft.ofListing listing) := by
  rw [parse]
  cases ({} : Draft).readLines 1 (Text.lines text.toList) with
  | error error => simp
  | ok draft => rw [Except.ok.injEq, ← Draft.finish_eq_ok_iff]

/-- The empty draft agrees with every listing. -/
theorem Draft.agrees_empty (listing : Listing) : ({} : Draft).Agrees listing := by
  simp [Draft.agrees_iff]

/-- Each member of the second of two lists that correspond has a partner in the first. -/
theorem exists_of_forall₂_of_mem {α β : Type} {R : α → β → Prop} {left : List α} {right : List β}
    (h : List.Forall₂ R left right) {y : β} (hmem : y ∈ right) : ∃ x, R x y := by
  induction h with
  | nil => cases hmem
  | cons hhead _ ih =>
    rcases List.mem_cons.mp hmem with rfl | hmem
    · exact ⟨_, hhead⟩
    · exact ih hmem

/-- The words of a list of words have three bits. -/
theorem IsWordList.le_seven {text : List Char} {words : List Word} (h : IsWordList text words)
    {word : Word} (hmem : word ∈ words) : word.toNat ≤ 7 := by
  rcases h with ⟨-, rfl⟩ | ⟨-, hpieces⟩
  · cases hmem
  · obtain ⟨piece, -, hle⟩ := exists_of_forall₂_of_mem hpieces hmem
    exact hle

/-- **Parsed programs have words of three bits**, so they fit every width that can be served. -/
theorem word_le_seven_of_parse {text : String} {listing : Listing}
    (h : parse text = .ok listing) {word : Word} (hmem : word ∈ listing.program.words) :
    word.toNat ≤ 7 := by
  obtain ⟨-, fields, hperm, hlines⟩ :=
    Draft.readLines_eq_ok_iff.mp (parse_eq_ok_iff_readLines.mp h)
  have hprogram : Field.program ∈ fields := hperm.mem_iff.mpr (mem_all _)
  obtain ⟨line, value, -, hvalue⟩ := exists_of_forall₂_of_mem hlines hprogram
  exact IsWordList.le_seven hvalue (Array.mem_toList_iff.mpr hmem)

/-- **Parsing accepts exactly the written forms**, and returns the listing written. -/
theorem parse_eq_ok_iff_isWritten (text : String) (listing : Listing) :
    parse text = .ok listing ↔ IsWritten text listing := by
  rw [parse_eq_ok_iff_readLines, Draft.readLines_eq_ok_iff]
  exact and_iff_right (Draft.agrees_empty listing)

end ThreeBit.Listing
