import Mathlib
import ThreeBit.Proofs.Faults

/-! # The layout of a listing does not matter

A listing may be laid out in many ways: with carriage returns before its line feeds, with blanks
around its lines, with blank lines between them. `Listing.parse_ignores_layout` says that none of
this shows in what is read, be it a listing or an error, but for the numbers of the lines behind
those that were added.

All of it is one fact. The parser reads no more of a text than its *contents*, the trimmed pieces
between line feeds (`Listing.parse_eq_contents`), and these are the same for every layout: the
contents with carriage returns (`Text.contents_withReturns`), those of padded lines
(`Text.contents_intercalate_padded`) and those behind added lines (`Text.contents_insertLines`).
What is left is to count lines (`Draft.readLines_insert`). -/

namespace ThreeBit

namespace Text

/-! ## Layouts -/

/-- **Spacing** is made of blanks that end no line. -/
def IsSpacing (text : List Char) : Prop :=
  ∀ c ∈ text, isBlank c = true ∧ c ≠ '\n'

-- over the characters of the text; by itself Lean would go through all there are
instance (text : List Char) : Decidable (IsSpacing text) :=
  List.decidableBAll (fun c => isBlank c = true ∧ c ≠ '\n') text

/-- A line is **padded** by spacing at its ends. A carriage return that belongs to the end of the
line may stay behind the spacing. -/
def IsPadded (line padded : List Char) : Prop :=
  ∃ front body back ending, IsSpacing front ∧ IsSpacing back ∧ (ending = [] ∨ ending = ['\r']) ∧
    line = body ++ ending ∧ padded = front ++ body ++ back ++ ending

/-- A text with a carriage return put before every line feed. -/
def withReturns (text : List Char) : List Char :=
  text.flatMap fun c => if c = '\n' then ['\r', '\n'] else [c]

/-- A text with lines added behind its first lines, or at its end where it has not as many. -/
def insertLines (before : ℕ) (added : List (List Char)) (text : List Char) : List Char :=
  ['\n'].intercalate
    ((text.splitOn '\n').take before ++ added ++ (text.splitOn '\n').drop before)

/-- There is no line feed in spacing. -/
theorem IsSpacing.not_mem {text : List Char} (h : IsSpacing text) : '\n' ∉ text :=
  fun hmem => (h '\n' hmem).2 rfl

/-! ## Trimming spacing off -/

/-- Blanks put before a text are trimmed off. -/
theorem trim_append_left {front : List Char} (hfront : IsSpacing front) (text : List Char) :
    trim (front ++ text) = trim text := by
  rw [← trim_dropWhile, List.dropWhile_append_of_pos fun c hc => (hfront c hc).1, trim_dropWhile]

/-- Blanks put behind a text are trimmed off. -/
theorem trim_append_right {back : List Char} (hback : IsSpacing back) (text : List Char) :
    trim (text ++ back) = trim text := by
  have hreverse : ∀ c ∈ back.reverse, isBlank c = true :=
    fun c hc => (hback c (List.mem_reverse.mp hc)).1
  rw [← trim_rdropWhile, List.rdropWhile, List.reverse_append,
    List.dropWhile_append_of_pos hreverse, ← List.rdropWhile, trim_rdropWhile]

/-- Spacing is trimmed off altogether. -/
theorem trim_of_isSpacing {text : List Char} (h : IsSpacing text) : trim text = [] :=
  trim_append_right h []

/-- A text is trimmed once. -/
theorem trim_trim (text : List Char) : trim (trim text) = trim text := by
  conv_lhs => rw [trim_eq text, trim_rdropWhile, trim_dropWhile]

/-- The carriage return is spacing. -/
theorem isSpacing_return : IsSpacing ['\r'] := by decide

/-- A carriage return at the end of a line is trimmed off anyway. -/
theorem trim_dropReturn (line : List Char) : trim (dropReturn line) = trim line := by
  unfold dropReturn
  split
  · next hlast =>
    rw [← trim_append_right isSpacing_return line.dropLast,
      List.dropLast_append_getLast? '\r' hlast]
  · rfl

/-- Padding is trimmed off. -/
theorem IsPadded.trim_eq {line padded : List Char} (h : IsPadded line padded) :
    trim padded = trim line := by
  obtain ⟨front, body, back, ending, hfront, hback, hending, rfl, rfl⟩ := h
  have hspacing : IsSpacing ending := by
    obtain rfl | rfl := hending
    · exact List.forall_mem_nil _
    · exact isSpacing_return
  rw [trim_append_right hspacing, trim_append_right hback, trim_append_left hfront,
    trim_append_right hspacing]

/-! ## Contents -/

/-- The **contents** of a text: its pieces between line feeds, without the blanks at their ends. -/
def contents (text : List Char) : List (List Char) :=
  (text.splitOn '\n').map trim

/-- The contents of a text without a line feed are one piece. -/
theorem contents_of_not_mem {text : List Char} (htext : '\n' ∉ text) :
    contents text = [trim text] := by
  rw [contents, List.splitOn_eq_singleton htext, List.map_singleton]

/-- The first piece of the contents stands before the first line feed. -/
theorem contents_append_cons {line : List Char} (hline : '\n' ∉ line) (rest : List Char) :
    contents (line ++ '\n' :: rest) = trim line :: contents rest := by
  rw [contents, List.splitOn_append_cons_self_of_not_mem hline, List.map_cons, contents]

/-- No line feed is left in the pieces. -/
theorem not_mem_of_mem_splitOn {text piece : List Char} (h : piece ∈ text.splitOn '\n') :
    '\n' ∉ piece := by
  induction text using line_induction with
  | unended line hline =>
    rw [List.splitOn_eq_singleton hline, List.mem_singleton] at h
    rwa [h]
  | ended line rest hline ih =>
    rw [List.splitOn_append_cons_self_of_not_mem hline, List.mem_cons] at h
    obtain rfl | hrest := h
    · exact hline
    · exact ih hrest

/-- The contents of joined pieces are the pieces, trimmed. -/
theorem contents_intercalate {pieces : List (List Char)} (hne : pieces ≠ [])
    (hpieces : ∀ piece ∈ pieces, '\n' ∉ piece) :
    contents (['\n'].intercalate pieces) = pieces.map trim := by
  rw [contents, List.splitOn_intercalate '\n' hpieces hne]

/-- Without a line feed there is nowhere to put a carriage return. -/
theorem withReturns_of_not_mem {text : List Char} (htext : '\n' ∉ text) :
    withReturns text = text := by
  induction text with
  | nil => rfl
  | cons c rest ih =>
    rw [List.mem_cons, not_or] at htext
    rw [withReturns, List.flatMap_cons, if_neg (Ne.symm htext.1), ← withReturns, ih htext.2,
      List.singleton_append]

/-- A carriage return is put behind the first line. -/
theorem withReturns_append_cons {line : List Char} (hline : '\n' ∉ line) (rest : List Char) :
    withReturns (line ++ '\n' :: rest) = (line ++ ['\r']) ++ '\n' :: withReturns rest := by
  rw [withReturns, List.flatMap_append, List.flatMap_cons, if_pos rfl, ← withReturns, ← withReturns,
    withReturns_of_not_mem hline, List.append_assoc]
  rfl

/-- **Carriage returns before the line feeds** leave the contents as they are. -/
theorem contents_withReturns (text : List Char) : contents (withReturns text) = contents text := by
  induction text using line_induction with
  | unended line hline => rw [withReturns_of_not_mem hline]
  | ended line rest hline ih =>
    have hreturn : '\n' ∉ line ++ ['\r'] := by simpa using hline
    rw [withReturns_append_cons hline, contents_append_cons hreturn, contents_append_cons hline,
      trim_append_right isSpacing_return, ih]

/-- No line feed comes in with the padding. -/
theorem IsPadded.not_mem {line padded : List Char} (h : IsPadded line padded)
    (hline : '\n' ∉ line) : '\n' ∉ padded := by
  obtain ⟨front, body, back, ending, hfront, hback, -, rfl, rfl⟩ := h
  rw [List.mem_append, not_or] at hline
  simp only [List.mem_append, not_or]
  exact ⟨⟨⟨hfront.not_mem, hline.1⟩, hback.not_mem⟩, hline.2⟩

/-- No line feed comes in with the padding of any line. -/
theorem not_mem_of_forall₂_isPadded {lines padded : List (List Char)}
    (h : List.Forall₂ IsPadded lines padded) (hlines : ∀ line ∈ lines, '\n' ∉ line) :
    ∀ line ∈ padded, '\n' ∉ line := by
  induction h with
  | nil => exact hlines
  | cons hline _ ih =>
    rw [List.forall_mem_cons] at hlines ⊢
    exact ⟨hline.not_mem hlines.1, ih hlines.2⟩

/-- Padded lines are the same when they are trimmed. -/
theorem map_trim_of_forall₂_isPadded {lines padded : List (List Char)}
    (h : List.Forall₂ IsPadded lines padded) : padded.map trim = lines.map trim := by
  induction h with
  | nil => rfl
  | cons hline _ ih => rw [List.map_cons, List.map_cons, hline.trim_eq, ih]

/-- **Padding the lines** leaves the contents as they are. -/
theorem contents_intercalate_padded {text : List Char} {padded : List (List Char)}
    (h : List.Forall₂ IsPadded (text.splitOn '\n') padded) :
    contents (['\n'].intercalate padded) = contents text := by
  have hne : padded ≠ [] := by
    rintro rfl
    exact List.splitOn_ne_nil '\n' text (List.forall₂_nil_right_iff.mp h)
  have hpieces : ∀ line ∈ padded, '\n' ∉ line :=
    not_mem_of_forall₂_isPadded h fun _ => not_mem_of_mem_splitOn
  rw [contents_intercalate hne hpieces, map_trim_of_forall₂_isPadded h, contents]

/-- **Added lines of spacing** are empty pieces among the contents. -/
theorem contents_insertLines (before : ℕ) {added : List (List Char)}
    (hadded : ∀ line ∈ added, IsSpacing line) (text : List Char) :
    contents (insertLines before added text) =
      (contents text).take before ++ List.replicate added.length []
        ++ (contents text).drop before := by
  have hne : (text.splitOn '\n').take before ++ added ++ (text.splitOn '\n').drop before ≠ [] := by
    intro hnil
    simp only [List.append_eq_nil_iff] at hnil
    have hpieces := List.take_append_drop before (text.splitOn '\n')
    rw [hnil.1.1, hnil.2] at hpieces
    exact List.splitOn_ne_nil '\n' text hpieces.symm
  have hpieces : ∀ piece ∈
      (text.splitOn '\n').take before ++ added ++ (text.splitOn '\n').drop before,
      '\n' ∉ piece := by
    intro piece hpiece
    rw [List.mem_append, List.mem_append] at hpiece
    obtain (htake | hnew) | hdrop := hpiece
    · exact not_mem_of_mem_splitOn (List.mem_of_mem_take htake)
    · exact (hadded piece hnew).not_mem
    · exact not_mem_of_mem_splitOn (List.mem_of_mem_drop hdrop)
  have hblank : added.map trim = List.replicate added.length [] :=
    List.map_eq_replicate_iff.mpr fun line hline => trim_of_isSpacing (hadded line hline)
  rw [insertLines, contents_intercalate hne hpieces, List.map_append, List.map_append, hblank,
    contents, List.map_take, List.map_drop]

end Text

namespace Listing

/-! ## Counting lines -/

/-- An error of a text with lines **added** behind its first lines: the number of a later line is
higher by as many. -/
def Error.renumber (before added : ℕ) : Error → Error
  | .faulty line fault => .faulty (if before < line then line + added else line) fault
  | .missing field => .missing field

namespace Draft

variable {draft : Draft}

/-- A line is read without the blanks at its ends. -/
theorem readLine_congr {line line' : List Char} (h : Text.trim line = Text.trim line') :
    draft.readLine line = draft.readLine line' := by
  simp only [readLine, h]

/-- **Only the contents are read.** The induction takes line after line off the text, whatever has
been defined before. The contents may have an empty piece more than there are lines, at the end. -/
theorem readLines_contents (draft : Draft) (number : ℕ) (text : List Char) :
    draft.readLines number (Text.contents text) = draft.readLines number (Text.lines text) := by
  induction text using Text.line_induction generalizing draft number with
  | unended line hline =>
    rw [Text.contents_of_not_mem hline, Text.lines_of_not_mem hline]
    split
    · next hempty =>
      rw [hempty]
      rfl
    · rw [readLines, readLines, readLine_congr (Text.trim_trim line)]
  | ended line rest hline ih =>
    have hread : draft.readLine (Text.trim line) = draft.readLine (Text.dropReturn line) :=
      readLine_congr (by rw [Text.trim_trim, Text.trim_dropReturn])
    rw [Text.contents_append_cons hline, Text.lines_append_cons hline, readLines, readLines, hread]
    cases draft.readLine (Text.dropReturn line) with
    | ok draft' => exact ih draft' (number + 1)
    | error fault => rfl

/-- Empty lines are passed over. -/
theorem readLines_replicate_nil (draft : Draft) (number added : ℕ) :
    draft.readLines number (List.replicate added []) = .ok draft := by
  induction added generalizing number with
  | zero => rfl
  | succ added ih =>
    rw [List.replicate_succ, readLines, readLine_of_blank rfl]
    exact ih (number + 1)

/-- Lines that come **before** the added ones keep their numbers. -/
theorem readLines_renumber_of_le {before number : ℕ} {lines : List (List Char)}
    (h : number + lines.length ≤ before + 1) (draft : Draft) (added : ℕ) :
    (draft.readLines number lines).mapError (Error.renumber before added) =
      draft.readLines number lines := by
  induction lines generalizing draft number with
  | nil => rfl
  | cons line rest ih =>
    rw [List.length_cons] at h
    rw [readLines]
    cases draft.readLine line with
    | ok draft' => exact ih (by omega) draft'
    | error fault =>
      have hbefore : ¬before < number := by omega
      simp only [Except.mapError, Error.renumber, if_neg hbefore]

/-- Lines that come **behind** the added ones are counted from higher up. -/
theorem readLines_renumber_of_lt {before number : ℕ} (h : before < number) (draft : Draft)
    (added : ℕ) (lines : List (List Char)) :
    (draft.readLines number lines).mapError (Error.renumber before added) =
      draft.readLines (number + added) lines := by
  induction lines generalizing draft number with
  | nil => rfl
  | cons line rest ih =>
    rw [readLines, readLines]
    cases draft.readLine line with
    | ok draft' =>
      show (draft'.readLines (number + 1) rest).mapError _
        = draft'.readLines (number + added + 1) rest
      rw [ih (by omega) draft', Nat.add_right_comm]
    | error fault => simp only [Except.mapError, Error.renumber, if_pos h]

/-- **Empty lines are counted, and nothing else.** -/
theorem readLines_insert (draft : Draft) (before added : ℕ) (lines : List (List Char)) :
    draft.readLines 1 (lines.take before ++ List.replicate added [] ++ lines.drop before) =
      (draft.readLines 1 lines).mapError (Error.renumber before added) := by
  have hlength : 1 + (lines.take before).length ≤ before + 1 := by
    rw [Nat.add_comm]
    exact Nat.succ_le_succ (List.length_take_le before lines)
  conv_rhs => rw [← List.take_append_drop before lines, readLines_append]
  rw [List.append_assoc, readLines_append]
  cases hread : draft.readLines 1 (lines.take before) with
  | error error =>
    have hkeep := readLines_renumber_of_le hlength draft added
    rw [hread] at hkeep
    exact hkeep.symm
  | ok draft' =>
    show draft'.readLines (1 + (lines.take before).length)
        (List.replicate added [] ++ lines.drop before) =
      (draft'.readLines (1 + (lines.take before).length) (lines.drop before)).mapError
        (Error.renumber before added)
    rw [readLines_append, readLines_replicate_nil, List.length_replicate]
    obtain hshort | hlong := Nat.le_total lines.length before
    · -- there are no lines behind the added ones
      rw [List.drop_eq_nil_of_le hshort]
      rfl
    · rw [List.length_take_of_le hlong]
      exact (readLines_renumber_of_lt (by omega) draft' added _).symm

end Draft

/-! ## The parser -/

/-- **The parser reads the contents of a text.** -/
theorem parse_eq_contents (text : String) :
    parse text = (({} : Draft).readLines 1 (Text.contents text.toList) >>= Draft.finish) := by
  rw [parse, Draft.readLines_contents]
  cases ({} : Draft).readLines 1 (Text.lines text.toList) <;> rfl

/-- Texts with the same contents are read alike. -/
theorem parse_congr {text other : String}
    (h : Text.contents text.toList = Text.contents other.toList) : parse text = parse other := by
  rw [parse_eq_contents, parse_eq_contents, h]

/-- What is missing is missing under any numbering. -/
theorem Draft.finish_renumber (draft : Draft) (before added : ℕ) :
    draft.finish.mapError (Error.renumber before added) = draft.finish := by
  obtain ⟨a, b, c, program⟩ := draft
  cases a <;> cases b <;> cases c <;> cases program <;> rfl

/-- **The layout of a listing does not matter.** What is read from a text, be it a listing or an
error, is read as well from the text with a carriage return before every line feed, and from the
text with any spacing at the ends of its lines. With lines of spacing added behind the first lines,
the result differs in one thing: an error that belongs to a later line carries a number that is
higher by as many lines. -/
theorem parse_ignores_layout (text : String) :
    parse (String.ofList (Text.withReturns text.toList)) = parse text ∧
    (∀ padded, List.Forall₂ Text.IsPadded (text.toList.splitOn '\n') padded →
      parse (String.ofList (['\n'].intercalate padded)) = parse text) ∧
    (∀ before added, (∀ line ∈ added, Text.IsSpacing line) →
      parse (String.ofList (Text.insertLines before added text.toList)) =
        (parse text).mapError (Error.renumber before added.length)) := by
  refine ⟨parse_congr ?_, fun padded hpadded => parse_congr ?_, fun before added hadded => ?_⟩
  · rw [String.toList_ofList, Text.contents_withReturns]
  · rw [String.toList_ofList, Text.contents_intercalate_padded hpadded]
  · rw [parse_eq_contents, parse_eq_contents, String.toList_ofList,
      Text.contents_insertLines before hadded, Draft.readLines_insert]
    cases ({} : Draft).readLines 1 (Text.contents text.toList) with
    | error error => rfl
    | ok draft => exact (draft.finish_renumber before added.length).symm

/-- The second of two lines is no definition, and neither returns, nor spacing of any kind before
and behind the lines hide it. Two lines of spacing in front of it make it the fourth. -/
theorem parse_ignores_layout_unknown_line :
    parse "Register A: 1\r\nhello:\n" = .error (.faulty 2 (.unknownLine "hello:")) ∧
      parse "Register A: 1\r\r\nhello:\r\n" = .error (.faulty 2 (.unknownLine "hello:")) ∧
      parse "\u00a0Register A: 1\t\r\n\u2003hello: \n" =
        .error (.faulty 2 (.unknownLine "hello:")) ∧
      (∀ line ∈ [" \r".toList, "\u3000".toList], Text.IsSpacing line) ∧
      parse "Register A: 1\r\n \r\n\u3000\nhello:\n" =
        .error (.faulty 4 (.unknownLine "hello:")) := by
  have herror : parse "Register A: 1\r\nhello:\n" = .error (.faulty 2 (.unknownLine "hello:")) := by
    decide +kernel
  have hspacing : ∀ line ∈ [" \r".toList, "\u3000".toList], Text.IsSpacing line := by decide +kernel
  have hpadded : List.Forall₂ Text.IsPadded ("Register A: 1\r\nhello:\n".toList.splitOn '\n')
      ["\u00a0Register A: 1\t\r".toList, "\u2003hello: ".toList, []] := by
    have hpieces : "Register A: 1\r\nhello:\n".toList.splitOn '\n' =
      ["Register A: 1\r".toList, "hello:".toList, []] := by decide +kernel
    rw [hpieces]
    refine .cons ⟨"\u00a0".toList, "Register A: 1".toList, "\t".toList, "\r".toList, ?_⟩ (.cons
      ⟨"\u2003".toList, "hello:".toList, " ".toList, [], ?_⟩ (.cons ⟨[], [], [], [], ?_⟩ .nil))
    all_goals decide +kernel
  obtain ⟨hreturns, hpad, hinsert⟩ := parse_ignores_layout "Register A: 1\r\nhello:\n"
  replace hpad := hpad _ hpadded
  replace hinsert := hinsert 1 _ hspacing
  rw [herror] at hreturns hpad hinsert
  exact ⟨herror, (congrArg parse (by decide +kernel)).trans hreturns,
    (congrArg parse (by decide +kernel)).trans hpad, hspacing,
    (congrArg parse (by decide +kernel)).trans hinsert⟩

end Listing

end ThreeBit
