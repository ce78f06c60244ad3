import Mathlib
import ThreeBit.Text.Lines

/-! # The lines of a text, one by one

A text is a line that nothing ends (`Text.lines_of_not_mem`), or a line, a line feed and a text
after it (`Text.lines_append_cons`). Every statement about lines comes down to these two
(`Text.line_induction`).

`Text.firstLines` is the part of a text that its first lines make up, with their ends, and
`Text.lines_firstLines` says that they are the lines of that part. -/

namespace ThreeBit.Text

/-- **Induction line by line.** The induction is on the length of the text, and takes its first line
off. -/
@[elab_as_elim]
theorem line_induction {motive : List Char → Prop}
    (unended : ∀ line, '\n' ∉ line → motive line)
    (ended : ∀ line rest, '\n' ∉ line → motive rest → motive (line ++ '\n' :: rest))
    (text : List Char) : motive text := by
  induction hlength : text.length using Nat.strong_induction_on generalizing text with
  | _ length ih =>
    by_cases hmem : '\n' ∈ text
    · obtain ⟨line, rest, rfl, hline⟩ := List.eq_append_cons_of_mem hmem
      refine ended line rest hline (ih rest.length ?_ rest rfl)
      rw [← hlength, List.length_append, List.length_cons]
      omega
    · exact unended text hmem

/-- **The first line of a text** is what stands before the first line feed. -/
theorem lines_append_cons {line : List Char} (hline : '\n' ∉ line) (rest : List Char) :
    lines (line ++ '\n' :: rest) = dropReturn line :: lines rest := by
  rw [lines, List.splitOn_append_cons_self_of_not_mem hline, lines]
  -- there is a piece after the line feed, even if it is empty, so the piece before is an ended line
  obtain ⟨piece, pieces, hpieces⟩ := List.exists_cons_of_ne_nil (List.splitOn_ne_nil '\n' rest)
  rw [hpieces, endedLines]
  exact List.cons_ne_nil _ _

/-- A text without a line feed is one line, or none if it is empty. -/
theorem lines_of_not_mem {text : List Char} (htext : '\n' ∉ text) :
    lines text = if text = [] then [] else [text] := by
  rw [lines, List.splitOn_eq_singleton htext, endedLines]

/-- A line that does not end in a carriage return stays as it is. -/
theorem dropReturn_of_not_mem {line : List Char} (hline : '\r' ∉ line) : dropReturn line = line :=
  if_neg fun hlast => hline (List.mem_of_getLast? hlast)

/-- **Lines that were written are read back**, if none of them has a line end in it. -/
theorem lines_flatMap {written : List (List Char)}
    (hwritten : ∀ line ∈ written, '\n' ∉ line ∧ '\r' ∉ line) :
    lines (written.flatMap fun line => line ++ ['\n']) = written := by
  induction written with
  | nil => rfl
  | cons line rest ih =>
    obtain ⟨⟨hfeed, hreturn⟩, hrest⟩ := List.forall_mem_cons.mp hwritten
    rw [List.flatMap_cons, List.append_assoc, List.singleton_append, lines_append_cons hfeed,
      dropReturn_of_not_mem hreturn, ih hrest]

/-! ## The first lines -/

/-- The part of a text up to the end of its **first lines**. -/
def firstLines : ℕ → List Char → List Char
  | 0, _ => []
  | _ + 1, [] => []
  | count + 1, c :: rest => c :: firstLines (if c = '\n' then count else count + 1) rest

@[simp] theorem firstLines_zero (text : List Char) : firstLines 0 text = [] := by
  cases text <;> rfl

/-- The first lines of a text begin with its first line and the line feed after it. -/
theorem firstLines_append_cons {line : List Char} (hline : '\n' ∉ line) (count : ℕ)
    (rest : List Char) :
    firstLines (count + 1) (line ++ '\n' :: rest) = line ++ '\n' :: firstLines count rest := by
  induction line with
  | nil => rfl
  | cons c line ih =>
    rw [List.mem_cons, not_or] at hline
    rw [List.cons_append, firstLines, if_neg (Ne.symm hline.1), ih hline.2, List.cons_append]

/-- The first lines of a text without a line feed are all of it. -/
theorem firstLines_of_not_mem {text : List Char} (htext : '\n' ∉ text) (count : ℕ) :
    firstLines (count + 1) text = text := by
  induction text with
  | nil => rfl
  | cons c text ih =>
    rw [List.mem_cons, not_or] at htext
    rw [firstLines, if_neg (Ne.symm htext.1), ih htext.2]

/-- **The lines of the first lines** are the first of the lines. The induction is on their number,
and each step takes one line off the front of the text. -/
theorem lines_firstLines (count : ℕ) (text : List Char) :
    lines (firstLines count text) = (lines text).take count := by
  induction count generalizing text with
  | zero => rw [firstLines_zero]; rfl
  | succ count ih =>
    by_cases hmem : '\n' ∈ text
    · obtain ⟨line, rest, rfl, hline⟩ := List.eq_append_cons_of_mem hmem
      rw [firstLines_append_cons hline, lines_append_cons hline, lines_append_cons hline, ih,
        List.take_succ_cons]
    · rw [firstLines_of_not_mem hmem, lines_of_not_mem hmem]
      split
      · rfl
      · rw [List.take_succ_cons, List.take_nil]

end ThreeBit.Text
