import Mathlib
import ThreeBit.Proofs.Command
import ThreeBit.Proofs.RoundTrip

/-! # The line of outputs

Output streams are printed as decimals with commas between them, and nothing says where a number
ends but the comma behind it. That is enough: the pieces between the commas are the words again.

* **`readOutputs`** — a line read back: nothing for the empty text, else a number for each piece;
* **`readOutputs_wordsText`** — it is inverse to printing, so printing is injective
  (`wordsText_injective`);
* **`Cli.Reports`** — a command line that comes to an outcome, with what it then prints
  (`Cli.Reports.output_eq`);
* **`wordsText_determines_words`** — the words are determined by their text, and the stream by what
  is printed. -/

namespace ThreeBit

variable {words : List Word}

/-! ## Reading back -/

/-- **The pieces between the commas are the words**, if there are any. -/
theorem mapM_readNumeral_wordsText (hne : words ≠ []) :
    ((wordsText words).toList.splitOn ',').mapM (Text.readNumeral 255) =
      .ok (words.map UInt8.toNat) := by
  rw [Listing.splitOn_wordsText hne, mapM_eq_ok_iff, List.forall₂_map_left_iff,
    List.forall₂_map_right_iff, List.forall₂_same]
  intro word _
  exact Text.readNumeral_eq_ok_iff.mpr
    ⟨Text.isNumeral_toString _, Nat.le_of_lt_succ word.toNat_lt⟩

/-- **Only no words at all** are printed as the empty text. -/
theorem wordsText_eq_empty_iff : wordsText words = "" ↔ words = [] := by
  constructor
  · intro hempty
    by_contra hne
    exact Listing.wordsText_ne_nil hne (String.toList_eq_nil_iff.mpr hempty)
  · rintro rfl
    rfl

/-- A line of outputs, **read back** as numbers. The empty text has one piece, which is no numeral,
and so it is told apart before it is divided. -/
def readOutputs (text : List Char) : Except Text.NumeralError (List ℕ) :=
  if text = [] then .ok [] else (text.splitOn ',').mapM (Text.readNumeral 255)

/-- **What was printed is read back.** -/
theorem readOutputs_wordsText (words : List Word) :
    readOutputs (wordsText words).toList = .ok (words.map UInt8.toNat) := by
  by_cases hne : words = []
  · subst hne
    rfl
  · rw [readOutputs, if_neg (Listing.wordsText_ne_nil hne), mapM_readNumeral_wordsText hne]

/-- **Different words are printed differently.** -/
theorem wordsText_injective : Function.Injective wordsText := by
  intro first second h
  have hnumbers : first.map UInt8.toNat = second.map UInt8.toNat := by
    have hread := readOutputs_wordsText first
    rw [h, readOutputs_wordsText second] at hread
    exact (Except.ok.inj hread).symm
  exact List.map_injective_iff.mpr (fun _ _ => UInt8.toNat_inj.mp) hnumbers

/-! ## What the command prints -/

namespace Cli

variable {parser : List String → Except Response Request} {arguments : List String}
  {read : String → Except ReadError ByteArray} {outcome : Outcome}

/-- Arguments **report** an outcome when they are read as a request for a file with a text in it
that has the outcome. -/
def Reports (parser : List String → Except Response Request) (arguments : List String)
    (read : String → Except ReadError ByteArray) (outcome : Outcome) : Prop :=
  ∃ request text, parser arguments = .ok request ∧
    read request.path = .ok text.toUTF8 ∧ HasOutcome request.config text outcome

/-- What is printed is the stream of the outcome, whatever becomes of the check of the model. -/
theorem Reports.output_eq (h : Reports parser arguments read outcome) (filter : Option String) :
    (respondWith parser arguments filter read).output
      = wordsText outcome.outputs.toList ++ "\n" := by
  obtain ⟨request, text, harguments, hread, houtcome⟩ := h
  obtain ⟨log, hresponse⟩ := exists_respondWith_eq_answer filter harguments hread
  rw [hresponse, Request.answer_of_hasOutcome houtcome]
  split <;> rfl

end Cli

/-- **The text of words determines them.** Printing is injective on all lists of words. A list that
is not empty is what the pieces between the commas stand for, and only the empty list is printed as
the empty text. So two command lines that come to an outcome print the same line exactly if they
have the same reference stream. -/
theorem wordsText_determines_words :
    (∀ first second, wordsText first = wordsText second → first = second) ∧
    (∀ words, words ≠ [] →
      ((wordsText words).toList.splitOn ',').mapM (Text.readNumeral 255) =
        .ok (words.map UInt8.toNat)) ∧
    (∀ words, wordsText words = "" ↔ words = []) ∧
    (∀ parser arguments arguments' filter filter' read read' outcome outcome',
      Cli.Reports parser arguments read outcome → Cli.Reports parser arguments' read' outcome' →
      ((Cli.respondWith parser arguments filter read).output
          = (Cli.respondWith parser arguments' filter' read').output ↔
        outcome.outputs = outcome'.outputs)) := by
  refine ⟨fun _ _ h => wordsText_injective h, fun _ => mapM_readNumeral_wordsText,
    fun _ => wordsText_eq_empty_iff, ?_⟩
  intro parser arguments arguments' filter filter' read read' outcome outcome' hreports hreports'
  rw [hreports.output_eq, hreports'.output_eq, String.append_left_inj]
  constructor
  · intro h
    exact Array.toList_inj.mp (wordsText_injective h)
  · intro h
    rw [h]

/-- Lists with the same digits are told apart by their commas. A loop of two rounds, on a device
with too few cycles for it, prints the same line as two emissions in a row, for it has the same
stream. -/
theorem wordsText_determines_words_same_digits :
    let loop := "Register A: 3\nRegister B: 0\nRegister C: 0\n\nProgram: 0,1,5,4,3,0\n"
    let row := "Register A: 0\nRegister B: 0\nRegister C: 0\n\nProgram: 5,1,5,0\n"
    let arguments := ["loop", "--verify", "--max-cycles=5"]
    wordsText [1, 23, 255] ≠ wordsText [12, 3, 255] ∧
      ((wordsText [1, 23, 255]).toList.splitOn ',').mapM (Text.readNumeral 255) = .ok [1, 23, 255] ∧
      (Cli.respond arguments none fun _ => .ok loop.toUTF8).output
        = (Cli.respond ["row"] none fun _ => .ok row.toUTF8).output := by
  intro loop row arguments
  obtain ⟨hinjective, hpieces, -, hprinted⟩ := wordsText_determines_words
  have hloop : Cli.Reports Cli.readRequest arguments (fun _ => .ok loop.toUTF8)
      { registers := { ip := 6 }, outputs := #[1, 0], steps := 6 } :=
    ⟨{ path := "loop", config := { maxCycles := 5 }, verify := true }, loop, by decide +kernel, rfl,
      { a := 3, b := 0, c := 0, program := ⟨#[0, 1, 5, 4, 3, 0], rfl⟩ }, by decide +kernel,
      by decide +kernel⟩
  have hrow : Cli.Reports Cli.readRequest ["row"] (fun _ => .ok row.toUTF8)
      { registers := { ip := 4 }, outputs := #[1, 0], steps := 2 } :=
    ⟨{ path := "row" }, row, by decide +kernel, rfl,
      { a := 0, b := 0, c := 0, program := ⟨#[5, 1, 5, 0], rfl⟩ }, by decide +kernel,
      by decide +kernel⟩
  refine ⟨fun hsame => ?_, hpieces [1, 23, 255] (by decide), ?_⟩
  · exact absurd (hinjective _ _ hsame) (by decide)
  · exact (hprinted _ _ _ _ _ _ _ _ _ hloop hrow).mpr rfl

end ThreeBit
