import Mathlib
import ThreeBit.Text.Lines

/-! # Definitions on a line

A definition is a key and a value around the first colon of a line, both without the blanks at their
ends (`Text.IsDefinition`). A reader may trim the line before it looks for the colon, or not: a
colon is no blank, so the key and the value are the same (`isDefinition_iff_cutAt`). -/

namespace ThreeBit.Text

/-! ## Cutting -/

/-- **Cutting** finds the first occurrence of the separator. -/
theorem cutAt_eq_some_iff {separator : Char} {text before after : List Char} :
    cutAt separator text = some (before, after) ↔
      text = before ++ separator :: after ∧ separator ∉ before := by
  constructor
  · intro h
    unfold cutAt at h
    split at h
    · cases h
    · next head rest hdrop =>
      obtain ⟨rfl, rfl⟩ := Prod.mk.inj (Option.some.inj h)
      have hhead : head = separator := by
        have hnot := List.head?_dropWhile_not (· != separator) text
        rw [hdrop] at hnot
        simpa using hnot
      refine ⟨?_, fun hmem => ?_⟩
      · rw [hhead] at hdrop
        rw [← hdrop, List.takeWhile_append_dropWhile]
      · simpa using List.mem_takeWhile_imp hmem
  · rintro ⟨rfl, hnot⟩
    have hkeep : ∀ c ∈ before, (c != separator) = true := fun c hmem => by
      simpa using ne_of_mem_of_not_mem hmem hnot
    unfold cutAt
    rw [List.dropWhile_append_of_pos hkeep, List.takeWhile_append_of_pos hkeep]
    simp

/-! ## Trimming -/

/-- Dropping from the front stops before a character that stays. -/
theorem dropWhile_append_cons {p : Char → Bool} {c : Char} (hc : p c = false)
    (front back : List Char) :
    (front ++ c :: back).dropWhile p = front.dropWhile p ++ c :: back := by
  rw [List.dropWhile_append]
  split
  · next hempty => simp [List.isEmpty_iff.mp hempty, hc]
  · rfl

/-- Dropping from the back stops behind a character that stays. -/
theorem rdropWhile_append_cons {p : Char → Bool} {c : Char} (hc : p c = false)
    (front back : List Char) :
    (front ++ c :: back).rdropWhile p = front ++ c :: back.rdropWhile p := by
  have hreverse : (front ++ c :: back).reverse = back.reverse ++ c :: front.reverse := by simp
  rw [List.rdropWhile, hreverse, dropWhile_append_cons hc]
  simp [List.rdropWhile]

/-- Trimming drops from the front and then from the back. -/
theorem trim_eq (text : List Char) : trim text = (text.dropWhile isBlank).rdropWhile isBlank := rfl

/-- Around a character that is no blank, the two ends are trimmed apart. -/
theorem trim_append_cons {c : Char} (hc : isBlank c = false) (front back : List Char) :
    trim (front ++ c :: back) = front.dropWhile isBlank ++ c :: back.rdropWhile isBlank := by
  rw [trim_eq, dropWhile_append_cons hc, rdropWhile_append_cons hc]

/-- Blanks dropped from the front before do not matter. -/
theorem trim_dropWhile (text : List Char) : trim (text.dropWhile isBlank) = trim text := by
  rw [trim_eq, List.dropWhile_idempotent, ← trim_eq]

/-- Blanks dropped from the back before do not matter. -/
theorem trim_rdropWhile (text : List Char) : trim (text.rdropWhile isBlank) = trim text := by
  cases hdrop : text.dropWhile isBlank with
  | nil =>
    -- all is blank, and both sides are empty
    have hblank : ∀ c ∈ text, isBlank c = true := List.dropWhile_eq_nil_iff.mp hdrop
    rw [List.rdropWhile_eq_nil_iff.mpr hblank, trim_eq text, hdrop]
    rfl
  | cons c rest =>
    have hc : isBlank c = false := by
      have hnot := List.head?_dropWhile_not isBlank text
      rw [hdrop] at hnot
      simpa using hnot
    have htext : text = text.takeWhile isBlank ++ c :: rest := by
      rw [← hdrop, List.takeWhile_append_dropWhile]
    rw [htext, rdropWhile_append_cons hc, trim_append_cons hc, trim_append_cons hc,
      List.rdropWhile_idempotent]

/-- Trimming adds no character. -/
theorem mem_of_mem_trim {c : Char} {text : List Char} (h : c ∈ trim text) : c ∈ text :=
  (List.dropWhile_suffix _).subset ((List.rdropWhile_prefix _ _).subset h)

/-! ## Definitions -/

/-- A line is a **definition** of a value under a key: the key is what stands before the first colon
and the value what stands after it, both without the blanks at their ends. -/
def IsDefinition (line key value : List Char) : Prop :=
  ∃ before after, line = before ++ ':' :: after ∧ ':' ∉ before ∧
    trim before = key ∧ trim after = value

/-- The colon is no blank. -/
theorem isBlank_colon : isBlank ':' = false := rfl

/-- **Trimming a line first changes nothing.** The key and the value of a line are those on both
sides of the cut of the trimmed line. -/
theorem isDefinition_iff_cutAt {line key value : List Char} :
    IsDefinition line key value ↔
      ∃ before after, cutAt ':' (trim line) = some (before, after) ∧
        trim before = key ∧ trim after = value := by
  -- the cut of the trimmed line, from a cut of the line itself
  have hcut : ∀ before after, ':' ∉ before →
      cutAt ':' (trim (before ++ ':' :: after))
        = some (before.dropWhile isBlank, after.rdropWhile isBlank) := by
    intro before after hnot
    refine cutAt_eq_some_iff.mpr ⟨trim_append_cons isBlank_colon before after, fun hmem => ?_⟩
    exact hnot ((List.dropWhile_suffix _).subset hmem)
  constructor
  · rintro ⟨before, after, rfl, hnot, rfl, rfl⟩
    exact ⟨_, _, hcut before after hnot, trim_dropWhile before, trim_rdropWhile after⟩
  · rintro ⟨before, after, h, rfl, rfl⟩
    have hcolon : ':' ∈ line :=
      mem_of_mem_trim (by rw [(cutAt_eq_some_iff.mp h).1]; simp)
    obtain ⟨front, back, rfl, hnot⟩ := List.eq_append_cons_of_mem hcolon
    rw [hcut front back hnot, Option.some.injEq, Prod.mk.injEq] at h
    obtain ⟨rfl, rfl⟩ := h
    exact ⟨front, back, rfl, hnot, (trim_dropWhile front).symm, (trim_rdropWhile back).symm⟩

/-- A definition is not blank. -/
theorem IsDefinition.trim_ne_nil {line key value : List Char} (h : IsDefinition line key value) :
    trim line ≠ [] := by
  obtain ⟨before, after, rfl, -⟩ := h
  rw [trim_append_cons isBlank_colon]
  simp

/-- A line has one key and one value. -/
theorem IsDefinition.unique {line key value key' value' : List Char}
    (h : IsDefinition line key value) (h' : IsDefinition line key' value') :
    key = key' ∧ value = value' := by
  obtain ⟨before, after, hcut, rfl, rfl⟩ := isDefinition_iff_cutAt.mp h
  obtain ⟨before', after', hcut', rfl, rfl⟩ := isDefinition_iff_cutAt.mp h'
  obtain ⟨rfl, rfl⟩ := Prod.mk.inj (Option.some.inj (hcut.symm.trans hcut'))
  exact ⟨rfl, rfl⟩

/-- The lines with a colon are the definitions, under whatever key. -/
theorem exists_isDefinition_iff {line : List Char} :
    (∃ key value, IsDefinition line key value) ↔ ':' ∈ line := by
  constructor
  · rintro ⟨key, value, before, after, rfl, -⟩
    simp
  · intro hcolon
    obtain ⟨before, after, rfl, hnot⟩ := List.eq_append_cons_of_mem hcolon
    exact ⟨_, _, before, after, rfl, hnot, rfl, rfl⟩

end ThreeBit.Text
