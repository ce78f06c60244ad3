import Mathlib

/-! # When a computation succeeds

Computations that may fail are taken apart at their successes: a computation built from others
succeeds exactly when its parts do. A computation on each member of a list that fails has failed at
the first member where it can. -/

namespace ThreeBit

variable {α β ε : Type}

/-- A sequence of two computations succeeds when the first does, and the second does on its
result. -/
theorem bind_eq_ok_iff {first : Except ε α} {second : α → Except ε β} {result : β} :
    (first >>= second) = .ok result ↔
      ∃ middle, first = .ok middle ∧ second middle = .ok result := by
  cases first <;> simp [bind, Except.bind]

/-- Applying a function to the result of a computation does not change whether it succeeds. -/
theorem map_eq_ok_iff {computation : Except ε α} {f : α → β} {result : β} :
    computation.map f = .ok result ↔ ∃ value, computation = .ok value ∧ f value = result := by
  cases computation <;> simp [Except.map]

/-- A computation on each member of a list succeeds when all of them do. -/
theorem mapM_eq_ok_iff {f : α → Except ε β} {inputs : List α} {results : List β} :
    inputs.mapM f = .ok results ↔
      List.Forall₂ (fun input result => f input = .ok result) inputs results := by
  induction inputs generalizing results with
  | nil =>
    rw [List.mapM_nil, List.forall₂_nil_left_iff]
    exact ⟨fun h => (Except.ok.inj h).symm, fun h => by rw [h]; rfl⟩
  | cons input inputs ih =>
    rw [List.mapM_cons, bind_eq_ok_iff, List.forall₂_cons_left_iff]
    refine exists_congr fun result => ?_
    rw [bind_eq_ok_iff]
    constructor
    · rintro ⟨hfirst, rest, hrest, hpure⟩
      exact ⟨rest, hfirst, ih.mp hrest, (Except.ok.inj hpure).symm⟩
    · rintro ⟨rest, hfirst, hrest, rfl⟩
      exact ⟨hfirst, rest, ih.mpr hrest, rfl⟩

/-- A sequence of two computations fails when the first does, or when the second does on its
result. -/
theorem bind_eq_error_iff {first : Except ε α} {second : α → Except ε β} {error : ε} :
    (first >>= second) = .error error ↔
      first = .error error ∨ ∃ middle, first = .ok middle ∧ second middle = .error error := by
  cases first <;> simp [bind, Except.bind]

/-- Applying a function to the result of a computation does not change how it fails. -/
theorem map_eq_error_iff {computation : Except ε α} {f : α → β} {error : ε} :
    computation.map f = .error error ↔ computation = .error error := by
  cases computation <;> simp [Except.map]

/-- A test that fails has failed with the error it was given. -/
theorem test_eq_error_iff {test : Prop} [Decidable test] {given error : ε} :
    (if test then .ok () else .error given : Except ε Unit) = .error error ↔
      ¬test ∧ error = given := by
  by_cases htest : test
  · simp [htest]
  · simp [htest, eq_comm]

/-- **The first failure counts.** A computation on each member of a list fails by the failure of the
first member on which it does not succeed. -/
theorem mapM_eq_error_iff {f : α → Except ε β} {inputs : List α} {error : ε} :
    inputs.mapM f = .error error ↔
      ∃ before input after, inputs = before ++ input :: after ∧
        (∀ earlier ∈ before, ∃ result, f earlier = .ok result) ∧ f input = .error error := by
  induction inputs with
  | nil => simp [pure, Except.pure]
  | cons head inputs ih =>
    rw [List.mapM_cons, bind_eq_error_iff]
    constructor
    · rintro (hhead | ⟨first, hhead, hrest⟩)
      · exact ⟨[], head, inputs, rfl, by simp, hhead⟩
      · obtain hrest | ⟨_, -, hpure⟩ := bind_eq_error_iff.mp hrest
        · obtain ⟨before, input, after, rfl, hbefore, hinput⟩ := ih.mp hrest
          exact ⟨head :: before, input, after, rfl,
            List.forall_mem_cons.mpr ⟨⟨first, hhead⟩, hbefore⟩, hinput⟩
        · cases hpure
    · rintro ⟨before, input, after, hsplit, hbefore, hinput⟩
      cases before with
      | nil =>
        obtain ⟨rfl, -⟩ := List.cons.inj hsplit
        exact Or.inl hinput
      | cons earlier before =>
        obtain ⟨rfl, rfl⟩ := List.cons.inj hsplit
        obtain ⟨⟨first, hfirst⟩, hbefore⟩ := List.forall_mem_cons.mp hbefore
        have hrest := ih.mpr ⟨before, input, after, rfl, hbefore, hinput⟩
        exact Or.inr ⟨first, hfirst, bind_eq_error_iff.mpr (Or.inl hrest)⟩

end ThreeBit
