/-!
# Pieces between separators

Cutting a list at every element of a class.

* **pieces** — what stands before, between and after the separators; always
  one piece more than there are separators.
* **nonemptyPieces** — the pieces that hold something: the maximal runs
  without a separator.
-/

namespace AdapterWiring.Text

variable {α : Type}

/-- The pieces of a list between its separators, empty pieces included. -/
def pieces (separates : α → Bool) : List α → List (List α)
  | [] => [[]]
  | item :: rest =>
    if separates item then [] :: pieces separates rest
    else
      match pieces separates rest with
      | [] => [[item]]
      | first :: others => (item :: first) :: others

/-- The maximal runs without a separator. -/
def nonemptyPieces (separates : α → Bool) (items : List α) : List (List α) :=
  (pieces separates items).filter (!·.isEmpty)

/-- There is one piece more than there are separators. -/
theorem length_pieces (separates : α → Bool) (items : List α) :
    (pieces separates items).length = items.countP separates + 1 := by
  induction items with
  | nil => rfl
  | cons item rest ih =>
    by_cases isSeparator : separates item
    · simp [pieces, isSeparator, ih]
    · rw [pieces, if_neg isSeparator]
      cases found : pieces separates rest with
      | nil => simp [found] at ih
      | cons first others =>
        simp only [found, List.length_cons] at ih
        simp [isSeparator, ih]

/-- No piece holds a separator. -/
theorem not_separates_of_mem_pieces {separates : α → Bool} {items piece : List α}
    (isPiece : piece ∈ pieces separates items) {item : α} (member : item ∈ piece) :
    separates item = false := by
  induction items generalizing piece with
  | nil =>
    rw [pieces, List.mem_singleton] at isPiece
    simp [isPiece] at member
  | cons head rest ih =>
    rw [pieces] at isPiece
    split at isPiece
    · rcases List.mem_cons.1 isPiece with rfl | later
      · simp at member
      · exact ih later member
    next notSeparator =>
      split at isPiece
      · simp only [List.mem_singleton] at isPiece
        subst isPiece
        simp only [List.mem_singleton] at member
        simpa [member] using notSeparator
      next first others found =>
        rw [found] at ih
        rcases List.mem_cons.1 isPiece with rfl | later
        · rcases List.mem_cons.1 member with rfl | inFirst
          · simpa using notSeparator
          · exact ih (List.mem_cons_self ..) inFirst
        · exact ih (List.mem_cons_of_mem _ later) member

end AdapterWiring.Text
