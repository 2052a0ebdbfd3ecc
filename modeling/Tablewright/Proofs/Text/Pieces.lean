import Mathlib.Data.List.TakeWhile
import Tablewright.Text.Pieces

/-! Laws of cutting a text: what its pieces are, and that they tell texts apart.
-/

namespace Tablewright.Text

variable {separator : Char} {text : List Char}

/-- A text has at least one piece.
-/
theorem pieces_ne_nil (separator : Char) (text : List Char) : pieces separator text ≠ [] := by
  cases text with
  | nil => simp [pieces]
  | cons c rest =>
      rw [pieces]
      split
      · exact List.cons_ne_nil _ _
      · split <;> exact List.cons_ne_nil _ _

/-- A character that does not cut belongs to the first piece.
-/
theorem exists_pieces_cons {c : Char} (keeps : c ≠ separator) (rest : List Char)
    : ∃ piece more,
        pieces separator rest = piece :: more
        ∧ pieces separator (c :: rest) = (c :: piece) :: more := by
  rw [pieces, if_neg keeps]
  cases cut : pieces separator rest with
  | nil => exact absurd cut (pieces_ne_nil separator rest)
  | cons piece more => exact ⟨piece, more, rfl, rfl⟩

/-- A text without separators is its only piece.
-/
theorem pieces_of_notMem (absent : separator ∉ text) : pieces separator text = [text] := by
  induction text with
  | nil => rfl
  | cons c rest ih =>
      obtain ⟨different, others⟩ := List.ne_and_not_mem_of_not_mem_cons absent
      obtain ⟨piece, more, cut, whole⟩ := exists_pieces_cons different.symm rest
      rw [ih others] at cut
      cases cut
      exact whole

/-- A text is cut at each separator.
-/
theorem pieces_append_cons (separator : Char) (before after : List Char)
    : pieces separator (before ++ separator :: after)
      = pieces separator before ++ pieces separator after := by
  induction before with
  | nil => simp [pieces]
  | cons c rest ih =>
      by_cases cuts : c = separator
      · simp [pieces, cuts, ih]
      · obtain ⟨piece, more, cut, whole⟩ := exists_pieces_cons cuts rest
        rw [List.cons_append, whole, pieces, if_neg cuts, ih, cut]
        rfl

/-- Separators at the end of a text make empty pieces.
-/
theorem pieces_append_replicate (separator : Char) (before : List Char) (count : Nat)
    : pieces separator (before ++ List.replicate count separator)
      = pieces separator before ++ List.replicate count [] := by
  induction count generalizing before with
  | zero => simp
  | succ count ih =>
      have shifted : before ++ List.replicate (count + 1) separator
          = (before ++ [separator]) ++ List.replicate count separator := by
        simp [List.replicate_succ]
      rw [shifted, ih, pieces_append_cons, pieces, List.append_assoc, List.replicate_succ]
      rfl

/-- What follows the last separator of a text is one of its pieces.
-/
theorem takeWhile_reverse_mem_pieces (separator : Char) (text : List Char)
    : (text.reverse.takeWhile (· != separator)).reverse ∈ pieces separator text := by
  have whole := List.takeWhile_append_dropWhile (p := (· != separator)) (l := text.reverse)
  have absent : separator ∉ (text.reverse.takeWhile (· != separator)).reverse := by
    intro member
    have differs := List.mem_takeWhile_imp (List.mem_reverse.mp member)
    simp at differs
  generalize text.reverse.takeWhile (· != separator) = last at whole absent ⊢
  cases rest : text.reverse.dropWhile (· != separator) with
  | nil =>
      rw [rest, List.append_nil] at whole
      rw [whole, List.reverse_reverse] at absent ⊢
      rw [pieces_of_notMem absent]
      exact List.mem_singleton_self text
  | cons c before =>
      have cuts : c = separator := by
        have stopped := List.head?_dropWhile_not (· != separator) text.reverse
        rw [rest] at stopped
        simpa using stopped
      have split : text = before.reverse ++ separator :: last.reverse := by
        rw [rest, cuts] at whole
        rw [← List.reverse_reverse text, ← whole]
        simp
      rw [split, pieces_append_cons, pieces_of_notMem absent]
      exact List.mem_append_right _ (List.mem_singleton_self _)

/-- A text is its pieces with the separator between them.
-/
theorem intercalate_pieces (separator : Char) (text : List Char)
    : [separator].intercalate (pieces separator text) = text := by
  induction text with
  | nil => rfl
  | cons c rest ih =>
      by_cases cuts : c = separator
      · rw [pieces, if_pos cuts, List.intercalate_cons_of_ne_nil (pieces_ne_nil _ _), ih, cuts]
        rfl
      · obtain ⟨piece, more, cut, whole⟩ := exists_pieces_cons cuts rest
        rw [cut] at ih
        rw [whole, ← ih]
        cases more with
        | nil => simp
        | cons next later => simp [List.intercalate_cons_cons]

/-- Texts with the same pieces are the same.
-/
theorem pieces_injective (separator : Char) : Function.Injective (pieces separator) :=
  Function.LeftInverse.injective (intercalate_pieces separator)

end Tablewright.Text
