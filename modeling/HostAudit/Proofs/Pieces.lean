import HostAudit.Text.Pieces

/-
This file relates cutting a text at a separator and putting pieces together to the same operations
on lists, and says what they do to texts that are put one after another. It also says where a text
is cut whose first characters are of a kind.
-/

namespace HostAudit.Text

variable {separator : Char} {text : List Char}

/-- Splitting is that of the library, which keeps empty pieces. -/
theorem splitAt_eq_splitOn (separator : Char) (text : List Char) :
    splitAt separator text = text.splitOn separator := by
  induction text with
  | nil => rfl
  | cons c rest ih =>
      rw [splitAt, ih, List.splitOn, List.splitOn, List.splitOnP_cons_eq_if_modifyHead]
      simp only [beq_iff_eq]
      split
      · rfl
      · split
        · rename_i none
          exact absurd none (List.splitOnP_ne_nil _ rest)
        · rename_i pieces
          rw [pieces]
          rfl

/-- Joining is that of the library. -/
theorem join_eq_intercalate (separator : List Char) (pieces : List (List Char)) :
    join separator pieces = separator.intercalate pieces := by
  induction pieces with
  | nil => rfl
  | cons piece rest ih =>
      cases rest with
      | nil => rw [join, List.intercalate_singleton]
      | cons next others => rw [List.intercalate_cons_cons, ← ih, join_cons _ _ (by simp)]

/-- A text without separators is a single piece. -/
theorem splitAt_of_not_mem (whole : separator ∉ text) : splitAt separator text = [text] := by
  rw [splitAt_eq_splitOn, List.splitOn_eq_singleton whole]

/-- There is no separator in a piece. -/
theorem not_mem_splitAt {piece : List Char} (member : piece ∈ splitAt separator text) :
    separator ∉ piece := by
  induction text generalizing piece with
  | nil =>
      obtain rfl : piece = [] := by simpa [splitAt] using member
      simp
  | cons c rest ih =>
      rw [splitAt] at member
      split at member
      · rcases List.mem_cons.mp member with rfl | later
        · simp
        · exact ih later
      · rename_i different
        split at member
        · rename_i none
          exact absurd none (splitAt_ne_nil separator rest)
        · rename_i first others pieces
          rw [pieces] at ih
          rcases List.mem_cons.mp member with rfl | later
          · simp [ih (List.mem_cons_self ..), Ne.symm different]
          · exact ih (List.mem_cons_of_mem _ later)

/-- What is joined consists of separators and of what is in the pieces. -/
theorem mem_join {separator : List Char} {pieces : List (List Char)} {c : Char}
    (member : c ∈ join separator pieces) : c ∈ separator ∨ ∃ piece ∈ pieces, c ∈ piece := by
  induction pieces with
  | nil => cases member
  | cons piece rest ih =>
      by_cases last : rest = []
      · subst last
        exact .inr ⟨piece, List.mem_cons_self, member⟩
      · rw [join_cons _ _ last, List.mem_append, List.mem_append] at member
        rcases member with (here | between) | later
        · exact .inr ⟨piece, List.mem_cons_self, here⟩
        · exact .inl between
        · refine (ih later).imp_right ?_
          rintro ⟨other, there, inside⟩
          exact ⟨other, List.mem_cons_of_mem _ there, inside⟩

/-- A text is cut on both sides of a separator apart. -/
theorem splitAt_append_cons (first second : List Char) :
    splitAt separator (first ++ separator :: second) =
      splitAt separator first ++ splitAt separator second := by
  simp only [splitAt_eq_splitOn]
  exact List.splitOnP_append_cons first second (beq_self_eq_true separator)

/-- Pieces without separators are cut apart again. -/
theorem splitAt_join {pieces : List (List Char)} (nonempty : pieces ≠ [])
    (whole : ∀ piece ∈ pieces, separator ∉ piece) :
    splitAt separator (join [separator] pieces) = pieces := by
  rw [splitAt_eq_splitOn, join_eq_intercalate]
  exact List.splitOn_intercalate separator whole nonempty

/-- Pieces may be joined in two parts. -/
theorem join_append (separator : List Char) {first second : List (List Char)}
    (nonempty : first ≠ []) (more : second ≠ []) :
    join separator (first ++ second) =
      join separator first ++ separator ++ join separator second := by
  induction first with
  | nil => exact absurd rfl nonempty
  | cons piece rest ih =>
      by_cases last : rest = []
      · subst last
        exact join_cons separator piece more
      · rw [List.cons_append, join_cons _ _ (by simp [last]), ih last, join_cons _ _ last]
        simp only [List.append_assoc]

/-- The first piece stands before a separator if there are more. -/
theorem joined_cons (separator piece : String) {rest : List String} (nonempty : rest ≠ []) :
    joined separator (piece :: rest) = piece ++ separator ++ joined separator rest := by
  cases rest with
  | nil => exact absurd rfl nonempty
  | cons next others => rfl

/-- This is `join_append` on strings. -/
theorem joined_append (separator : String) {first second : List String}
    (nonempty : first ≠ []) (more : second ≠ []) :
    joined separator (first ++ second) =
      joined separator first ++ separator ++ joined separator second := by
  induction first with
  | nil => exact absurd rfl nonempty
  | cons piece rest ih =>
      by_cases last : rest = []
      · subst last
        exact joined_cons separator piece more
      · rw [List.cons_append, joined_cons _ _ (by simp [last]), ih last, joined_cons _ _ last]
        simp only [String.append_assoc]

/-- With nothing between them, pieces are put together as they are. -/
theorem joined_empty (pieces : List String) : joined "" pieces = String.join pieces := by
  induction pieces with
  | nil => rfl
  | cons piece rest ih =>
      cases rest with
      | nil => rw [String.join_cons, String.join_nil, String.append_empty, joined]
      | cons next others =>
          rw [joined_cons _ _ (List.cons_ne_nil next others), ih, String.append_empty]
          exact String.join_cons.symm

section Spans

/-- A text is cut where a character is not kept any more. -/
theorem span_append (keep : Char → Bool) {word rest : List Char} (kept : ∀ c ∈ word, keep c = true)
    (stops : ∀ c ∈ rest.head?, keep c = false) :
    (word ++ rest).takeWhile keep = word ∧ (word ++ rest).dropWhile keep = rest := by
  rw [List.takeWhile_append_of_pos kept, List.dropWhile_append_of_pos kept]
  cases rest with
  | nil => simp
  | cons c rest => simp [stops c rfl]

/-- What is behind the characters that are kept begins with another one. -/
theorem head?_dropWhile (keep : Char → Bool) (text : List Char) :
    ∀ c ∈ (text.dropWhile keep).head?, keep c = false := by
  intro c first
  have stops := List.head?_dropWhile_not keep text
  rw [Option.mem_def.mp first] at stops
  exact stops

end Spans

end HostAudit.Text
