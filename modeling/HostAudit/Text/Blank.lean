/-
This file holds the blank characters and the trimming of text at its ends.
-/

namespace HostAudit.Text

/-- A blank is a character with the White_Space property. -/
def isBlank (c : Char) : Bool :=
  let code := c.val
  (0x9 ≤ code && code ≤ 0xD) || code == 0x20 || code == 0x85 || code == 0xA0 ||
    code == 0x1680 || (0x2000 ≤ code && code ≤ 0x200A) || code == 0x2028 || code == 0x2029 ||
    code == 0x202F || code == 0x205F || code == 0x3000

/-- This drops the longest suffix whose characters all satisfy `drop`. -/
def dropTrailing (drop : Char → Bool) (text : List Char) : List Char :=
  (text.reverse.dropWhile drop).reverse

/-- This drops the blanks at both ends. -/
def trim (text : List Char) : List Char :=
  dropTrailing isBlank (text.dropWhile isBlank)

/-- This is `trim` on strings. -/
def trimmed (text : String) : String := String.ofList (trim text.toList)

/-- A blank text holds blanks only; the empty text is blank. -/
def isBlankText (text : String) : Bool := text.toList.all isBlank

@[simp] theorem dropTrailing_nil (drop : Char → Bool) : dropTrailing drop [] = [] := rfl

theorem dropTrailing_append_singleton (drop : Char → Bool) (text : List Char) (c : Char) :
    dropTrailing drop (text ++ [c]) =
      if drop c then dropTrailing drop text else text ++ [c] := by
  by_cases dropped : drop c <;> simp [dropTrailing, dropped]

theorem dropTrailing_append {drop : Char → Bool} {tail : List Char}
    (dropped : ∀ c ∈ tail, drop c = true) (text : List Char) :
    dropTrailing drop (text ++ tail) = dropTrailing drop text := by
  rw [dropTrailing, List.reverse_append, List.dropWhile_append_of_pos (by simpa using dropped),
    dropTrailing]

/-- What is dropped at the end of a text are characters to be dropped. -/
theorem exists_trailing (drop : Char → Bool) (text : List Char) :
    ∃ tail, text = dropTrailing drop text ++ tail ∧ ∀ c ∈ tail, drop c = true := by
  refine ⟨(text.reverse.takeWhile drop).reverse, ?_, fun c member => ?_⟩
  · rw [dropTrailing, ← List.reverse_append, List.takeWhile_append_dropWhile, List.reverse_reverse]
  · exact List.all_eq_true.mp List.all_takeWhile c (List.mem_reverse.mp member)

/-- A text whose last character is kept is kept whole. -/
theorem dropTrailing_eq_self {drop : Char → Bool} {text : List Char}
    (kept : ∀ c ∈ text.getLast?, drop c = false) : dropTrailing drop text = text := by
  have whole : text.reverse.dropWhile drop = text.reverse := by
    rw [← List.head?_reverse] at kept
    cases reversed : text.reverse with
    | nil => rfl
    | cons c rest =>
        rw [reversed] at kept
        exact List.dropWhile_cons_of_neg (by simp [kept c rfl])
  rw [dropTrailing, whole, List.reverse_reverse]

/-- The last character that is left is one to be kept. -/
theorem getLast?_dropTrailing (drop : Char → Bool) (text : List Char) :
    ∀ c ∈ (dropTrailing drop text).getLast?, drop c = false := by
  intro c last
  rw [dropTrailing, List.getLast?_reverse] at last
  have stops := List.head?_dropWhile_not drop text.reverse
  rw [Option.mem_def.mp last] at stops
  exact stops

/-- What is left is the only beginning of a text that ends in a character to be kept and has nothing
but characters to be dropped behind it. -/
theorem dropTrailing_eq_iff {drop : Char → Bool} {text left : List Char} :
    dropTrailing drop text = left ↔
      ∃ tail, text = left ++ tail ∧ (∀ c ∈ tail, drop c = true) ∧
        ∀ c ∈ left.getLast?, drop c = false := by
  constructor
  · rintro rfl
    obtain ⟨tail, split, dropped⟩ := exists_trailing drop text
    exact ⟨tail, split, dropped, getLast?_dropTrailing drop text⟩
  · rintro ⟨tail, rfl, dropped, kept⟩
    rw [dropTrailing_append dropped, dropTrailing_eq_self kept]

theorem trim_append {before after : List Char} (leading : ∀ c ∈ before, isBlank c = true)
    (trailing : ∀ c ∈ after, isBlank c = true) (text : List Char) :
    trim (before ++ (text ++ after)) = trim text := by
  rw [trim, List.dropWhile_append_of_pos leading, List.dropWhile_append, trim]
  split
  · rename_i blank
    have gone : (after ++ []).dropWhile isBlank = [] := List.dropWhile_append_of_pos trailing
    rw [List.append_nil] at gone
    rw [List.isEmpty_iff.mp blank, gone]
  · exact dropTrailing_append trailing _

/-- What is trimmed away are blanks. -/
theorem exists_margins (text : List Char) :
    ∃ before after, text = before ++ (trim text ++ after) ∧
      (∀ c ∈ before, isBlank c = true) ∧ ∀ c ∈ after, isBlank c = true := by
  obtain ⟨after, split, trailing⟩ := exists_trailing isBlank (text.dropWhile isBlank)
  refine ⟨text.takeWhile isBlank, after, ?_, List.all_eq_true.mp List.all_takeWhile, trailing⟩
  rw [trim, ← split, List.takeWhile_append_dropWhile]

/-- A text without blanks at its ends is left as it is. -/
theorem trim_of_solid {text : List Char} (first : ∀ c ∈ text.head?, isBlank c = false)
    (last : ∀ c ∈ text.getLast?, isBlank c = false) : trim text = text := by
  have leading : text.dropWhile isBlank = text := by
    cases text with
    | nil => rfl
    | cons c rest => simp [first c rfl]
  rw [trim, leading, dropTrailing_eq_self last]

end HostAudit.Text
