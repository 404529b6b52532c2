/-
This file cuts text into pieces: at a separator, and at the first occurrence of a part.
-/

namespace HostAudit.Text

/-- This cuts the text at every `separator`; a text without one is a single piece. -/
def splitAt (separator : Char) : List Char → List (List Char)
  | [] => [[]]
  | c :: rest =>
      if c = separator then [] :: splitAt separator rest
      else match splitAt separator rest with
        | [] => [[c]]
        | piece :: pieces => (c :: piece) :: pieces

/-- This writes the pieces one after another with `separator` between neighbours. -/
def join (separator : List Char) : List (List Char) → List Char
  | [] => []
  | [piece] => piece
  | piece :: pieces => piece ++ separator ++ join separator pieces

/-- This is `join` on strings. -/
def joined (separator : String) : List String → String
  | [] => ""
  | [piece] => piece
  | piece :: pieces => piece ++ separator ++ joined separator pieces

/-- The pieces of a string between its separators. -/
def pieces (separator : Char) (text : String) : List String :=
  (splitAt separator text.toList).map String.ofList

/-- What follows `part` in a text that begins with it. -/
def after? : List Char → List Char → Option (List Char)
  | [], text => some text
  | _ :: _, [] => none
  | p :: part, c :: text => if p = c then after? part text else none

/-- The text before the first occurrence of `part` and the text after it. -/
def breakOn (part : List Char) : List Char → Option (List Char × List Char)
  | [] => if part = [] then some ([], []) else none
  | c :: rest =>
      match after? part (c :: rest) with
      | some after => some ([], after)
      | none => (breakOn part rest).map fun (before, after) => (c :: before, after)

/-- `part` occurs somewhere in `text`. -/
def contains (part text : List Char) : Bool := (breakOn part text).isSome

theorem splitAt_ne_nil (separator : Char) (text : List Char) : splitAt separator text ≠ [] := by
  cases text with
  | nil => simp [splitAt]
  | cons c rest =>
      rw [splitAt]
      split
      · simp
      · split <;> simp

theorem join_cons (separator piece : List Char) {rest : List (List Char)} (nonempty : rest ≠ []) :
    join separator (piece :: rest) = piece ++ separator ++ join separator rest := by
  cases rest with
  | nil => exact absurd rfl nonempty
  | cons next others => rfl

theorem join_splitAt (separator : Char) (text : List Char) :
    join [separator] (splitAt separator text) = text := by
  induction text with
  | nil => rfl
  | cons c rest ih =>
      rw [splitAt]
      split
      · rename_i same
        rw [join_cons _ _ (splitAt_ne_nil separator rest), ih, same]
        rfl
      · split
        · rename_i none
          exact absurd none (splitAt_ne_nil separator rest)
        · rename_i piece others equal
          rw [equal] at ih
          cases others with
          | nil => simpa [join] using ih
          | cons next more =>
              simp only [join, List.cons_append] at ih ⊢
              rw [ih]

theorem after?_eq_some_iff {part text rest : List Char} :
    after? part text = some rest ↔ text = part ++ rest := by
  induction part generalizing text with
  | nil => simp [after?]
  | cons p part ih =>
      cases text with
      | nil => simp [after?]
      | cons c text =>
          by_cases same : p = c
          · simp [after?, same, ih]
          · simp [after?, same, Ne.symm same]

/-- What `breakOn` returns puts the text together again. -/
theorem breakOn_eq_some {part text before after : List Char}
    (found : breakOn part text = some (before, after)) : text = before ++ part ++ after := by
  induction text generalizing before after with
  | nil =>
      by_cases empty : part = [] <;> simp_all [breakOn]
  | cons c rest ih =>
      rw [breakOn] at found
      split at found
      · rename_i remaining isPrefix
        simp only [Option.some.injEq, Prod.mk.injEq] at found
        obtain ⟨rfl, rfl⟩ := found
        simpa using after?_eq_some_iff.mp isPrefix
      · simp only [Option.map_eq_some_iff] at found
        obtain ⟨⟨first, second⟩, inner, equal⟩ := found
        simp only [Prod.mk.injEq] at equal
        obtain ⟨rfl, rfl⟩ := equal
        rw [ih inner]
        simp

end HostAudit.Text
