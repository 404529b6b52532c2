import HostAudit.Proofs.IdLines

/-
This file proves that quoting the ids in a text line by line is what comes of replacing the lines
with such ids all over the text, that the lines are quoted one by one, and that quoting once more
changes nothing.
-/

namespace HostAudit.NumericId

/-- What follows a line: nothing, or a line break. -/
def AtLineEnd (rest : List Char) : Prop := ∀ c ∈ rest.head?, c = '\n'

/-- A line whose id is a number stands at the head of a text. -/
def HasIdLine (text : List Char) : Prop :=
  ∃ line : IdLine, ∃ rest, text = line.text ++ rest ∧ AtLineEnd rest

/-- What comes of replacing the lines whose id is a number from some place of a text on, which is at
the beginning of a line or is not. Where there is no such line, one character is passed. -/
inductive Replaced : Bool → List Char → List Char → Prop where
  | done (atStart : Bool) : Replaced atStart [] []
  | quoted (line : IdLine) {text rest result : List Char} (found : text = line.text ++ rest)
      (ends : AtLineEnd rest) (further : Replaced false rest result) :
      Replaced true text (line.quoted ++ result)
  | kept {atStart : Bool} {c : Char} {text result : List Char}
      (other : atStart = true → ¬ HasIdLine (c :: text))
      (further : Replaced (c == '\n') text result) : Replaced atStart (c :: text) (c :: result)

section Quoting

variable {line first rest second other : List Char}

/-- A text has one first line only. -/
theorem line_unique (one : '\n' ∉ first) (two : '\n' ∉ second) (ends : AtLineEnd rest)
    (also : AtLineEnd other) (same : first ++ rest = second ++ other) :
    first = second ∧ rest = other := by
  have divided {line rest : List Char} (whole : '\n' ∉ line) (ends : AtLineEnd rest) :
      (line ++ rest).takeWhile (· ≠ '\n') = line := by
    refine (Text.span_append (· ≠ '\n') (fun c member => ?_) fun c head => ?_).1
    · simpa using ne_of_mem_of_not_mem member whole
    · simpa using ends c head
  have lines : first = second := by
    rw [← divided one ends, ← divided two also, same]
  subst lines
  exact ⟨rfl, List.append_cancel_left same⟩

/-- On a single line, quoting is what it is for lines. -/
theorem quote_line (whole : '\n' ∉ line) : quote line = quoteLine line := by
  rw [quote, Text.splitAt_of_not_mem whole]
  rfl

/-- There is always a line to be quoted, if only an empty one. -/
theorem map_splitAt_ne_nil (text : List Char) : (Text.splitAt '\n' text).map quoteLine ≠ [] :=
  mt List.map_eq_nil_iff.mp (Text.splitAt_ne_nil '\n' text)

/-- The lines of a text are quoted one by one. -/
theorem quote_append (first second : List Char) :
    quote (first ++ '\n' :: second) = quote first ++ '\n' :: quote second := by
  rw [quote, Text.splitAt_append_cons, List.map_append,
    Text.join_append _ (map_splitAt_ne_nil first) (map_splitAt_ne_nil second), List.append_assoc]
  rfl

/-- Quoting again changes nothing. -/
theorem quote_quote (text : List Char) : quote (quote text) = quote text := by
  have lines : Text.splitAt '\n' (quote text) = (Text.splitAt '\n' text).map quoteLine := by
    refine Text.splitAt_join (map_splitAt_ne_nil text) ?_
    intro line member
    obtain ⟨plain, there, rfl⟩ := List.mem_map.mp member
    exact not_mem_quoteLine (Text.not_mem_splitAt there)
  rw [quote, lines, List.map_map, quote]
  congr 1
  apply List.map_congr_left
  intro line member
  exact quoteLine_quoteLine (Text.not_mem_splitAt member)

end Quoting

namespace Replaced

variable {atStart : Bool} {line text rest result other : List Char}

/-- From within a line on, the rest of the line is kept. -/
theorem pass (whole : '\n' ∉ line) (further : Replaced false rest result) :
    Replaced false (line ++ rest) (line ++ result) := by
  induction line with
  | nil => exact further
  | cons c line ih =>
      rw [List.mem_cons, not_or] at whole
      refine .kept nofun ?_
      rw [beq_eq_false_iff_ne.mpr (Ne.symm whole.1)]
      exact ih whole.2

/-- Where no id line begins, nothing is replaced there. -/
theorem atStart_of_not (noLine : ¬ HasIdLine text) (further : Replaced false text result) :
    Replaced true text result := by
  cases further with
  | done => exact .done true
  | kept _ further => exact .kept (fun _ => noLine) further

/-- What the pattern does at a line is what quoting does to it. -/
theorem ofLine (whole : '\n' ∉ line) (ends : AtLineEnd rest)
    (further : Replaced false rest result) :
    Replaced true (line ++ rest) (quoteLine line ++ result) := by
  rcases quoteLine_cases whole with ⟨idLine, rfl, quoted⟩ | ⟨other, kept⟩
  · rw [quoted]
    exact .quoted idLine rfl ends further
  · rw [kept]
    refine atStart_of_not ?_ (pass whole further)
    rintro ⟨idLine, following, same, also⟩
    exact other ⟨idLine, (line_unique whole idLine.not_mem_text ends also same).1.symm⟩

/-- What the pattern does to lines one after another is what quoting does to them. -/
theorem ofLines {lines : List (List Char)} (whole : ∀ line ∈ lines, '\n' ∉ line) :
    Replaced true (Text.join ['\n'] lines) (Text.join ['\n'] (lines.map quoteLine)) := by
  induction lines with
  | nil => exact .done true
  | cons line lines ih =>
      have here := whole line List.mem_cons_self
      by_cases last : lines = []
      · subst last
        have replaced := ofLine here (by simp [AtLineEnd]) (.done false)
        rw [List.append_nil, List.append_nil] at replaced
        exact replaced
      · have more : lines.map quoteLine ≠ [] := mt List.map_eq_nil_iff.mp last
        rw [List.map_cons, Text.join_cons _ _ last, Text.join_cons _ _ more, List.append_assoc,
          List.append_assoc]
        apply ofLine here
        · simp [AtLineEnd]
        · exact .kept nofun (ih fun line there => whole line (List.mem_cons_of_mem _ there))

/-- There is one way to replace all the lines. -/
theorem unique (one : Replaced atStart text result) (also : Replaced atStart text other) :
    result = other := by
  induction one generalizing other with
  | done atStart =>
      cases also with
      | done => rfl
      | quoted line found => exact absurd found.symm (by simp [IdLine.text, IdLine.before])
  | quoted line found ends further ih =>
      cases also with
      | done => exact absurd found.symm (by simp [IdLine.text, IdLine.before])
      | quoted second again also furtherOn =>
          obtain ⟨same, rfl⟩ := line_unique line.not_mem_text second.not_mem_text ends also
            (found.symm.trans again)
          rw [← line.quoteLine_text, ← second.quoteLine_text, same, ih furtherOn]
      | kept noLine => exact absurd ⟨line, _, found, ends⟩ (noLine rfl)
  | kept noLine further ih =>
      cases also with
      | quoted line found ends => exact absurd ⟨line, _, found, ends⟩ (noLine rfl)
      | kept _ furtherOn => rw [ih furtherOn]

end Replaced

/-- Replacing the lines all over a text is quoting it line by line. -/
theorem replaced_iff {text result : List Char} :
    Replaced true text result ↔ result = quote text := by
  have whole : ∀ line ∈ Text.splitAt '\n' text, '\n' ∉ line := fun _ => Text.not_mem_splitAt
  have lines := Replaced.ofLines whole
  rw [Text.join_splitAt] at lines
  constructor
  · exact fun replaced => replaced.unique lines
  · rintro rfl
    exact lines

/-- Quoting replaces the lines whose id is a number, all over a text. It treats the lines one by
one. A line changes just when its id is a number, and then it gets a quote on either side of the
number. Quoting once more changes nothing. -/
theorem quote_replaces_idLines :
    (∀ text result, Replaced true text result ↔ result = quote text) ∧
      (∀ first second, quote (first ++ '\n' :: second) = quote first ++ '\n' :: quote second) ∧
      (∀ line, '\n' ∉ line → (quote line ≠ line ↔ ∃ idLine : IdLine, idLine.text = line)) ∧
      (∀ idLine : IdLine, quote idLine.text = idLine.quoted) ∧
      ∀ text, quote (quote text) = quote text := by
  refine ⟨fun text result => replaced_iff, quote_append, ?lines, ?quoted, quote_quote⟩
  case lines =>
    intro line whole
    rw [quote_line whole]
    exact quoteLine_ne_iff whole
  case quoted =>
    intro idLine
    rw [quote_line idLine.not_mem_text, idLine.quoteLine_text]

theorem quote_replaces_idLines_item :
    let line := "  - id: 1.10 # old\r".toList
    '\n' ∉ line ∧ quote line ≠ line ∧ quote line = "  - id: \"1.10\" # old\r".toList := by
  intro line
  let item : IdLine :=
    { indent := [' ', ' '], dash := ['-', ' '], gap := [' '], groups := [['1'], ['1', '0']]
      margin := [' '], comment := "# old".toList, ending := ['\r']
      indentBlank := by simp [isGap]
      isDash := .inr ⟨[' '], rfl, by simp, by simp [isGap]⟩
      gapBlank := by simp [isGap]
      someGroup := by simp
      digits := by simp [Integer.isDigit]
      marginBlank := by simp [isGap]
      isComment := .inr ⟨" old".toList, rfl, by decide, by decide⟩
      isEnding := .inr rfl }
  have whole : '\n' ∉ line := by decide
  obtain ⟨-, -, changes, quoted, -⟩ := quote_replaces_idLines
  exact ⟨whole, (changes line whole).mpr ⟨item, rfl⟩, quoted item⟩

end HostAudit.NumericId
