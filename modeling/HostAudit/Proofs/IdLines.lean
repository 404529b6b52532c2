import HostAudit.Catalog.NumericId
import HostAudit.Proofs.Numerals
import HostAudit.Proofs.Pieces
import Mathlib.Data.List.TakeWhile

/-
This file says which lines have an id that is a number, and proves that these are the lines that are
divided at it, that quotes are put around the number in each, and that other lines are left alone.
-/

namespace HostAudit.NumericId

open Integer (isDigit isDigit_ne)

/-- Nothing, or the mark of a list item with blanks after it. -/
def IsDash (text : List Char) : Prop :=
  text = [] ∨ ∃ blanks, text = '-' :: blanks ∧ blanks ≠ [] ∧ ∀ c ∈ blanks, isGap c = true

/-- Nothing, or a comment up to the end of its line. -/
def IsComment (text : List Char) : Prop :=
  text = [] ∨ ∃ words, text = '#' :: words ∧ '\r' ∉ words ∧ '\n' ∉ words

/-- A line whose id is a number: blanks, maybe the mark of a list item, the key and the number, and
behind it blanks, maybe a comment, and maybe a carriage return. -/
structure IdLine where
  indent : List Char
  dash : List Char
  gap : List Char
  groups : List (List Char)
  margin : List Char
  comment : List Char
  ending : List Char
  indentBlank : ∀ c ∈ indent, isGap c = true
  isDash : IsDash dash
  gapBlank : ∀ c ∈ gap, isGap c = true
  someGroup : groups ≠ []
  digits : ∀ group ∈ groups, group ≠ [] ∧ ∀ c ∈ group, isDigit c = true
  marginBlank : ∀ c ∈ margin, isGap c = true
  isComment : IsComment comment
  isEnding : ending = [] ∨ ending = ['\r']

namespace IdLine

/-- The text before the number. -/
def before (line : IdLine) : List Char := line.indent ++ line.dash ++ ['i', 'd', ':'] ++ line.gap

def number (line : IdLine) : List Char := Text.join ['.'] line.groups

/-- The text after the number. -/
def after (line : IdLine) : List Char := line.margin ++ line.comment ++ line.ending

def text (line : IdLine) : List Char := line.before ++ (line.number ++ line.after)

/-- The line with quotes around its number. -/
def quoted (line : IdLine) : List Char := line.before ++ '"' :: line.number ++ '"' :: line.after

end IdLine

section Parts

variable {first rest : List Char}

/-- A gap is taken up to the first character that is not blank. -/
theorem takeGap_of_head? (blank : ∀ c ∈ first, isGap c = true)
    (stops : ∀ c ∈ rest.head?, isGap c = false) : takeGap (first ++ rest) = (first, rest) := by
  obtain ⟨taken, left⟩ := Text.span_append isGap blank stops
  rw [takeGap, taken, left]

/-- A gap does not go over the end of its line. -/
theorem gap_ne_break {c : Char} (blank : isGap c = true) : c ≠ '\n' := by
  rintro rfl
  cases blank

/-- Digits do not belong to gaps. -/
theorem isGap_of_isDigit {c : Char} (digit : isDigit c = true) : isGap c = false := by
  rw [isGap, Bool.or_eq_false_iff, beq_eq_false_iff_ne, beq_eq_false_iff_ne]
  exact ⟨isDigit_ne digit rfl, isDigit_ne digit rfl⟩

end Parts

section Numbers

/-- A number is groups of digits with points between them. -/
theorem isNumber_iff {number : List Char} :
    isNumber number = true ↔ ∃ groups, groups ≠ [] ∧
      (∀ group ∈ groups, group ≠ [] ∧ ∀ c ∈ group, isDigit c = true) ∧
        Text.join ['.'] groups = number := by
  have unfolded : isNumber number = true ↔ ∀ group ∈ Text.splitAt '.' number,
      group ≠ [] ∧ ∀ c ∈ group, isDigit c = true := by
    simp [isNumber, List.all_eq_true]
  rw [unfolded]
  constructor
  · intro digits
    exact ⟨_, Text.splitAt_ne_nil '.' number, digits, Text.join_splitAt '.' number⟩
  · rintro ⟨groups, nonempty, digits, rfl⟩
    have whole : ∀ group ∈ groups, '.' ∉ group := by
      intro group member point
      exact isDigit_ne ((digits group member).2 _ point) rfl rfl
    rw [Text.splitAt_join nonempty whole]
    exact digits

namespace IdLine

variable (line : IdLine)

/-- The number of an id line is a number. -/
theorem isNumber_number : isNumber line.number = true :=
  isNumber_iff.mpr ⟨line.groups, line.someGroup, line.digits, rfl⟩

/-- A number has digits and a dot. -/
theorem mem_number {c : Char} (member : c ∈ line.number) : c = '.' ∨ isDigit c = true := by
  refine (Text.mem_join member).imp List.mem_singleton.mp ?_
  rintro ⟨group, there, inside⟩
  exact (line.digits group there).2 c inside

/-- The characters of a number are numerals. -/
theorem isNumeral_number {c : Char} (member : c ∈ line.number) : isNumeral c = true := by
  rw [isNumeral, Bool.or_eq_true, beq_iff_eq]
  exact (line.mem_number member).symm

/-- The number begins with a digit. -/
theorem isDigit_head {c : Char} {rest : List Char}
    (head : c ∈ (line.number ++ rest).head?) : isDigit c = true := by
  obtain ⟨group, groups, given⟩ := List.exists_cons_of_ne_nil line.someGroup
  obtain ⟨nonempty, digits⟩ := line.digits group (given ▸ List.mem_cons_self)
  obtain ⟨first, others, written⟩ := List.exists_cons_of_ne_nil nonempty
  have begins : ∃ more, line.number = first :: more := by
    rw [number, given, written]
    cases groups with
    | nil => exact ⟨others, rfl⟩
    | cons next groups => exact ⟨_, rfl⟩
  obtain ⟨more, begins⟩ := begins
  rw [begins, List.cons_append, List.head?_cons, Option.mem_some_iff] at head
  rw [← head]
  exact digits first (written ▸ List.mem_cons_self)

end IdLine

end Numbers

section Endings

/-- Only the carriage return is left behind a comment. -/
theorem dropWhile_comment {words ending : List Char} (whole : '\r' ∉ words)
    (isEnding : ending = [] ∨ ending = ['\r']) :
    ('#' :: (words ++ ending)).dropWhile (· ≠ '\r') = ending := by
  have all : ∀ c ∈ words, decide (c ≠ '\r') = true := by
    intro c member
    simpa using ne_of_mem_of_not_mem member whole
  have stops : ∀ c ∈ ending.head?, decide (c ≠ '\r') = false := by
    intro c head
    obtain rfl | rfl := isEnding
    · cases head
    · cases head
      rfl
  exact (Text.span_append (· ≠ '\r') all stops).2

/-- Behind the blanks after a number stands the mark of a comment or a carriage return. -/
theorem IdLine.head_comment (line : IdLine) {c : Char}
    (head : c ∈ (line.comment ++ line.ending).head?) : c = '#' ∨ c = '\r' := by
  rcases line.isComment with none | ⟨words, comment, -⟩
  · rw [none, List.nil_append] at head
    rcases line.isEnding with ending | ending
    · rw [ending] at head
      cases head
    · rw [ending] at head
      cases head
      exact .inr rfl
  · rw [comment] at head
    cases head
    exact .inl rfl

/-- Behind its number, an id line ends but for blanks and a comment. -/
theorem IdLine.endsLine_after (line : IdLine) : endsLine line.after = true := by
  have stops : ∀ c ∈ (line.comment ++ line.ending).head?, isGap c = false := by
    intro c head
    obtain rfl | rfl := line.head_comment head
    · rfl
    · rfl
  rw [endsLine, after, List.append_assoc, (Text.span_append isGap line.marginBlank stops).2]
  rcases line.isComment with none | ⟨words, comment, noReturn, -⟩
  · rcases line.isEnding with ending | ending
    · rw [none, ending]
      rfl
    · rw [none, ending]
      rfl
  · have last := dropWhile_comment noReturn line.isEnding
    simp only [comment, List.cons_append, List.head?_cons, if_true, last, Bool.or_eq_true,
      List.isEmpty_iff, beq_iff_eq]
    exact line.isEnding

/-- The number ends where it does in the line. -/
theorem IdLine.head_after (line : IdLine) {c : Char} (head : c ∈ line.after.head?) :
    isNumeral c = false := by
  rw [after, List.append_assoc] at head
  cases given : line.margin with
  | nil =>
      rw [given, List.nil_append] at head
      obtain rfl | rfl := line.head_comment head
      · rfl
      · rfl
  | cons blank margin =>
      have gap := line.marginBlank blank (given ▸ List.mem_cons_self)
      rw [given] at head
      cases head
      rw [isGap, Bool.or_eq_true, beq_iff_eq, beq_iff_eq] at gap
      obtain rfl | rfl := gap
      · rfl
      · rfl

/-- What may follow a number is blanks, a comment and a carriage return. -/
theorem exists_ending {after : List Char} (whole : '\n' ∉ after) (ends : endsLine after = true) :
    ∃ margin comment ending, after = margin ++ comment ++ ending ∧
      (∀ c ∈ margin, isGap c = true) ∧ IsComment comment ∧ (ending = [] ∨ ending = ['\r']) := by
  have margin : ∀ c ∈ after.takeWhile isGap, isGap c = true :=
    fun c member => List.mem_takeWhile_imp member
  have parts : after.takeWhile isGap ++ after.dropWhile isGap = after :=
    List.takeWhile_append_dropWhile
  rw [endsLine] at ends
  generalize after.dropWhile isGap = rest at ends parts
  by_cases mark : rest.head? = some '#'
  · obtain ⟨words, rfl⟩ := List.head?_eq_some_iff.mp mark
    simp only [List.head?_cons, if_true, Bool.or_eq_true, List.isEmpty_iff, beq_iff_eq] at ends
    have divided := List.takeWhile_append_dropWhile (p := (· ≠ '\r')) (l := '#' :: words)
    have within : ∀ c ∈ words.takeWhile (· ≠ '\r'), c ≠ '\r' ∧ c ∈ after := by
      intro c member
      have there : c ∈ words := (List.takeWhile_sublist _).subset member
      rw [← parts]
      exact ⟨by simpa using List.mem_takeWhile_imp member,
        List.mem_append_right _ (List.mem_cons_of_mem _ there)⟩
    refine ⟨_, '#' :: words.takeWhile (· ≠ '\r'), _, ?_, margin, .inr ⟨_, rfl, ?_, ?_⟩, ends⟩
    · rw [List.append_assoc]
      exact parts.symm.trans (congrArg _ divided.symm)
    · exact fun member => (within _ member).1 rfl
    · exact fun member => whole (within _ member).2
  · simp only [mark, if_false, Bool.or_eq_true, List.isEmpty_iff, beq_iff_eq] at ends
    exact ⟨_, [], rest, by rw [List.append_nil, parts], margin, .inl rfl, ends⟩

end Endings

section Dividing

variable {text : List Char}

/-- Taking a gap parts a text. -/
theorem takeGap_append (text : List Char) : (takeGap text).1 ++ (takeGap text).2 = text :=
  List.takeWhile_append_dropWhile

/-- What is taken as a gap is blank. -/
theorem isGap_of_mem_takeGap {c : Char} (member : c ∈ (takeGap text).1) : isGap c = true :=
  List.mem_takeWhile_imp member

/-- Taking a dash parts a text. -/
theorem takeDash_append (text : List Char) : (takeDash text).1 ++ (takeDash text).2 = text := by
  unfold takeDash
  split
  · rename_i rest
    split
    · rfl
    · rename_i divided
      cases divided
      exact congrArg ('-' :: ·) (takeGap_append rest)
  · rfl

/-- What is taken as a dash is a dash with a gap, or nothing. -/
theorem isDash_takeDash (text : List Char) : IsDash (takeDash text).1 := by
  unfold takeDash
  split
  · split
    · exact .inl rfl
    · rename_i nonempty divided
      cases divided
      exact .inr ⟨_, rfl, nonempty, fun c => isGap_of_mem_takeGap⟩
  · exact .inl rfl

/-- A dash is taken with the gap behind it, up to another character. -/
theorem takeDash_of_isDash {dash rest : List Char} (isDash : IsDash dash)
    (dashless : ∀ c ∈ rest.head?, isGap c = false ∧ c ≠ '-') :
    takeDash (dash ++ rest) = (dash, rest) := by
  rcases isDash with rfl | ⟨blanks, rfl, nonempty, blank⟩
  · cases rest with
    | nil => rfl
    | cons c rest =>
        have other := (dashless c rfl).2
        rw [List.nil_append, takeDash]
        intro more same
        exact other (List.cons.inj same).1
  · obtain ⟨c, others, rfl⟩ := List.exists_cons_of_ne_nil nonempty
    have taken := takeGap_of_head? blank fun c head => (dashless c head).1
    rw [List.cons_append, takeDash, taken]

/-- A text that begins like a line with an id is divided behind the blanks. -/
theorem IdLine.divide?_before (line : IdLine) (rest : List Char)
    (stops : ∀ c ∈ rest.head?, isGap c = false) :
    divide? (line.before ++ rest) =
      if isNumber (rest.takeWhile isNumeral) && endsLine (rest.dropWhile isNumeral) then
        some (line.before, rest.takeWhile isNumeral, rest.dropWhile isNumeral)
      else none := by
  have key : line.before ++ rest =
      line.indent ++ (line.dash ++ (['i', 'd', ':'] ++ (line.gap ++ rest))) := by
    simp [before]
  have indent : takeGap (line.before ++ rest) =
      (line.indent, line.dash ++ (['i', 'd', ':'] ++ (line.gap ++ rest))) := by
    rw [key]
    refine takeGap_of_head? line.indentBlank ?_
    intro c head
    rcases line.isDash with none | ⟨blanks, dash, -⟩
    · rw [none] at head
      cases head
      rfl
    · rw [dash] at head
      cases head
      rfl
  have dash : takeDash (line.dash ++ (['i', 'd', ':'] ++ (line.gap ++ rest))) =
      (line.dash, ['i', 'd', ':'] ++ (line.gap ++ rest)) := by
    refine takeDash_of_isDash line.isDash ?_
    intro c head
    cases head
    exact ⟨rfl, by decide⟩
  have found : Text.after? ['i', 'd', ':'] (['i', 'd', ':'] ++ (line.gap ++ rest)) =
      some (line.gap ++ rest) := Text.after?_eq_some_iff.mpr rfl
  have gap := takeGap_of_head? line.gapBlank stops
  simp only [divide?, indent, dash, found, gap, Option.bind_eq_bind, Option.bind_some]
  rfl

/-- An id line is divided before and behind its number. -/
theorem IdLine.divide?_text (line : IdLine) :
    divide? line.text = some (line.before, line.number, line.after) := by
  have stops : ∀ c ∈ (line.number ++ line.after).head?, isGap c = false :=
    fun c head => isGap_of_isDigit (line.isDigit_head head)
  obtain ⟨taken, left⟩ := Text.span_append isNumeral (fun c => line.isNumeral_number)
    fun c => line.head_after
  rw [text, line.divide?_before _ stops, taken, left, line.isNumber_number, line.endsLine_after]
  rfl

/-- With quotes, the number is none. -/
theorem IdLine.divide?_quoted (line : IdLine) : divide? line.quoted = none := by
  have stops : ∀ c ∈ ('"' :: (line.number ++ '"' :: line.after)).head?, isGap c = false := by
    intro c head
    cases head
    rfl
  rw [quoted, List.append_assoc, List.cons_append, line.divide?_before _ stops]
  rfl

/-- What a line is divided into. -/
theorem divide?_parts {before number after : List Char}
    (divided : divide? text = some (before, number, after)) :
    ∃ indent dash gap, before = indent ++ dash ++ ['i', 'd', ':'] ++ gap ∧
      (∀ c ∈ indent, isGap c = true) ∧ IsDash dash ∧ (∀ c ∈ gap, isGap c = true) ∧
      text = before ++ (number ++ after) ∧ isNumber number = true ∧
      (∀ c ∈ number, isNumeral c = true) ∧ endsLine after = true := by
  simp only [divide?, Option.bind_eq_bind, Option.bind_eq_some_iff] at divided
  obtain ⟨rest, found, divided⟩ := divided
  rw [Text.after?_eq_some_iff] at found
  split at divided
  · rename_i valid
    rw [Bool.and_eq_true] at valid
    cases divided
    refine ⟨_, _, _, rfl, fun c => isGap_of_mem_takeGap, isDash_takeDash _,
      fun c => isGap_of_mem_takeGap, ?_, valid.1, fun c => List.mem_takeWhile_imp, valid.2⟩
    rw [List.takeWhile_append_dropWhile, List.append_assoc, takeGap_append, List.append_assoc,
      ← found, List.append_assoc, takeDash_append, takeGap_append]
  · cases divided

/-- Only id lines are divided. -/
theorem exists_idLine {before number after : List Char} (whole : '\n' ∉ text)
    (divided : divide? text = some (before, number, after)) :
    ∃ line : IdLine, line.text = text := by
  obtain ⟨indent, dash, gap, rfl, indentBlank, isDash, gapBlank, rfl, isNumber, -, ends⟩ :=
    divide?_parts divided
  obtain ⟨groups, someGroup, digits, rfl⟩ := isNumber_iff.mp isNumber
  have within : '\n' ∉ after :=
    fun member => whole (List.mem_append_right _ (List.mem_append_right _ member))
  obtain ⟨margin, comment, ending, rfl, marginBlank, isComment, isEnding⟩ :=
    exists_ending within ends
  exact ⟨⟨indent, dash, gap, groups, margin, comment, ending, indentBlank, isDash, gapBlank,
    someGroup, digits, marginBlank, isComment, isEnding⟩, rfl⟩

/-- A line is divided just when its id is a number. -/
theorem divide?_isSome_iff (whole : '\n' ∉ text) :
    (divide? text).isSome = true ↔ ∃ line : IdLine, line.text = text := by
  constructor
  · intro some
    obtain ⟨⟨before, number, after⟩, divided⟩ := Option.isSome_iff_exists.mp some
    exact exists_idLine whole divided
  · rintro ⟨line, rfl⟩
    rw [line.divide?_text]
    rfl

end Dividing

section Lines

variable {line : List Char}

namespace IdLine

/-- There is no line break before the number of an id line. -/
theorem not_mem_before (line : IdLine) : '\n' ∉ line.before := by
  have noGap {blanks : List Char} (blank : ∀ c ∈ blanks, isGap c = true) : '\n' ∉ blanks :=
    fun member => gap_ne_break (blank _ member) rfl
  have dash : '\n' ∉ line.dash := by
    rcases line.isDash with none | ⟨blanks, dash, -, blank⟩
    · simp [none]
    · simp [dash, noGap blank]
  simp [before, noGap line.indentBlank, dash, noGap line.gapBlank]

/-- There is no line break in its number. -/
theorem not_mem_number (line : IdLine) : '\n' ∉ line.number := by
  intro member
  rcases line.mem_number member with point | digit
  · cases point
  · cases digit

/-- There is no line break behind its number. -/
theorem not_mem_after (line : IdLine) : '\n' ∉ line.after := by
  have margin : '\n' ∉ line.margin := fun member => gap_ne_break (line.marginBlank _ member) rfl
  have comment : '\n' ∉ line.comment := by
    rcases line.isComment with none | ⟨words, comment, -, noBreak⟩
    · simp [none]
    · simp [comment, noBreak]
  have ending : '\n' ∉ line.ending := by
    rcases line.isEnding with ending | ending <;> simp [ending]
  simp [after, margin, comment, ending]

/-- An id line is a single line. -/
theorem not_mem_text (line : IdLine) : '\n' ∉ line.text := by
  simp [text, line.not_mem_before, line.not_mem_number, line.not_mem_after]

/-- An id line with its number between quotes is a single line. -/
theorem not_mem_quoted (line : IdLine) : '\n' ∉ line.quoted := by
  simp [quoted, line.not_mem_before, line.not_mem_number, line.not_mem_after]

/-- The number of an id line is put between quotes. -/
theorem quoteLine_text (line : IdLine) : quoteLine line.text = line.quoted := by
  rw [quoteLine, line.divide?_text]
  rfl

/-- A number between quotes is left as it is. -/
theorem quoteLine_quoted (line : IdLine) : quoteLine line.quoted = line.quoted := by
  rw [quoteLine, line.divide?_quoted]

/-- The quotes make a difference. -/
theorem quoted_ne_text (line : IdLine) : line.quoted ≠ line.text := by
  intro same
  have sizes := congrArg List.length same
  simp only [quoted, text, List.length_append, List.length_cons] at sizes
  omega

end IdLine

/-- A line either has an id that is a number, and is quoted, or stays as it is. -/
theorem quoteLine_cases (whole : '\n' ∉ line) :
    (∃ idLine : IdLine, idLine.text = line ∧ quoteLine line = idLine.quoted) ∨
      (¬ ∃ idLine : IdLine, idLine.text = line) ∧ quoteLine line = line := by
  rw [← divide?_isSome_iff whole]
  cases divided : divide? line with
  | none => exact .inr ⟨by simp, by rw [quoteLine, divided]⟩
  | some parts =>
      obtain ⟨idLine, rfl⟩ := (divide?_isSome_iff whole).mp (Option.isSome_of_eq_some divided)
      exact .inl ⟨idLine, rfl, idLine.quoteLine_text⟩

/-- A line is changed exactly if it is an id line. -/
theorem quoteLine_ne_iff (whole : '\n' ∉ line) :
    quoteLine line ≠ line ↔ ∃ idLine : IdLine, idLine.text = line := by
  rcases quoteLine_cases whole with ⟨idLine, rfl, quoted⟩ | ⟨other, kept⟩
  · rw [quoted]
    exact ⟨fun _ => ⟨idLine, rfl⟩, fun _ => idLine.quoted_ne_text⟩
  · exact ⟨fun changed => absurd kept changed, fun found => absurd found other⟩

/-- Quoting a line again changes nothing. -/
theorem quoteLine_quoteLine (whole : '\n' ∉ line) :
    quoteLine (quoteLine line) = quoteLine line := by
  rcases quoteLine_cases whole with ⟨idLine, -, quoted⟩ | ⟨-, kept⟩
  · rw [quoted, idLine.quoteLine_quoted]
  · rw [kept, kept]

/-- A line stays a single line when it is quoted. -/
theorem not_mem_quoteLine (whole : '\n' ∉ line) : '\n' ∉ quoteLine line := by
  rcases quoteLine_cases whole with ⟨idLine, -, quoted⟩ | ⟨-, kept⟩
  · rw [quoted]
    exact idLine.not_mem_quoted
  · rw [kept]
    exact whole

end Lines

end HostAudit.NumericId
