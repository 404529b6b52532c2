import HostAudit.Proofs.FlagPattern
import HostAudit.Proofs.LookupFaults
import Mathlib.Computability.Language
import Mathlib.Data.List.TakeWhile

/-
This file says how a text is divided around a flag: at its first occurrence, into the separators
behind it, the value behind those, and the rest. Looking for a flag tells what stands in this
division, whatever characters the flag is made of, unless the flag is too large to look for. Spaces
at the end of the text do not matter.
-/

namespace HostAudit.Lookup

open scoped Computability

/-- What may stand between a flag and its value: equals signs, and colons with spaces after them.
As a pattern this is `(=|: *)*`. -/
def separators : Language Char := ({['=']} + {[':']} * {[' ']}∗)∗

section Separators

variable {word more text : List Char}

/-- A word of a language goes before a repetition of it. -/
theorem mem_kstar_append {language : Language Char} {first later : List Char}
    (begins : first ∈ language) (goes : later ∈ language∗) : first ++ later ∈ language∗ := by
  have within : language * language∗ ≤ language∗ := mul_kstar_le_kstar
  exact within (Language.append_mem_mul begins goes)

/-- What may be left of the separators, behind a colon and its first spaces or elsewhere. -/
def separatorsFrom (afterColon : Bool) : Language Char :=
  if afterColon then {[' ']}∗ * separators else separators

/-- Separators are separators behind a colon, too. -/
theorem mem_separatorsFrom (separates : word ∈ separators) (afterColon : Bool) :
    word ∈ separatorsFrom afterColon := by
  cases afterColon with
  | false => exact separates
  | true => exact Language.mem_mul.mpr ⟨[], Language.nil_mem_kstar _, word, separates, rfl⟩

/-- An equals sign may stand before separators. -/
theorem equals_mem_separators (separates : word ∈ separatorsFrom false) :
    '=' :: word ∈ separators := by
  have equals : ['='] ∈ ({['=']} + {[':']} * {[' ']}∗ : Language Char) := .inl rfl
  exact mem_kstar_append equals separates

/-- A colon may stand before separators that begin with spaces. -/
theorem colon_mem_separators (separates : word ∈ separatorsFrom true) :
    ':' :: word ∈ separators := by
  obtain ⟨spaces, inside, others, behind, rfl⟩ := Language.mem_mul.mp separates
  have colon : ':' :: spaces ∈ ({[':']} * {[' ']}∗ : Language Char) :=
    Language.mem_mul.mpr ⟨[':'], rfl, spaces, inside, rfl⟩
  have piece : ':' :: spaces ∈ ({['=']} + {[':']} * {[' ']}∗ : Language Char) := .inr colon
  rw [← List.cons_append]
  exact mem_kstar_append piece behind

/-- Behind a colon a space may stand before separators. -/
theorem space_mem_separatorsFrom (separates : word ∈ separatorsFrom true) :
    ' ' :: word ∈ separatorsFrom true := by
  obtain ⟨spaces, inside, others, behind, rfl⟩ := Language.mem_mul.mp separates
  have space : [' '] ∈ ({[' ']} : Language Char) := rfl
  have longer : ' ' :: spaces ∈ ({[' ']}∗ : Language Char) := mem_kstar_append space inside
  exact Language.mem_mul.mpr ⟨' ' :: spaces, longer, others, behind, rfl⟩

/-- What is dropped of a text are separators. -/
theorem exists_separator (afterColon : Bool) (text : List Char) :
    ∃ word ∈ separatorsFrom afterColon, text = word ++ dropSeparators afterColon text := by
  fun_induction dropSeparators afterColon text with
  | case1 afterColon rest ih =>
      obtain ⟨word, separates, split⟩ := ih
      exact ⟨'=' :: word, mem_separatorsFrom (equals_mem_separators separates) _,
        congrArg ('=' :: ·) split⟩
  | case2 afterColon rest ih =>
      obtain ⟨word, separates, split⟩ := ih
      exact ⟨':' :: word, mem_separatorsFrom (colon_mem_separators separates) _,
        congrArg (':' :: ·) split⟩
  | case3 rest ih =>
      obtain ⟨word, separates, split⟩ := ih
      exact ⟨' ' :: word, space_mem_separatorsFrom separates, congrArg (' ' :: ·) split⟩
  | case4 => exact ⟨[], mem_separatorsFrom (Language.nil_mem_kstar _) _, rfl⟩
  | case5 => exact ⟨[], mem_separatorsFrom (Language.nil_mem_kstar _) _, rfl⟩

/-- Behind a colon, spaces are dropped before all else. -/
theorem dropSeparators_spaces {spaces : List Char} (inside : spaces ∈ ({[' ']}∗ : Language Char))
    (more : List Char) : dropSeparators true (spaces ++ more) = dropSeparators true more := by
  obtain ⟨words, rfl, all⟩ := Language.mem_kstar.mp inside
  clear inside
  induction words with
  | nil => rfl
  | cons word words ih =>
      obtain ⟨space, others⟩ := List.forall_mem_cons.mp all
      rw [show word = [' '] from space]
      exact ih others

/-- All separators are dropped. -/
theorem dropSeparators_append_of_mem (separates : word ∈ separators) (afterColon : Bool)
    (more : List Char) :
    ∃ later, dropSeparators afterColon (word ++ more) = dropSeparators later more := by
  obtain ⟨words, rfl, all⟩ := Language.mem_kstar.mp separates
  clear separates
  induction words generalizing afterColon with
  | nil => exact ⟨afterColon, rfl⟩
  | cons word words ih =>
      obtain ⟨piece, others⟩ := List.forall_mem_cons.mp all
      rcases (Language.mem_add _ _ _).mp piece with equals | colon
      · rw [show word = ['='] from equals]
        exact ih false others
      · obtain ⟨_, rfl, spaces, inside, rfl⟩ := Language.mem_mul.mp colon
        obtain ⟨later, same⟩ := ih true others
        refine ⟨later, ?_⟩
        rw [← same, List.flatten_cons, List.append_assoc, List.append_assoc]
        exact dropSeparators_spaces inside _

/-- Dropping separators makes no text longer. -/
theorem length_dropSeparators_le (afterColon : Bool) (text : List Char) :
    (dropSeparators afterColon text).length ≤ text.length := by
  obtain ⟨word, -, split⟩ := exists_separator afterColon text
  have length := congrArg List.length split
  rw [List.length_append] at length
  omega

end Separators

section Spaces

variable {spaces : List Char}

/-- Spaces behind a text do not belong to its first word. -/
theorem takeWhile_append_spaces (all : ∀ c ∈ spaces, c = ' ') (text : List Char) :
    (text ++ spaces).takeWhile (!Text.isBlank ·) = text.takeWhile (!Text.isBlank ·) := by
  induction text with
  | nil =>
      cases spaces with
      | nil => rfl
      | cons c spaces =>
          rw [(List.forall_mem_cons.mp all).1]
          rfl
  | cons c text ih => rw [List.cons_append, List.takeWhile_cons, List.takeWhile_cons, ih]

/-- There is no word in spaces. -/
theorem takeWhile_dropSeparators_spaces (all : ∀ c ∈ spaces, c = ' ') (afterColon : Bool) :
    (dropSeparators afterColon spaces).takeWhile (!Text.isBlank ·) = [] := by
  induction spaces with
  | nil => simp [dropSeparators]
  | cons c spaces ih =>
      obtain ⟨rfl, others⟩ := List.forall_mem_cons.mp all
      cases afterColon with
      | true => exact ih others
      | false => rfl

/-- Spaces at the end of a text are dropped as separators or stand behind the value. -/
theorem dropSeparators_append_spaces (all : ∀ c ∈ spaces, c = ' ') (afterColon : Bool)
    (text : List Char) :
    (dropSeparators afterColon (text ++ spaces)).takeWhile (!Text.isBlank ·) =
      (dropSeparators afterColon text).takeWhile (!Text.isBlank ·) := by
  fun_induction dropSeparators afterColon text with
  | case1 afterColon rest ih => exact ih
  | case2 afterColon rest ih => exact ih
  | case3 rest ih => exact ih
  | case4 afterColon rest elsewhere =>
      rw [List.cons_append, dropSeparators, if_neg elsewhere]
      rfl
  | case5 afterColon text noEquals noColon noSpace =>
      cases text with
      | nil => exact takeWhile_dropSeparators_spaces all afterColon
      | cons c rest =>
          have notEquals : c ≠ '=' := fun same => noEquals rest (by rw [same])
          have notColon : c ≠ ':' := fun same => noColon rest (by rw [same])
          have notSpace : c ≠ ' ' := fun same => noSpace rest (by rw [same])
          rw [List.cons_append, dropSeparators_of_other notEquals notColon fun _ => notSpace,
            ← List.cons_append, takeWhile_append_spaces all]

/-- Spaces at the end of a text do not matter to a flag that does not end in a space. -/
theorem flag?_append_spaces {flag : List Char} (all : ∀ c ∈ spaces, c = ' ')
    (solid : flag.getLast? ≠ some ' ') (text : List Char) :
    flag? (text ++ spaces) flag = flag? text flag := by
  by_cases named : flag = []
  · simp [flag?, named]
  · have inside : ∀ c ∈ flag.getLast?, c ∉ spaces :=
      fun c last member => solid (by rw [← all c member]; exact last)
    rw [flag?, flag?, Text.breakOn_append_of_last named inside]
    cases Text.breakOn flag text with
    | none => rfl
    | some cut =>
        have same : flagValue flag (cut.2 ++ spaces) = flagValue flag cut.2 := by
          simp only [flagValue, dropSeparators_append_spaces all]
        simp [same]

end Spaces

/-- A text, divided around the first occurrence of a flag. Behind the flag stand separators, as many
as there are, and then a value, up to the next blank. -/
structure Division (text flag : List Char) where
  before : List Char
  separator : List Char
  value : List Char
  rest : List Char
  named : flag ≠ []
  whole : text = before ++ flag ++ (separator ++ (value ++ rest))
  first : ∀ front back, text = front ++ flag ++ back → before.length ≤ front.length
  separates : separator ∈ separators
  widest : ∀ other ∈ separators, other <+: separator ++ (value ++ rest) →
    other.length ≤ separator.length
  solid : ∀ c ∈ value, Text.isBlank c = false
  longest : ∀ other, other <+: value ++ rest → (∀ c ∈ other, Text.isBlank c = false) →
    other.length ≤ value.length

namespace Division

variable {text flag : List Char}

/-- What a division tells of the flag: its value, if it is not empty. A flag without a value is
switched on if two hyphens begin it, and else it stands for itself. -/
def shown (division : Division text flag) : List Char :=
  if division.value ≠ [] then division.value
  else if ['-', '-'] <+: flag then "true".toList
  else flag

/-- The separators of a division are dropped, and nothing of its value. -/
theorem dropSeparators_eq (division : Division text flag) :
    dropSeparators false (division.separator ++ (division.value ++ division.rest)) =
      division.value ++ division.rest := by
  obtain ⟨word, separates, split⟩ :=
    exists_separator false (division.separator ++ (division.value ++ division.rest))
  -- The separators that are dropped are no less than the widest ones, and no more either.
  have notWider := division.widest word separates ⟨_, split.symm⟩
  have notNarrower : (dropSeparators false
      (division.separator ++ (division.value ++ division.rest))).length ≤
        (division.value ++ division.rest).length := by
    obtain ⟨later, same⟩ := dropSeparators_append_of_mem division.separates false
      (division.value ++ division.rest)
    rw [same]
    exact length_dropSeparators_le later _
  have length := congrArg List.length split
  simp only [List.length_append] at length notNarrower
  exact (List.append_inj split (by omega)).2.symm

/-- The value of a division goes as far as there are no blanks. -/
theorem takeWhile_eq (division : Division text flag) :
    (division.value ++ division.rest).takeWhile (!Text.isBlank ·) = division.value := by
  have more := division.longest (division.value ++ division.rest.takeWhile (!Text.isBlank ·))
    ((List.prefix_append_right_inj _).mpr (List.takeWhile_prefix _)) fun c member => by
      rcases List.mem_append.mp member with inside | behind
      · exact division.solid c inside
      · simpa using List.mem_takeWhile_imp behind
  rw [List.length_append] at more
  have stops : division.rest.takeWhile (!Text.isBlank ·) = [] :=
    List.length_eq_zero_iff.mp (by omega)
  rw [List.takeWhile_append_of_pos (by simpa using division.solid), stops, List.append_nil]

/-- What a flag is read as is what the division shows. -/
theorem flagValue_eq (division : Division text flag) :
    flagValue flag (division.separator ++ (division.value ++ division.rest)) = division.shown := by
  have hyphens : (Text.after? ['-', '-'] flag).isSome = true ↔ ['-', '-'] <+: flag := by
    simp only [Option.isSome_iff_exists, Text.after?_eq_some_iff, List.IsPrefix]
    exact exists_congr fun rest => eq_comm
  rw [flagValue, dropSeparators_eq, takeWhile_eq, shown]
  simp only [hyphens, List.isEmpty_eq_false_iff, Bool.not_eq_true']
  rfl

/-- A division parts a text at the first place of the flag. -/
theorem breakOn_eq (division : Division text flag) :
    Text.breakOn flag text =
      some (division.before, division.separator ++ (division.value ++ division.rest)) :=
  Text.breakOn_eq_some_iff.mpr ⟨division.whole, division.first⟩

/-- What is read of a flag is what its division shows. -/
theorem flag?_eq (division : Division text flag) : flag? text flag = some division.shown := by
  rw [flag?, division.breakOn_eq]
  simp [division.named, flagValue_eq]

/-- The groups of the pattern that a flag is looked for with take the parts of the division. -/
theorem firstMatch_eq (division : Division text flag) :
    Expression.firstMatch (Expression.ofFlag flag) text =
      some (division.before, [flag, division.separator, division.value,
        division.rest.takeWhile (· == ' ')], division.rest.dropWhile (· == ' ')) := by
  have behind := List.takeWhile_append_dropWhile (p := (!Text.isBlank ·))
    (l := division.value ++ division.rest)
  rw [takeWhile_eq] at behind
  rw [Expression.firstMatch_ofFlag division.breakOn_eq division.dropSeparators_eq, takeWhile_eq,
    List.append_cancel_left behind]

/-- A text is divided around every flag that it holds. -/
theorem nonempty_iff : Nonempty (Division text flag) ↔ flag ≠ [] ∧ flag <:+: text := by
  constructor
  · rintro ⟨division⟩
    exact ⟨division.named, _, _, division.whole.symm⟩
  · rintro ⟨named, occurs⟩
    obtain ⟨⟨before, tail⟩, cut⟩ : ∃ cut, Text.breakOn flag text = some cut := by
      rw [← Option.ne_none_iff_exists']
      exact fun missing => Text.breakOn_eq_none_iff.mp missing occurs
    obtain ⟨whole, first⟩ := Text.breakOn_eq_some_iff.mp cut
    obtain ⟨separator, separates, split⟩ := exists_separator false tail
    have behind := List.takeWhile_append_dropWhile (p := (!Text.isBlank ·))
      (l := dropSeparators false tail)
    refine ⟨{
      before, separator, named, first, separates
      value := (dropSeparators false tail).takeWhile (!Text.isBlank ·)
      rest := (dropSeparators false tail).dropWhile (!Text.isBlank ·)
      whole := by rwa [behind, ← split]
      widest := ?widest
      solid := fun c member => by simpa using List.mem_takeWhile_imp member
      longest := ?longest }⟩
    case widest =>
      rintro other others ⟨more, same⟩
      obtain ⟨later, dropped⟩ := dropSeparators_append_of_mem others false more
      rw [behind, ← split] at same
      have shorter := length_dropSeparators_le later more
      rw [← dropped, same] at shorter
      have length := congrArg List.length (same.trans split)
      rw [List.length_append, List.length_append] at length
      omega
    case longest =>
      rintro other ⟨more, same⟩ solid
      rw [behind] at same
      rw [← same, List.takeWhile_append_of_pos (by simpa using solid), List.length_append]
      omega

end Division

/-- A flag is looked for as it is written, whatever characters it is made of. It is not found
exactly if there is nothing to look for or to look through, or if it does not occur. Else the text
is divided around it, just as the pattern that stands for the flag divides it, and what the division
tells is found, unless the flag is too large to look for. -/
theorem find_flag_divides (text flag : String) :
    (Lookup.flag.find text flag = .ok none ↔
      text = "" ∨ flag = "" ∨ ¬ flag.toList <:+: text.toList) ∧
    (Nonempty (Division text.toList flag.toList) ↔
      text ≠ "" ∧ flag ≠ "" ∧ flag.toList <:+: text.toList) ∧
    ∀ division : Division text.toList flag.toList,
      (∃ spaces left, Expression.firstMatch (Expression.ofFlag flag.toList) text.toList =
        some (division.before, [flag.toList, division.separator, division.value, spaces], left)) ∧
      Lookup.flag.find text flag =
        if fits flagRoom flag then .ok (some (String.ofList division.shown))
        else .error (.oversized flag) := by
  have found (division : Division text.toList flag.toList) : Lookup.flag.find text flag =
      if fits flagRoom flag then .ok (some (String.ofList division.shown))
      else .error (.oversized flag) := by
    rw [find, division.flag?_eq]
    rfl
  have divides : Nonempty (Division text.toList flag.toList) ↔
      text ≠ "" ∧ flag ≠ "" ∧ flag.toList <:+: text.toList := by
    rw [Division.nonempty_iff, Ne, String.toList_eq_nil_iff]
    constructor
    · rintro ⟨named, occurs⟩
      refine ⟨?_, named, occurs⟩
      rintro rfl
      exact named (by simpa using occurs)
    · exact And.right
  refine ⟨?missing, divides, fun division => ⟨⟨_, _, division.firstMatch_eq⟩, found division⟩⟩
  case missing =>
    by_cases divided : Nonempty (Division text.toList flag.toList)
    · obtain ⟨filled, named, occurs⟩ := divides.mp divided
      obtain ⟨division⟩ := divided
      rw [found division]
      split <;> simp [filled, named, occurs]
    · have absent := mt divides.mpr divided
      have missed : flag? text.toList flag.toList = none := by
        rw [flag?]
        split
        · rfl
        · rename_i named
          rw [Option.map_eq_none_iff, Text.breakOn_eq_none_iff]
          exact fun occurs => divided (Division.nonempty_iff.mpr ⟨by simpa using named, occurs⟩)
      rw [find, missed]
      tauto

/-- A flag that is too large is not found where it occurs. -/
theorem long_flag_fails :
    nameOf 524288 ≠ "" ∧ (nameOf 524288).toList <:+: (nameOf 524288).toList ∧
    Lookup.flag.find (nameOf 524288) (nameOf 524288) = .error (.oversized (nameOf 524288)) := by
  have named : nameOf 524288 ≠ "" := nameOf_ne_empty (by decide)
  obtain ⟨division⟩ : Nonempty (Division (nameOf 524288).toList (nameOf 524288).toList) :=
    Division.nonempty_iff.mpr ⟨by simpa using named, List.infix_rfl⟩
  refine ⟨named, List.infix_rfl, find_flag_eq_error.mpr ⟨?_, ?_, rfl⟩⟩
  · rw [division.flag?_eq]
    rfl
  · exact (fits_nameOf _ _).trans (by decide)

end HostAudit.Lookup
