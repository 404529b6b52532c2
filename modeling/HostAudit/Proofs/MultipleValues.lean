import HostAudit.Proofs.FlagReading
import HostAudit.Proofs.Pieces
import Mathlib.Data.List.DropRight

/-
This file compares testing an item line by line with testing it on each line alone. The item is
matched exactly if its condition holds of every line as the line stands in the output. A line alone
is tested without the spaces at its end, which tell nothing of a flag but may belong to the value of
a variable.
-/

namespace HostAudit

/-- A text ends in a space. -/
def EndsInSpace (text : String) : Prop := text.toList.getLast? = some ' '

instance (text : String) : Decidable (EndsInSpace text) := inferInstanceAs (Decidable (_ = _))

namespace TestItem

variable {item : TestItem} {source : Source} {text output : String} {outcome : TestOutcome}

/-- An item is matched on a text that is tested alone, as a single value. -/
def MatchedAlone (item : TestItem) (source : Source) (text : String) : Prop :=
  ∃ outcome, item.evaluate source false text = .ok outcome ∧ outcome.matched = true

/-- A value that is there has been found. -/
theorem find_of_value? {value : String} (given : value ∈ item.value? source text) :
    (item.lookup source).find text (item.locator source) = .ok (some value) := by
  rw [value?] at given
  cases looked : (item.lookup source).find text (item.locator source) with
  | error fault => simp [looked, Except.toOption] at given
  | ok found =>
      rw [looked] at given
      exact congrArg Except.ok given

/-- What is found for the locator determines the outcome for a text. -/
theorem evaluateLine_of_find {found : Option String}
    (looked : (item.lookup source).find text (item.locator source) = .ok found) :
    item.evaluateLine source text = .ok ⟨(item.judge (item.locator source) found).2, found.isSome,
      "", (item.judge (item.locator source) found).1⟩ := by
  simp [evaluateLine, looked]

/-- Where the condition of an item holds, testing gives an outcome, and the item is matched. -/
theorem Holds.answered (holds : item.Holds source text) :
    ∃ outcome, item.evaluateLine source text = .ok outcome ∧ outcome.matched = true := by
  obtain ⟨found, looked⟩ :
      ∃ found, (item.lookup source).find text (item.locator source) = .ok found := by
    rw [Holds] at holds
    split at holds
    · obtain ⟨value, found, -⟩ := holds
      exact ⟨some value, find_of_value? found⟩
    · exact ⟨none, holds⟩
  have answered := evaluateLine_of_find looked
  exact ⟨_, answered, (evaluateLine_reading answered).matched.mpr holds⟩

/-- A single value is tested at once. -/
theorem evaluate_single :
    item.evaluate source false output =
      (item.evaluateLine source (trimmedOutput output)).map fun outcome =>
        if item.present then { outcome with actual := trimmedOutput output } else outcome := by
  simp only [evaluate, tested, Bool.false_eq_true, if_false, evaluateLines]
  cases item.evaluateLine source (trimmedOutput output) with
  | error fault => rfl
  | ok outcome =>
      change ((if outcome.matched then pure outcome else pure outcome) >>= _) = _
      split <;> rfl

/-- A text alone is tested without the blanks at its end. -/
theorem matchedAlone_iff :
    item.MatchedAlone source text ↔ item.Holds source (trimmedOutput text) := by
  constructor
  · rintro ⟨outcome, answered, matched⟩
    exact (evaluate_finding answered).matched.mp matched _ (List.mem_singleton_self _)
  · intro holds
    obtain ⟨outcome, answered, matched⟩ := holds.answered
    refine ⟨_, by rw [evaluate_single, answered]; rfl, ?_⟩
    split
    · exact matched
    · exact matched

/-- The condition depends on what is found for the locator only. -/
theorem holds_congr {other : String}
    (same : (item.lookup source).find text (item.locator source) =
      (item.lookup source).find other (item.locator source)) :
    item.Holds source text ↔ item.Holds source other := by
  simp only [Holds, value?, Misses, same]

/-- Blanks behind an output do not count. -/
theorem trimmedOutput_append {blanks : String} (all : ∀ c ∈ blanks.toList, c = ' ' ∨ c = '\n') :
    trimmedOutput (output ++ blanks) = trimmedOutput output := by
  obtain ⟨before, split, blank, solid⟩ := trimmedOutput_eq_iff.mp (rfl : trimmedOutput output = _)
  refine trimmedOutput_eq_iff.mpr ⟨before ++ blanks, ?_, fun c member => ?_, solid⟩
  · rw [← String.append_assoc, ← split]
  · rw [String.toList_append, List.mem_append] at member
    exact member.elim (blank c) (all c)

/-- An output without line breaks is one line. -/
theorem texts_of_unbroken (unbroken : '\n' ∉ (trimmedOutput output).toList) :
    texts true output = texts false output := by
  simp [texts, tested, Text.pieces, Text.splitAt_of_not_mem unbroken]

/-- There is no line break in a line of an output. -/
theorem unbroken_of_mem_texts {line : String} (member : line ∈ texts true output) :
    '\n' ∉ line.toList := by
  obtain ⟨piece, inside, rfl⟩ := List.mem_map.mp member
  rw [String.toList_ofList]
  exact Text.not_mem_splitAt inside

/-- A line is its trimmed form and spaces behind it. -/
theorem exists_spaces (unbroken : '\n' ∉ text.toList) :
    ∃ spaces, text.toList = (trimmedOutput text).toList ++ spaces ∧ ∀ c ∈ spaces, c = ' ' := by
  obtain ⟨blanks, split, blank, -⟩ := trimmedOutput_eq_iff.mp (rfl : trimmedOutput text = _)
  have whole : text.toList = (trimmedOutput text).toList ++ blanks.toList := by
    rw [← String.toList_append, ← split]
  refine ⟨blanks.toList, whole, fun c member => (blank c member).resolve_right ?_⟩
  rintro rfl
  exact unbroken (whole ▸ List.mem_append_right _ member)

/-- The spaces at the end of a line do not count if there are none, or if a flag is looked for that
does not end in a space. -/
theorem find_trimmedOutput (unbroken : '\n' ∉ text.toList)
    (clear : ¬ EndsInSpace text ∨
      item.lookup source = .flag ∧ ¬ EndsInSpace (item.locator source)) :
    (item.lookup source).find text (item.locator source) =
      (item.lookup source).find (trimmedOutput text) (item.locator source) := by
  obtain ⟨spaces, split, all⟩ := exists_spaces unbroken
  rcases clear with clear | ⟨flag, clear⟩
  · have none : spaces = [] := by
      by_contra some
      apply clear
      rw [EndsInSpace, split, List.getLast?_append_of_ne_nil _ some,
        List.getLast?_eq_getLast_of_ne_nil some, all _ (List.getLast_mem some)]
    rw [none, List.append_nil, String.toList_inj] at split
    rw [← split]
  · rw [flag, Lookup.find, Lookup.find, split, Lookup.flag?_append_spaces all clear]

/-- Testing an item line by line, the item is matched exactly if its condition holds of every line
as it stands. A line alone is tested without the spaces at its end, which makes no difference if
there are none or if a flag is looked for that does not end in a space. So it does not count in
which order the lines stand; a single line is a single value; and blanks behind the output change
nothing. -/
theorem matched_iff_every_line (item : TestItem) (source : Source) (output : String)
    (outcome : TestOutcome) (answered : item.evaluate source true output = .ok outcome) :
    (outcome.matched = true ↔ ∀ line ∈ texts true output, item.Holds source line) ∧
    (∀ line, item.MatchedAlone source line ↔ item.Holds source (trimmedOutput line)) ∧
    (∀ line ∈ texts true output, (¬ EndsInSpace line ∨
        item.lookup source = .flag ∧ ¬ EndsInSpace (item.locator source)) →
      (item.Holds source line ↔ item.MatchedAlone source line)) ∧
    (∀ others other, item.evaluate source true others = .ok other →
      (texts true others).Perm (texts true output) → other.matched = outcome.matched) ∧
    ('\n' ∉ (trimmedOutput output).toList → item.evaluate source false output = .ok outcome) ∧
    ∀ blanks : String, (∀ c ∈ blanks.toList, c = ' ' ∨ c = '\n') →
      item.evaluate source true (output ++ blanks) = .ok outcome := by
  have every := (evaluate_finding answered).matched
  refine ⟨every, fun line => matchedAlone_iff, ?alone, ?order, ?single, ?blanks⟩
  case alone =>
    intro line member clear
    rw [matchedAlone_iff]
    exact holds_congr (find_trimmedOutput (unbroken_of_mem_texts member) clear)
  case order =>
    intro others other tested reordered
    rw [Bool.eq_iff_iff, every, (evaluate_finding tested).matched]
    simp only [reordered.mem_iff]
  case single =>
    intro unbroken
    have same : tested false (trimmedOutput output) = tested true (trimmedOutput output) :=
      (texts_of_unbroken unbroken).symm
    rw [← answered, evaluate, evaluate, same]
  case blanks =>
    intro blanks all
    rw [← answered, evaluate, evaluate, trimmedOutput_append all]

/-- An item that asks for the owner of files. -/
def owned : TestItem := ⟨"owner", "", "", true, some ⟨.equal, "root"⟩⟩

/-- The owners of three files. -/
def owners : String := "owner=root \nowner=etcd\nowner: root"

/-- One of these files has another owner, so they are not matched, in whatever order they are
listed. -/
theorem matched_iff_every_line_files :
    owned.evaluate .primary true owners = .ok ⟨false, true, owners, "'owner' is equal to 'root'"⟩ ∧
    owned.MatchedAlone .primary "owner=root " ∧ ¬ owned.MatchedAlone .primary "owner=etcd" ∧
    (∀ other, owned.evaluate .primary true "owner=etcd\nowner=root \nowner: root\n" = .ok other →
      other.matched = false) ∧
    owned.evaluate .primary true (owners ++ " \n\n") =
      .ok ⟨false, true, owners, "'owner' is equal to 'root'"⟩ := by
  have answered : owned.evaluate .primary true owners =
      .ok ⟨false, true, owners, "'owner' is equal to 'root'"⟩ := rfl
  have lines : texts true owners = ["owner=root ", "owner=etcd", "owner: root"] := by decide
  have moved : texts true "owner=etcd\nowner=root \nowner: root\n" =
      ["owner=etcd", "owner=root ", "owner: root"] := by decide
  have root : owned.Holds .primary "owner=root " := by decide
  obtain ⟨-, -, alone, order, -, blanks⟩ := matched_iff_every_line _ _ _ _ answered
  refine ⟨answered, ?_, ?_, fun other tested => ?_, blanks " \n\n" (by simp)⟩
  · exact (alone "owner=root " (by simp [lines]) (.inr ⟨rfl, by decide⟩)).mp root
  · exact mt (alone "owner=etcd" (by simp [lines]) (.inl (by decide))).mpr (by decide)
  · exact order _ other tested (by rw [lines, moved]; exact .swap _ _ _)

/-- An item that asks for a variable. -/
def proxied : TestItem := ⟨"", "", "PROXY", true, none⟩

/-- An item that asks for a document which is a letter and a space. -/
def spaced : TestItem := ⟨"", "{$}", "", true, some ⟨.equal, "x "⟩⟩

/-- The spaces at the end of a line may belong to a value, to a text in a document, or to the flag
itself: then the item is matched in the output, but not on the line alone. An empty line is dropped
once it is the last one, so moving it there can change the verdict. -/
theorem trailing_blanks_count :
    texts true "PROXY= \nPROXY=on" = ["PROXY= ", "PROXY=on"] ∧
    (∃ outcome, proxied.evaluate .environment true "PROXY= \nPROXY=on" = .ok outcome ∧
      outcome.matched = true) ∧
    ¬ proxied.MatchedAlone .environment "PROXY= " ∧
    texts true "|\r x \n'x '" = ["|\r x ", "'x '"] ∧
    (∃ outcome, spaced.evaluate .config true "|\r x \n'x '" = .ok outcome ∧
      outcome.matched = true) ∧
    ¬ spaced.MatchedAlone .config "|\r x " ∧
    texts true "-o \n-o a" = ["-o ", "-o a"] ∧
    (∃ outcome, (ofFlag "-o " true).evaluate .primary true "-o \n-o a" = .ok outcome ∧
      outcome.matched = true) ∧
    ¬ (ofFlag "-o " true).MatchedAlone .primary "-o " ∧
    (∃ outcome, (ofFlag "--tls" true).evaluate .primary true "--tls\n\n--tls" = .ok outcome ∧
      outcome.matched = false) ∧
    ∃ outcome, (ofFlag "--tls" true).evaluate .primary true "--tls\n--tls\n" = .ok outcome ∧
      outcome.matched = true := by
  have document : spaced.evaluate .config true "|\r x \n'x '" =
      .ok ⟨true, true, "|\r x \n'x '", "'{$}' is equal to 'x '"⟩ := by decide +kernel
  refine ⟨by decide, ⟨_, rfl, rfl⟩, ?value, by decide, ⟨_, document, rfl⟩, ?content, by decide,
    ⟨_, rfl, rfl⟩, ?flag, ⟨_, rfl, rfl⟩, ⟨_, rfl, rfl⟩⟩
  case value =>
    rw [matchedAlone_iff]
    decide
  case content =>
    rw [matchedAlone_iff]
    decide +kernel
  case flag =>
    rw [matchedAlone_iff]
    decide

end TestItem

end HostAudit
