import HostAudit.TestItem
import HostAudit.Proofs.Answer

/-
This file states what the texts of one output say about a test item, and proves that testing the
item on the output finds this out.
-/

namespace HostAudit.TestItem

/-- The value of the locator for a source in a text, if the locator is there. -/
def value? (item : TestItem) (source : Source) (text : String) : Option String :=
  ((item.lookup source).find text (item.locator source)).toOption.join

/-- The locator for a source is found in a text. -/
def Locates (item : TestItem) (source : Source) (text : String) : Prop :=
  (item.value? source text).isSome = true

/-- The locator for a source can be looked for in a text and is not there. -/
def Misses (item : TestItem) (source : Source) (text : String) : Prop :=
  (item.lookup source).find text (item.locator source) = .ok none

/-- A value meets what the item requires of it, if the item requires anything. -/
def Accepts (item : TestItem) (source : Source) (value : String) : Prop :=
  ∀ requirement ∈ item.requirement,
    (requirement.operator.compare value requirement.value (item.locator source)).result = true

/-- The condition of an item holds of a text: the locator is found with a value that the item
accepts, or the item asks for its absence and it is not there. -/
def Holds (item : TestItem) (source : Source) (text : String) : Prop :=
  if item.present then ∃ value ∈ item.value? source text, item.Accepts source value
  else item.Misses source text

instance (item : TestItem) (source : Source) (text : String) :
    Decidable (item.Locates source text) := inferInstanceAs (Decidable (_ = _))

instance (item : TestItem) (source : Source) (text : String) :
    Decidable (item.Misses source text) :=
  match found : (item.lookup source).find text (item.locator source) with
  | .ok none => .isTrue found
  | .ok (some _) => .isFalse (by simp [Misses, found])
  | .error _ => .isFalse (by simp [Misses, found])

instance (item : TestItem) (source : Source) (value : String) :
    Decidable (item.Accepts source value) :=
  inferInstanceAs (Decidable (∀ requirement ∈ item.requirement, _))

instance (item : TestItem) (source : Source) (text : String) :
    Decidable (item.Holds source text) := inferInstanceAs (Decidable (ite _ _ _))

/-- What is found in a text is the value there. -/
theorem value?_of_find {item : TestItem} {source : Source} {text : String} {found : Option String}
    (looked : (item.lookup source).find text (item.locator source) = .ok found) :
    item.value? source text = found := by
  simp [value?, looked, Except.toOption]

/-- An item that asks for absence holds of the texts that miss its locator. -/
theorem holds_of_absent {item : TestItem} (absent : item.present = false) (source : Source)
    (text : String) : item.Holds source text ↔ item.Misses source text := by
  simp [Holds, absent]

/-- An item that asks for presence holds only of texts with its locator. -/
theorem Holds.locates {item : TestItem} {source : Source} {text : String}
    (present : item.present = true) (holds : item.Holds source text) :
    item.Locates source text := by
  rw [Holds, if_pos present] at holds
  obtain ⟨value, found, -⟩ := holds
  exact Option.isSome_of_mem found

/-- A text that misses the locator does not have it. -/
theorem Misses.not_locates {item : TestItem} {source : Source} {text : String}
    (misses : item.Misses source text) : ¬ item.Locates source text := by
  simp [Locates, value?_of_find misses]

/-- What testing an item on one text gives. -/
structure Reading (item : TestItem) (source : Source) (text : String) (outcome : TestOutcome) :
    Prop where
  matched : outcome.matched = true ↔ item.Holds source text
  found : outcome.found = true ↔ item.Locates source text
  missed : outcome.found = false ↔ item.Misses source text
  actual : outcome.actual = ""

/-- Once the locator was looked for, the item is judged by whether it holds of the text. -/
theorem judge_matched {item : TestItem} {source : Source} {text : String} {found : Option String}
    (looked : (item.lookup source).find text (item.locator source) = .ok found) :
    (item.judge (item.locator source) found).2 = true ↔ item.Holds source text := by
  cases present : item.present with
  | false => rw [holds_of_absent present, Misses, looked]; simp [judge, present]
  | true =>
      rw [Holds, if_pos present, value?_of_find looked]
      cases required : item.requirement <;> cases found <;> simp [judge, present, Accepts, required]

/-- Testing an item on one text reads the text. -/
theorem evaluateLine_reading {item : TestItem} {source : Source} {text : String}
    {outcome : TestOutcome} (answered : item.evaluateLine source text = .ok outcome) :
    item.Reading source text outcome := by
  rw [evaluateLine, bind_eq_ok] at answered
  obtain ⟨found, looked, result⟩ := answered
  rw [pure_eq_ok] at result
  subst result
  have value := value?_of_find looked
  refine ⟨judge_matched looked, ?_, ?_, rfl⟩
  · simp only [Locates, value]
  · rw [Misses, looked]
    simp

/-- One text decides: the condition holds of all texts before it, and if it holds of this text too
then there are no others. -/
theorem evaluateLines_decides {item : TestItem} {source : Source} {initial outcome : TestOutcome}
    {texts : List String} (nonempty : texts ≠ [])
    (answered : item.evaluateLines source initial texts = .ok outcome) :
    ∃ before text after, texts = before ++ text :: after ∧
      (∀ earlier ∈ before, item.Holds source earlier) ∧ item.Reading source text outcome ∧
      (item.Holds source text → after = []) := by
  induction texts generalizing initial with
  | nil => exact absurd rfl nonempty
  | cons text rest ih =>
      rw [evaluateLines, bind_eq_ok] at answered
      obtain ⟨first, read, remaining⟩ := answered
      have reading := evaluateLine_reading read
      split at remaining
      · rename_i matched
        have holds := reading.matched.mp matched
        -- The outcome of this text is lost if another one comes after it.
        cases rest with
        | nil =>
            rw [evaluateLines, pure_eq_ok] at remaining
            subst remaining
            exact ⟨[], text, [], rfl, by simp, reading, fun _ => rfl⟩
        | cons next others =>
            obtain ⟨before, deciding, after, split, held, decided, last⟩ := ih (by simp) remaining
            refine ⟨text :: before, deciding, after, by rw [split]; rfl, ?_, decided, last⟩
            intro earlier member
            rcases List.mem_cons.mp member with rfl | member
            · exact holds
            · exact held earlier member
      · rename_i unmatched
        rw [pure_eq_ok] at remaining
        subst remaining
        exact ⟨[], text, rest, rfl, by simp, reading,
          fun holds => absurd (reading.matched.mpr holds) unmatched⟩

/-- The first text on which the condition of an item fails. -/
def firstFailing? (item : TestItem) (source : Source) (texts : List String) : Option String :=
  texts.find? fun text => ¬ item.Holds source text

/-- Texts settle an item that asks for presence if the first text on which its condition fails, if
there is such a text, has the locator. They settle an item that asks for absence if its condition
fails on one of them. -/
def Settles (item : TestItem) (source : Source) (texts : List String) : Prop :=
  if item.present then ∀ text ∈ item.firstFailing? source texts, item.Locates source text
  else ∃ text ∈ texts, ¬ item.Holds source text

instance (item : TestItem) (source : Source) (texts : List String) :
    Decidable (item.Settles source texts) := inferInstanceAs (Decidable (ite _ _ _))

/-- A text on which the condition fails is the first one if it holds of those before. -/
theorem firstFailing?_of_fails {item : TestItem} {source : Source} {before after : List String}
    {text : String} (held : ∀ earlier ∈ before, item.Holds source earlier)
    (fails : ¬ item.Holds source text) :
    item.firstFailing? source (before ++ text :: after) = some text := by
  rw [firstFailing?, List.find?_eq_some_iff_append]
  exact ⟨by simpa using fails, before, after, rfl, by simpa using held⟩

/-- There is no such text exactly if the condition holds of all. -/
theorem firstFailing?_eq_none {item : TestItem} {source : Source} {texts : List String} :
    item.firstFailing? source texts = none ↔ ∀ text ∈ texts, item.Holds source text := by
  simp [firstFailing?]

/-- An item that asks for absence misses its locator in all texts that do not settle it. -/
theorem misses_of_not_settles {item : TestItem} {source : Source} {texts : List String}
    (absent : item.present = false) (unsettled : ¬ item.Settles source texts) :
    ∀ text ∈ texts, item.Misses source text := by
  simp only [Settles, absent, Bool.false_eq_true, if_false, not_exists, not_and,
    Decidable.not_not] at unsettled
  exact fun text member => (holds_of_absent absent source text).mp (unsettled text member)

/-- What testing an item on a list of texts gives. -/
structure Finding (item : TestItem) (source : Source) (texts : List String)
    (outcome : TestOutcome) : Prop where
  matched : outcome.matched = true ↔ ∀ text ∈ texts, item.Holds source text
  found : outcome.found = true ↔ item.Settles source texts

/-- If the condition holds of all texts, reading any of them is what they come to. -/
theorem Reading.finding_of_holds {item : TestItem} {source : Source} {texts : List String}
    {text : String} {outcome : TestOutcome} (reading : item.Reading source text outcome)
    (member : text ∈ texts) (all : ∀ every ∈ texts, item.Holds source every) :
    item.Finding source texts outcome := by
  have holds := all text member
  refine ⟨iff_of_true (reading.matched.mpr holds) all, ?_⟩
  rw [reading.found, Settles]
  cases present : item.present with
  | true => simp [firstFailing?_eq_none.mpr all, holds.locates present]
  | false =>
      have misses := (holds_of_absent present source text).mp holds
      simpa [misses.not_locates] using all

/-- Reading the first text on which the condition fails is what the texts come to. -/
theorem Reading.finding_of_fails {item : TestItem} {source : Source} {before after : List String}
    {text : String} {outcome : TestOutcome} (reading : item.Reading source text outcome)
    (held : ∀ earlier ∈ before, item.Holds source earlier) (fails : ¬ item.Holds source text) :
    item.Finding source (before ++ text :: after) outcome := by
  have member : text ∈ before ++ text :: after := by simp
  refine ⟨iff_of_false (mt reading.matched.mp fails) fun all => fails (all text member), ?_⟩
  rw [Settles]
  cases present : item.present with
  | true => simp [firstFailing?_of_fails held fails, reading.found]
  | false =>
      have found : outcome.found = true := by
        rwa [holds_of_absent present, ← reading.missed, Bool.not_eq_false] at fails
      simpa [found] using ⟨text, by simp, fails⟩

/-- Testing an item on lines one after another finds out what they come to. -/
theorem evaluateLines_finding {item : TestItem} {source : Source} {initial outcome : TestOutcome}
    {texts : List String} (nonempty : texts ≠ [])
    (answered : item.evaluateLines source initial texts = .ok outcome) :
    item.Finding source texts outcome := by
  obtain ⟨before, text, after, rfl, held, reading, last⟩ := evaluateLines_decides nonempty answered
  by_cases holds : item.Holds source text
  · refine reading.finding_of_holds (by simp) ?_
    intro every member
    rw [last holds, List.mem_append, List.mem_singleton] at member
    rcases member with earlier | rfl
    · exact held every earlier
    · exact holds
  · exact reading.finding_of_fails held holds

/-- The texts of an output that an item is tested on, without the blanks at its end. -/
def texts (multiple : Bool) (output : String) : List String :=
  tested multiple (trimmedOutput output)

/-- There is always a text to be tested, if only an empty one. -/
theorem texts_ne_nil (multiple : Bool) (output : String) : texts multiple output ≠ [] := by
  cases multiple with
  | false => simp [texts, tested]
  | true => simp [texts, tested, Text.pieces, Text.splitAt_ne_nil]

/-- Testing an item on an output finds out what its texts come to. -/
theorem evaluate_finding {item : TestItem} {source : Source} {multiple : Bool} {output : String}
    {outcome : TestOutcome} (answered : item.evaluate source multiple output = .ok outcome) :
    item.Finding source (texts multiple output) outcome := by
  rw [evaluate, bind_eq_ok] at answered
  obtain ⟨last, answered, result⟩ := answered
  have finding := evaluateLines_finding (texts_ne_nil multiple output) answered
  rw [pure_eq_ok] at result
  subst result
  split
  · exact ⟨finding.matched, finding.found⟩
  · exact finding

/-- An item that asks for absence shows no output. -/
theorem evaluate_actual {item : TestItem} {source : Source} {multiple : Bool} {output : String}
    {outcome : TestOutcome} (answered : item.evaluate source multiple output = .ok outcome) :
    outcome.actual = if item.present then trimmedOutput output else "" := by
  rw [evaluate, bind_eq_ok] at answered
  obtain ⟨last, answered, result⟩ := answered
  obtain ⟨-, text, -, -, -, reading, -⟩ :=
    evaluateLines_decides (texts_ne_nil multiple output) answered
  rw [pure_eq_ok] at result
  subst result
  split
  · rfl
  · exact reading.actual

end HostAudit.TestItem
