import HostAudit.Lookup
import HostAudit.Proofs.Answer
import HostAudit.Proofs.Numerals

/-
This file says when a path is found in a document: if it selects a node that is neither null nor an
empty text, or if it selects several empty texts. Texts are shown with spaces between them, so
several empty texts are shown as spaces.
-/

namespace HostAudit

namespace Text

variable {texts : List String}

/-- Something is shown of texts if one of them is not empty, or if there are two at least. -/
theorem joined_ne_empty_iff :
    joined " " texts ≠ "" ↔ (∃ text ∈ texts, text ≠ "") ∨ 2 ≤ texts.count "" := by
  match texts with
  | [] => simp [joined]
  | [text] =>
      have single : [text].count "" ≤ 1 := List.count_le_length
      rw [joined]
      constructor
      · exact fun given => .inl ⟨text, List.mem_singleton_self text, given⟩
      · rintro (⟨other, among, given⟩ | several)
        · rwa [← List.mem_singleton.mp among]
        · omega
  | first :: second :: others =>
      refine ⟨fun _ => ?_, fun _ => by simp [joined]⟩
      by_cases empty : first = "" ∧ second = ""
      · simp [empty]
      · by_cases given : first = ""
        · exact .inl ⟨second, by simp, fun same => empty ⟨given, same⟩⟩
        · exact .inl ⟨first, List.mem_cons_self, given⟩

/-- Empty texts are shown as the spaces between them. -/
theorem joined_replicate (count : Nat) :
    joined " " (List.replicate (count + 1) "") = String.ofList (List.replicate count ' ') := by
  induction count with
  | zero => rfl
  | succ count ih =>
      change "" ++ " " ++ joined " " (List.replicate (count + 1) "") = _
      rw [ih, String.empty_append, List.replicate_succ, String.ofList_cons]
      rfl

end Text

namespace Json

/-- A number is written with a point, with an exponent, or with the digits of a whole number. -/
theorem doubleChars_ne_nil (value : Double) : doubleChars value ≠ [] := by
  refine List.append_ne_nil_of_right_ne_nil _ ?_
  split
  · exact List.append_ne_nil_of_right_ne_nil _ (List.cons_ne_nil _ _)
  · split
    · exact List.append_ne_nil_of_right_ne_nil _ (List.cons_ne_nil _ _)
    · rename_i fraction
      rw [Decimal.positional]
      split
      · rename_i zeros whole
        exact absurd (whole ▸ Int.natCast_nonneg zeros) fraction
      · dsimp only
        split
        · exact List.append_ne_nil_of_right_ne_nil _ (List.cons_ne_nil _ _)
        · exact List.cons_ne_nil _ _

/-- Every value is written as something. -/
theorem Value.compact_ne_empty (value : Value) : value.compact ≠ "" := by
  have written : value.compactChars ≠ [] := by
    cases value with
    | null => exact List.cons_ne_nil _ _
    | bool value => cases value <;> exact List.cons_ne_nil _ _
    | number value =>
        cases value with
        | integer value => exact Integer.chars_ne_nil value
        | double value => exact doubleChars_ne_nil value
    | text value => exact List.cons_ne_nil _ _
    | array items => exact List.cons_ne_nil _ _
    | object members => exact List.cons_ne_nil _ _
  simpa [compact] using written

end Json

namespace Path

open Json (Value)

/-- A node is filled if it is neither null nor an empty text. -/
def Filled (node : Value) : Prop := node ≠ .null ∧ node ≠ .text ""

def isEmptyText : Value → Bool
  | .text content => content == ""
  | _ => false

/-- The only node that is an empty text is the empty text. -/
theorem isEmptyText_iff {node : Value} : isEmptyText node = true ↔ node = .text "" := by
  cases node <;> simp [isEmptyText]

/-- Only a null has no text. -/
theorem written?_eq_none_iff {node : Value} : written? node = none ↔ node = .null := by
  cases node <;> simp [written?]

/-- Only an empty text has the empty text. -/
theorem written?_eq_empty_iff {node : Value} : written? node = some "" ↔ node = .text "" := by
  cases node with
  | null => simp [written?]
  | text content => simp [written?]
  | bool value => simp [written?, Value.compact_ne_empty]
  | number value => simp [written?, Value.compact_ne_empty]
  | array items => simp [written?, Value.compact_ne_empty]
  | object members => simp [written?, Value.compact_ne_empty]

/-- A node is written as something that is not empty exactly if it is filled. -/
theorem exists_written_iff {node : Value} :
    (∃ text, written? node = some text ∧ text ≠ "") ↔ Filled node := by
  rw [Filled, ne_eq, ne_eq, ← written?_eq_none_iff, ← written?_eq_empty_iff]
  cases written? node <;> simp

/-- The empty texts that are written out are those of nodes with an empty text. -/
theorem count_written (nodes : List Value) :
    (nodes.filterMap written?).count "" = nodes.countP isEmptyText := by
  rw [List.count, List.countP_filterMap]
  refine List.countP_congr fun node _ => ?_
  rw [isEmptyText_iff, ← written?_eq_empty_iff]
  cases written? node <;> simp

/-- Something is shown of nodes if one of them is filled, or if two are empty texts. -/
theorem shown_ne_empty_iff (nodes : List Value) :
    Text.joined " " (nodes.filterMap written?) ≠ "" ↔
      (∃ node ∈ nodes, Filled node) ∨ 2 ≤ nodes.countP isEmptyText := by
  rw [Text.joined_ne_empty_iff, count_written]
  refine or_congr_left ?_
  constructor
  · rintro ⟨text, among, given⟩
    obtain ⟨node, inside, written⟩ := List.mem_filterMap.mp among
    exact ⟨node, inside, exists_written_iff.mp ⟨text, written, given⟩⟩
  · rintro ⟨node, inside, filled⟩
    obtain ⟨text, written, given⟩ := exists_written_iff.mpr filled
    exact ⟨text, List.mem_filterMap.mpr ⟨node, inside, written⟩, given⟩

/-- Without a filled node only empty texts are shown. -/
theorem filterMap_written?_of_unfilled {nodes : List Value}
    (unfilled : ∀ node ∈ nodes, ¬ Filled node) :
    nodes.filterMap written? = List.replicate (nodes.countP isEmptyText) "" := by
  have empty : ∀ text ∈ nodes.filterMap written?, text = "" := by
    intro text among
    obtain ⟨node, inside, written⟩ := List.mem_filterMap.mp among
    by_contra given
    exact unfilled node inside (exists_written_iff.mp ⟨text, written, given⟩)
  rw [← count_written, List.count_eq_length.mpr fun text among => (empty text among).symm]
  exact List.eq_replicate_of_mem empty

section Finding

variable {format : Format} {text locator : String} {document : Value} {steps : List Step}

/-- What is found of a single expression is what is shown of its nodes. -/
theorem find_single (single : Template.read? locator = .ok ⟨locator, [.expression steps]⟩)
    (read : format.read? text = some document) :
    Lookup.find (.path format) text locator =
      .ok ((some (Text.joined " " ((select steps [document]).filterMap written?))).filter
        (· ≠ "")) := by
  have evaluated : Template.evaluate ⟨locator, [.expression steps]⟩ document =
      ⟨Text.joined " " ((select steps [document]).filterMap written?),
        ((select steps [document]).filterMap written?).length⟩ := rfl
  rw [Lookup.find, single]
  simp only [Except.mapError, Except.map, Lookup.pathValue?, read, Option.map_some, evaluated]
  generalize (select steps [document]).filterMap written? = texts
  cases texts with
  | nil => rfl
  | cons first others =>
      by_cases empty : Text.joined " " (first :: others) = "" <;> simp [Option.filter_some, empty]

/-- Found is a text that is not empty. -/
theorem find_eq_some_iff (single : Template.read? locator = .ok ⟨locator, [.expression steps]⟩)
    (read : format.read? text = some document) {value : String} :
    Lookup.find (.path format) text locator = .ok (some value) ↔
      Text.joined " " ((select steps [document]).filterMap written?) = value ∧ value ≠ "" := by
  rw [find_single single read, Except.ok.injEq, Option.filter_eq_some_iff, Option.some.injEq,
    decide_eq_true_eq]

/-- A path of a single expression is found in a document if it selects a filled node, or else if it
selects two empty texts or more, which are shown as the spaces between them. What is found is not
empty. -/
theorem path_found_iff (single : Template.read? locator = .ok ⟨locator, [.expression steps]⟩)
    (read : format.read? text = some document) :
    ((∃ value, Lookup.find (.path format) text locator = .ok (some value)) ↔
      (∃ node ∈ select steps [document], Filled node) ∨
        2 ≤ (select steps [document]).countP isEmptyText) ∧
    (∀ value, Lookup.find (.path format) text locator = .ok (some value) → value ≠ "") ∧
    ((∀ node ∈ select steps [document], ¬ Filled node) →
      Lookup.find (.path format) text locator =
        .ok (if (select steps [document]).countP isEmptyText < 2 then none
          else some (String.ofList
            (List.replicate ((select steps [document]).countP isEmptyText - 1) ' ')))) := by
  refine ⟨?found, fun value found => ((find_eq_some_iff single read).mp found).2, ?unfilled⟩
  case found =>
    rw [← shown_ne_empty_iff]
    simp [find_eq_some_iff single read]
  case unfilled =>
    intro unfilled
    rw [find_single single read, filterMap_written?_of_unfilled unfilled]
    match (select steps [document]).countP isEmptyText with
    | 0 => rfl
    | 1 => rfl
    | several + 2 =>
        rw [Text.joined_replicate]
        simp [Option.filter_some]

end Finding

/-- The path to all children of a document. -/
theorem read?_children :
    Template.read? "\x7b[*]\x7d" = .ok ⟨"\x7b[*]\x7d", [.expression [.child .wildcard]]⟩ := rfl

theorem path_found_iff_one_filled :
    Template.read? "\x7b[*]\x7d" = .ok ⟨"\x7b[*]\x7d", [.expression [.child .wildcard]]⟩ ∧
    Format.json.read? "[null,\"\",\"on\"]" = some (.array [.null, .text "", .text "on"]) ∧
    (∃ node ∈ select [.child .wildcard] [.array [.null, .text "", .text "on"]], Filled node) ∧
    (∃ value, Lookup.find (.path .json) "[null,\"\",\"on\"]" "\x7b[*]\x7d" = .ok (some value)) ∧
    Format.json.read? "[null,\"\"]" = some (.array [.null, .text ""]) ∧
    Lookup.find (.path .json) "[null,\"\"]" "\x7b[*]\x7d" = .ok none := by
  have read : Format.json.read? "[null,\"\",\"on\"]" =
      some (.array [.null, .text "", .text "on"]) := by cbv
  have other : Format.json.read? "[null,\"\"]" = some (.array [.null, .text ""]) := by cbv
  have filled : ∃ node ∈ select [.child .wildcard] [.array [.null, .text "", .text "on"]],
      Filled node := by
    simp [select, Step.select, Selector.select, Value.children, Filled]
  have unfilled : ∀ node ∈ select [.child .wildcard] [.array [.null, .text ""]], ¬ Filled node := by
    simp [select, Step.select, Selector.select, Value.children, Filled]
  refine ⟨read?_children, read, filled, ?_, other, ?_⟩
  · exact (path_found_iff read?_children read).1.mpr (.inl filled)
  · exact ((path_found_iff read?_children other).2.2 unfilled).trans rfl

/-- Two empty texts are found, and shown as the space between them. -/
theorem empty_texts_found :
    Format.json.read? "[\"\",\"\"]" = some (.array [.text "", .text ""]) ∧
    Template.read? "\x7b[*]\x7d" = .ok ⟨"\x7b[*]\x7d", [.expression [.child .wildcard]]⟩ ∧
    (∀ node ∈ select [.child .wildcard] [.array [.text "", .text ""]],
      node = .null ∨ node = .text "") ∧
    Lookup.find (.path .json) "[\"\",\"\"]" "\x7b[*]\x7d" = .ok (some " ") := by
  have read : Format.json.read? "[\"\",\"\"]" = some (.array [.text "", .text ""]) := by cbv
  refine ⟨read, read?_children, ?_, ?_⟩
  · simp [select, Step.select, Selector.select, Value.children]
  · rw [find_single read?_children read]
    rfl

end Path

end HostAudit
