import HostAudit.Comparison
import HostAudit.Proofs.Pieces
import Mathlib.Data.List.DropRight
import Mathlib.Data.List.Forall2

/-
This file says what a list of allowed elements admits. A text falls into its elements however they
are laid out, with blanks around them and commas behind the last one. Comparing two such texts is
comparing the sets of their elements.
-/

namespace HostAudit

namespace Text

variable {separator : Char} {text before after : List Char}

/-- What stands before a text goes to its first piece. -/
theorem splitAt_append_left (absent : separator ∉ before) (text : List Char) :
    ∃ first rest, splitAt separator text = first :: rest ∧
      splitAt separator (before ++ text) = (before ++ first) :: rest := by
  induction before with
  | nil =>
      obtain ⟨first, rest, split⟩ := List.exists_cons_of_ne_nil (splitAt_ne_nil separator text)
      exact ⟨first, rest, split, split⟩
  | cons c before ih =>
      obtain ⟨differs, absent⟩ := List.ne_and_not_mem_of_not_mem_cons absent
      obtain ⟨first, rest, split, further⟩ := ih absent
      refine ⟨first, rest, split, ?_⟩
      rw [List.cons_append, splitAt, if_neg (Ne.symm differs), further]
      rfl

/-- What stands behind a text goes to its last piece. -/
theorem splitAt_append_right (absent : separator ∉ after) (text : List Char) :
    ∃ others last, splitAt separator text = others ++ [last] ∧
      splitAt separator (text ++ after) = others ++ [last ++ after] := by
  induction text with
  | nil => exact ⟨[], [], rfl, splitAt_of_not_mem absent⟩
  | cons c rest ih =>
      obtain ⟨others, last, split, further⟩ := ih
      rw [List.cons_append, splitAt, splitAt, split, further]
      by_cases same : c = separator
      · exact ⟨[] :: others, last, by simp [same], by simp [same]⟩
      · cases others with
        | nil => exact ⟨[], c :: last, by simp [same], by simp [same]⟩
        | cons piece others => exact ⟨(c :: piece) :: others, last, by simp [same], by simp [same]⟩

/-- Trimming leaves no blank at the start of a text. -/
theorem head?_trim (text : List Char) : ∀ c ∈ (trim text).head?, isBlank c = false := by
  intro c first
  obtain ⟨tail, split, -⟩ := exists_trailing isBlank (text.dropWhile isBlank)
  apply head?_dropWhile isBlank text c
  rw [split, List.head?_append, ← trim, Option.mem_def.mp first]
  rfl

end Text

namespace Comparison

open Text (isBlank trim splitAt)

/-- An element of a list: it is not empty, has no comma, and has no blanks at its ends. -/
structure IsElement (word : List Char) : Prop where
  nonempty : word ≠ []
  whole : ',' ∉ word
  first : ∀ c ∈ word.head?, isBlank c = false
  last : ∀ c ∈ word.getLast?, isBlank c = false

/-- An element with any blanks around it. -/
def Padded (word field : List Char) : Prop :=
  ∃ before after, field = before ++ (word ++ after) ∧ (∀ c ∈ before, isBlank c = true) ∧
    ∀ c ∈ after, isBlank c = true

/-- The text lists the elements in order. Commas stand between them, with any blanks around each
element; any number of commas follow, and there may be blanks at the start and at the end. -/
def Lists (words : List (List Char)) (text : String) : Prop :=
  ∃ start fields commas margin,
    text.toList = start ++ (Text.join [','] fields ++ commas ++ margin) ∧
    List.Forall₂ Padded words fields ∧ (∀ c ∈ start, isBlank c = true) ∧
    (∀ c ∈ commas, c = ',') ∧ ∀ c ∈ margin, isBlank c = true

section Splitting

variable {text before after commas word field : List Char} {words fields : List (List Char)}

theorem comma_not_mem (blank : ∀ c ∈ text, isBlank c = true) : ',' ∉ text :=
  fun comma => absurd (blank ',' comma) (by decide)

/-- Trimming takes the padding away and nothing else. -/
theorem Padded.trim_eq (padded : Padded word field) (element : IsElement word) :
    trim field = word := by
  obtain ⟨before, after, rfl, leading, trailing⟩ := padded
  rw [Text.trim_append leading trailing, Text.trim_of_solid element.first element.last]

/-- A padded element is not cut at commas. -/
theorem Padded.whole (padded : Padded word field) (element : IsElement word) : ',' ∉ field := by
  obtain ⟨before, after, rfl, leading, trailing⟩ := padded
  simp [comma_not_mem leading, comma_not_mem trailing, element.whole]

/-- A field is what trimming leaves of it, with padding around it. -/
theorem padded_trim (field : List Char) : Padded (trim field) field := Text.exists_margins field

/-- Blanks around a text do not change its elements. -/
theorem map_trim_splitAt (leading : ∀ c ∈ before, isBlank c = true)
    (trailing : ∀ c ∈ after, isBlank c = true) (text : List Char) :
    (splitAt ',' (before ++ (text ++ after))).map trim = (splitAt ',' text).map trim := by
  have front (piece : List Char) : trim (before ++ piece) = trim piece := by
    simpa using @Text.trim_append before [] leading (by simp) piece
  have back (piece : List Char) : trim (piece ++ after) = trim piece :=
    @Text.trim_append [] after (by simp) trailing piece
  obtain ⟨first, rest, split, further⟩ :=
    Text.splitAt_append_left (comma_not_mem leading) (text ++ after)
  obtain ⟨others, last, whole, longer⟩ :=
    Text.splitAt_append_right (comma_not_mem trailing) text
  calc (splitAt ',' (before ++ (text ++ after))).map trim
      = (splitAt ',' (text ++ after)).map trim := by simp [further, split, front]
    _ = (splitAt ',' text).map trim := by simp [longer, whole, back]

/-- The core of a text that has no blank pieces begins and ends within a piece. -/
theorem core_ends (filled : ∀ piece ∈ splitAt ',' text, trim piece ≠ []) :
    trim text ≠ [] ∧ ∀ c ∈ (trim text).getLast?, c ≠ ',' := by
  obtain ⟨before, after, split, leading, trailing⟩ := Text.exists_margins text
  have pieces := map_trim_splitAt leading trailing (trim text)
  rw [← split] at pieces
  have kept : ∀ piece ∈ splitAt ',' (trim text), trim piece ≠ [] := by
    intro piece member
    have among : trim piece ∈ (splitAt ',' text).map trim :=
      pieces ▸ List.mem_map_of_mem member
    obtain ⟨other, inside, same⟩ := List.mem_map.mp among
    rw [← same]
    exact filled other inside
  constructor
  · intro empty
    rw [empty] at kept
    exact kept [] (by simp [splitAt]) rfl
  · rintro c last rfl
    -- A comma at the end would leave an empty piece behind it.
    obtain ⟨front, ends⟩ := List.getLast?_eq_some_iff.mp last
    rw [ends, Text.splitAt_append_cons] at kept
    exact kept [] (by simp [splitAt]) rfl

/-- Of such a text with commas behind it, the core is left, and blanks behind it at most. -/
theorem exists_kept (filled : ∀ piece ∈ splitAt ',' text, trim piece ≠ [])
    (separators : ∀ c ∈ commas, c = ',') :
    ∃ rest, (∀ c ∈ rest, isBlank c = true) ∧
      Text.dropTrailing (· == ',') (trim (text ++ commas)) = trim text ++ rest := by
  obtain ⟨nonempty, noComma⟩ := core_ends filled
  by_cases none : commas = []
  · refine ⟨[], by simp, ?_⟩
    rw [none, List.append_nil, List.append_nil]
    exact Text.dropTrailing_eq_self (by simpa using noComma)
  · obtain ⟨before, after, split, front, back⟩ := Text.exists_margins text
    refine ⟨after, back, ?_⟩
    have solid : trim (trim text ++ after ++ commas) = trim text ++ after ++ commas := by
      apply Text.trim_of_solid
      · intro c first
        rw [List.append_assoc, List.head?_append_of_ne_nil _ nonempty] at first
        exact Text.head?_trim text c first
      · intro c last
        rw [List.getLast?_append_of_ne_nil _ none] at last
        rw [separators c (List.mem_of_getLast? last)]
        rfl
    have cut : text ++ commas = before ++ (trim text ++ after ++ commas ++ []) := by
      simpa using congrArg (· ++ commas) split
    rw [cut, Text.trim_append front (by simp), solid,
      Text.dropTrailing_append (by simpa using separators)]
    apply Text.dropTrailing_eq_self
    intro c last
    rw [Option.mem_def, List.getLast?_append, Option.or_eq_some_iff] at last
    rcases last with behind | ⟨-, inside⟩
    · have blank := back c (List.mem_of_getLast? behind)
      rw [beq_eq_false_iff_ne]
      rintro rfl
      cases blank
    · simpa using noComma c inside

/-- Commas and blanks behind a text that has no blank pieces do not change its elements. -/
theorem elements_of_filled {list : String} {start margin : List Char}
    (written : list.toList = start ++ (text ++ commas ++ margin))
    (leading : ∀ c ∈ start, isBlank c = true) (separators : ∀ c ∈ commas, c = ',')
    (trailing : ∀ c ∈ margin, isBlank c = true)
    (filled : ∀ piece ∈ splitAt ',' text, trim piece ≠ []) :
    elements list = (splitAt ',' text).map trim := by
  obtain ⟨before, after, split, front, back⟩ := Text.exists_margins text
  obtain ⟨rest, blank, kept⟩ := exists_kept filled separators
  have pieces := map_trim_splitAt front back (trim text)
  have again := @map_trim_splitAt [] rest (by simp) blank (trim text)
  rw [← split] at pieces
  rw [elements, written, Text.trim_append leading trailing, kept,
    if_neg (by simp [(core_ends filled).1]), pieces]
  exact again

/-- The fields of a list are trimmed to its elements, and none of them is cut or dropped. -/
theorem trim_fields (padded : List.Forall₂ Padded words fields)
    (areElements : ∀ word ∈ words, IsElement word) :
    fields.map trim = words ∧ ∀ field ∈ fields, ',' ∉ field ∧ trim field ≠ [] := by
  induction padded with
  | nil => simp
  | cons first _ ih =>
      obtain ⟨element, others⟩ := List.forall_mem_cons.mp areElements
      obtain ⟨trimmed, valid⟩ := ih others
      have same := first.trim_eq element
      refine ⟨by rw [List.map_cons, same, trimmed], List.forall_mem_cons.mpr ⟨?_, valid⟩⟩
      exact ⟨first.whole element, same ▸ element.nonempty⟩

/-- The elements of a text are those that it lists, whatever the layout. -/
theorem elements_of_lists {list : String} (areElements : ∀ word ∈ words, IsElement word)
    (lists : Lists words list) : elements list = words := by
  obtain ⟨start, fields, commas, margin, written, padded, leading, separators, trailing⟩ := lists
  obtain ⟨rfl, valid⟩ := trim_fields padded areElements
  by_cases none : fields = []
  · subst none
    have solid : trim commas = commas := by
      apply Text.trim_of_solid
      · intro c first
        rw [separators c (List.mem_of_mem_head? first)]
        rfl
      · intro c last
        rw [separators c (List.mem_of_mem_getLast? last)]
        rfl
    have dropped : Text.dropTrailing (· == ',') commas = [] :=
      Text.dropTrailing_append (by simpa using separators) []
    rw [elements, written, Text.trim_append leading trailing, Text.join, List.nil_append, solid,
      dropped]
    rfl
  · have pieces := Text.splitAt_join none fun field member => (valid field member).1
    rw [elements_of_filled written leading separators trailing, pieces]
    rw [pieces]
    exact fun field member => (valid field member).2

/-- Every text lists its elements. -/
theorem lists_elements (list : String) : Lists (elements list) list := by
  obtain ⟨start, margin, whole, leading, trailing⟩ := Text.exists_margins list.toList
  obtain ⟨commas, split, dropped⟩ := Text.exists_trailing (· == ',') (trim list.toList)
  have separators : ∀ c ∈ commas, c = ',' := by simpa using dropped
  rw [elements]
  split
  · rename_i none
    rw [List.isEmpty_iff.mp none] at split
    refine ⟨start, [], commas, margin, ?_, .nil, leading, separators, trailing⟩
    rw [whole, split]
    rfl
  · refine ⟨start, splitAt ',' (Text.dropTrailing (· == ',') (trim list.toList)), commas, margin,
      ?_, ?_, leading, separators, trailing⟩
    · rw [Text.join_splitAt, ← split, ← whole]
    · rw [List.forall₂_map_left_iff, List.forall₂_same]
      exact fun field _ => padded_trim field

end Splitting

section Sets

variable {observed allowed : List (List Char)}

/-- Elements are allowed if each of them is among those to be allowed, and either list is empty only
with the other. -/
theorem elementsAllowed_iff :
    elementsAllowed observed allowed = true ↔
      (∀ word ∈ observed, word ∈ allowed) ∧ (observed = [] ↔ allowed = []) := by
  cases observed with
  | nil => cases allowed <;> simp [elementsAllowed]
  | cons first others =>
      cases allowed with
      | nil => simp [elementsAllowed]
      | cons word words => simp [elementsAllowed]

/-- The comparison holds exactly if the elements of the observed text are allowed. -/
theorem validElements_holds_iff (subject observed expected : String) :
    Operator.validElements.Holds subject observed expected ↔
      (∀ word ∈ elements observed, word ∈ elements expected) ∧
        (elements observed = [] ↔ elements expected = []) :=
  elementsAllowed_iff

end Sets

/-- A text falls into elements exactly if it lists them. An observed text is compared with an
expected one by the sets of their elements: it may have no others, and if one of the two sets is
empty, both are. So the order of the elements does not matter, and whether there are some twice;
what holds one after another holds, and it still does if more elements are allowed. -/
theorem valid_elements_compare_sets (subject : String) :
    (∀ words list, (∀ word ∈ words, IsElement word) →
      (elements list = words ↔ Lists words list)) ∧
    (∀ observed expected, Operator.validElements.Holds subject observed expected ↔
      (∀ word ∈ elements observed, word ∈ elements expected) ∧
        (elements observed = [] ↔ elements expected = [])) ∧
    (∀ observed another expected other,
      (∀ word, word ∈ elements observed ↔ word ∈ elements another) →
      (∀ word, word ∈ elements expected ↔ word ∈ elements other) →
      (Operator.validElements.Holds subject observed expected ↔
        Operator.validElements.Holds subject another other)) ∧
    (∀ list, Operator.validElements.Holds subject list list) ∧
    (∀ first second third, Operator.validElements.Holds subject first second →
      Operator.validElements.Holds subject second third →
      Operator.validElements.Holds subject first third) ∧
    (∀ observed expected larger, elements expected ≠ [] →
      (∀ word ∈ elements expected, word ∈ elements larger) →
      Operator.validElements.Holds subject observed expected →
      Operator.validElements.Holds subject observed larger) ∧
    (∀ observed expected, elements observed = [] ∨ elements expected = [] →
      (Operator.validElements.Holds subject observed expected ↔
        elements observed = [] ∧ elements expected = [])) := by
  refine ⟨?lists, validElements_holds_iff subject, ?sets, ?refl, ?trans, ?larger, ?empty⟩
  case lists =>
    intro words list areElements
    constructor
    · rintro rfl
      exact lists_elements list
    · exact elements_of_lists areElements
  case sets =>
    intro observed another expected other same alike
    simp only [validElements_holds_iff, List.eq_nil_iff_forall_not_mem, same, alike]
  case refl =>
    intro list
    exact (validElements_holds_iff ..).mpr ⟨fun _ member => member, Iff.rfl⟩
  case trans =>
    intro first second third lower upper
    rw [validElements_holds_iff] at lower upper ⊢
    exact ⟨fun word member => upper.1 word (lower.1 word member), lower.2.trans upper.2⟩
  case larger =>
    intro observed expected larger nonempty more holds
    rw [validElements_holds_iff] at holds ⊢
    obtain ⟨word, member⟩ := List.exists_mem_of_ne_nil _ nonempty
    have given : elements larger ≠ [] := List.ne_nil_of_mem (more word member)
    exact ⟨fun word member => more word (holds.1 word member),
      iff_of_false (mt holds.2.mp nonempty) given⟩
  case empty =>
    intro observed expected empty
    rw [validElements_holds_iff]
    constructor
    · intro holds
      rcases empty with none | none
      · exact ⟨none, holds.2.mp none⟩
      · exact ⟨holds.2.mpr none, none⟩
    · rintro ⟨none, nothing⟩
      simp [none, nothing]

/-- Elements with blanks around them, in another order and twice, and more than are used. -/
theorem valid_elements_compare_sets_ciphers :
    let words := ["TLS_A".toList, "TLS_B".toList]
    (∀ word ∈ words, IsElement word) ∧ Lists words " TLS_A ,\tTLS_B ,, " ∧
    elements " TLS_A ,\tTLS_B ,, " = words ∧
    Operator.validElements.Holds "ciphers" "TLS_B,TLS_A,TLS_B" " TLS_A ,\tTLS_B ,, " ∧
    Operator.validElements.Holds "ciphers" " TLS_A ,\tTLS_B ,, " "TLS_A,TLS_B,TLS_C," ∧
    Operator.validElements.Holds "ciphers" "TLS_B,TLS_A,TLS_B" "TLS_A,TLS_B,TLS_C," ∧
    (Operator.validElements.Holds "ciphers" " ,, " "TLS_A" ↔
      elements " ,, " = [] ∧ elements "TLS_A" = []) := by
  intro words
  obtain ⟨falls, -, sets, refl, trans, larger, empty⟩ := valid_elements_compare_sets "ciphers"
  have areElements : ∀ word ∈ words, IsElement word := by
    simp only [words, List.forall_mem_cons, List.not_mem_nil, false_imp_iff, implies_true, and_true]
    have solid : isBlank 'T' = false ∧ isBlank 'A' = false ∧ isBlank 'B' = false := by decide
    exact ⟨⟨by decide, by decide, by simp [solid], by simp [solid]⟩,
      by decide, by decide, by simp [solid], by simp [solid]⟩
  have lists : Lists words " TLS_A ,\tTLS_B ,, " := by
    have space : ∀ c ∈ [' '], isBlank c = true := List.forall_mem_singleton.mpr rfl
    have tab : ∀ c ∈ ['\t'], isBlank c = true := List.forall_mem_singleton.mpr rfl
    refine ⟨[], [" TLS_A ".toList, "\tTLS_B ".toList], [',', ','], [' '], by decide, ?_, by simp,
      by simp, space⟩
    exact .cons ⟨[' '], [' '], rfl, space, space⟩ (.cons ⟨['\t'], [' '], rfl, tab, space⟩ .nil)
  have read := (falls words _ areElements).mpr lists
  have twice : elements "TLS_B,TLS_A,TLS_B" = ["TLS_B".toList, "TLS_A".toList, "TLS_B".toList] := by
    decide
  have more : elements "TLS_A,TLS_B,TLS_C," = words ++ ["TLS_C".toList] := by decide
  have same : Operator.validElements.Holds "ciphers" "TLS_B,TLS_A,TLS_B" " TLS_A ,\tTLS_B ,, " := by
    refine (sets _ _ _ _ (fun word => ?_) fun _ => Iff.rfl).mpr (refl " TLS_A ,\tTLS_B ,, ")
    simp only [twice, read, words, List.mem_cons, List.not_mem_nil, or_false]
    tauto
  have allowed : Operator.validElements.Holds "ciphers" " TLS_A ,\tTLS_B ,, "
      "TLS_A,TLS_B,TLS_C," := by
    refine larger _ _ _ (by simp [read, words]) (fun word member => ?_) (refl _)
    rw [read] at member
    exact more ▸ List.mem_append_left _ member
  exact ⟨areElements, lists, read, same, allowed, trans _ _ _ same allowed,
    empty " ,, " "TLS_A" (.inl (by decide))⟩

end Comparison

end HostAudit
