import HostAudit.Proofs.Occurrence
import HostAudit.Proofs.TemplateLayout

/-
This file says what a bracket selects whose body begins with a quote: the field whose name stands
between that quote and the same quote at the end. No template holds any other such bracket. The name
may hold the quote as well, so several names between quotes are taken for one.
-/

namespace HostAudit

/-- Trimming keeps the first character if it is not blank. -/
theorem Text.trim_cons {c : Char} (solid : isBlank c = false) (rest : List Char) :
    ∃ tail, trim (c :: rest) = c :: tail := by
  have kept : (c :: rest).dropWhile isBlank = c :: rest := by simp [solid]
  rw [trim, kept]
  induction rest using List.reverseRecOn with
  | nil => exact ⟨[], by simp [dropTrailing, solid]⟩
  | append_singleton rest d ih =>
      rw [← List.cons_append, dropTrailing_append_singleton]
      split
      · exact ih (by simp [solid])
      · exact ⟨rest ++ [d], rfl⟩

/-- A text is cut at the first of its separators. -/
theorem Text.breakOn_separator {separator : Char} {before : List Char} (absent : separator ∉ before)
    (after : List Char) :
    breakOn [separator] (before ++ separator :: after) = some (before, after) := by
  induction before with
  | nil => simp [breakOn, after?]
  | cons c before ih =>
      obtain ⟨differs, absent⟩ := List.ne_and_not_mem_of_not_mem_cons absent
      simp [breakOn, after?, differs, ih absent]

namespace Path

/-- The characters that names are put between. -/
def IsQuote (c : Char) : Prop := c = '\'' ∨ c = '"'

instance (c : Char) : Decidable (IsQuote c) := inferInstanceAs (Decidable (_ ∨ _))

section Selectors

variable {quote : Char} {inside rest : List Char} {selector : Selector}

/-- No number begins with a quote. -/
theorem int64?_quote (isQuote : IsQuote quote) (rest : List Char) :
    Integer.int64? 10 (quote :: rest) = none := by
  rcases isQuote with rfl | rfl <;> rfl

/-- No bound begins with a quote. -/
theorem bound?_quote (isQuote : IsQuote quote) (rest : List Char) :
    bound? (quote :: rest) = none := by
  have solid : Text.isBlank quote = false := by rcases isQuote with rfl | rfl <;> rfl
  obtain ⟨tail, trimmed⟩ := Text.trim_cons solid rest
  rw [bound?, trimmed, int64?_quote isQuote]
  rfl

/-- A body that begins with a quote is read as a name if it ends with the same quote. -/
theorem selector?_quote (isQuote : IsQuote quote) (begins : Text.trim inside = quote :: rest) :
    selector? inside =
      if rest.getLast? = some quote then .ok (.field (String.ofList rest.dropLast))
      else if ':' ∈ rest then .error (.invalidSlice (String.ofList (Text.trim inside)))
      else .error (.invalidIndex (String.ofList (Text.trim inside))) := by
  have noMark : quote ≠ '?' := by rcases isQuote with rfl | rfl <;> decide
  have noStar : quote ≠ '*' := by rcases isQuote with rfl | rfl <;> decide
  have noColon : quote ≠ ':' := by rcases isQuote with rfl | rfl <;> decide
  have quoted : unquoted? (quote :: rest) =
      if rest.getLast? = some quote then some rest.dropLast else none := by
    rw [unquoted?]
    exact if_congr (and_iff_right isQuote) rfl rfl
  rw [selector?, begins, quoted]
  simp only [List.head?_cons, Option.some.injEq, noMark, if_false, List.cons.injEq, noStar,
    false_and]
  by_cases ends : rest.getLast? = some quote
  · rw [if_pos ends, if_pos ends]
  · rw [if_neg ends, if_neg ends]
    by_cases colon : ':' ∈ rest
    · obtain ⟨front, back, rfl, absent⟩ := List.eq_append_cons_of_mem colon
      have further := List.not_mem_cons_of_ne_of_not_mem noColon.symm absent
      have cut := Text.breakOn_separator further back
      rw [List.cons_append] at cut
      rw [cut, if_pos colon]
      simp only [bound?_quote isQuote]
    · have whole : Text.breakOn [':'] (quote :: rest) = none := by
        rw [Text.breakOn_eq_none_iff, List.singleton_infix_iff]
        exact List.not_mem_cons_of_ne_of_not_mem noColon.symm colon
      rw [whole, if_neg colon]
      simp only [int64?_quote isQuote]

/-- A bracket that begins with a quote is a name exactly if it ends in the same quote. -/
theorem selector?_quote_eq_ok_iff (isQuote : IsQuote quote)
    (begins : Text.trim inside = quote :: rest) :
    selector? inside = .ok selector ↔
      ∃ word, rest = word ++ [quote] ∧ selector = .field (String.ofList word) := by
  rw [selector?_quote isQuote begins]
  constructor
  · intro read
    split at read
    · rename_i ends
      obtain ⟨word, rfl⟩ := List.getLast?_eq_some_iff.mp ends
      refine ⟨word, rfl, ?_⟩
      rw [← Except.ok.inj read, List.dropLast_concat]
    · split at read <;> cases read
  · rintro ⟨word, rfl, rfl⟩
    simp

end Selectors

section Layouts

/-- All parts of a layout are read as they are written. -/
theorem Part.valid_of_fill {parts : List Part} {text : List Char} (fill : Part.Fill parts text)
    {part : Part} (inside : part ∈ parts) : part.Valid := by
  induction parts generalizing text with
  | nil => cases inside
  | cons first parts ih =>
      obtain ⟨valid, rest, -, -, fill⟩ := fill
      rcases List.mem_cons.mp inside with rfl | further
      · exact valid
      · exact ih fill further

/-- All pieces of a layout are read as they are written. -/
theorem Piece.valid_of_fill {pieces : List Piece} {text : List Char} (fill : Piece.Fill pieces text)
    {piece : Piece} (inside : piece ∈ pieces) : piece.Valid := by
  induction pieces generalizing text with
  | nil => cases inside
  | cons first pieces ih =>
      obtain ⟨valid, rest, -, -, fill⟩ := fill
      rcases List.mem_cons.mp inside with rfl | further
      · exact valid
      · exact ih fill further

/-- A bracket between these brackets stands in an expression of a template, and is read as this
selector. -/
def Brackets (pieces : List Piece) (inside : List Char) (selector : Selector) : Prop :=
  ∃ body parts deep, .expression body parts ∈ pieces ∧ .bracket deep inside selector ∈ parts

/-- A bracket in a layout is read as the layout says. -/
theorem Brackets.selector?_eq {pieces : List Piece} {text inside : List Char} {selector : Selector}
    (brackets : Brackets pieces inside selector) (fill : Piece.Fill pieces text) :
    selector? inside = .ok selector := by
  obtain ⟨body, parts, deep, among, within⟩ := brackets
  obtain ⟨-, spelled, filled, -⟩ := Piece.valid_of_fill fill among
  exact (Part.valid_of_fill filled within).2

end Layouts

/-- The texts that are templates are those in which pieces stand. In a template a bracket whose body
begins with a quote ends with the same quote, and selects the field whose name stands in between.
This goes for every name, whether it holds the quote or not, and a body that ends otherwise is
malformed. -/
theorem quoted_bracket_names_field (source : String) :
    (∀ template, Template.read? source = .ok template ↔
      ∃ pieces, Piece.Fill pieces source.toList ∧
        template = ⟨source, pieces.map Piece.segment⟩) ∧
    (∀ pieces, Piece.Fill pieces source.toList → ∀ inside selector,
      Brackets pieces inside selector → ∀ quote rest, IsQuote quote →
        Text.trim inside = quote :: rest →
          ∃ word, rest = word ++ [quote] ∧ selector = .field (String.ofList word)) ∧
    ∀ quote, IsQuote quote → ∀ inside rest, Text.trim inside = quote :: rest →
      (∀ word, rest = word ++ [quote] →
        selector? inside = .ok (.field (String.ofList word))) ∧
      (rest.getLast? ≠ some quote → ∃ fault, selector? inside = .error fault ∧
        (fault = .invalidSlice (String.ofList (Text.trim inside)) ∨
          fault = .invalidIndex (String.ofList (Text.trim inside)))) := by
  refine ⟨fun template => Template.read?_eq_ok_iff, ?names, ?bodies⟩
  case names =>
    intro pieces fill inside selector brackets quote rest isQuote begins
    exact (selector?_quote_eq_ok_iff isQuote begins).mp (brackets.selector?_eq fill)
  case bodies =>
    intro quote isQuote inside rest begins
    refine ⟨fun word ends => ?_, fun differs => ?_⟩
    · exact (selector?_quote_eq_ok_iff isQuote begins).mpr ⟨word, ends, rfl⟩
    · rw [selector?_quote isQuote begins, if_neg differs]
      split
      · exact ⟨_, rfl, .inl rfl⟩
      · exact ⟨_, rfl, .inr rfl⟩

/-- A bracket with a body. -/
def bracketText (inside : List Char) : List Char := '[' :: inside ++ [']']

/-- The layout of a template that holds nothing but such a bracket. -/
def bracketAlone (inside : List Char) (selector : Selector) : List Piece :=
  [.expression (bracketText inside) [.bracket false inside selector]]

/-- An expression that is a single bracket fills its layout. -/
theorem fill_bracketAlone {inside : List Char} {selector : Selector}
    (shielded : takeUntil ']' none (inside ++ [']']) = some (inside, []))
    (enclosed : takeUntil '}' none (bracketText inside ++ ['}']) = some (bracketText inside, []))
    (trimmed : Text.trim (bracketText inside) = bracketText inside)
    (read : selector? inside = .ok selector) :
    Piece.Fill (bracketAlone inside selector) ('{' :: bracketText inside ++ ['}']) := by
  have bracket : Part.Fill [.bracket false inside selector] (bracketText inside) :=
    ⟨⟨(takeUntil_eq_some_iff.mp shielded).2, read⟩, [], by simp [Part.text, bracketText], trivial,
      rfl⟩
  exact ⟨⟨(takeUntil_eq_some_iff.mp enclosed).2, _, bracket, .inl trimmed⟩, [],
    by simp [Piece.text], trivial, rfl⟩

/-- The bracket stands in this layout. -/
theorem brackets_bracketAlone (inside : List Char) (selector : Selector) :
    Brackets (bracketAlone inside selector) inside selector :=
  ⟨_, _, _, List.mem_cons_self, List.mem_cons_self⟩

/-- A name between quotes may hold dots and slashes, but has to end in the quote it began with. -/
theorem quoted_bracket_names_field_label :
    Template.read? "\x7b['app.io/name']\x7d" =
      .ok ⟨"\x7b['app.io/name']\x7d", [.expression [.child (.field "app.io/name")]]⟩ ∧
    Piece.Fill (bracketAlone "'app.io/name'".toList (.field "app.io/name"))
      "\x7b['app.io/name']\x7d".toList ∧
    Brackets (bracketAlone "'app.io/name'".toList (.field "app.io/name")) "'app.io/name'".toList
      (.field "app.io/name") ∧
    (∃ word, "app.io/name'".toList = word ++ ['\''] ∧
      Selector.field "app.io/name" = .field (String.ofList word)) ∧
    ∃ fault, selector? "'app.io/name\"".toList = .error fault := by
  have fill : Piece.Fill (bracketAlone "'app.io/name'".toList (.field "app.io/name"))
      "\x7b['app.io/name']\x7d".toList := fill_bracketAlone rfl rfl rfl rfl
  have brackets := brackets_bracketAlone "'app.io/name'".toList (.field "app.io/name")
  obtain ⟨reads, names, bodies⟩ := quoted_bracket_names_field "\x7b['app.io/name']\x7d"
  refine ⟨(reads _).mpr ⟨_, fill, rfl⟩, fill, brackets, ?_, ?_⟩
  · exact names _ fill _ _ brackets '\'' _ (.inl rfl) rfl
  · obtain ⟨-, malformed⟩ := bodies '\'' (.inl rfl) "'app.io/name\"".toList _ rfl
    obtain ⟨fault, malformed, -⟩ := malformed (by decide)
    exact ⟨fault, malformed⟩

/-- Two names in quotes, with a comma or a colon between them, are taken for one name. -/
theorem union_read_as_name :
    Template.read? "\x7b['a','b']\x7d" =
      .ok ⟨"\x7b['a','b']\x7d", [.expression [.child (.field "a','b")]]⟩ ∧
    Template.read? "\x7b['a':'b']\x7d" =
      .ok ⟨"\x7b['a':'b']\x7d", [.expression [.child (.field "a':'b")]]⟩ ∧
    Piece.Fill (bracketAlone "'a','b'".toList (.field "a','b")) "\x7b['a','b']\x7d".toList ∧
    Brackets (bracketAlone "'a','b'".toList (.field "a','b")) "'a','b'".toList (.field "a','b") ∧
    '\'' ∈ "a','b".toList :=
  ⟨rfl, rfl, fill_bracketAlone rfl rfl rfl rfl, brackets_bracketAlone _ _, by decide⟩

end Path

end HostAudit
