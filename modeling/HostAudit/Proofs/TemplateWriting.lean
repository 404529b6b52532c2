import HostAudit.Proofs.Numerals
import HostAudit.Proofs.QuotedSelectors
import Mathlib.Data.List.Chain

/-
This file writes templates, and proves that they are read as they were written. There are several
ways to write a step, and each step may be written in its own way.
-/

namespace HostAudit

/-- Partners are found for the items of a list if they are found for each item. -/
theorem exists_forall₂_iff {A B : Type} {R : A → B → Prop} {items : List A} :
    (∃ partners, List.Forall₂ R items partners) ↔ ∀ item ∈ items, ∃ partner, R item partner := by
  induction items with
  | nil => simp
  | cons item items ih =>
      rw [List.forall_mem_cons, ← ih]
      constructor
      · rintro ⟨_, matched⟩
        obtain ⟨partner, partners, first, others, -⟩ := List.forall₂_cons_left_iff.mp matched
        exact ⟨⟨partner, first⟩, partners, others⟩
      · rintro ⟨⟨partner, first⟩, partners, others⟩
        exact ⟨partner :: partners, .cons first others⟩

namespace Path

/-- A margin is made of blanks. -/
def IsMargin (text : List Char) : Prop := ∀ c ∈ text, Text.isBlank c = true

/-- A bound of a slice is a number or nothing. -/
def boundText : Option Int → List Char
  | none => []
  | some bound => Integer.chars bound

/-- Between brackets a name stands in quotes that do not occur in it, positions and bounds are
numbers of 64 bits, and a star stands for all children. -/
inductive Selector.Bracketed : Selector → List Char → Prop where
  | field {quote : Char} {name : String} (isQuote : IsQuote quote) (absent : quote ∉ name.toList) :
      Bracketed (.field name) (quote :: (name.toList ++ [quote]))
  | index {position : Int} (fits : Integer.fitsSigned position = true) :
      Bracketed (.index position) (Integer.chars position)
  | slice {first last : Option Int} (firstFits : ∀ bound ∈ first, Integer.fitsSigned bound = true)
      (lastFits : ∀ bound ∈ last, Integer.fitsSigned bound = true) :
      Bracketed (.slice first last) (boundText first ++ ':' :: boundText last)
  | wildcard : Bracketed .wildcard ['*']

/-- A name is bare if it holds no blanks, dots, opening brackets, braces and quotes, and does not
begin with a star. -/
structure IsBare (word : List Char) : Prop extends Part.IsName word where
  unquoted : ∀ c ∈ word, isBrace c = false ∧ ¬ IsQuote c

/-- A step is written in brackets with margins within, or behind a dot if it selects a bare name or
all children. Two dots go deep. -/
inductive Step.Written : Step → List Char → Prop where
  | bracket (deep : Bool) {selector : Selector} {before body after : List Char}
      (opening : IsMargin before) (bracketed : selector.Bracketed body) (closing : IsMargin after) :
      Written (selector.step deep)
        ((if deep then ['.', '.'] else []) ++ '[' :: (before ++ (body ++ after)) ++ [']'])
  | name (deep : Bool) {name : String} (bare : IsBare name.toList) :
      Written ((Selector.field name).step deep) (Part.dots deep ++ name.toList)
  | star (deep : Bool) : Written (Selector.wildcard.step deep) (Part.dots deep ++ ['*'])

/-- Text is written as it is. The steps of an expression are written one after another between
braces, with margins within and behind a dollar or not. -/
inductive Segment.Written : Segment → List Char → Prop where
  | text {content : String} (given : content ≠ "")
      (braceless : ∀ c ∈ content.toList, isBrace c = false) :
      Written (.text content) content.toList
  | expression (dollar : Bool) {before after : List Char} {steps : List Step}
      {texts : List (List Char)} (opening : IsMargin before)
      (written : List.Forall₂ Step.Written steps texts) (closing : IsMargin after) :
      Written (.expression steps)
        ('{' :: (before ++ ((if dollar then ['$'] else []) ++ texts.flatten ++ after)) ++ ['}'])

/-- Two texts side by side are one text. -/
def Segment.Apart : Segment → Segment → Prop
  | .text _, .text _ => False
  | _, _ => True

/-- The segments of a template are written one after another. -/
def Written (segments : List Segment) (text : List Char) : Prop :=
  segments.IsChain Segment.Apart ∧
    ∃ texts, List.Forall₂ Segment.Written segments texts ∧ text = texts.flatten

/-- The characters of positions and slices. -/
def IsNumeric (c : Char) : Prop := c = '-' ∨ c = ':' ∨ Integer.isDigit c = true

instance (c : Char) : Decidable (IsNumeric c) := inferInstanceAs (Decidable (_ ∨ _ ∨ _))

/-- What is no numeral differs from every numeral. -/
theorem IsNumeric.ne {c other : Char} (numeric : IsNumeric c) (different : ¬ IsNumeric other) :
    c ≠ other := fun same => different (same ▸ numeric)

/-- Numerals are not blank. -/
theorem IsNumeric.solid {c : Char} (numeric : IsNumeric c) : Text.isBlank c = false := by
  rcases numeric with rfl | rfl | digit
  · rfl
  · rfl
  · exact Integer.isBlank_of_isDigit digit

/-- A number is written with numerals and without a colon. -/
theorem IsNumeric.of_mem_chars {value : Int} {c : Char} (member : c ∈ Integer.chars value) :
    IsNumeric c ∧ c ≠ ':' := by
  rcases Integer.mem_chars member with rfl | digit
  · decide
  · exact ⟨.inr (.inr digit), by rintro rfl; cases digit⟩

/-- A bound is written with numerals and without a colon. -/
theorem IsNumeric.of_mem_boundText {bound : Option Int} {c : Char} (member : c ∈ boundText bound) :
    IsNumeric c ∧ c ≠ ':' := by
  cases bound with
  | none => cases member
  | some bound => exact of_mem_chars member

/-- A slice is written with numerals and a colon. -/
theorem isNumeric_slice {first last : Option Int} {c : Char}
    (member : c ∈ boundText first ++ ':' :: boundText last) : IsNumeric c := by
  rcases List.mem_append.mp member with inFirst | behind
  · exact (IsNumeric.of_mem_boundText inFirst).1
  · rcases List.mem_cons.mp behind with rfl | inLast
    · decide
    · exact (IsNumeric.of_mem_boundText inLast).1

section Selectors

variable {selector : Selector} {body before after : List Char}

/-- There is nothing to trim around numerals. -/
theorem trim_numeric (numeric : ∀ c ∈ body, IsNumeric c) : Text.trim body = body :=
  Text.trim_of_solid (fun c first => (numeric c (List.mem_of_mem_head? first)).solid)
    fun c last => (numeric c (List.mem_of_mem_getLast? last)).solid

/-- A body with characters of numbers only is a slice if it holds a colon, and else a position. -/
theorem selector?_numeric {inside : List Char} (trimmed : Text.trim inside = body)
    (numeric : ∀ c ∈ body, IsNumeric c) :
    (∀ position, Text.breakOn [':'] body = none → Integer.int64? 10 body = some position →
      selector? inside = .ok (.index position)) ∧
    ∀ before after first last, Text.breakOn [':'] body = some (before, after) →
      bound? before = some first → bound? after = some last →
        selector? inside = .ok (.slice first last) := by
  have absent {c : Char} (different : ¬ IsNumeric c) : body.head? ≠ some c :=
    fun first => different (numeric c (List.mem_of_mem_head? first))
  have noMark : body.head? ≠ some '?' := absent (by decide)
  have starless : body ≠ ['*'] := fun star => @absent '*' (by decide) (by rw [star]; rfl)
  have unquoted : unquoted? body = none := by
    cases body with
    | nil => rfl
    | cons c rest =>
        refine if_neg fun quoted => ?_
        rcases quoted.1 with rfl | rfl
        · exact absent (by decide) rfl
        · exact absent (by decide) rfl
  constructor
  · intro position whole read
    simp only [selector?, trimmed, noMark, starless, unquoted, whole, read, if_false]
  · intro before after first last cut readFirst readLast
    simp only [selector?, trimmed, noMark, starless, unquoted, cut, readFirst, readLast, if_false]

/-- A bound is read as it was written. -/
theorem bound?_boundText {bound : Option Int}
    (fits : ∀ value ∈ bound, Integer.fitsSigned value = true) :
    bound? (boundText bound) = some bound := by
  have trimmed : Text.trim (boundText bound) = boundText bound :=
    trim_numeric fun c member => (IsNumeric.of_mem_boundText member).1
  rw [bound?, trimmed]
  cases bound with
  | none => rfl
  | some value => simp [boundText, Integer.chars_ne_nil, Integer.int64?_chars (fits value rfl)]

/-- What is written of a selector has no blanks at its ends. -/
theorem Selector.Bracketed.trim_eq (bracketed : selector.Bracketed body) :
    Text.trim body = body := by
  cases bracketed with
  | @field quote name isQuote absent =>
      have solid : Text.isBlank quote = false := by rcases isQuote with rfl | rfl <;> rfl
      rw [← List.cons_append]
      exact Text.trim_of_solid (by simp [solid]) (by rw [List.getLast?_concat]; simp [solid])
  | index fits => exact trim_numeric fun c member => (IsNumeric.of_mem_chars member).1
  | slice firstFits lastFits => exact trim_numeric fun c => isNumeric_slice
  | wildcard => rfl

/-- A selector is read from what is written of it, with margins or without. -/
theorem Selector.Bracketed.selector?_eq (bracketed : selector.Bracketed body)
    (opening : IsMargin before) (closing : IsMargin after) :
    selector? (before ++ (body ++ after)) = .ok selector := by
  have trimmed := (Text.trim_append opening closing body).trans bracketed.trim_eq
  cases bracketed with
  | @field quote name isQuote absent =>
      exact (selector?_quote_eq_ok_iff isQuote trimmed).mpr
        ⟨name.toList, rfl, by rw [String.ofList_toList]⟩
  | @index position fits =>
      have whole : Text.breakOn [':'] (Integer.chars position) = none := by
        rw [Text.breakOn_eq_none_iff, List.singleton_infix_iff]
        exact fun colon => (IsNumeric.of_mem_chars colon).2 rfl
      have numeric : ∀ c ∈ Integer.chars position, IsNumeric c :=
        fun c member => (IsNumeric.of_mem_chars member).1
      exact (selector?_numeric trimmed numeric).1 position whole (Integer.int64?_chars fits)
  | @slice first last firstFits lastFits =>
      have whole : ':' ∉ boundText first := fun colon => (IsNumeric.of_mem_boundText colon).2 rfl
      have cut := Text.breakOn_separator whole (boundText last)
      exact (selector?_numeric trimmed fun c => isNumeric_slice).2 _ _ first last cut
        (bound?_boundText firstFits) (bound?_boundText lastFits)
  | wildcard =>
      rw [selector?, trimmed]
      rfl

end Selectors

section Shields

variable {close : Char} {text : List Char}

/-- A text without quotes and closing characters is shielded. -/
theorem Shielded.of_plain (plain : ∀ c ∈ text, c ≠ close ∧ ¬ IsQuote c) :
    Shielded close none text := by
  induction text with
  | nil => exact nil_iff.mpr rfl
  | cons c text ih =>
      obtain ⟨⟨differs, unquoted⟩, plain⟩ := List.forall_mem_cons.mp plain
      have outside : nextQuote none c = none := if_neg unquoted
      rw [cons_iff, outside]
      exact ⟨fun same => absurd same differs, ih plain⟩

/-- Quotes shield what stands between them. -/
theorem Shielded.between {quote : Char} (isQuote : IsQuote quote) (opens : quote ≠ close)
    (absent : quote ∉ text) : Shielded close none (quote :: (text ++ [quote])) := by
  have inside : nextQuote none quote = some quote := if_pos isQuote
  rw [cons_iff, inside]
  refine ⟨fun same => absurd same opens, ?_⟩
  induction text with
  | nil => exact cons_iff.mpr ⟨fun _ => Option.some_ne_none _, nil_iff.mpr (if_pos rfl)⟩
  | cons c text ih =>
      obtain ⟨differs, absent⟩ := List.ne_and_not_mem_of_not_mem_cons absent
      have stays : nextQuote (some quote) c = some quote := if_neg differs.symm
      rw [List.cons_append, cons_iff, stays]
      exact ⟨fun _ => Option.some_ne_none _, ih absent⟩

/-- Blanks are shielded. -/
theorem IsMargin.shielded (margin : IsMargin text) (closes : Text.isBlank close = false) :
    Shielded close none text := by
  refine .of_plain fun c member => ⟨?_, ?_⟩
  · rintro rfl
    rw [margin c member] at closes
    cases closes
  · rintro (rfl | rfl) <;> cases margin _ member

/-- Numerals are shielded. -/
theorem shielded_numeric (numeric : ∀ c ∈ text, IsNumeric c) (closes : ¬ IsNumeric close) :
    Shielded close none text := by
  refine .of_plain fun c member => ⟨(numeric c member).ne closes, ?_⟩
  rintro (rfl | rfl)
  · exact absurd (numeric _ member) (by decide)
  · exact absurd (numeric _ member) (by decide)

/-- In a selector a closing character stands in quotes if at all. -/
theorem Selector.Bracketed.shielded {selector : Selector} (bracketed : selector.Bracketed text)
    (closes : ¬ IsNumeric close) (differs : ¬ IsQuote close) (noStar : close ≠ '*') :
    Shielded close none text := by
  cases bracketed with
  | field isQuote absent => exact .between isQuote (fun same => differs (same ▸ isQuote)) absent
  | index fits => exact shielded_numeric (fun c member => (IsNumeric.of_mem_chars member).1) closes
  | slice firstFits lastFits => exact shielded_numeric (fun c => isNumeric_slice) closes
  | wildcard => exact .of_plain (by simpa [IsQuote] using noStar.symm)

end Shields

section Steps

variable {step : Step} {text : List Char}

/-- What is written of a step is shielded. -/
theorem Step.Written.shielded (written : step.Written text) : Shielded '}' none text := by
  have dots (deep : Bool) : Shielded '}' none (Part.dots deep) := by
    cases deep <;> exact .of_plain (by simp [Part.dots, IsQuote])
  cases written with
  | @bracket deep selector before body after opening bracketed closing =>
      have lead : Shielded '}' none ((if deep then ['.', '.'] else []) ++ ['[']) := by
        cases deep <;> exact .of_plain (by simp [IsQuote])
      have inner : Shielded '}' none body :=
        bracketed.shielded (by decide) (by decide) (by decide)
      have tail : Shielded '}' none [']'] := .of_plain (by simp [IsQuote])
      have body := (opening.shielded rfl).append (inner.append (closing.shielded rfl))
      simpa using (lead.append body).append tail
  | @name deep word bare =>
      refine (dots deep).append (.of_plain fun c member => ?_)
      have solid := bare.unquoted c member
      exact ⟨by rintro rfl; exact absurd solid.1 (by decide), solid.2⟩
  | star deep => exact (dots deep).append (.of_plain (by simp [IsQuote]))

/-- There is no blank at the end of what is written of a step. -/
theorem Step.Written.last (written : step.Written text) :
    ∀ c ∈ text.getLast?, Text.isBlank c = false := by
  cases written with
  | bracket deep opening bracketed closing =>
      rw [List.getLast?_concat]
      simp [Text.isBlank]
  | @name deep word bare =>
      intro c last
      rw [List.getLast?_append, List.getLast?_eq_some_getLast bare.named, Option.some_or] at last
      obtain rfl : word.toList.getLast bare.named = c := Option.some.inj last
      exact (bare.solid _ (List.getLast_mem _)).2
  | star deep =>
      rw [List.getLast?_concat]
      simp [Text.isBlank]

/-- What is written of a step is a part of an expression. -/
theorem Step.Written.exists_part (written : step.Written text) :
    ∃ part : Part, part.Valid ∧ part.text = text ∧ part.step? = some step ∧
      ∀ rest, (∀ c ∈ List.head? rest, endsName c = true) → part.Precedes rest := by
  cases written with
  | @bracket deep selector before body after opening bracketed closing =>
      have inner : Shielded ']' none body :=
        bracketed.shielded (by decide) (by decide) (by decide)
      have shielded := (opening.shielded rfl).append (inner.append (closing.shielded rfl))
      exact ⟨.bracket deep (before ++ (body ++ after)) selector,
        ⟨shielded, bracketed.selector?_eq opening closing⟩, rfl, rfl, fun _ _ => trivial⟩
  | @name deep name bare =>
      refine ⟨.name deep name.toList, bare.toIsName, rfl, ?_, fun _ ends => ends⟩
      rw [Part.step?, String.ofList_toList]
  | star deep => exact ⟨.star deep, trivial, rfl, rfl, fun _ _ => trivial⟩

variable {steps : List Step} {texts : List (List Char)}

/-- What is written of steps is a layout of parts that stand for them. -/
theorem exists_parts (written : List.Forall₂ Step.Written steps texts) :
    ∃ parts, Part.Fill parts texts.flatten ∧ Part.steps parts = steps := by
  induction written with
  | nil => exact ⟨[], rfl, rfl⟩
  | cons first _ ih =>
      obtain ⟨parts, fill, rfl⟩ := ih
      obtain ⟨part, valid, rfl, stands, precedes⟩ := first.exists_part
      refine ⟨part :: parts, ⟨valid, _, rfl, precedes _ (Part.head?_of_fill fill), fill⟩, ?_⟩
      rw [Part.steps, List.flatMap_cons, stands]
      rfl

/-- What is written of steps is shielded. -/
theorem shielded_steps (written : List.Forall₂ Step.Written steps texts) :
    Shielded '}' none texts.flatten := by
  induction written with
  | nil => exact Shielded.nil_iff.mpr rfl
  | cons first _ ih => exact first.shielded.append ih

/-- Two texts that do not end in blanks do not so together. -/
theorem last_append {first second : List Char}
    (firstSolid : ∀ c ∈ first.getLast?, Text.isBlank c = false)
    (secondSolid : ∀ c ∈ second.getLast?, Text.isBlank c = false) :
    ∀ c ∈ (first ++ second).getLast?, Text.isBlank c = false := by
  intro c last
  rw [List.getLast?_append] at last
  cases behind : second.getLast? with
  | some other =>
      rw [behind] at last
      exact secondSolid c (behind.trans last)
  | none =>
      rw [behind, Option.none_or] at last
      exact firstSolid c last

/-- What is written of steps does not end in a blank. -/
theorem last_steps (written : List.Forall₂ Step.Written steps texts) :
    ∀ c ∈ texts.flatten.getLast?, Text.isBlank c = false := by
  induction written with
  | nil => simp
  | cons first _ ih => exact last_append first.last ih

/-- There are no blanks at the ends of what is written of steps, behind a dollar or not. -/
theorem trim_steps (written : List.Forall₂ Step.Written steps texts) (dollar : Bool) :
    Text.trim ((if dollar then ['$'] else []) ++ texts.flatten) =
      (if dollar then ['$'] else []) ++ texts.flatten := by
  have last := last_steps written
  cases dollar with
  | true =>
      have sign : ∀ c ∈ ['$'].getLast?, Text.isBlank c = false := by simp [Text.isBlank]
      exact Text.trim_of_solid (by simp [Text.isBlank]) (last_append sign last)
  | false =>
      obtain ⟨parts, fill, -⟩ := exists_parts written
      refine Text.trim_of_solid (fun c first => ?_) last
      have ends := Part.head?_of_fill fill c first
      obtain rfl | rfl : c = '.' ∨ c = '[' := by simpa [endsName] using ends
      · rfl
      · rfl

end Steps

section Segments

variable {segment : Segment} {text : List Char}

/-- What is written of a segment is a piece of a template. -/
theorem Segment.Written.exists_piece (written : segment.Written text) :
    ∃ piece : Piece, piece.Valid ∧ piece.text = text ∧ piece.segment = segment := by
  cases written with
  | @text content given braceless =>
      refine ⟨.plain content.toList, ⟨by simpa using given, braceless⟩, rfl, ?_⟩
      rw [Piece.segment, String.ofList_toList]
  | @expression dollar before after steps texts opening written closing =>
      obtain ⟨parts, fill, rfl⟩ := exists_parts written
      have sign : Shielded '}' none (if dollar then ['$'] else []) := by
        cases dollar <;> exact .of_plain (by simp [IsQuote])
      have shielded := (opening.shielded rfl).append
        ((sign.append (shielded_steps written)).append (closing.shielded rfl))
      refine ⟨.expression _ parts, ⟨shielded, texts.flatten, fill, ?_⟩, rfl, rfl⟩
      rw [Text.trim_append opening closing, trim_steps written]
      cases dollar
      · exact .inl rfl
      · exact .inr rfl

/-- A text is followed by a segment that begins with a brace. -/
theorem Segment.Written.head_of_apart {content : String} (written : segment.Written text)
    (apart : (Segment.text content).Apart segment) : ∃ rest, text = '{' :: rest := by
  cases written with
  | text given braceless => exact apart.elim
  | expression dollar opening written closing => exact ⟨_, rfl⟩

variable {segments : List Segment} {texts : List (List Char)}

/-- What is written of segments may follow a piece that is apart from the first. -/
theorem precedes_of_isChain {piece : Piece}
    (apart : (piece.segment :: segments).IsChain Segment.Apart)
    (written : List.Forall₂ Segment.Written segments texts) : piece.Precedes texts.flatten := by
  cases piece with
  | expression body parts => trivial
  | plain content =>
      cases written with
      | nil => exact fun c first => nomatch first
      | cons next others =>
          obtain ⟨rest, rfl⟩ := next.head_of_apart (List.isChain_cons_cons.mp apart).1
          intro c first
          obtain rfl : '{' = c := Option.some.inj first
          rfl

/-- What is written of segments is laid out in pieces that stand for them. -/
theorem exists_pieces (written : List.Forall₂ Segment.Written segments texts)
    (apart : segments.IsChain Segment.Apart) :
    ∃ pieces, Piece.Fill pieces texts.flatten ∧ pieces.map Piece.segment = segments := by
  induction written with
  | nil => exact ⟨[], rfl, rfl⟩
  | cons first others ih =>
      obtain ⟨pieces, fill, same⟩ := ih apart.tail
      obtain ⟨piece, valid, rfl, rfl⟩ := first.exists_piece
      refine ⟨piece :: pieces, ⟨valid, _, rfl, precedes_of_isChain apart others, fill⟩, ?_⟩
      rw [List.map_cons, same]

end Segments

section Writable

/-- A selector can be written if one of the quotes does not occur in its name, and its numbers have
64 bits. -/
def Selector.Writable : Selector → Prop
  | field name => ∃ quote, IsQuote quote ∧ quote ∉ name.toList
  | index position => Integer.fitsSigned position = true
  | slice first last =>
      (∀ bound ∈ first, Integer.fitsSigned bound = true) ∧
        ∀ bound ∈ last, Integer.fitsSigned bound = true
  | wildcard => True

def Step.Writable : Step → Prop
  | child selector => selector.Writable
  | descend selector => selector.Writable

def Segment.Writable : Segment → Prop
  | text content => content ≠ "" ∧ ∀ c ∈ content.toList, isBrace c = false
  | expression steps => ∀ step ∈ steps, step.Writable

/-- A selector is writable exactly if there is a body for it. -/
theorem Selector.writable_iff {selector : Selector} :
    selector.Writable ↔ ∃ body, selector.Bracketed body := by
  constructor
  · intro writable
    cases selector with
    | field name =>
        obtain ⟨quote, isQuote, absent⟩ := writable
        exact ⟨_, .field isQuote absent⟩
    | index position => exact ⟨_, .index writable⟩
    | slice first last => exact ⟨_, .slice writable.1 writable.2⟩
    | wildcard => exact ⟨_, .wildcard⟩
  · rintro ⟨body, bracketed⟩
    cases bracketed with
    | field isQuote absent => exact ⟨_, isQuote, absent⟩
    | index fits => exact fits
    | slice firstFits lastFits => exact ⟨firstFits, lastFits⟩
    | wildcard => trivial

/-- Descending makes no difference to whether a selector can be written. -/
theorem Step.writable_step (deep : Bool) (selector : Selector) :
    (selector.step deep).Writable ↔ selector.Writable := by cases deep <;> rfl

/-- A step is writable exactly if something can be written of it. -/
theorem Step.writable_iff {step : Step} : step.Writable ↔ ∃ text, step.Written text := by
  constructor
  · intro writable
    obtain ⟨deep, selector, rfl⟩ : ∃ deep selector, Selector.step deep selector = step := by
      cases step with
      | child selector => exact ⟨false, selector, rfl⟩
      | descend selector => exact ⟨true, selector, rfl⟩
    obtain ⟨body, bracketed⟩ := Selector.writable_iff.mp ((writable_step deep selector).mp writable)
    have margin : IsMargin [] := fun c member => nomatch member
    exact ⟨_, .bracket deep margin bracketed margin⟩
  · rintro ⟨text, written⟩
    cases written with
    | bracket deep opening bracketed closing =>
        exact (writable_step deep _).mpr (Selector.writable_iff.mpr ⟨_, bracketed⟩)
    | name deep bare =>
        refine (writable_step deep _).mpr ⟨'"', .inr rfl, fun member => ?_⟩
        exact (bare.unquoted _ member).2 (.inr rfl)
    | star deep => exact (writable_step deep _).mpr trivial

/-- A segment is writable exactly if something can be written of it. -/
theorem Segment.writable_iff {segment : Segment} :
    segment.Writable ↔ ∃ text, segment.Written text := by
  constructor
  · intro writable
    cases segment with
    | text content => exact ⟨_, .text writable.1 writable.2⟩
    | expression steps =>
        obtain ⟨texts, written⟩ := exists_forall₂_iff.mpr fun step among =>
          Step.writable_iff.mp (writable step among)
        have margin : IsMargin [] := fun c member => nomatch member
        exact ⟨_, .expression false margin written margin⟩
  · rintro ⟨text, written⟩
    cases written with
    | text given braceless => exact ⟨given, braceless⟩
    | expression dollar opening written closing =>
        exact fun step among =>
          Step.writable_iff.mpr (exists_forall₂_iff.mp ⟨_, written⟩ step among)

end Writable

/-- What is written of segments, in whichever way, is read as these segments. Segments can be
written if no two texts stand side by side and each segment can be written, whatever its name. -/
theorem reading_undoes_writing :
    (∀ segments source, Written segments source.toList →
      Template.read? source = .ok ⟨source, segments⟩) ∧
    ∀ segments, (∃ source : String, Written segments source.toList) ↔
      segments.IsChain Segment.Apart ∧ ∀ segment ∈ segments, segment.Writable := by
  refine ⟨?read, fun segments => ⟨?writable, ?write⟩⟩
  case read =>
    rintro segments source ⟨apart, texts, written, whole⟩
    obtain ⟨pieces, fill, rfl⟩ := exists_pieces written apart
    exact Template.read?_eq_ok_iff.mpr ⟨pieces, whole ▸ fill, rfl⟩
  case writable =>
    rintro ⟨source, apart, texts, written, -⟩
    exact ⟨apart, fun segment among =>
      Segment.writable_iff.mpr (exists_forall₂_iff.mp ⟨texts, written⟩ segment among)⟩
  case write =>
    rintro ⟨apart, writable⟩
    obtain ⟨texts, written⟩ := exists_forall₂_iff.mpr fun segment among =>
      Segment.writable_iff.mp (writable segment among)
    exact ⟨String.ofList texts.flatten, apart, texts, written, String.toList_ofList⟩

/-- A template whose quoted name holds a closing brace, a closing bracket and the other quote. -/
def shieldedSource : String := "at \x7b $.spec..[\"a\x7d]'\"][ -1: ].*\x7d"

def shieldedSegments : List Segment :=
  [.text "at ", .expression [.child (.field "spec"), .descend (.field "a\x7d]'"),
    .child (.slice (some (-1)) none), .child .wildcard]]

/-- Closing characters between quotes belong to the name. -/
theorem reading_undoes_writing_shielded :
    Written shieldedSegments shieldedSource.toList ∧
    Template.read? shieldedSource = .ok ⟨shieldedSource, shieldedSegments⟩ ∧
    ∀ segment ∈ shieldedSegments, segment.Writable := by
  have blank : IsMargin [' '] := by simp [IsMargin, Text.isBlank]
  have nothing : IsMargin [] := List.forall_mem_nil _
  have bare : IsBare "spec".toList := ⟨⟨by decide, by decide, by simp [endsName, Text.isBlank]⟩,
    by simp [isBrace, IsQuote]⟩
  have spec : Step.Written (.child (.field "spec")) ".spec".toList := .name false bare
  have field : Step.Written (.descend (.field "a\x7d]'")) "..[\"a\x7d]'\"]".toList :=
    .bracket true nothing (.field (.inr rfl) (by decide)) nothing
  have slice : Step.Written (.child (.slice (some (-1)) none)) "[ -1: ]".toList :=
    .bracket false blank (.slice (by decide) (by decide)) blank
  have star : Step.Written (.child .wildcard) ".*".toList := .star false
  have steps := List.Forall₂.cons spec (.cons field (.cons slice (.cons star .nil)))
  have written : Written shieldedSegments shieldedSource.toList :=
    ⟨by simp [shieldedSegments, Segment.Apart], _, .cons (.text (by decide) (by simp [isBrace]))
      (.cons (.expression true blank steps nothing) .nil), rfl⟩
  obtain ⟨reads, writes⟩ := reading_undoes_writing
  exact ⟨written, reads _ _ written, ((writes _).mp ⟨_, written⟩).2⟩

end Path

end HostAudit
