import HostAudit.Path.Reader
import HostAudit.Proofs.Answer
import HostAudit.Proofs.Pieces
import Mathlib.Data.List.TakeWhile

/-
This file says which texts are templates: those that can be laid out in pieces. A piece is text, or
an expression between braces, and an expression is laid out in parts, each of which stands for a
step. A template that is read is made of the pieces of its text.
-/

namespace HostAudit.Path

/-- Within a text the quotes are closed again, and each `close` stands in quotes. The quote that is
open at the start is `quote`. -/
structure Shielded (close : Char) (quote : Option Char) (text : List Char) : Prop where
  closed : text.foldl nextQuote quote = none
  quoted : ∀ before after, text = before ++ close :: after → before.foldl nextQuote quote ≠ none

namespace Shielded

variable {close : Char} {quote : Option Char} {text more : List Char}

/-- The empty text is shielded if no quote is open. -/
theorem nil_iff : Shielded close quote [] ↔ quote = none :=
  ⟨fun shielded => shielded.closed, fun none => ⟨none, by simp⟩⟩

/-- A first character that closes has to be quoted, and the rest is shielded behind it. -/
theorem cons_iff {c : Char} :
    Shielded close quote (c :: text) ↔
      (c = close → quote ≠ none) ∧ Shielded close (nextQuote quote c) text := by
  constructor
  · intro shielded
    refine ⟨fun same => shielded.quoted [] text (by rw [same]; rfl), shielded.closed, ?_⟩
    rintro before after rfl
    exact shielded.quoted (c :: before) after rfl
  · rintro ⟨first, closed, quoted⟩
    refine ⟨closed, fun before after same => ?_⟩
    cases before with
    | nil => exact first (List.cons.inj same).1
    | cons other before =>
        obtain ⟨rfl, rest⟩ := List.cons.inj same
        exact quoted before after rest

/-- Shielded texts are shielded together. -/
theorem append (first : Shielded close quote text) (second : Shielded close none more) :
    Shielded close quote (text ++ more) := by
  induction text generalizing quote with
  | nil => rwa [nil_iff.mp first]
  | cons c text ih =>
      obtain ⟨start, rest⟩ := cons_iff.mp first
      exact cons_iff.mpr ⟨start, ih rest⟩

end Shielded

/-- What is taken up to a `close` is shielded, and the `close` behind it is the first one that is
not. -/
theorem takeUntil_eq_some_iff {close : Char} {quote : Option Char} {text body after : List Char} :
    takeUntil close quote text = some (body, after) ↔
      text = body ++ close :: after ∧ Shielded close quote body := by
  induction text generalizing quote body with
  | nil => simp [takeUntil]
  | cons c rest ih =>
      rw [takeUntil]
      split
      · rename_i closes
        obtain ⟨unquoted, rfl⟩ := closes
        have none := Option.isNone_iff_eq_none.mp unquoted
        cases body with
        | nil => simp [Shielded.nil_iff, none, eq_comm]
        | cons other body =>
            simp only [Option.some.injEq, Prod.mk.injEq, List.nil_eq, reduceCtorEq, false_and,
              false_iff]
            rintro ⟨same, shielded⟩
            exact (Shielded.cons_iff.mp shielded).1 (List.cons.inj same).1.symm none
      · rename_i goes
        rw [Option.map_eq_some_iff]
        constructor
        · rintro ⟨⟨inner, remaining⟩, taken, same⟩
          obtain ⟨rfl, rfl⟩ := Prod.mk.inj same
          obtain ⟨rfl, shielded⟩ := ih.mp taken
          refine ⟨rfl, Shielded.cons_iff.mpr ⟨fun closes unquoted => ?_, shielded⟩⟩
          exact goes ⟨Option.isNone_iff_eq_none.mpr unquoted, closes⟩
        · rintro ⟨same, shielded⟩
          cases body with
          | nil =>
              have unquoted := Shielded.nil_iff.mp shielded
              exact absurd ⟨Option.isNone_iff_eq_none.mpr unquoted, (List.cons.inj same).1⟩ goes
          | cons other body =>
              obtain ⟨rfl, rest⟩ := List.cons.inj same
              exact ⟨(body, after), ih.mpr ⟨rest, (Shielded.cons_iff.mp shielded).2⟩, rfl⟩

/-- A step that picks at a node, or at a node and all nodes below it. -/
def Selector.step (deep : Bool) (selector : Selector) : Step :=
  if deep then .descend selector else .child selector

/-- A part of an expression: a dot alone, a star or a name behind dots, or a selector between
brackets. Two dots, or dots before a bracket, go deep. -/
inductive Part where
  | dot
  | star (deep : Bool)
  | name (deep : Bool) (word : List Char)
  | bracket (deep : Bool) (body : List Char) (selector : Selector)

namespace Part

def dots (deep : Bool) : List Char := if deep then ['.', '.'] else ['.']

def text : Part → List Char
  | dot => ['.']
  | star deep => dots deep ++ ['*']
  | name deep word => dots deep ++ word
  | bracket deep body _ => (if deep then ['.', '.'] else []) ++ '[' :: body ++ [']']

/-- The step that a part stands for. A dot alone stands for none. -/
def step? : Part → Option Step
  | dot => none
  | star deep => some (Selector.wildcard.step deep)
  | name deep word => some ((Selector.field (String.ofList word)).step deep)
  | bracket deep _ selector => some (selector.step deep)

/-- Behind dots a name may hold all but blanks, dots and opening brackets. A star at its start would
stand for itself. -/
structure IsName (word : List Char) : Prop where
  named : word ≠ []
  starless : word.head? ≠ some '*'
  solid : ∀ c ∈ word, endsName c = false ∧ Text.isBlank c = false

/-- The body of a bracket is shielded and tells the selector. -/
def Valid : Part → Prop
  | name _ word => IsName word
  | bracket _ body selector => Shielded ']' none body ∧ selector? body = .ok selector
  | _ => True

/-- What may follow a part. A dot alone is followed by a bracket. -/
def Precedes : Part → List Char → Prop
  | dot, rest => ∀ c ∈ rest.head?, c = '['
  | name _ _, rest => ∀ c ∈ rest.head?, endsName c = true
  | _, _ => True

end Part

section Steps

variable {text rest : List Char} {selector : Selector}

/-- A bracket is read up to the first closing one that is not quoted, as its body is read. -/
theorem bracket?_eq_ok_iff :
    bracket? text = .ok (selector, rest) ↔
      ∃ body, text = body ++ ']' :: rest ∧ Shielded ']' none body ∧
        selector? body = .ok selector := by
  rw [bracket?]
  cases taken : takeUntil ']' none text with
  | none =>
      simp only [reduceCtorEq, false_iff]
      rintro ⟨body, same, shielded, -⟩
      rw [takeUntil_eq_some_iff.mpr ⟨same, shielded⟩] at taken
      cases taken
  | some cut =>
      obtain ⟨body, after⟩ := cut
      simp only [map_eq_ok, Prod.mk.injEq]
      constructor
      · rintro ⟨given, read, rfl, rfl⟩
        obtain ⟨same, shielded⟩ := takeUntil_eq_some_iff.mp taken
        exact ⟨body, same, shielded, read⟩
      · rintro ⟨other, same, shielded, read⟩
        rw [takeUntil_eq_some_iff.mpr ⟨same, shielded⟩] at taken
        obtain ⟨rfl, rfl⟩ := Prod.mk.inj (Option.some.inj taken)
        exact ⟨selector, read, rfl, rfl⟩

/-- A word behind a dot is read up to its end, as a name if it has no blanks. -/
theorem dotted?_append {word : List Char} (kept : ∀ c ∈ word, endsName c = false)
    (stops : ∀ c ∈ rest.head?, endsName c = true) (starless : word.head? ≠ some '*') :
    dotted? (word ++ rest) =
      if word.isEmpty then .ok (none, rest)
      else if word.any Text.isBlank then .error (.invalidName (String.ofList word))
      else .ok (some (.field (String.ofList word)), rest) := by
  have cut := Text.span_append (!endsName ·) (by simpa using kept) (by simpa using stops)
  rw [dotted?.eq_def]
  split
  · rename_i tail same
    cases word with
    | nil => exact absurd (stops '*' (by rw [← List.nil_append rest, same]; rfl)) (by decide)
    | cons c word => exact absurd (by rw [(List.cons.inj same).1]; rfl) starless
  · simp only [cut.1, cut.2]

/-- Behind dots stands nothing before a part that begins, a star, or a name. -/
theorem dotted?_eq_ok_iff {given : Option Selector} :
    dotted? text = .ok (given, rest) ↔
      (given = none ∧ rest = text ∧ ∀ c ∈ text.head?, endsName c = true) ∨
      (given = some .wildcard ∧ text = '*' :: rest) ∨
      ∃ word, given = some (.field (String.ofList word)) ∧ text = word ++ rest ∧
        Part.IsName word ∧ ∀ c ∈ rest.head?, endsName c = true := by
  constructor
  · intro read
    by_cases star : text.head? = some '*'
    · obtain ⟨tail, rfl⟩ := List.head?_eq_some_iff.mp star
      obtain ⟨rfl, rfl⟩ := Prod.mk.inj (Except.ok.inj read)
      exact .inr (.inl ⟨rfl, rfl⟩)
    · obtain ⟨word, tail, rfl, kept, stops⟩ : ∃ word tail, text = word ++ tail ∧
          (∀ c ∈ word, endsName c = false) ∧ ∀ c ∈ tail.head?, endsName c = true :=
        ⟨_, _, (List.takeWhile_append_dropWhile (p := (!endsName ·))).symm,
          fun c member => by simpa using List.mem_takeWhile_imp member,
          by simpa using Text.head?_dropWhile (!endsName ·) text⟩
      have starless : word.head? ≠ some '*' := fun first =>
        star (by rw [List.head?_append, first]; rfl)
      rw [dotted?_append kept stops starless] at read
      split at read
      · rename_i nameless
        obtain ⟨rfl, rfl⟩ := Prod.mk.inj (Except.ok.inj read)
        rw [List.isEmpty_iff.mp nameless]
        exact .inl ⟨rfl, rfl, stops⟩
      · rename_i named
        split at read
        · cases read
        · rename_i solid
          obtain ⟨rfl, rfl⟩ := Prod.mk.inj (Except.ok.inj read)
          have isName : Part.IsName word := by
            refine ⟨by simpa using named, starless, fun c member => ⟨kept c member, ?_⟩⟩
            simp only [List.any_eq_true, not_exists, not_and, Bool.not_eq_true] at solid
            exact solid c member
          exact .inr (.inr ⟨word, rfl, rfl, isName, stops⟩)
  · rintro (⟨rfl, rfl, ends⟩ | ⟨rfl, rfl⟩ | ⟨word, rfl, rfl, isName, ends⟩)
    · exact @dotted?_append rest [] (by simp) ends (by simp)
    · rfl
    · have solid : word.any Text.isBlank = false :=
        List.any_eq_false.mpr fun c member => by simp [(isName.solid c member).2]
      rw [dotted?_append (fun c member => (isName.solid c member).1) ends isName.starless]
      simp [isName.named, solid]

/-- Dots before a star or a name are told apart from those that go deep. -/
theorem step?_dots {expression : String} {c : Char} (deep : Bool) (noDot : c ≠ '.')
    (noBracket : c ≠ '[') (tail : List Char)
    (dotted : dotted? (c :: tail) = .ok (some selector, rest)) :
    step? expression (Part.dots deep ++ c :: tail) = .ok (some (selector.step deep), rest) := by
  cases deep with
  | true =>
      change step? expression ('.' :: '.' :: c :: tail) = _
      rw [step?.eq_2 _ _ fun _ same => noBracket (List.cons.inj same).1, dotted]
      rfl
  | false =>
      change step? expression ('.' :: c :: tail) = _
      rw [step?.eq_3 _ _ (fun _ same => noDot (List.cons.inj same).1)
        fun _ same => noDot (List.cons.inj same).1, dotted]
      rfl

/-- What is read between brackets picks at once, or behind two dots at all nodes below. -/
theorem step?_bracket {expression : String} (deep : Bool)
    (read : bracket? text = .ok (selector, rest)) :
    step? expression ((if deep then ['.', '.'] else []) ++ '[' :: text) =
      .ok (some (selector.step deep), rest) := by
  cases deep with
  | true =>
      change step? expression ('.' :: '.' :: '[' :: text) = _
      rw [step?.eq_1, read]
      rfl
  | false =>
      change step? expression ('[' :: text) = _
      rw [step?.eq_4, read]
      rfl

/-- A step is read of a part with which the text begins. -/
theorem step?_text {expression : String} {part : Part} (valid : part.Valid)
    (precedes : part.Precedes rest) :
    step? expression (part.text ++ rest) = .ok (part.step?, rest) := by
  cases part with
  | dot =>
      cases rest with
      | nil => rfl
      | cons c rest =>
          rw [precedes c rfl]
          rfl
  | star deep =>
      rw [Part.text, List.append_assoc]
      exact step?_dots deep (by decide) (by decide) rest rfl
  | name deep word =>
      obtain ⟨c, others, rfl⟩ := List.exists_cons_of_ne_nil valid.named
      have solid := (valid.solid c List.mem_cons_self).1
      simp only [endsName, Bool.or_eq_false_iff, beq_eq_false_iff_ne] at solid
      have dotted := dotted?_eq_ok_iff.mpr (.inr (.inr ⟨c :: others, rfl, rfl, valid, precedes⟩))
      rw [Part.text, List.append_assoc]
      exact step?_dots deep solid.1 solid.2 _ dotted
  | bracket deep body selector =>
      have read : bracket? (body ++ ']' :: rest) = .ok (selector, rest) :=
        bracket?_eq_ok_iff.mpr ⟨body, rfl, valid⟩
      have same : (Part.bracket deep body selector).text ++ rest =
          (if deep then ['.', '.'] else []) ++ '[' :: (body ++ ']' :: rest) := by
        simp [Part.text]
      rw [same]
      exact step?_bracket deep read

/-- A selector behind dots belongs to a star or a name. -/
theorem exists_part_of_dotted? (deep : Bool) (read : dotted? text = .ok (some selector, rest)) :
    ∃ part : Part, part.Valid ∧ part.Precedes rest ∧ Part.dots deep ++ text = part.text ++ rest ∧
      part.step? = some (selector.step deep) := by
  rcases dotted?_eq_ok_iff.mp read with
    ⟨absent, -, -⟩ | ⟨star, rfl⟩ | ⟨word, named, rfl, isName, stops⟩
  · cases absent
  · cases star
    exact ⟨.star deep, trivial, trivial, by simp [Part.text], rfl⟩
  · cases named
    exact ⟨.name deep word, isName, stops, by simp [Part.text], rfl⟩

/-- What is read as a bracket is a part of the layout. -/
theorem exists_part_of_bracket? (deep : Bool) (read : bracket? text = .ok (selector, rest)) :
    ∃ part : Part, part.Valid ∧ part.Precedes rest ∧
      (if deep then ['.', '.'] else []) ++ '[' :: text = part.text ++ rest ∧
      part.step? = some (selector.step deep) := by
  obtain ⟨body, rfl, valid⟩ := bracket?_eq_ok_iff.mp read
  exact ⟨.bracket deep body selector, valid, trivial, by simp [Part.text], rfl⟩

/-- What is read as a step is a part with which the text begins. -/
theorem exists_part_of_step? {expression : String} {step : Option Step} (filled : text ≠ [])
    (read : step? expression text = .ok (step, rest)) :
    ∃ part : Part, part.Valid ∧ part.Precedes rest ∧ text = part.text ++ rest ∧
      part.step? = step := by
  rw [step?.eq_def] at read
  split at read
  · obtain ⟨⟨selector, after⟩, bracket, same⟩ := bind_eq_ok.mp read
    cases same
    exact exists_part_of_bracket? true bracket
  · obtain ⟨⟨given, after⟩, dotted, same⟩ := bind_eq_ok.mp read
    cases given with
    | none => cases same
    | some selector =>
        cases same
        exact exists_part_of_dotted? true dotted
  · rename_i tail _ noDots
    obtain ⟨⟨given, after⟩, dotted, same⟩ := bind_eq_ok.mp read
    cases same
    cases given with
    | some selector => exact exists_part_of_dotted? false dotted
    | none =>
        rcases dotted?_eq_ok_iff.mp dotted with
          ⟨-, rfl, ends⟩ | ⟨star, -⟩ | ⟨word, named, -⟩
        · refine ⟨.dot, trivial, fun c first => ?_, rfl, rfl⟩
          obtain ⟨others, same⟩ := List.head?_eq_some_iff.mp first
          have either : c = '.' ∨ c = '[' := by simpa [endsName] using ends c first
          exact either.resolve_left fun dot => noDots others (by rw [same, dot])
        · cases star
        · cases named
  · obtain ⟨⟨selector, after⟩, bracket, same⟩ := bind_eq_ok.mp read
    cases same
    exact exists_part_of_bracket? false bracket
  · cases read
  · exact absurd rfl filled

/-- A step is read of the part at the start of a text. -/
theorem step?_eq_ok_iff {expression : String} {step : Option Step} (filled : text ≠ []) :
    step? expression text = .ok (step, rest) ↔
      ∃ part : Part, part.Valid ∧ part.Precedes rest ∧ text = part.text ++ rest ∧
        part.step? = step := by
  refine ⟨exists_part_of_step? filled, ?_⟩
  rintro ⟨part, valid, precedes, rfl, rfl⟩
  exact step?_text valid precedes

end Steps

section Expressions

variable {text : List Char}

namespace Part

/-- The parts stand in the text, one after another, and nothing else does. -/
def Fill : List Part → List Char → Prop
  | [], text => text = []
  | part :: parts, text =>
      part.Valid ∧ ∃ rest, text = part.text ++ rest ∧ part.Precedes rest ∧ Fill parts rest

/-- The steps that the parts of an expression stand for. -/
def steps (parts : List Part) : List Step := parts.flatMap fun part => part.step?.toList

/-- A part begins with a dot or a bracket. -/
theorem exists_text (part : Part) : ∃ c rest, part.text = c :: rest ∧ endsName c = true := by
  cases part with
  | dot => exact ⟨_, _, rfl, rfl⟩
  | star deep => cases deep <;> exact ⟨_, _, rfl, rfl⟩
  | name deep word => cases deep <;> exact ⟨_, _, rfl, rfl⟩
  | bracket deep body selector => cases deep <;> exact ⟨_, _, rfl, rfl⟩

/-- A part takes characters. -/
theorem length_lt (part : Part) (rest : List Char) : rest.length < (part.text ++ rest).length := by
  obtain ⟨c, others, same, -⟩ := part.exists_text
  rw [same, List.length_append, List.length_cons]
  omega

/-- Parts begin with a dot or a bracket. -/
theorem head?_of_fill {parts : List Part} (fill : Fill parts text) :
    ∀ c ∈ text.head?, endsName c = true := by
  intro c first
  cases parts with
  | nil =>
      rw [show text = [] from fill] at first
      cases first
  | cons part parts =>
      obtain ⟨-, rest, rfl, -⟩ := fill
      obtain ⟨other, others, same, ends⟩ := part.exists_text
      rw [same] at first
      exact Option.some.inj first ▸ ends

/-- Nothing is the layout of no parts. -/
theorem fill_nil_iff {parts : List Part} : Fill parts [] ↔ parts = [] := by
  cases parts with
  | nil => simp [Fill]
  | cons part parts =>
      obtain ⟨c, others, same, -⟩ := part.exists_text
      simp [Fill, same]

end Part

/-- The steps of an expression are those of its parts. -/
theorem steps?_eq_ok_iff {expression : String} {fuel : Nat} {steps : List Step}
    (enough : text.length ≤ fuel) :
    steps? expression fuel text = .ok steps ↔
      ∃ parts, Part.Fill parts text ∧ Part.steps parts = steps := by
  induction fuel generalizing text steps with
  | zero =>
      obtain rfl := List.length_eq_zero_iff.mp (Nat.le_zero.mp enough)
      simp [steps?, Part.fill_nil_iff, Part.steps]
  | succ fuel ih =>
      cases text with
      | nil => simp [steps?, Part.fill_nil_iff, Part.steps]
      | cons c tail =>
          have filled : c :: tail ≠ [] := List.cons_ne_nil _ _
          rw [steps?.eq_3 _ _ _ filled, bind_eq_ok]
          constructor
          · rintro ⟨⟨step, rest⟩, read, further⟩
            obtain ⟨others, reads, same⟩ := bind_eq_ok.mp further
            obtain rfl := pure_eq_ok.mp same
            obtain ⟨part, valid, precedes, whole, rfl⟩ := (step?_eq_ok_iff filled).mp read
            have shorter := part.length_lt rest
            rw [← whole] at shorter
            obtain ⟨parts, fill, rfl⟩ := (ih (by omega)).mp reads
            exact ⟨part :: parts, ⟨valid, rest, whole, precedes, fill⟩, rfl⟩
          · rintro ⟨parts, fill, rfl⟩
            cases parts with
            | nil => exact absurd fill filled
            | cons part parts =>
                obtain ⟨valid, rest, whole, precedes, fill⟩ := fill
                have shorter := part.length_lt rest
                rw [← whole] at shorter
                refine ⟨(part.step?, rest), ?_, ?_⟩
                · exact (step?_eq_ok_iff filled).mpr ⟨part, valid, precedes, whole, rfl⟩
                · exact bind_eq_ok.mpr ⟨_, (ih (by omega)).mpr ⟨parts, fill, rfl⟩, rfl⟩

/-- The parts stand in the body of an expression, behind a dollar or not, with blanks around. -/
def Part.Spell (parts : List Part) (body : List Char) : Prop :=
  ∃ text, Part.Fill parts text ∧ (Text.trim body = text ∨ Text.trim body = '$' :: text)

/-- The steps of an expression are those of the parts that stand in its body. -/
theorem expression?_eq_ok_iff {body : List Char} {steps : List Step} :
    expression? body = .ok steps ↔ ∃ parts, Part.Spell parts body ∧ Part.steps parts = steps := by
  rw [expression?]
  constructor
  · intro read
    obtain ⟨parts, fill, rfl⟩ := (steps?_eq_ok_iff (Nat.le_refl _)).mp read
    refine ⟨parts, ⟨_, fill, ?_⟩, rfl⟩
    split
    · rename_i same
      exact .inr same
    · exact .inl rfl
  · rintro ⟨parts, ⟨text, fill, either⟩, rfl⟩
    refine (steps?_eq_ok_iff (Nat.le_refl _)).mpr ⟨parts, ?_, rfl⟩
    split
    · rename_i rest same
      rcases either with bare | behind
      · have dollar := Part.head?_of_fill fill '$' (by rw [← bare, same]; rfl)
        exact absurd dollar (by decide)
      · rwa [(List.cons.inj (same.symm.trans behind)).2]
    · rename_i noDollar
      exact either.elim (fun bare => bare ▸ fill) fun behind => absurd behind (noDollar text)

end Expressions

/-- A piece of a template: plain text, or an expression between braces that holds parts. -/
inductive Piece where
  | plain (content : List Char)
  | expression (body : List Char) (parts : List Part)

namespace Piece

def text : Piece → List Char
  | plain content => content
  | expression body _ => '{' :: body ++ ['}']

def segment : Piece → Segment
  | plain content => .text (String.ofList content)
  | expression _ parts => .expression (Part.steps parts)

/-- Plain text is free of braces, and the body of an expression is shielded. -/
def Valid : Piece → Prop
  | plain content => content ≠ [] ∧ ∀ c ∈ content, isBrace c = false
  | expression body parts => Shielded '}' none body ∧ Part.Spell parts body

/-- What may follow a piece. Plain text goes on up to a brace. -/
def Precedes : Piece → List Char → Prop
  | plain _, rest => ∀ c ∈ rest.head?, isBrace c = true
  | expression _ _, _ => True

/-- The pieces stand in the text, one after another, and nothing else does. -/
def Fill : List Piece → List Char → Prop
  | [], text => text = []
  | piece :: pieces, text =>
      piece.Valid ∧ ∃ rest, text = piece.text ++ rest ∧ piece.Precedes rest ∧ Fill pieces rest

/-- Nothing is the layout of no pieces. -/
theorem fill_nil_iff {pieces : List Piece} : Fill pieces [] ↔ pieces = [] := by
  cases pieces with
  | nil => simp [Fill]
  | cons piece pieces =>
      simp only [Fill, reduceCtorEq, iff_false]
      rintro ⟨valid, rest, same, -⟩
      cases piece with
      | plain content => exact valid.1 (List.append_eq_nil_iff.mp same.symm).1
      | expression body parts => simp [text] at same

/-- No brace opens within a plain piece. -/
theorem begins_plain {content : List Char} {c : Char} {tail rest : List Char}
    (valid : (plain content).Valid) (same : c :: tail = content ++ rest) : isBrace c = false := by
  obtain ⟨other, others, rfl⟩ := List.exists_cons_of_ne_nil valid.1
  obtain ⟨rfl, -⟩ := List.cons.inj same
  exact valid.2 c List.mem_cons_self

/-- Pieces that stand in a text are read one after another. -/
theorem fill_cons_iff {pieces : List Piece} {c : Char} {tail : List Char} :
    Fill pieces (c :: tail) ↔
      (c = '{' ∧ ∃ body parts others rest, pieces = expression body parts :: others ∧
        takeUntil '}' none tail = some (body, rest) ∧ Part.Spell parts body ∧ Fill others rest) ∨
      (isBrace c = false ∧ ∃ others,
        pieces = plain ((c :: tail).takeWhile (!isBrace ·)) :: others ∧
          Fill others ((c :: tail).dropWhile (!isBrace ·))) := by
  constructor
  · intro fill
    cases pieces with
    | nil => cases fill
    | cons piece others =>
        obtain ⟨valid, rest, same, precedes, fill⟩ := fill
        cases piece with
        | plain content =>
            have whole : c :: tail = content ++ rest := same
            have stops : ∀ c ∈ rest.head?, isBrace c = true := precedes
            have cut :=
              Text.span_append (!isBrace ·) (by simpa using valid.2) (by simpa using stops)
            rw [← whole] at cut
            exact .inr ⟨begins_plain valid whole, others, by rw [cut.1], by rwa [cut.2]⟩
        | expression body parts =>
            have split : c :: tail = '{' :: (body ++ '}' :: rest) := by simpa [text] using same
            obtain ⟨rfl, rfl⟩ := List.cons.inj split
            exact .inl ⟨rfl, body, parts, others, rest, rfl,
              takeUntil_eq_some_iff.mpr ⟨rfl, valid.1⟩, valid.2, fill⟩
  · rintro (⟨rfl, body, parts, others, rest, rfl, taken, spell, fill⟩ |
      ⟨noBrace, others, rfl, fill⟩)
    · obtain ⟨rfl, shielded⟩ := takeUntil_eq_some_iff.mp taken
      exact ⟨⟨shielded, spell⟩, rest, by simp [text], trivial, fill⟩
    · have whole := List.takeWhile_append_dropWhile (p := (!isBrace ·)) (l := c :: tail)
      have stops := Text.head?_dropWhile (!isBrace ·) (c :: tail)
      simp only [Bool.not_eq_false'] at stops
      refine ⟨⟨by simp [noBrace], fun d member => ?_⟩, _, whole.symm, stops, fill⟩
      simpa using List.mem_takeWhile_imp member

/-- The segments of the pieces at an opening brace: that of an expression comes first. -/
theorem exists_fill_brace {tail body rest : List Char} {segments : List Segment}
    (taken : takeUntil '}' none tail = some (body, rest)) :
    (∃ pieces, Fill pieces ('{' :: tail) ∧ pieces.map segment = segments) ↔
      ∃ steps, expression? body = .ok steps ∧ ∃ others,
        (∃ pieces, Fill pieces rest ∧ pieces.map segment = others) ∧
          .expression steps :: others = segments := by
  simp only [fill_cons_iff, expression?_eq_ok_iff]
  constructor
  · rintro ⟨_, ⟨-, _, parts, others, _, rfl, again, spell, fill⟩ | ⟨isPlain, -⟩, rfl⟩
    · obtain ⟨rfl, rfl⟩ := Prod.mk.inj (Option.some.inj (taken.symm.trans again))
      exact ⟨_, ⟨parts, spell, rfl⟩, _, ⟨others, fill, rfl⟩, rfl⟩
    · exact absurd isPlain (by decide)
  · rintro ⟨_, ⟨parts, spell, rfl⟩, _, ⟨others, fill, rfl⟩, rfl⟩
    exact ⟨expression body parts :: others,
      .inl ⟨trivial, body, parts, others, rest, rfl, taken, spell, fill⟩, rfl⟩

/-- The segments of the pieces at a character of plain text: that of the text up to a brace comes
first. -/
theorem exists_fill_plain {c : Char} {tail : List Char} {segments : List Segment}
    (noBrace : isBrace c = false) :
    (∃ pieces, Fill pieces (c :: tail) ∧ pieces.map segment = segments) ↔
      ∃ others, (∃ pieces, Fill pieces ((c :: tail).dropWhile (!isBrace ·)) ∧
          pieces.map segment = others) ∧
        .text (String.ofList ((c :: tail).takeWhile (!isBrace ·))) :: others = segments := by
  simp only [fill_cons_iff]
  constructor
  · rintro ⟨_, ⟨rfl, -⟩ | ⟨-, others, rfl, fill⟩, rfl⟩
    · exact absurd noBrace (by decide)
    · exact ⟨_, ⟨others, fill, rfl⟩, rfl⟩
  · rintro ⟨_, ⟨others, fill, rfl⟩, rfl⟩
    exact ⟨plain _ :: others, .inr ⟨noBrace, others, rfl, fill⟩, rfl⟩

end Piece

section Templates

variable {text : List Char}

/-- The segments of a template are those of its pieces. -/
theorem segments?_eq_ok_iff {fuel offset : Nat} {segments : List Segment}
    (enough : text.length ≤ fuel) :
    segments? fuel offset text = .ok segments ↔
      ∃ pieces, Piece.Fill pieces text ∧ pieces.map Piece.segment = segments := by
  induction fuel generalizing offset text segments with
  | zero =>
      obtain rfl := List.length_eq_zero_iff.mp (Nat.le_zero.mp enough)
      simp [segments?, Piece.fill_nil_iff]
  | succ fuel ih =>
      cases text with
      | nil => simp [segments?, Piece.fill_nil_iff]
      | cons c tail =>
          rw [segments?.eq_3]
          split
          · rename_i closes
            subst closes
            simp only [Piece.fill_cons_iff]
            simp [isBrace]
          · rename_i noClose
            split
            · rename_i opens
              subst opens
              cases taken : takeUntil '}' none tail with
              | none =>
                  simp only [Piece.fill_cons_iff, taken]
                  simp [isBrace]
              | some cut =>
                  obtain ⟨body, rest⟩ := cut
                  obtain ⟨whole, -⟩ := takeUntil_eq_some_iff.mp taken
                  have length : rest.length ≤ fuel := by
                    rw [whole, List.length_cons, List.length_append, List.length_cons] at enough
                    omega
                  simp only [Piece.exists_fill_brace taken, bind_eq_ok, ih length, pure_eq_ok]
            · rename_i noOpen
              have noBrace : isBrace c = false := by simp [isBrace, noOpen, noClose]
              have length : ((c :: tail).dropWhile (!isBrace ·)).length ≤ fuel := by
                have shorter := (List.dropWhile_sublist (p := (!isBrace ·)) (l := tail)).length_le
                rw [List.length_cons] at enough
                simp only [List.dropWhile_cons, noBrace, Bool.not_false, if_true]
                omega
              simp only [Piece.exists_fill_plain noBrace, bind_eq_ok, ih length, pure_eq_ok]

/-- A template is made of the pieces of its text. -/
theorem Template.read?_eq_ok_iff {source : String} {template : Template} :
    Template.read? source = .ok template ↔
      ∃ pieces, Piece.Fill pieces source.toList ∧
        template = ⟨source, pieces.map Piece.segment⟩ := by
  have segments (segments : List Segment) :=
    @segments?_eq_ok_iff source.toList source.length 0 segments (Nat.le_of_eq String.length_toList)
  rw [Template.read?]
  split
  · rename_i given read
    constructor
    · intro same
      obtain ⟨pieces, fill, rfl⟩ := (segments _).mp read
      exact ⟨pieces, fill, (Except.ok.inj same).symm⟩
    · rintro ⟨pieces, fill, rfl⟩
      obtain rfl := Except.ok.inj (((segments _).mpr ⟨pieces, fill, rfl⟩).symm.trans read)
      rfl
  · rename_i fault read
    simp only [reduceCtorEq, false_iff]
    rintro ⟨pieces, fill, -⟩
    cases ((segments _).mpr ⟨pieces, fill, rfl⟩).symm.trans read

end Templates

end HostAudit.Path
