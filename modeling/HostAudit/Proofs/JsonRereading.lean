import HostAudit.Json.Reader
import HostAudit.Json.Writer
import HostAudit.Proofs.Numerals

/-
This file proves that JSON values survive being written with indentation and read again. What is
written falls into the tokens of the value, and these are read as the value.
-/

namespace HostAudit

namespace Json

open Integer (naturalChars isDigit)

section Numbers

/-- A text begins with nothing that could belong to a number before it. -/
def EndsNumber (text : List Char) : Prop :=
  ∀ c ∈ text.head?, isDigit c = false ∧ c ≠ '.' ∧ c ≠ 'e' ∧ c ≠ 'E'

/-- A number ends before a character that cannot belong to one. -/
theorem endsNumber_cons {c : Char}
    (ends : isDigit c = false ∧ c ≠ '.' ∧ c ≠ 'e' ∧ c ≠ 'E') (text : List Char) :
    EndsNumber (c :: text) := by
  rintro _ ⟨⟩
  exact ends

/-- Further digits make no number smaller. -/
theorem le_ofDigitChars (digits : List Char) (start : Nat) :
    start ≤ Nat.ofDigitChars 10 digits start := by
  rw [Nat.ofDigitChars_eq_ofDigitChars_zero]
  have scaled : start ≤ 10 ^ digits.length * start :=
    Nat.le_mul_of_pos_left start (Nat.pow_pos (by decide))
  omega

/-- A digit is added to a number that stays within a word. -/
theorem extended?_of_fits {scan : Scan} {digit : Nat}
    (fits : 10 * scan.significand + digit < 2 ^ 64) :
    scan.extended? digit = some (10 * scan.significand + digit) := by
  rw [Scan.extended?, Nat.mul_comm scan.significand 10]
  exact if_pos fits

/-- The digits of a number are taken one by one, as long as they fit into a word. -/
theorem whole_cons (scan : Scan) (c : Char) (digits : List Char) :
    scan.whole (c :: digits) =
      match scan.extended? (c.toNat - '0'.toNat) with
      | some significand => Scan.whole { scan with significand } digits
      | none => { scan with exponent := scan.exponent + (digits.length + 1) } := by
  rfl

/-- Digits whose value fits 64 bits are all taken into the significand. -/
theorem whole_digits {digits : List Char} {scan : Scan}
    (fits : Nat.ofDigitChars 10 digits scan.significand < 2 ^ 64) :
    scan.whole digits = ⟨Nat.ofDigitChars 10 digits scan.significand, scan.exponent⟩ := by
  induction digits generalizing scan with
  | nil => rfl
  | cons c digits ih =>
      rw [Nat.ofDigitChars_cons] at fits ⊢
      have bound := Nat.lt_of_le_of_lt (le_ofDigitChars digits _) fits
      rw [whole_cons, extended?_of_fits bound]
      exact @ih ⟨10 * scan.significand + (c.toNat - '0'.toNat), scan.exponent⟩ fits

/-- The digits of a whole number are taken up to its end. -/
theorem takeWhole?_naturalChars (value : Nat) {rest : List Char} (ends : EndsNumber rest) :
    takeWhole? (naturalChars value ++ rest) = some (naturalChars value, rest) := by
  have digits : ∀ c ∈ naturalChars value, isDigit c = true := fun c => Integer.isDigit_of_mem
  have stops : rest.takeWhile isDigit = [] ∧ rest.dropWhile isDigit = rest := by
    cases rest with
    | nil => exact ⟨rfl, rfl⟩
    | cons c rest => simp [(ends c rfl).1]
  have whole : ((naturalChars value).isEmpty ||
      ((naturalChars value).head? == some '0' && 1 < (naturalChars value).length)) = false := by
    by_cases positive : 0 < value
    · simp [Integer.naturalChars_ne_nil, Integer.head?_naturalChars positive]
    · obtain rfl : value = 0 := by omega
      decide
  rw [takeWhole?, List.takeWhile_append_of_pos digits, List.dropWhile_append_of_pos digits,
    stops.1, stops.2, List.append_nil]
  simp only [whole]
  rfl

/-- There is no fraction where a number ends. -/
theorem takeFraction?_of_ends {rest : List Char} (ends : EndsNumber rest) :
    takeFraction? rest = some (none, rest) := by
  cases rest with
  | nil => rfl
  | cons c rest =>
      obtain ⟨-, point, -⟩ := ends c rfl
      rw [takeFraction?]
      intro after same
      exact point (List.cons_eq_cons.mp same).1

/-- There is no exponent where a number ends. -/
theorem takeExponent?_of_ends {rest : List Char} (ends : EndsNumber rest) :
    takeExponent? rest = some (none, rest) := by
  cases rest with
  | nil => rfl
  | cons c rest =>
      obtain ⟨-, -, small, capital⟩ := ends c rfl
      rw [takeExponent?, if_neg (by simp [small, capital])]

/-- Digits alone are read as the whole number that they were written for. -/
theorem ofParts?_naturalChars {value : Nat} (fits : value < 2 ^ 64) :
    Number.ofParts? false (naturalChars value) none none = some (.integer value) := by
  have scanned : Scan.whole ⟨0, 0⟩ (naturalChars value) = ⟨value, 0⟩ := by
    have digits : Nat.ofDigitChars 10 (naturalChars value) 0 = value :=
      Nat.ofDigitChars_toDigits (by decide) (by decide)
    have read := @whole_digits (naturalChars value) ⟨0, 0⟩ (by rwa [digits])
    rwa [digits] at read
  have whole : Number.fits value = true := by
    have below : (value : Int) < 2 ^ 64 := by exact_mod_cast fits
    simp only [Number.fits, Bool.and_eq_true, decide_eq_true_eq]
    omega
  rw [Number.ofParts?]
  simp [scanned, whole]

/-- A text without a sign in front is read as a number without one. -/
theorem takeNumber?_unsigned {text : List Char} (unsigned : text.head? ≠ some '-') :
    takeNumber? text = (do
      let (whole, rest) ← takeWhole? text
      let (fraction, rest) ← takeFraction? rest
      let (exponent, rest) ← takeExponent? rest
      let number ← Number.ofParts? false whole fraction exponent
      pure (number, rest)) := by
  unfold takeNumber?
  split
  rename_i negative rest sign
  split at sign
  · exact absurd rfl unsigned
  · cases sign
    rfl

/-- A written number is read back, whatever follows. -/
theorem takeNumber?_naturalChars {value : Nat} (fits : value < 2 ^ 64) {rest : List Char}
    (ends : EndsNumber rest) :
    takeNumber? (naturalChars value ++ rest) = some (.integer value, rest) := by
  have unsigned : (naturalChars value ++ rest).head? ≠ some '-' := by
    rw [List.head?_append, Option.or_of_isSome (by simp [Integer.naturalChars_ne_nil])]
    intro first
    exact absurd (Integer.isDigit_of_mem (List.mem_of_head? first)) (by decide)
  rw [takeNumber?_unsigned unsigned, takeWhole?_naturalChars value ends]
  simp only [Option.bind_eq_bind, Option.bind_some, takeFraction?_of_ends ends,
    takeExponent?_of_ends ends, ofParts?_naturalChars fits, Option.pure_def]

end Numbers

section Texts

/-- How a character may stand in a string: after a backslash as a letter, as the digits of its
code, or as it is. -/
inductive Escaped (c : Char) : List Char → Prop
  | letter {letter : Char} (meaning : escaped? letter = some c) : Escaped c ['\\', letter]
  | code (control : c.toNat < 0x20) : Escaped c
      ['\\', 'u', '0', '0', Nat.digitChar (c.toNat / 16), Nat.digitChar (c.toNat % 16)]
  | same (printed : 0x20 ≤ c.toNat) (quote : c ≠ '"') (backslash : c ≠ '\\') : Escaped c [c]

/-- Every character is written in one of the ways to escape it. -/
theorem escaped_escape (c : Char) : Escaped c (escape c) := by
  unfold escape
  split
  case h_8 quote backslash _ _ _ _ _ =>
    split
    case isTrue control => exact .code control
    case isFalse printed => exact .same (Nat.not_lt.mp printed) quote backslash
  all_goals exact .letter rfl

/-- Hexadecimal digits need no escape. -/
theorem digitChar_plain {digit : Nat} (small : digit < 16) :
    Nat.digitChar digit ≠ '"' ∧ Nat.digitChar digit ≠ '\\' := by
  have all : ∀ digit < 16, Nat.digitChar digit ≠ '"' ∧ Nat.digitChar digit ≠ '\\' := by decide
  exact all digit small

/-- A plain character is taken into a quoted text. -/
theorem takeQuoted?_cons {c : Char} (quote : c ≠ '"') (backslash : c ≠ '\\') (text : List Char) :
    takeQuoted? (c :: text) = (takeQuoted? text).map fun (body, after) => (c :: body, after) := by
  rw [takeQuoted?]
  · exact fun same => quote same
  · exact fun _ _ same _ => backslash same

/-- No escaped character ends the string. -/
theorem Escaped.takeQuoted? {c : Char} {written : List Char} (escaped : Escaped c written)
    (text : List Char) : Json.takeQuoted? (written ++ text) =
      (Json.takeQuoted? text).map fun (body, after) => (written ++ body, after) := by
  cases escaped with
  | letter meaning => rfl
  | code control =>
      obtain ⟨quote, backslash⟩ := @digitChar_plain (c.toNat / 16) (by omega)
      obtain ⟨quote', backslash'⟩ := @digitChar_plain (c.toNat % 16) (by omega)
      simp only [List.cons_append, List.nil_append, Json.takeQuoted?]
      rw [takeQuoted?_cons (by decide) (by decide), takeQuoted?_cons (by decide) (by decide),
        takeQuoted?_cons quote backslash, takeQuoted?_cons quote' backslash']
      simp [Function.comp_def]
  | same printed quote backslash => exact takeQuoted?_cons quote backslash text

/-- A quoted text is taken up to its closing quote. -/
theorem takeQuoted?_escape (chars rest : List Char) :
    takeQuoted? (chars.flatMap escape ++ '"' :: rest) = some (chars.flatMap escape, rest) := by
  induction chars with
  | nil => rfl
  | cons c chars ih =>
      rw [List.flatMap_cons, List.append_assoc, (escaped_escape c).takeQuoted?, ih]
      rfl

/-- The piece that a character of a string is read as. -/
inductive Stands (c : Char) : Piece → Prop
  | char : Stands c (.char c)
  | unit (control : c.toNat < 0x20) : Stands c (.unit c.toNat)

/-- A unit that is no surrogate is a character whatever follows it. -/
theorem assemble?_unit {value : Nat} (low : value < 0xD800) (pieces : List Piece) :
    assemble? (.unit value :: pieces) = (assemble? pieces).map (Char.ofNat value :: ·) := by
  have high : ¬0xD800 ≤ value := Nat.not_le.mpr low
  have trailing : ¬0xDC00 ≤ value := by omega
  rcases pieces with _ | ⟨_ | next, pieces⟩
  · simp [assemble?, high]
  · simp [assemble?, high]
  · simp [assemble?, high, trailing]

/-- A piece that stands for a character gives it. -/
theorem Stands.assemble? {c : Char} {piece : Piece} (stands : Stands c piece)
    (pieces : List Piece) :
    Json.assemble? (piece :: pieces) = (Json.assemble? pieces).map (c :: ·) := by
  cases stands with
  | char => rfl
  | unit control => rw [assemble?_unit (by omega), Char.ofNat_toNat]

/-- An escape by a letter gives the character that the letter is for. -/
theorem unescape?_letter {letter c : Char} (meaning : escaped? letter = some c)
    (text : List Char) :
    unescape? ('\\' :: letter :: text) = (unescape? text).map (.char c :: ·) := by
  have named : letter ≠ 'u' := by
    rintro rfl
    simp [escaped?] at meaning
  rw [unescape?]
  · simp only [meaning, Option.bind_eq_bind, Option.bind_some, Option.pure_def,
      Option.map_eq_bind, Function.comp_def]
  · exact fun _ _ _ _ _ same _ => named same

/-- A printed character other than a backslash gives itself. -/
theorem unescape?_same {c : Char} (printed : 0x20 ≤ c.toNat) (backslash : c ≠ '\\')
    (text : List Char) :
    unescape? (c :: text) = (unescape? text).map (.char c :: ·) := by
  have kept : (c.val < 0x20 || c == '\\') = false := by
    rw [Bool.or_eq_false_iff, beq_eq_false_iff_ne, decide_eq_false_iff_not]
    exact ⟨Nat.not_lt.mpr printed, backslash⟩
  rw [unescape?, kept]
  · rfl
  · exact fun _ _ _ _ _ same _ => backslash same
  · exact fun _ _ same _ => backslash same

/-- The code of a control character is read back. -/
theorem natural?_code {value : Nat} (control : value < 0x20) :
    Integer.natural? 16 ['0', '0', Nat.digitChar (value / 16), Nat.digitChar (value % 16)] =
      some value := by
  have all : ∀ value < 0x20, Integer.natural? 16
      ['0', '0', Nat.digitChar (value / 16), Nat.digitChar (value % 16)] = some value := by decide
  exact all value control

/-- An escaped character is one piece. -/
theorem Escaped.unescape? {c : Char} {written : List Char} (escaped : Escaped c written) :
    ∃ piece, Stands c piece ∧ ∀ text,
      Json.unescape? (written ++ text) = (Json.unescape? text).map (piece :: ·) := by
  cases escaped with
  | letter meaning => exact ⟨.char c, .char, unescape?_letter meaning⟩
  | code control =>
      refine ⟨.unit c.toNat, .unit control, fun text => ?_⟩
      simp only [List.cons_append, List.nil_append, Json.unescape?, natural?_code control,
        Option.bind_eq_bind, Option.bind_some, Option.pure_def, Option.map_eq_bind,
        Function.comp_def]
  | same printed quote backslash =>
      exact ⟨.char c, .char, unescape?_same printed backslash⟩

/-- The escapes of a text give the text. -/
theorem unescape?_escape (chars : List Char) :
    ∃ pieces, unescape? (chars.flatMap escape) = some pieces ∧ assemble? pieces = some chars := by
  induction chars with
  | nil => exact ⟨[], rfl, rfl⟩
  | cons c chars ih =>
      obtain ⟨pieces, read, assembled⟩ := ih
      obtain ⟨piece, stands, first⟩ := (escaped_escape c).unescape?
      refine ⟨piece :: pieces, ?_, ?_⟩
      · rw [List.flatMap_cons, first, read, Option.map_some]
      · rw [stands.assemble?, assembled, Option.map_some]

/-- A quoted text is read up to its closing quote. -/
theorem takeText?_quoted (text : String) (rest : List Char) :
    takeText? (text.toList.flatMap escape ++ '"' :: rest) = some (text, rest) := by
  obtain ⟨pieces, read, assembled⟩ := unescape?_escape text.toList
  simp [takeText?, takeQuoted?_escape, read, assembled]

end Texts

mutual

/-- The tokens that a value is written as. -/
def Value.tokens : Value → List Token
  | .null => [.null]
  | .bool value => [.bool value]
  | .number value => [.number value]
  | .text value => [.text value]
  | .array [] => [.openBracket, .closeBracket]
  | .array (item :: rest) => .openBracket :: (item.tokens ++ furtherItems rest ++ [.closeBracket])
  | .object [] => [.openBrace, .closeBrace]
  | .object ((name, value) :: rest) =>
      .openBrace :: .text name :: .colon ::
        (value.tokens ++ furtherMembers rest ++ [.closeBrace])

def furtherItems : List Value → List Token
  | [] => []
  | item :: rest => .comma :: (item.tokens ++ furtherItems rest)

def furtherMembers : List (String × Value) → List Token
  | [] => []
  | (name, value) :: rest =>
      .comma :: .text name :: .colon :: (value.tokens ++ furtherMembers rest)

end

/-- What nests at most this deep and has no numbers but counters of 64 bits. -/
inductive Legible : Nat → Value → Prop
  | null {depth : Nat} : Legible depth .null
  | bool {depth : Nat} (value : Bool) : Legible depth (.bool value)
  | nat {depth value : Nat} (fits : value < 2 ^ 64) : Legible depth (.nat value)
  | text {depth : Nat} (value : String) : Legible depth (.text value)
  | array {depth : Nat} {items : List Value} (each : ∀ item ∈ items, Legible depth item) :
      Legible (depth + 1) (.array items)
  | object {depth : Nat} {members : List (String × Value)}
      (each : ∀ member ∈ members, Legible depth member.2) :
      Legible (depth + 1) (.object members)

section Lexing

/-- A text falls into tokens, one after the other, with gaps around them. -/
inductive Lexes : List Char → List Token → Prop
  | done : Lexes [] []
  | gap {c : Char} {text : List Char} {tokens : List Token} (blank : isGap c = true)
      (others : Lexes text tokens) : Lexes (c :: text) tokens
  | token {c : Char} {text rest : List Char} {token : Token} {tokens : List Token}
      (solid : isGap c = false) (taken : Token.take? (c :: text) = some (token, rest))
      (shorter : rest.length ≤ text.length) (others : Lexes rest tokens) :
      Lexes (c :: text) (token :: tokens)

/-- With fuel enough, a text is cut into the tokens that it is made of. -/
theorem Lexes.tokensUpTo? {text : List Char} {tokens : List Token} (lexes : Lexes text tokens)
    {fuel : Nat} (enough : text.length ≤ fuel) : Json.tokensUpTo? fuel text = some tokens := by
  induction lexes generalizing fuel with
  | done => cases fuel <;> rfl
  | @gap c text tokens blank others ih =>
      obtain _ | fuel := fuel
      · simp at enough
      have read := @ih (fuel + 1) (by simp only [List.length_cons] at enough; omega)
      rw [Json.tokensUpTo?] at read ⊢
      rwa [List.dropWhile_cons_of_pos blank]
  | @token c text rest token tokens solid taken shorter others ih =>
      obtain _ | fuel := fuel
      · simp at enough
      have read := @ih fuel (by simp only [List.length_cons] at enough; omega)
      simp [Json.tokensUpTo?, List.dropWhile_cons_of_neg, solid, taken, read]

/-- A text is cut into the tokens that it is made of. -/
theorem Lexes.tokens? {text : List Char} {tokens : List Token} (lexes : Lexes text tokens) :
    Json.tokens? text = some tokens := lexes.tokensUpTo? (Nat.le_refl _)

variable {rest : List Char} {more : List Token}

/-- A token is the characters that are taken for it. -/
theorem Lexes.word (c : Char) (word : List Char) {token : Token} (others : Lexes rest more)
    (solid : isGap c = false) (taken : Token.take? (c :: word ++ rest) = some (token, rest)) :
    Lexes (c :: word ++ rest) (token :: more) :=
  .token solid taken (by simp) others

/-- A new line adds no token. -/
theorem Lexes.newLine (level : Nat) (others : Lexes rest more) :
    Lexes (Value.newLine level ++ rest) more := by
  have blanks : ∀ count, Lexes (List.replicate count ' ' ++ rest) more := by
    intro count
    induction count with
    | zero => exact others
    | succ count ih => exact .gap rfl ih
  exact .gap rfl (blanks _)

/-- A quoted text is a token of its own. -/
theorem Lexes.quoted (text : String) (others : Lexes rest more) :
    Lexes (Json.quoted text ++ rest) (.text text :: more) := by
  have taken : Token.take? (Json.quoted text ++ rest) = some (.text text, rest) := by
    simp [Json.quoted, Token.take?, takeText?_quoted]
  exact others.word '"' (text.toList.flatMap escape ++ ['"']) rfl taken

/-- A digit is no gap. -/
theorem isGap_of_isDigit {c : Char} (digit : isDigit c = true) : isGap c = false := by
  by_contra blank
  simp only [Bool.not_eq_false, isGap, Bool.or_eq_true, beq_iff_eq] at blank
  obtain ((rfl | rfl) | rfl) | rfl := blank <;> exact absurd digit (by decide)

/-- A digit begins a number. -/
theorem take?_of_isDigit {c : Char} (digit : isDigit c = true) (text : List Char) :
    Token.take? (c :: text) =
      (takeNumber? (c :: text)).map fun (value, after) => (.number value, after) := by
  unfold Token.take?
  split
  case h_11 => rfl
  all_goals
    rename_i after same
    obtain ⟨rfl, -⟩ := List.cons_eq_cons.mp same
    exact absurd digit (by decide)

/-- A written number is a token of its own. -/
theorem Lexes.nat {value : Nat} (fits : value < 2 ^ 64) (ends : EndsNumber rest)
    (others : Lexes rest more) :
    Lexes (naturalChars value ++ rest) (.number (.integer value) :: more) := by
  have taken := takeNumber?_naturalChars fits ends
  have digits : ∀ c ∈ naturalChars value, isDigit c = true := fun c => Integer.isDigit_of_mem
  obtain ⟨c, following, written⟩ :=
    List.exists_cons_of_ne_nil (Integer.naturalChars_ne_nil value)
  rw [written] at taken digits ⊢
  have digit : isDigit c = true := digits c (by simp)
  refine Lexes.word c following others (isGap_of_isDigit digit) ?_
  rw [List.cons_append, take?_of_isDigit digit, ← List.cons_append, taken, Option.map_some]

/-- A number ends at a new line. -/
theorem endsNumber_newLine (level : Nat) (text : List Char) :
    EndsNumber (Value.newLine level ++ text) := endsNumber_cons (by decide) _

/-- A number ends where further items or the end of an array begin. -/
theorem endsNumber_prettyItems (level : Nat) (items : List Value) (ends : EndsNumber rest) :
    EndsNumber (Value.prettyItems level items ++ rest) := by
  cases items with
  | nil => exact ends
  | cons item items => exact endsNumber_cons (by decide) _

/-- A number ends where further members or the end of an object begin. -/
theorem endsNumber_prettyMembers (level : Nat) (members : List (String × Value))
    (ends : EndsNumber rest) : EndsNumber (Value.prettyMembers level members ++ rest) := by
  cases members with
  | nil => exact ends
  | cons member members => exact endsNumber_cons (by decide) _

/-- A value is written as its tokens, at any level of indentation. -/
def Lexed (value : Value) : Prop :=
  ∀ (level : Nat) {rest : List Char} {more : List Token}, EndsNumber rest → Lexes rest more →
    Lexes (value.prettyChars level ++ rest) (value.tokens ++ more)

/-- The items of an array behind the first are cut into their tokens, with commas before them. -/
theorem Lexes.furtherItems {items : List Value} (each : ∀ item ∈ items, Lexed item) (level : Nat)
    (ends : EndsNumber rest) (others : Lexes rest more) :
    Lexes (Value.prettyItems level items ++ rest) (Json.furtherItems items ++ more) := by
  induction items with
  | nil => exact others
  | cons item items ih =>
      obtain ⟨first, following⟩ := List.forall_mem_cons.mp each
      have last := ih following
      have value := first level (endsNumber_prettyItems level items ends) last
      have comma := (value.newLine level).word ',' [] rfl rfl
      simpa [Value.prettyItems, Json.furtherItems] using comma

/-- A member is cut into its name, a colon and the tokens of its value. -/
theorem Lexes.member (name : String) {value : Value} (lexed : Lexed value) (level : Nat)
    (ends : EndsNumber rest) (others : Lexes rest more) :
    Lexes (Value.newLine level ++ (Json.quoted name ++
        ':' :: ' ' :: (value.prettyChars level ++ rest)))
      (.text name :: .colon :: (value.tokens ++ more)) := by
  have blank := Lexes.gap (show isGap ' ' = true from rfl) (lexed level ends others)
  exact ((blank.word ':' [] rfl rfl).quoted name).newLine level

/-- The members of an object behind the first are cut into their tokens. -/
theorem Lexes.furtherMembers {members : List (String × Value)}
    (each : ∀ member ∈ members, Lexed member.2) (level : Nat) (ends : EndsNumber rest)
    (others : Lexes rest more) :
    Lexes (Value.prettyMembers level members ++ rest) (Json.furtherMembers members ++ more) := by
  induction members with
  | nil => exact others
  | cons member members ih =>
      obtain ⟨first, following⟩ := List.forall_mem_cons.mp each
      have last := ih following
      have value := Lexes.member member.1 first level
        (endsNumber_prettyMembers level members ends) last
      have comma := value.word ',' [] rfl rfl
      simpa [Value.prettyMembers, Json.furtherMembers] using comma

/-- A legible value is cut into its tokens. -/
theorem Legible.lexed {depth : Nat} {value : Value} (legible : Legible depth value) :
    Lexed value := by
  -- The text of an array or an object is cut from its end, since each part needs what follows it.
  induction legible with
  | null => exact fun _ _ _ _ others => others.word 'n' ['u', 'l', 'l'] rfl rfl
  | bool value =>
      intro level rest more _ others
      cases value with
      | true => exact others.word 't' ['r', 'u', 'e'] rfl rfl
      | false => exact others.word 'f' ['a', 'l', 's', 'e'] rfl rfl
  | nat fits => exact fun _ _ _ ends others => others.nat fits ends
  | text value => exact fun _ _ _ _ others => others.quoted value
  | @array depth items each ih =>
      intro level rest more ends others
      cases items with
      | nil => exact (others.word _ [] rfl rfl).word _ [] rfl rfl
      | cons item items =>
          obtain ⟨first, following⟩ := List.forall_mem_cons.mp ih
          have close := (others.word ']' [] rfl rfl).newLine level
          have last := Lexes.furtherItems following (level + 1) (endsNumber_newLine level _) close
          have value := first (level + 1)
            (endsNumber_prettyItems (level + 1) items (endsNumber_newLine level _)) last
          have opening := (value.newLine (level + 1)).word '[' [] rfl rfl
          simpa [Value.prettyChars, Value.tokens] using opening
  | @object depth members each ih =>
      intro level rest more ends others
      cases members with
      | nil => exact (others.word _ [] rfl rfl).word _ [] rfl rfl
      | cons member members =>
          obtain ⟨first, following⟩ := List.forall_mem_cons.mp ih
          have close := (others.word '}' [] rfl rfl).newLine level
          have last := Lexes.furtherMembers following (level + 1) (endsNumber_newLine level _) close
          have value := Lexes.member member.1 first (level + 1)
            (endsNumber_prettyMembers (level + 1) members (endsNumber_newLine level _)) last
          have opening := value.word '{' [] rfl rfl
          simpa [Value.prettyChars, Value.tokens] using opening

end Lexing

section Parsing

/-- No value begins with the end of an array. -/
theorem Value.tokens_eq_cons (value : Value) :
    ∃ token others, value.tokens = token :: others ∧ token ≠ .closeBracket := by
  unfold Value.tokens
  split <;> exact ⟨_, _, rfl, by simp⟩

/-- An array is read item by item. -/
theorem value?_array {fuel depth : Nat} {token : Token} (begun : token ≠ .closeBracket)
    (tokens : List Token) :
    value? (fuel + 1) (depth + 1) (.openBracket :: token :: tokens) =
      (items? fuel depth (token :: tokens)).map fun (items, after) => (.array items, after) := by
  rw [value?]
  simp [begun]

/-- An object is read member by member. -/
theorem value?_object (fuel depth : Nat) (name : String) (tokens : List Token) :
    value? (fuel + 1) (depth + 1) (.openBrace :: .text name :: tokens) =
      (members? fuel depth (.text name :: tokens)).map
        fun (members, after) => (.object members, after) := by
  rw [value?]
  simp

/-- The tokens of a value are read as the value, and what follows them is left. -/
def Parsed (depth : Nat) (value : Value) : Prop :=
  ∀ (fuel : Nat) (rest : List Token), value.tokens.length ≤ fuel →
    value? fuel depth (value.tokens ++ rest) = some (value, rest)

/-- Every turn takes a comma or the bracket besides its item, so more fuel than the items have
tokens is enough. -/
theorem items?_tokens {depth : Nat} {item : Value} {items : List Value}
    (first : Parsed depth item) (each : ∀ item ∈ items, Parsed depth item) {fuel : Nat}
    (enough : item.tokens.length + (furtherItems items).length < fuel) (rest : List Token) :
    items? fuel depth (item.tokens ++ furtherItems items ++ .closeBracket :: rest) =
      some (item :: items, rest) := by
  induction items generalizing item fuel with
  | nil =>
      obtain _ | fuel := fuel
      · omega
      have read := first fuel (.closeBracket :: rest) (by omega)
      simp [items?, furtherItems, read]
  | cons next items ih =>
      obtain _ | fuel := fuel
      · omega
      obtain ⟨second, others⟩ := List.forall_mem_cons.mp each
      simp only [furtherItems, List.length_cons, List.length_append] at enough
      have following := @ih next second others fuel (by omega)
      have read := first fuel
        (.comma :: (next.tokens ++ furtherItems items ++ .closeBracket :: rest)) (by omega)
      simp only [items?, furtherItems, List.append_assoc, List.cons_append] at read following ⊢
      simp [read, following]

/-- The members of an object are read from their tokens. -/
theorem members?_tokens {depth : Nat} {name : String} {value : Value}
    {members : List (String × Value)} (first : Parsed depth value)
    (each : ∀ member ∈ members, Parsed depth member.2) {fuel : Nat}
    (enough : value.tokens.length + (furtherMembers members).length + 2 < fuel)
    (rest : List Token) :
    members? fuel depth (.text name :: .colon ::
        (value.tokens ++ furtherMembers members ++ .closeBrace :: rest)) =
      some ((name, value) :: members, rest) := by
  induction members generalizing name value fuel with
  | nil =>
      obtain _ | fuel := fuel
      · omega
      have read := first fuel (.closeBrace :: rest) (by omega)
      simp [members?, furtherMembers, read]
  | cons next members ih =>
      obtain _ | fuel := fuel
      · omega
      obtain ⟨second, others⟩ := List.forall_mem_cons.mp each
      simp only [furtherMembers, List.length_cons, List.length_append] at enough
      have following := @ih next.1 next.2 second others fuel (by omega)
      have read := first fuel (.comma :: .text next.1 :: .colon ::
        (next.2.tokens ++ furtherMembers members ++ .closeBrace :: rest)) (by omega)
      simp only [members?, furtherMembers, List.append_assoc, List.cons_append] at read following ⊢
      simp [read, following]

/-- A legible value is read from its tokens. -/
theorem Legible.parsed {depth : Nat} {value : Value} (legible : Legible depth value) :
    Parsed depth value := by
  induction legible with
  | null | bool _ | nat _ | text _ =>
      intro fuel rest enough
      obtain _ | fuel := fuel
      · simp [Value.nat, Value.tokens] at enough
      · simp [Value.nat, Value.tokens, value?]
  | @array depth items each ih =>
      intro fuel rest enough
      obtain _ | fuel := fuel
      · cases items <;> simp [Value.tokens] at enough
      cases items with
      | nil => rfl
      | cons item items =>
          obtain ⟨first, following⟩ := List.forall_mem_cons.mp ih
          obtain ⟨token, others, written, begun⟩ := item.tokens_eq_cons
          simp only [Value.tokens, List.length_cons, List.length_append] at enough
          have read := @items?_tokens depth item items first following fuel (by omega) rest
          simp only [Value.tokens, written, List.cons_append, List.append_assoc] at read ⊢
          simp [value?_array begun, read]
  | @object depth members each ih =>
      intro fuel rest enough
      obtain _ | fuel := fuel
      · cases members <;> simp [Value.tokens] at enough
      cases members with
      | nil => rfl
      | cons member members =>
          obtain ⟨first, following⟩ := List.forall_mem_cons.mp ih
          simp only [Value.tokens, List.length_cons, List.length_append] at enough
          have read := @members?_tokens depth member.1 member.2 members first following fuel
            (by omega) rest
          simp only [Value.tokens, List.cons_append, List.append_assoc] at read ⊢
          simp [value?_object, read]

/-- What is legible within the nesting limit is read again from its indented text. -/
theorem read?_pretty {value : Value} (legible : Legible nestingLimit value) :
    read? value.pretty = some value := by
  have lexed : tokens? (value.prettyChars 0) = some value.tokens := by
    have lexes := legible.lexed 0 (show EndsNumber [] by simp [EndsNumber]) .done
    simpa using lexes.tokens?
  have parsed := legible.parsed (value.tokens.length + 1) [] (Nat.le_succ _)
  rw [List.append_nil] at parsed
  simp [read?, Value.pretty, lexed, ofTokens?, parsed]

end Parsing

end Json

end HostAudit
