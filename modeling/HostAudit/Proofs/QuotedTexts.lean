import HostAudit.Toml.Quoted
import Mathlib.Data.List.Basic

/-
This file proves that a text between quotes of any kind is read as it was written. What stands
between the quotes has to meet two demands: that the closing quotes are found where they are, and
that it is the text again once its escapes are carried out.
-/

namespace HostAudit.Toml

section Closing

variable {quote : Char} {escapes : Bool} {most : Nat} {body rest : List Char}

/-- What may stand between quotes: no more quotes in a row than `most`, not counting those behind a
backslash where there are escapes. -/
inductive Body (quote : Char) (escapes : Bool) (most : Nat) : List Char → Prop
  | quotes {count : Nat} (few : count ≤ most) :
      Body quote escapes most (List.replicate count quote)
  | plain {count : Nat} {c : Char} {body : List Char} (few : count ≤ most) (noQuote : c ≠ quote)
      (noSlash : escapes = true → c ≠ '\\') (further : Body quote escapes most body) :
      Body quote escapes most (List.replicate count quote ++ c :: body)
  | escaped {count : Nat} {c : Char} {body : List Char} (few : count ≤ most)
      (allowed : escapes = true) (further : Body quote escapes most body) :
      Body quote escapes most (List.replicate count quote ++ '\\' :: c :: body)

/-- A word without quotes and escapes may stand before what fits. -/
theorem Body.append_plain {word : List Char} (noQuote : quote ∉ word)
    (noSlash : escapes = true → '\\' ∉ word) (further : Body quote escapes most body) :
    Body quote escapes most (word ++ body) := by
  induction word with
  | nil => exact further
  | cons c word ih =>
      simp only [List.mem_cons, not_or] at noQuote noSlash
      exact .plain (Nat.zero_le most) (Ne.symm noQuote.1) (fun used => Ne.symm (noSlash used).1)
        (ih noQuote.2 fun used => (noSlash used).2)

/-- Where no quote stands for itself, none stands first. -/
theorem Body.begins (noSlash : quote ≠ '\\') (fits : Body quote escapes 0 body) :
    ∀ c ∈ body.head?, c ≠ quote := by
  cases fits with
  | quotes few =>
      obtain rfl := Nat.le_zero.mp few
      simp
  | plain few noQuote _ _ =>
      obtain rfl := Nat.le_zero.mp few
      simpa using noQuote
  | escaped few _ _ =>
      obtain rfl := Nat.le_zero.mp few
      simpa using Ne.symm noSlash

/-- A quote ends a line. -/
theorem takeLine?_close (rest : List Char) :
    takeLine? quote escapes (quote :: rest) = some ([], rest) := by
  cases rest <;> simp [takeLine?]

/-- A character that is no quote is taken as it is. -/
theorem takeLine?_plain {c : Char} (noQuote : c ≠ quote) (noSlash : escapes = true → c ≠ '\\')
    (text : List Char) :
    takeLine? quote escapes (c :: text) =
      (takeLine? quote escapes text).map fun (body, after) => (c :: body, after) := by
  cases text with
  | nil => simp [takeLine?, noQuote]
  | cons d rest =>
      have unshielded : (escapes && c == '\\') = false := by
        cases escapes
        · rfl
        · simpa using noSlash rfl
      rw [takeLine?, if_neg noQuote, unshielded]
      rfl

/-- A character behind a backslash is taken with it, even if it is a quote. -/
theorem takeLine?_escaped (noSlash : quote ≠ '\\') (c : Char) (text : List Char) :
    takeLine? quote true ('\\' :: c :: text) =
      (takeLine? quote true text).map fun (body, after) => ('\\' :: c :: body, after) := by
  rw [takeLine?, if_neg (Ne.symm noSlash)]
  rfl

/-- A quote that closes a line is found. -/
theorem Body.takeLine? (noSlash : quote ≠ '\\') (fits : Body quote escapes 0 body)
    (rest : List Char) :
    Toml.takeLine? quote escapes (body ++ quote :: rest) = some (body, rest) := by
  induction fits with
  | quotes few =>
      obtain rfl := Nat.le_zero.mp few
      exact takeLine?_close rest
  | plain few noQuote noSlash _ ih =>
      obtain rfl := Nat.le_zero.mp few
      simp only [List.replicate_zero, List.nil_append, List.cons_append]
      rw [takeLine?_plain noQuote noSlash, ih]
      rfl
  | escaped few allowed _ ih =>
      obtain rfl := Nat.le_zero.mp few
      subst allowed
      simp only [List.replicate_zero, List.nil_append, List.cons_append]
      rw [takeLine?_escaped noSlash, ih]
      rfl

/-- Less than three quotes in a row close nothing. -/
theorem closing?_of_few {count : Nat} {c : Char} (few : count ≤ 2) (noQuote : c ≠ quote)
    (text : List Char) : closing? quote (List.replicate count quote ++ c :: text) = none := by
  have cases : count = 0 ∨ count = 1 ∨ count = 2 := by omega
  rcases cases with rfl | rfl | rfl <;>
    simp [closing?, Text.after?, List.replicate, Ne.symm noQuote]

/-- Of five quotes or less the last three close a block. -/
theorem closing?_of_ends {count : Nat} (few : count ≤ 2) (stops : ∀ c ∈ rest.head?, c ≠ quote) :
    closing? quote (List.replicate count quote ++ quote :: quote :: quote :: rest) =
      some (List.replicate count quote, rest) := by
  have none : rest.takeWhile (· = quote) = [] := by
    cases rest with
    | nil => rfl
    | cons c rest => simp [stops c rfl]
  have cases : count = 0 ∨ count = 1 ∨ count = 2 := by omega
  rcases cases with rfl | rfl | rfl <;> simp [closing?, Text.after?, List.replicate, none]

/-- Three quotes end a block. -/
theorem takeBlock?_close {text more : List Char} (long : 2 ≤ text.length)
    (closed : closing? quote text = some (body, more)) :
    takeBlock? quote escapes text = some (body, more) := by
  match text, long with
  | c :: d :: text, _ => rw [takeBlock?, closed]

/-- A character that begins no closing quotes is taken as it is. -/
theorem takeBlock?_plain {c : Char} {text : List Char} (filled : text ≠ [])
    (opened : closing? quote (c :: text) = none) (noSlash : escapes = true → c ≠ '\\') :
    takeBlock? quote escapes (c :: text) =
      (takeBlock? quote escapes text).map fun (body, after) => (c :: body, after) := by
  obtain ⟨d, rest, rfl⟩ := List.exists_cons_of_ne_nil filled
  have unshielded : (escapes && c == '\\') = false := by
    cases escapes
    · rfl
    · simpa using noSlash rfl
  rw [takeBlock?, opened]
  dsimp only
  rw [unshielded]
  rfl

/-- In a block, too, a character behind a backslash is taken with it. -/
theorem takeBlock?_escaped (noSlash : quote ≠ '\\') (c : Char) (text : List Char) :
    takeBlock? quote true ('\\' :: c :: text) =
      (takeBlock? quote true text).map fun (body, after) => ('\\' :: c :: body, after) := by
  have opened := closing?_of_few (Nat.zero_le 2) (Ne.symm noSlash) (c :: text)
  rw [List.replicate_zero, List.nil_append] at opened
  rw [takeBlock?, opened]
  rfl

/-- Up to two quotes belong to the text of a block if another character follows. -/
theorem takeBlock?_few {count : Nat} {c : Char} (few : count ≤ 2) (noQuote : c ≠ quote)
    (noSlash : quote ≠ '\\') (text : List Char) :
    takeBlock? quote escapes (List.replicate count quote ++ c :: text) =
      (takeBlock? quote escapes (c :: text)).map fun (body, after) =>
        (List.replicate count quote ++ body, after) := by
  induction count with
  | zero => simp
  | succ count ih =>
      have opened := closing?_of_few few noQuote text
      rw [List.replicate_succ, List.cons_append] at opened ⊢
      rw [takeBlock?_plain (by simp) opened (fun _ => noSlash), ih (by omega), Option.map_map]
      rfl

/-- Three quotes that close a block are found. -/
theorem Body.takeBlock? (noSlash : quote ≠ '\\') (fits : Body quote escapes 2 body)
    (stops : ∀ c ∈ rest.head?, c ≠ quote) :
    Toml.takeBlock? quote escapes (body ++ quote :: quote :: quote :: rest) =
      some (body, rest) := by
  induction fits with
  -- Quotes that end the body make one run with those that close it.
  | quotes few => exact takeBlock?_close (by simp; omega) (closing?_of_ends few stops)
  | @plain count c body few noQuote noSlash' _ ih =>
      have opened := closing?_of_few (Nat.zero_le 2) noQuote
        (body ++ quote :: quote :: quote :: rest)
      rw [List.append_assoc, List.cons_append, takeBlock?_few few noQuote noSlash,
        takeBlock?_plain (by simp) opened noSlash', ih]
      rfl
  | escaped few allowed _ ih =>
      subst allowed
      rw [List.append_assoc, List.cons_append, List.cons_append,
        takeBlock?_few few (Ne.symm noSlash) noSlash, takeBlock?_escaped noSlash, ih]
      rfl

end Closing

section Meaning

variable {block : Bool} {body text rest : List Char}

/-- What stands between double quotes, and the text that it spells. -/
inductive Spells (block : Bool) : List Char → List Char → Prop
  | nil : Spells block [] []
  | same {c : Char} {body text : List Char} (kept : isPlain c = true ∨ block = true ∧ c = '\n')
      (noSlash : c ≠ '\\') (further : Spells block body text) :
      Spells block (c :: body) (c :: text)
  | escaped {c letter : Char} {more body text : List Char} (noSpace : isSpace letter = false)
      (plain : ∀ d ∈ letter :: more, isPlain d = true)
      (meaning : ∀ rest, takeEscape? (letter :: (more ++ rest)) = some (c, rest))
      (further : Spells block body text) :
      Spells block ('\\' :: letter :: (more ++ body)) (c :: text)

/-- A backslash before a character is not one before the end of a line. -/
theorem afterLineEnd?_of_plain {letter : Char} (noSpace : isSpace letter = false)
    (plain : isPlain letter = true) (text : List Char) : afterLineEnd? (letter :: text) = none := by
  have noBreak : letter ≠ '\n' := by
    rintro rfl
    exact absurd plain (by decide)
  rw [afterLineEnd?, List.dropWhile_cons_of_neg (by simp [noSpace])]
  split
  · rename_i same
    exact absurd (List.cons.inj same).1 noBreak
  · rfl

/-- A body is read as the text that it spells. -/
theorem Spells.unescape? (spells : Spells block body text) {fuel : Nat}
    (enough : body.length ≤ fuel) : Toml.unescape? block fuel body = some text := by
  induction spells generalizing fuel with
  | nil => rw [Toml.unescape?]
  | same kept noSlash further ih =>
      cases fuel with
      | zero => exact absurd enough (Nat.not_succ_le_zero _)
      | succ fuel =>
          rw [Toml.unescape?, if_neg noSlash, if_pos (by simpa using kept),
            ih (Nat.le_of_succ_le_succ enough)]
          rfl
  | @escaped c letter more body text noSpace plain meaning further ih =>
      cases fuel with
      | zero => exact absurd enough (Nat.not_succ_le_zero _)
      | succ fuel =>
          have shorter : body.length ≤ fuel := by
            simp only [List.length_cons, List.length_append] at enough
            omega
          -- The letter shows, so that this is no escaped end of a line.
          have goesOn : (if block = true then afterLineEnd? (letter :: (more ++ body)) else none) =
              none := by
            rw [afterLineEnd?_of_plain noSpace (plain letter List.mem_cons_self), ite_self]
          rw [Toml.unescape?, if_pos rfl, goesOn]
          simp only [meaning, Option.bind_eq_bind, Option.bind_some, ih shorter, Option.pure_def]

/-- A body has no control characters but line breaks. -/
theorem Spells.plain (spells : Spells block body text) :
    ∀ c ∈ body, isPlain c = true ∨ c = '\n' := by
  induction spells with
  | nil => exact fun c member => absurd member List.not_mem_nil
  | same kept noSlash further ih =>
      exact List.forall_mem_cons.mpr ⟨kept.imp_right And.right, ih⟩
  | escaped noSpace plain meaning further ih =>
      refine List.forall_mem_cons.mpr ⟨.inl (by decide), ?_⟩
      rw [← List.cons_append]
      exact List.forall_mem_append.mpr ⟨fun c member => .inl (plain c member), ih⟩

/-- Only a text with line breaks is spelled with a line break in front. -/
theorem Spells.break_mem (spells : Spells block ('\n' :: body) text) : '\n' ∈ text := by
  cases spells with
  | same kept noSlash further => exact List.mem_cons_self

end Meaning

section Writing

/-- How a character stands between double quotes: as it is, or after a backslash as a letter or with
its code. -/
inductive Escaped (c : Char) : List Char → Prop
  | same (plain : isPlain c = true) (noQuote : c ≠ '"') (noSlash : c ≠ '\\') : Escaped c [c]
  | letter {letter : Char} (meaning : escaped? letter = some c) : Escaped c ['\\', letter]
  | code (control : isControl c = true) : Escaped c (codeChars c)

/-- Each character is written in one of the ways in which it may stand. -/
theorem escaped_escape (c : Char) : Escaped c (escape c) := by
  unfold escape
  split
  case h_8 noQuote noSlash _ _ _ _ _ =>
    split
    case isTrue control => exact .code control
    case isFalse shown => exact .same (by simp [isPlain, shown]) noQuote noSlash
  all_goals exact .letter rfl

/-- Control characters have small codes. -/
theorem toNat_of_isControl {c : Char} (control : isControl c = true) : c.toNat < 128 := by
  simp only [isControl, Bool.or_eq_true, decide_eq_true_eq, beq_iff_eq] at control
  rcases control with below | rfl
  · have bound : c.toNat < 32 := below
    omega
  · decide

/-- The four digits of a code. -/
def codeDigits (value : Nat) : List Char :=
  let digits := (Integer.hexChars value).map Char.toUpper
  List.replicate (4 - digits.length) '0' ++ digits

/-- A small code is written with four digits, and is read as its character. -/
theorem codeDigits_small {value : Nat} (small : value < 128) :
    (codeDigits value).length = 4 ∧ coded? (codeDigits value) = some (Char.ofNat value) ∧
      '"' ∉ codeDigits value ∧ '\\' ∉ codeDigits value ∧
      ∀ d ∈ codeDigits value, isPlain d = true := by
  have all : ∀ value < 128, (codeDigits value).length = 4 ∧
      coded? (codeDigits value) = some (Char.ofNat value) ∧
      '"' ∉ codeDigits value ∧ '\\' ∉ codeDigits value ∧
      (codeDigits value).all isPlain = true := by decide +kernel
  simpa only [List.all_eq_true] using all value small

/-- The code of a control character is read as this character. -/
theorem takeEscape?_code {c : Char} (control : isControl c = true) (rest : List Char) :
    takeEscape? ('u' :: (codeDigits c.toNat ++ rest)) = some (c, rest) := by
  obtain ⟨four, meaning, -⟩ := codeDigits_small (toNat_of_isControl control)
  rw [takeEscape?, if_neg (by simp [four]), ← four, List.take_left, List.drop_left, meaning,
    Char.ofNat_toNat]
  rfl

/-- A letter behind a backslash is read as the character that it means. -/
theorem takeEscape?_letter {letter c : Char} (meaning : escaped? letter = some c)
    (rest : List Char) : takeEscape? (letter :: rest) = some (c, rest) := by
  have short : letter ≠ 'u' := by
    rintro rfl
    simp [escaped?] at meaning
  have long : letter ≠ 'U' := by
    rintro rfl
    simp [escaped?] at meaning
  rw [takeEscape?, meaning]
  · rfl
  · exact fun same => short same
  · exact fun same => long same

/-- The letters behind backslashes are no spaces. -/
theorem letter_of_escaped? {letter c : Char} (meaning : escaped? letter = some c) :
    isSpace letter = false ∧ isPlain letter = true := by
  unfold escaped? at meaning
  split at meaning <;> first | exact ⟨by decide, by decide⟩ | cases meaning

variable {block : Bool} {most : Nat} {c : Char} {written body text : List Char}

/-- What is written for a character spells it. -/
theorem Escaped.spells (escaped : Escaped c written) (further : Spells block body text) :
    Spells block (written ++ body) (c :: text) := by
  cases escaped with
  | same plain noQuote noSlash => exact .same (.inl plain) noSlash further
  | @letter letter meaning =>
      obtain ⟨noSpace, plain⟩ := letter_of_escaped? meaning
      have alone : ∀ d ∈ letter :: [], isPlain d = true := by simpa using plain
      exact .escaped noSpace alone (takeEscape?_letter meaning) further
  | code control =>
      obtain ⟨-, -, -, -, plain⟩ := codeDigits_small (toNat_of_isControl control)
      exact .escaped (by decide) (List.forall_mem_cons.mpr ⟨by decide, plain⟩)
        (takeEscape?_code control) further

/-- What is written for a character fits between double quotes, behind a few quotes as well. -/
theorem Escaped.fits {count : Nat} (escaped : Escaped c written) (few : count ≤ most)
    (further : Body '"' true most body) :
    Body '"' true most (List.replicate count '"' ++ (written ++ body)) := by
  cases escaped with
  | same plain noQuote noSlash => exact .plain few noQuote (fun _ => noSlash) further
  | letter meaning => exact .escaped few rfl further
  | code control =>
      obtain ⟨-, -, noQuote, noSlash, -⟩ := codeDigits_small (toNat_of_isControl control)
      exact .escaped few rfl (further.append_plain noQuote fun _ => noSlash)

/-- A text that is escaped spells itself. -/
theorem spells_escape (text : List Char) : Spells false (text.flatMap escape) text := by
  induction text with
  | nil => exact .nil
  | cons c text ih => exact (escaped_escape c).spells ih

/-- No quote stands for itself in a text that is escaped. -/
theorem fits_escape (text : List Char) : Body '"' true 0 (text.flatMap escape) := by
  induction text with
  | nil => exact .quotes (Nat.zero_le 0)
  | cons c text ih => exact (escaped_escape c).fits (Nat.zero_le 0) ih

/-- A block that is escaped spells its text. -/
theorem spells_escapeBlock (run : Nat) (text : List Char) :
    Spells true (escapeBlock run text) text := by
  induction text generalizing run with
  | nil => exact .nil
  | cons c text ih =>
      rw [escapeBlock]
      split
      · rename_i quote
        subst quote
        split
        · exact .same (.inl (by decide)) (by decide) (ih (run + 1))
        · exact (Escaped.letter (by decide)).spells (ih 0)
      · split
        · rename_i lineBreak
          subst lineBreak
          exact .same (.inr ⟨rfl, rfl⟩) (by decide) (ih 0)
        · exact (escaped_escape c).spells (ih 0)

/-- Quotes that stand for themselves make a run together with those before them. -/
theorem fits_escapeBlock (run : Nat) (few : run ≤ 2) (text : List Char) :
    Body '"' true 2 (List.replicate run '"' ++ escapeBlock run text) := by
  induction text generalizing run with
  | nil =>
      rw [escapeBlock, List.append_nil]
      exact .quotes few
  | cons c text ih =>
      have fresh := ih 0 (Nat.zero_le 2)
      rw [List.replicate_zero, List.nil_append] at fresh
      rw [escapeBlock]
      split
      · rename_i quote
        subst quote
        split
        · rename_i room
          have longer := ih (run + 1) room
          rwa [List.replicate_succ', List.append_assoc] at longer
        · exact .escaped few rfl fresh
      · split
        · rename_i lineBreak
          subst lineBreak
          exact .plain few (by decide) (fun _ => by decide) fresh
        · exact (escaped_escape c).fits few fresh

end Writing

section Verbatim

variable {c quote : Char} {most : Nat} {text : List Char}

/-- Quotes make a run together with those before them. -/
theorem fits_verbatim (run : Nat) (few : longestRun quote run text ≤ most) :
    Body quote false most (List.replicate run quote ++ text) := by
  induction text generalizing run with
  | nil =>
      rw [List.append_nil]
      exact .quotes few
  | cons d rest ih =>
      rw [longestRun] at few
      split at few
      · rename_i same
        subst same
        have longer := ih (run + 1) few
        rwa [List.replicate_succ', List.append_assoc] at longer
      · rename_i other
        obtain ⟨before, after⟩ := Nat.max_le.mp few
        exact .plain before other (by simp) (ih 0 after)

/-- A text that needs no codes has no control characters but line breaks. -/
theorem plain_of_needsCodes (simple : needsCodes text = false) (member : c ∈ text) :
    isPlain c = true ∨ c = '\n' := by
  have each := List.any_eq_false.mp simple c member
  simp only [Bool.and_eq_true, Bool.not_eq_true', bne_iff_ne, not_and_or] at each
  simpa using each

end Verbatim

section Kinds

variable {quoting : Quoting} {body text rest : List Char}

/-- Text stands between quotes of a kind that are fit for it. -/
def Quoting.Suits (quoting : Quoting) (text : List Char) : Prop :=
  match quoting with
  | .basic | .basicBlock => True
  | .literal => needsCodes text = false ∧ '\n' ∉ text ∧ Body '\'' false 0 text
  | .literalBlock => needsCodes text = false ∧ Body '\'' false 2 text

/-- The quotes that are chosen for a text suit it. -/
theorem Quoting.suits_ofText (text : List Char) : (ofText text).Suits text := by
  unfold ofText
  dsimp only
  split
  · trivial
  · split
    · rename_i chosen
      simp only [Bool.and_eq_true, Bool.not_eq_true', beq_iff_eq, List.contains_eq_mem,
        decide_eq_false_iff_not] at chosen
      exact ⟨chosen.1.1, chosen.2, fits_verbatim 0 (Nat.le_of_eq chosen.1.2)⟩
    · split
      · trivial
      · split
        · rename_i chosen
          simp only [Bool.and_eq_true, Bool.not_eq_true', decide_eq_true_eq] at chosen
          exact ⟨chosen.1, fits_verbatim 0 chosen.2⟩
        · split <;> trivial

/-- The quotes that are chosen for a name suit it, and are those of a line. -/
theorem Quoting.suits_ofName (name : List Char) :
    (ofName name = .basic ∨ ofName name = .literal) ∧ (ofName name).Suits name := by
  unfold ofName
  dsimp only
  split
  · exact ⟨.inl rfl, trivial⟩
  · split
    · rename_i chosen
      simp only [Bool.and_eq_true, Bool.not_eq_true', Bool.or_eq_false_iff, List.contains_eq_mem,
        decide_eq_false_iff_not] at chosen
      have fits : Body '\'' false 0 (name ++ []) :=
        Body.append_plain chosen.2 (by simp) (.quotes (Nat.le_refl 0))
      rw [List.append_nil] at fits
      exact ⟨.inr rfl, chosen.1.1, chosen.1.2, fits⟩
    · exact ⟨.inl rfl, trivial⟩

/-- A text between double quotes is read as it was written. -/
theorem takeQuotedLine?_basic (text rest : List Char) :
    takeQuotedLine? (quotedAs .basic text ++ rest) = some (text, rest) := by
  simp only [quotedAs, List.cons_append, List.append_assoc, List.nil_append, takeQuotedLine?]
  rw [(fits_escape text).takeLine? (by decide)]
  simp [(spells_escape text).unescape?]

/-- A text between single quotes is read as it was written, if they suit it. -/
theorem takeQuotedLine?_literal (suits : Quoting.literal.Suits text) (rest : List Char) :
    takeQuotedLine? (quotedAs .literal text ++ rest) = some (text, rest) := by
  obtain ⟨simple, oneLine, fits⟩ := suits
  have shown : verbatim? false text = some text := by
    refine if_pos (List.all_eq_true.mpr fun c member => ?_)
    rcases plain_of_needsCodes simple member with plain | rfl
    · simp [plain]
    · exact absurd member oneLine
  simp only [quotedAs, List.cons_append, List.append_assoc, List.nil_append, takeQuotedLine?]
  rw [fits.takeLine? (by decide)]
  simp [shown]

/-- A name between quotes is read as it was written. -/
theorem takeQuotedLine?_ofName (name rest : List Char) :
    takeQuotedLine? (quotedAs (.ofName name) name ++ rest) = some (name, rest) := by
  obtain ⟨kind, suits⟩ := Quoting.suits_ofName name
  rcases kind with kind | kind <;> rw [kind] at suits ⊢
  · exact takeQuotedLine?_basic name rest
  · exact takeQuotedLine?_literal suits rest

/-- The line break that begins a block is dropped, and no other. -/
theorem dropBreak_blockStart (begins : '\n' ∈ body.head? → '\n' ∈ text) {quote : Char}
    (noBreak : quote ≠ '\n') (rest : List Char) :
    dropBreak (blockStart text ++ (body ++ quote :: rest)) = body ++ quote :: rest := by
  unfold blockStart
  split
  · rfl
  · rename_i none
    rw [List.contains_iff_mem] at none
    cases body with
    | nil => exact dropBreak.eq_2 _ fun _ same => noBreak (List.cons.inj same).1
    | cons c body =>
        have other : c ≠ '\n' := by
          rintro rfl
          exact none (begins rfl)
        exact dropBreak.eq_2 _ fun _ same => other (List.cons.inj same).1

/-- A text on one line does not begin with three quotes. -/
theorem takeQuoted?_line {quote : Char} (begins : ∀ c ∈ body.head?, c ≠ quote)
    (stops : ∀ c ∈ rest.head?, c ≠ quote) :
    takeQuoted? (quote :: (body ++ quote :: rest)) =
      takeQuotedLine? (quote :: (body ++ quote :: rest)) := by
  -- The second quote closes the text, and no third one follows it.
  have three (other : Char) (more : List Char) :
      quote :: (body ++ quote :: rest) ≠ other :: other :: other :: more := by
    intro same
    obtain ⟨rfl, same⟩ := List.cons.inj same
    cases body with
    | nil =>
        cases rest with
        | nil => simp at same
        | cons c rest => exact stops c rfl (List.cons.inj (List.cons.inj same).2).1
    | cons c body => exact begins c rfl (List.cons.inj same).1
  unfold takeQuoted?
  split
  · rename_i same
    exact absurd same (three '"' _)
  · rename_i same
    exact absurd same (three '\'' _)
  · rfl

/-- A text between quotes is read as it was written, if no further quote follows. -/
theorem takeQuoted?_quotedAs (suits : quoting.Suits text)
    (noDouble : ∀ c ∈ rest.head?, c ≠ '"') (noSingle : ∀ c ∈ rest.head?, c ≠ '\'') :
    takeQuoted? (quotedAs quoting text ++ rest) = some (text, rest) := by
  cases quoting with
  | basic =>
      have line := takeQuoted?_line ((fits_escape text).begins (by decide)) noDouble
      have read := takeQuotedLine?_basic text rest
      simp only [quotedAs, List.cons_append, List.append_assoc, List.nil_append] at read ⊢
      rw [line, read]
  | literal =>
      have line := takeQuoted?_line (suits.2.2.begins (by decide)) noSingle
      have read := takeQuotedLine?_literal suits rest
      simp only [quotedAs, List.cons_append, List.append_assoc, List.nil_append] at read ⊢
      rw [line, read]
  | basicBlock =>
      have begins : '\n' ∈ (escapeBlock 0 text).head? → '\n' ∈ text := fun first => by
        have spells := spells_escapeBlock 0 text
        obtain ⟨more, same⟩ := List.head?_eq_some_iff.mp first
        rw [same] at spells
        exact spells.break_mem
      have fits : Body '"' true 2 (escapeBlock 0 text) := fits_escapeBlock 0 (Nat.zero_le 2) text
      simp only [quotedAs, List.cons_append, List.append_assoc, List.nil_append, takeQuoted?]
      rw [dropBreak_blockStart begins (by decide), fits.takeBlock? (by decide) noDouble]
      simp [(spells_escapeBlock 0 text).unescape?]
  | literalBlock =>
      have shown : verbatim? true text = some text :=
        if_pos (List.all_eq_true.mpr fun c member => by
          simpa using plain_of_needsCodes suits.1 member)
      simp only [quotedAs, List.cons_append, List.append_assoc, List.nil_append, takeQuoted?]
      rw [dropBreak_blockStart List.mem_of_mem_head? (by decide),
        suits.2.takeBlock? (by decide) noSingle]
      simp [shown]

/-- Texts between quotes have no characters that do not show, save for tabs and line breaks. -/
theorem plain_quotedAs (suits : quoting.Suits text) :
    ∀ c ∈ quotedAs quoting text, isPlain c = true ∨ c = '\n' := by
  have start : ∀ c ∈ blockStart text, isPlain c = true ∨ c = '\n' := by
    unfold blockStart
    split <;> simp
  have doubles : isPlain '"' = true := by decide
  have singles : isPlain '\'' = true := by decide
  cases quoting with
  | basic =>
      simpa [quotedAs, doubles, or_imp, forall_and] using (spells_escape text).plain
  | literal =>
      simpa [quotedAs, singles, or_imp, forall_and] using
        fun c member => plain_of_needsCodes suits.1 member
  | basicBlock =>
      simpa [quotedAs, doubles, or_imp, forall_and] using
        ⟨start, (spells_escapeBlock 0 text).plain⟩
  | literalBlock =>
      simpa [quotedAs, singles, or_imp, forall_and] using
        ⟨start, fun c member => plain_of_needsCodes suits.1 member⟩

/-- A text between quotes begins with a quote. -/
theorem quotedAs_begins (quoting : Quoting) (text : List Char) :
    ∃ more, quotedAs quoting text = '"' :: more ∨ quotedAs quoting text = '\'' :: more := by
  cases quoting <;> simp [quotedAs]

end Kinds

end HostAudit.Toml
