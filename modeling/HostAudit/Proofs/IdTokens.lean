import HostAudit.Catalog.NumericId
import HostAudit.Proofs.TokenLocality

/-
This file proves how a key `id` and the number behind it are cut into tokens: the same whether the
number is plain or between quotes, but for the style of its own token.
-/

namespace HostAudit.Yaml

variable {cursor : Cursor}

/-- Characters are passed over one after another. -/
theorem skip_skip (cursor : Cursor) (first second : Nat) :
    (cursor.skip first).skip second = cursor.skip (first + second) := by
  simp only [Cursor.skip, List.drop_drop, Nat.add_assoc]

/-- Behind a gap there is neither a blank nor a line break. -/
theorem takeGap?_ends {indent : Option Nat} {fuel : Nat} {gap after : Gap}
    (enough : gap.cursor.rest.length < fuel) (read : takeGap? indent fuel gap = some after) :
    ∀ c ∈ after.cursor.rest.head?, (isSpace c || isBreak c) = false := by
  induction fuel generalizing gap with
  | zero => omega
  | succ fuel ih =>
      rw [takeGap?] at read
      split at read
      · rename_i ended
        cases read
        simp [ended]
      · rename_i c rest written
        have passed := skip_lt Nat.one_pos
          (written ▸ List.cons_ne_nil c rest : gap.cursor.rest ≠ [])
        split at read
        · split at read
          · exact ih (by dsimp only; omega) read
          · split at read
            · cases read
            · exact ih (by dsimp only; omega) read
        · rename_i solid
          split at read
          · rename_i broken
            have less := takeBreak?_shorter broken
            exact ih (by dsimp only; omega) read
          · rename_i unbroken
            cases read
            rw [written]
            rintro _ ⟨⟩
            rw [takeBreak?_eq, written, Option.map_eq_none_iff] at unbroken
            unfold breakAt? at unbroken
            grind

/-- A word is put behind the text with the gap before it, and an empty word adds nothing. -/
theorem Plain.with_text (plain : Plain) (gap : Gap) (word : List Char) (after : Cursor) :
    (plain.with gap word after).text =
      plain.text ++ if word.isEmpty then [] else gap.text ++ word := by
  rw [Plain.with]
  split
  · rw [List.append_nil]
  · rw [List.append_assoc]

/-- A plain scalar keeps what has been read of it. -/
theorem plainBehind?_extends {flow : Bool} {indent fuel : Nat} {plain result : Plain} {start : Gap}
    (behind : ∀ {next}, takePlain? flow indent fuel plain next = some result →
      plain.text <+: result.text)
    (read : plainBehind? flow indent fuel plain start = some result) :
    plain.text <+: result.text := by
  rw [plainBehind?] at read
  split at read
  · cases read
    exact List.prefix_rfl
  · split at read
    · obtain ⟨next, -, read⟩ := Option.bind_eq_some_iff.mp read
      split at read
      · cases read
        exact List.prefix_rfl
      · exact behind read
    · cases read
      exact List.prefix_rfl

/-- Reading on in a plain scalar only adds to its text. -/
theorem takePlain?_extends {flow : Bool} {indent fuel : Nat} {plain result : Plain} {gap : Gap}
    (read : takePlain? flow indent fuel plain gap = some result) : plain.text <+: result.text := by
  induction fuel generalizing plain gap with
  | zero =>
      cases read
      exact List.prefix_rfl
  | succ fuel ih =>
      rw [takePlain?_succ] at read
      split at read
      · cases read
        exact List.prefix_rfl
      · obtain ⟨⟨word, after⟩, -, read⟩ := Option.bind_eq_some_iff.mp read
        refine List.IsPrefix.trans ?_ (plainBehind?_extends ih read)
        rw [Plain.with_text]
        exact List.prefix_append _ _

/-- A plain scalar that takes no further word ends at its gap. -/
theorem takePlain?_stops {flow : Bool} {indent fuel : Nat} {plain result : Plain} {gap : Gap}
    (solid : ∀ c ∈ gap.cursor.rest.head?, (isSpace c || isBreak c) = false)
    (read : takePlain? flow indent (fuel + 1) plain gap = some result)
    (same : result.text = plain.text) :
    result.cursor = gap.cursor ∧ result.newLine = !gap.breaks.isEmpty := by
  rw [takePlain?_succ] at read
  split at read
  · cases read
    exact ⟨rfl, rfl⟩
  · obtain ⟨⟨word, after⟩, word_read, read⟩ := Option.bind_eq_some_iff.mp read
    have grown := (plainBehind?_extends takePlain?_extends read).length_le
    rw [same, Plain.with_text, List.length_append] at grown
    cases word with
    | cons c word =>
        simp only [List.isEmpty_cons, Bool.false_eq_true, if_false, List.length_append,
          List.length_cons] at grown
        omega
    | nil =>
        cases takePlainWord?_nil word_read
        dsimp only at read
        rw [plainBehind?, Gap.past_cursor] at read
        split at read
        · cases read
          exact ⟨rfl, rfl⟩
        · rename_i c rest written
          rw [if_neg (by rw [solid c (by rw [written]; rfl)]; simp)] at read
          cases read
          exact ⟨rfl, rfl⟩

/-- A numeral is none of the characters that have a meaning of their own. -/
theorem numeral_ne {c d : Char} (numeral : NumericId.isNumeral c)
    (other : NumericId.isNumeral d = false) : c ≠ d := by
  rintro rfl
  rw [numeral] at other
  cases other

/-- A numeral is no space. -/
theorem isSpace_numeral {c : Char} (numeral : NumericId.isNumeral c) : isSpace c = false := by
  simp [isSpace, numeral_ne numeral (show NumericId.isNumeral ' ' = false by decide),
    numeral_ne numeral (show NumericId.isNumeral '\t' = false by decide)]

/-- A numeral is no line break. -/
theorem isBreak_numeral {c : Char} (numeral : NumericId.isNumeral c) : isBreak c = false := by
  simp [isBreak, numeral_ne numeral (show NumericId.isNumeral '\n' = false by decide),
    numeral_ne numeral (show NumericId.isNumeral '\r' = false by decide),
    numeral_ne numeral (show NumericId.isNumeral '\x85' = false by decide),
    numeral_ne numeral (show NumericId.isNumeral '\u2028' = false by decide),
    numeral_ne numeral (show NumericId.isNumeral '\u2029' = false by decide)]

/-- A numeral belongs to a word of a plain scalar. -/
theorem wordPart?_numeral {c : Char} (numeral : NumericId.isNumeral c) (flow : Bool)
    (rest : List Char) : wordPart? flow (c :: rest) = some (some c) := by
  have colon := numeral_ne numeral (show NumericId.isNumeral ':' = false by decide)
  have noStray : hasStrayColon (c :: rest) = false := by
    unfold hasStrayColon
    grind
  have noEnd : endsPlain flow (c :: rest) = false := by
    unfold endsPlain
    split
    · rename_i same
      cases same
      exact absurd rfl colon
    · rename_i same
      cases same
      simp [numeral_ne numeral (show NumericId.isNumeral ',' = false by decide),
        numeral_ne numeral (show NumericId.isNumeral '[' = false by decide),
        numeral_ne numeral (show NumericId.isNumeral ']' = false by decide),
        numeral_ne numeral (show NumericId.isNumeral '\x7b' = false by decide),
        numeral_ne numeral (show NumericId.isNumeral '\x7d' = false by decide)]
    · rfl
  simp [wordPart?, isSpace_numeral numeral, isBreak_numeral numeral, noStray, noEnd]

/-- A numeral stands for itself between double quotes. -/
theorem quotedPart_numeral {c : Char} (numeral : NumericId.isNumeral c) (rest : List Char) :
    quotedPart false (c :: rest) = .taken [c] 1 := by
  simp [quotedPart, isSpace_numeral numeral, isBreak_numeral numeral,
    numeral_ne numeral (show NumericId.isNumeral '\'' = false by decide),
    numeral_ne numeral (show NumericId.isNumeral '"' = false by decide),
    numeral_ne numeral (show NumericId.isNumeral '\\' = false by decide)]

/-- The characters of a number are read as part of a plain scalar. -/
theorem takePlainWord?_number {flow : Bool} {number rest : List Char} (fuel : Nat)
    (numerals : ∀ c ∈ number, NumericId.isNumeral c) (written : cursor.rest = number ++ rest) :
    takePlainWord? flow (number.length + fuel) cursor =
      (takePlainWord? flow fuel (cursor.skip number.length)).map fun (more, cursor) =>
        (number ++ more, cursor) := by
  induction number generalizing cursor with
  | nil =>
      have unmoved : cursor.skip 0 = cursor := rfl
      simp [unmoved]
  | cons c number ih =>
      have next : (cursor.skip 1).rest = number ++ rest := by simp [Cursor.skip, written]
      have moved : (cursor.skip 1).skip number.length = cursor.skip (number.length + 1) := by
        rw [skip_skip, Nat.add_comm]
      rw [List.length_cons, Nat.add_right_comm, takePlainWord?_succ, written, List.cons_append,
        wordPart?_numeral (numerals c List.mem_cons_self),
        Option.bind_some]
      dsimp only
      rw [ih (fun d there => numerals d (List.mem_cons_of_mem c there)) next, moved,
        Option.map_map]
      rfl

/-- The text ends its line here, but for blanks and a comment. -/
def endsLine (text : List Char) : Bool :=
  let text := text.dropWhile isSpace
  let text := if text.head? = some '#' then text.dropWhile (!isBreak ·) else text
  text.head?.all isBreak

/-- A line that ends here goes on with a blank or a comment. -/
theorem endsLine_cons {c : Char} {rest : List Char} (ends : endsLine (c :: rest)) :
    (isSpace c || isBreak c) = true ∨ c = '#' := by
  by_cases space : isSpace c
  · exact .inl (by simp [space])
  · by_cases mark : c = '#'
    · exact .inr mark
    · refine .inl ?_
      simpa [endsLine, space, mark] using ends

/-- A number that is a plain scalar of its own is its first word, and no word follows at once. -/
theorem takePlain?_numberWord {flow : Bool} {indent fuel : Nat} {number rest : List Char}
    {result : Plain} (there : number ≠ []) (numerals : ∀ c ∈ number, NumericId.isNumeral c)
    (written : cursor.rest = number ++ rest) (inside : cursor.column ≠ 0)
    (read : takePlain? flow indent (fuel + 1) ⟨[], false, cursor⟩ ⟨[], [], cursor⟩ = some result)
    (text : result.text = number) :
    takePlainWord? flow (rest.length + 1) (cursor.skip number.length) =
        some ([], cursor.skip number.length) ∧
      plainBehind? flow indent fuel ⟨number, false, cursor.skip number.length⟩
        ⟨[], [], cursor.skip number.length⟩ = some result := by
  have size : cursor.rest.length + 1 = number.length + (rest.length + 1) := by
    rw [written, List.length_append, Nat.add_assoc]
  obtain ⟨c, digits, rfl⟩ := List.exists_cons_of_ne_nil there
  have head : cursor.rest.head? ≠ some '#' := by
    have other := numeral_ne (numerals c List.mem_cons_self)
      (show NumericId.isNumeral '#' = false by decide)
    simpa [written] using other
  rw [takePlain?_succ] at read
  dsimp only at read
  rw [if_neg (by simp [Cursor.atDocumentMark, inside, head]), size,
    takePlainWord?_number _ numerals written] at read
  obtain ⟨⟨word, after⟩, word_read, read⟩ := Option.bind_eq_some_iff.mp read
  obtain ⟨⟨more, _⟩, more_read, same⟩ := Option.map_eq_some_iff.mp word_read
  cases same
  -- The scalar holds the whole word, so nothing is left of the word behind the number.
  have grown := (plainBehind?_extends takePlain?_extends read).length_le
  have none : more = [] := by
    rw [text, Plain.with_text] at grown
    simp only [List.cons_append, List.isEmpty_cons, Bool.false_eq_true, if_false, List.nil_append,
      List.length_append, List.length_cons] at grown
    exact List.length_eq_zero_iff.mp (by omega)
  subst none
  cases takePlainWord?_nil more_read
  rw [List.append_nil] at read
  exact ⟨more_read, read⟩

/-- A number that is a plain scalar of its own ends at the gap behind it. -/
theorem takePlain?_number {flow : Bool} {indent fuel : Nat} {number rest : List Char}
    {result : Plain} (there : number ≠ []) (numerals : ∀ c ∈ number, NumericId.isNumeral c)
    (written : cursor.rest = number ++ rest) (inside : cursor.column ≠ 0) (ends : endsLine rest)
    (enough : cursor.rest.length < fuel)
    (read : takePlain? flow indent fuel ⟨[], false, cursor⟩ ⟨[], [], cursor⟩ = some result)
    (text : result.text = number) :
    ∃ next, takeGap? (some indent) (rest.length + 1) ⟨[], [], cursor.skip number.length⟩ =
        some next ∧ result.cursor = next.cursor ∧ result.newLine = !next.breaks.isEmpty := by
  obtain ⟨fuel, rfl⟩ : ∃ more, fuel = more + 1 := ⟨fuel - 1, by omega⟩
  have behind : (cursor.skip number.length).rest = rest := by simp [Cursor.skip, written]
  obtain ⟨more_read, read⟩ := takePlain?_numberWord there numerals written inside read text
  have positive := List.length_pos_iff.mpr there
  generalize cursor.skip number.length = after at behind more_read read
  rw [plainBehind?, behind] at read
  cases rest with
  | nil =>
      cases read
      exact ⟨⟨[], [], after⟩, by rw [takeGap?, behind], rfl, rfl⟩
  | cons d more =>
      have blank : (isSpace d || isBreak d) = true := by
        refine (endsLine_cons ends).resolve_right ?_
        rintro rfl
        have mark : wordPart? flow ('#' :: more) = some (some '#') := by cases flow <;> rfl
        rw [takePlainWord?_succ, behind, mark] at more_read
        obtain ⟨⟨_, _⟩, -, same⟩ := Option.map_eq_some_iff.mp more_read
        cases same
      dsimp only at read
      rw [if_pos blank] at read
      obtain ⟨next, passed, read⟩ := Option.bind_eq_some_iff.mp read
      refine ⟨next, passed, ?_⟩
      split at read
      · cases read
        exact ⟨rfl, rfl⟩
      · obtain ⟨fuel, rfl⟩ : ∃ more, fuel = more + 1 :=
          ⟨fuel - 1, by simp only [written, List.length_append, List.length_cons] at enough; omega⟩
        exact takePlain?_stops (takeGap?_ends (by simp [behind]) passed) read text

/-- The characters of a number are read as part of a scalar in quotes. -/
theorem takeQuoted?_number {number rest : List Char} (fuel : Nat)
    (numerals : ∀ c ∈ number, NumericId.isNumeral c) (written : cursor.rest = number ++ '"' :: rest)
    (inside : cursor.column ≠ 0) :
    takeQuoted? false (number.length + 1 + fuel) cursor =
      some (number, cursor.skip (number.length + 1)) := by
  induction number generalizing cursor with
  | nil =>
      rw [List.length_nil, Nat.zero_add, Nat.add_comm, takeQuoted?_succ, written]
      simp [Cursor.atDocumentMark, inside, quotedPart]
  | cons c number ih =>
      have next : (cursor.skip 1).rest = number ++ '"' :: rest := by simp [Cursor.skip, written]
      have moved : (cursor.skip 1).skip (number.length + 1) = cursor.skip (number.length + 2) := by
        rw [skip_skip, Nat.add_comm]
      rw [List.length_cons, Nat.add_right_comm, takeQuoted?_succ, written, List.cons_append,
        quotedPart_numeral (numerals c List.mem_cons_self),
        if_neg (by simp [Cursor.atDocumentMark, inside])]
      dsimp only [quotedBehind?]
      rw [ih (fun d there => numerals d (List.mem_cons_of_mem c there)) next
        (by simp [Cursor.skip]), moved]
      rfl

namespace Lexer

variable {lexer stand : Lexer}

/-- No block is open that ends before the column. -/
def Settled (lexer : Lexer) (column : Nat) : Prop :=
  lexer.inFlow ∨ lexer.indent ≤ column ∨ lexer.outer = []

/-- After closing blocks, none is open that ends before the column. -/
theorem closeBlocks_settled (lexer : Lexer) (column fuel : Nat)
    (enough : lexer.outer.length ≤ fuel) : (lexer.closeBlocks column fuel).Settled column := by
  induction fuel generalizing lexer with
  | zero => exact .inr (.inr (List.length_eq_zero_iff.mp (Nat.le_zero.mp enough)))
  | succ fuel ih =>
      rw [closeBlocks]
      split
      · split
        · rename_i indent outer written
          rw [written, List.length_cons] at enough
          exact ih _ (by dsimp only; omega)
        · rename_i written
          exact .inr (.inr written)
      · rename_i done
        by_cases flow : lexer.inFlow
        · exact .inl flow
        · simp only [flow, Bool.not_false, Bool.true_and, decide_eq_true_eq] at done
          exact .inr (.inl (by omega))

/-- At a token, all blocks are closed that end before it. -/
theorem settle?_settled (settled : lexer.settle? = some stand) :
    stand.Settled stand.cursor.column := by
  obtain ⟨middle, -, same⟩ := Option.map_eq_some_iff.mp settled
  subst same
  rw [unroll_cursor]
  exact closeBlocks_settled middle _ _ le_rfl

/-- Where blocks are closed up to a column, none is closed further inside. -/
theorem Settled.unroll_eq {column further : Nat} (settled : lexer.Settled column)
    (within : column ≤ further) : lexer.unroll further = lexer := by
  rw [unroll]
  cases length : lexer.outer.length with
  | zero => rfl
  | succ fuel =>
      rw [closeBlocks, if_neg]
      obtain flow | left | none := settled
      · simp [flow]
      · simp only [Bool.and_eq_true, decide_eq_true_eq, not_and, not_lt]
        intro _
        omega
      · rw [none] at length
        cases length

/-- Where no place is too old to become a key, none is dropped. -/
theorem dropStale?_fresh (fresh : ∀ entry ∈ lexer.candidates, stale lexer entry = false) :
    lexer.dropStale? = some lexer := by
  rw [dropStale?_eq, if_neg]
  · have kept : (lexer.candidates.map fun entry => if stale lexer entry then none else entry) =
        lexer.candidates := by
      refine (List.map_congr_left fun entry there => ?_).trans (List.map_id _)
      rw [fresh entry there]
      rfl
    rw [kept]
  · simp only [List.any_eq_true, not_exists, not_and]
    intro entry there
    simp [fresh entry there]

/-- The next token begins behind the blanks at the cursor. -/
theorem settle?_eq_moved {cursor : Cursor} {column : Nat}
    (passed : pastBlanks (lexer.inFlow || !lexer.keyAllowed) lexer.cursor = cursor)
    (solid : cursor.takeBreak? = none)
    (fresh : ∀ entry ∈ lexer.candidates, stale { lexer with cursor } entry = false)
    (settled : lexer.Settled column) (within : column ≤ cursor.column) :
    lexer.settle? = some { lexer with cursor } := by
  have moved : lexer.toNextToken (lexer.cursor.rest.length + 1) = { lexer with cursor } := by
    rw [toNextToken_succ, passed]
    simp only [solid]
  have kept : ({ lexer with cursor } : Lexer).dropStale? = some { lexer with cursor } :=
    dropStale?_fresh fresh
  have level : ({ lexer with cursor } : Lexer).Settled column := settled
  rw [settle?, moved, kept, Option.map_some, level.unroll_eq within]

/-- No place is waiting to become a key. -/
def Idle (lexer : Lexer) : Prop := ∀ entry ∈ lexer.candidates, entry = none

/-- Where no place waits, none is too old. -/
theorem Idle.fresh (idle : lexer.Idle) (cursor : Cursor) :
    ∀ entry ∈ lexer.candidates, stale { lexer with cursor } entry = false := by
  intro entry there
  rw [idle entry there]
  rfl

/-- Where no place waits, none is given up. -/
theorem Idle.dropCandidate? (idle : lexer.Idle) : lexer.dropCandidate? = some lexer := by
  rw [Lexer.dropCandidate?]
  split
  · rename_i candidate rest written
    cases idle _ (written ▸ List.mem_cons_self)
  · rfl

/-- A place is noted that may become a key, if a key is allowed here. -/
theorem Idle.noteCandidate? (idle : lexer.Idle) : lexer.noteCandidate? =
    some (if lexer.keyAllowed then
      { lexer with candidates := some lexer.candidateHere :: lexer.candidates.drop 1 }
    else lexer) := by
  rw [noteCandidate?_eq, idle.dropCandidate?]
  split <;> rfl

/-- A token that begins neither a directive nor a mark of the document. -/
theorem token?_eq_reader? {c : Char} {rest : List Char} (written : lexer.cursor.rest = c :: rest)
    (within : lexer.cursor.column ≠ 0 ∨ c ≠ '%' ∧ c ≠ '-' ∧ c ≠ '.') :
    lexer.token? = reader? lexer.inFlow lexer.cursor.rest lexer := by
  rw [token?, if_neg, if_neg]
  · obtain inside | ⟨-, dash, dot⟩ := within
    · simp [Cursor.atDocumentMark, inside]
    · simp only [Cursor.atDocumentMark, written]
      split
      · rename_i same
        cases same
        exact absurd rfl dash
      · rename_i same
        cases same
        exact absurd rfl dot
      · simp
  · obtain inside | ⟨mark, -, -⟩ := within
    · simp [isDirective, inside]
    · simp [isDirective, written, mark]

/-- The lexer behind a key `id` that begins where it stands. -/
def behindKey (stand : Lexer) : Lexer :=
  ((({ stand with
    cursor := stand.cursor.skip 2
    candidates := some stand.candidateHere :: stand.candidates.drop 1 } : Lexer).allowKey
      false).emit (.scalar .plain "id"))

/-- A space is a blank or a tab. -/
theorem isSpace_cases {c : Char} (blank : isSpace c = true) : c = ' ' ∨ c = '\t' := by
  simpa [isSpace] using blank

/-- The key `id` is a word of its own, for the colon behind it stands before a blank. -/
theorem takePlain?_id {cursor : Cursor} {flow : Bool} {indent fuel : Nat} {g : Char}
    {rest : List Char} (written : cursor.rest = 'i' :: 'd' :: ':' :: g :: rest)
    (blank : isSpace g = true) :
    takePlain? flow indent (fuel + 1) ⟨[], false, cursor⟩ ⟨[], [], cursor⟩ =
      some ⟨['i', 'd'], false, cursor.skip 2⟩ := by
  have size : cursor.rest.length + 1 = rest.length + 2 + 1 + 1 + 1 := by simp [written]
  have next : (cursor.skip 1).rest = 'd' :: ':' :: g :: rest := by simp [Cursor.skip, written]
  have last : ((cursor.skip 1).skip 1).rest = ':' :: g :: rest := by simp [Cursor.skip, written]
  have first (rest : List Char) : wordPart? flow ('i' :: rest) = some (some 'i') := by
    cases flow <;> rfl
  have second (rest : List Char) : wordPart? flow ('d' :: rest) = some (some 'd') := by
    cases flow <;> rfl
  have colon : wordPart? flow (':' :: g :: rest) = some none := by
    obtain rfl | rfl := isSpace_cases blank <;> cases flow <;> rfl
  have word : takePlainWord? flow (cursor.rest.length + 1) cursor =
      some (['i', 'd'], cursor.skip 2) := by
    rw [size, takePlainWord?_succ, written, first]
    dsimp only [Option.bind_some]
    rw [takePlainWord?_succ, next, second]
    dsimp only [Option.bind_some]
    rw [takePlainWord?_succ, last, colon, skip_skip]
    rfl
  have behind : (cursor.skip 2).rest = ':' :: g :: rest := by simp [Cursor.skip, written]
  rw [takePlain?_succ]
  dsimp only
  rw [if_neg (by simp [Cursor.atDocumentMark, written]), word]
  dsimp only [Option.bind_some]
  rw [plainBehind?, Gap.past_cursor, behind]
  rfl

/-- At a key, the next token is its text. -/
theorem token?_id {g : Char} {rest : List Char}
    (written : stand.cursor.rest = 'i' :: 'd' :: ':' :: g :: rest) (blank : isSpace g = true)
    (idle : stand.Idle) (allowed : stand.keyAllowed = true) :
    stand.token? = some (behindKey stand) := by
  rw [token?_eq_reader? written (.inr (by decide)), written]
  change stand.plain? = _
  rw [plain?, idle.noteCandidate?, if_pos allowed]
  dsimp only [Option.bind_eq_bind, Option.bind_some]
  rw [takePlain?_id written blank]
  rfl

/-- Where a token begins there is nothing to pass over. -/
theorem pastBlanks_eq_self {cursor : Cursor} {c : Char} {rest : List Char} {tabs : Bool}
    (written : cursor.rest = c :: rest) (mark : cursor.column ≠ 0 ∨ c ≠ '\ufeff')
    (solid : isFiller tabs c = false) (content : c ≠ '#') : pastBlanks tabs cursor = cursor := by
  have unmoved : cursor.skip 0 = cursor := rfl
  have unmarked : ¬(cursor.column = 0 ∧ cursor.rest.head? = some '\ufeff') := by
    rintro ⟨start, same⟩
    rw [written] at same
    cases same
    exact mark.elim (fun inside => inside start) fun other => other rfl
  rw [pastBlanks, pastMark_eq, if_neg unmarked, Cursor.skipWhile, Cursor.takeWhile, written,
    List.takeWhile_cons_of_neg (by simp [solid])]
  dsimp only [List.length_nil]
  rw [unmoved, skipComment_eq, if_neg (by simpa [written] using content)]

/-- There is no line break before another character. -/
theorem takeBreak?_solid {cursor : Cursor} {c : Char} {rest : List Char}
    (written : cursor.rest = c :: rest) (solid : isBreak c = false) : cursor.takeBreak? = none := by
  have other : c ≠ '\r' := by
    rintro rfl
    cases solid
  rw [takeBreak?_eq, written, breakAt?, if_neg (by simp [other]), solid]
  rfl

/-- Replacing the last place does not change whether the lexer is in a flow collection. -/
theorem inFlow_replaced (entry : Option Candidate) (candidates : List (Option Candidate)) :
    decide (1 < (entry :: candidates.drop 1).length) = decide (1 < candidates.length) := by
  cases candidates <;> simp

/-- Behind the text of a key, the lexer stands at the colon already. -/
theorem settle?_behindKey {g : Char} {rest : List Char}
    (written : stand.cursor.rest = 'i' :: 'd' :: ':' :: g :: rest) (idle : stand.Idle)
    (settled : stand.Settled stand.cursor.column) :
    (behindKey stand).settle? = some (behindKey stand) := by
  have colon : (behindKey stand).cursor.rest = ':' :: g :: rest := by
    simp [behindKey, Cursor.skip, written]
  have level : (behindKey stand).Settled stand.cursor.column := by
    rw [Settled, inFlow, ← inFlow_replaced (some stand.candidateHere)] at settled
    exact settled
  refine settle?_eq_moved (pastBlanks_eq_self colon (.inr (by decide)) ?solid (by decide))
    (takeBreak?_solid colon rfl) ?fresh level ?within
  case solid => exact Bool.and_false _
  case within => exact Nat.le_add_right _ 2
  case fresh =>
    intro entry there
    obtain rfl | there := List.mem_cons.mp there
    · simp [stale, isStale, candidateHere, Cursor.skip]
    · rw [idle entry (List.mem_of_mem_drop there)]
      rfl

/-- A key that begins here opens a block of its own. -/
def opens (stand : Lexer) : Bool := !stand.inFlow && stand.indent < stand.cursor.column

/-- The lexer at the value of a key `id` that begins where it stands, behind some blanks. -/
def atValue (stand : Lexer) (blanks : Nat) : Lexer where
  cursor := stand.cursor.skip (3 + blanks)
  tokens := stand.tokens ++ ((if stand.opens then [.blockMappingStart] else []) ++
    [.key, .scalar .plain "id", .value])
  indent := if stand.opens then stand.cursor.column else stand.indent
  outer := if stand.opens then stand.indent :: stand.outer else stand.outer
  keyAllowed := false
  candidates := none :: stand.candidates.drop 1

/-- The colon makes a key of the text before it. -/
theorem value?_behindKey (stand : Lexer) : (behindKey stand).value? = some (atValue stand 0) := by
  have moved : (stand.cursor.skip 2).skip 1 = stand.cursor.skip 3 := skip_skip _ _ _
  rw [value?_eq]
  change some ((({ markKey stand.candidateHere (behindKey stand) with
    candidates := none :: stand.candidates.drop 1 }.allowKey false).skip 1).emit .value) = _
  rw [markKey]
  dsimp only [candidateHere]
  obtain ⟨named, inserted⟩ : ∃ named, (behindKey stand).insert stand.tokens.length .key = named :=
    ⟨_, rfl⟩
  have flow : named.inFlow = stand.inFlow := inserted ▸ inFlow_replaced _ stand.candidates
  have indent : named.indent = stand.indent := inserted ▸ rfl
  have outer : named.outer = stand.outer := inserted ▸ rfl
  have cursor : named.cursor = stand.cursor.skip 2 := inserted ▸ rfl
  have tokens : named.tokens = stand.tokens ++ [.key, .scalar .plain "id"] := by
    rw [← inserted]
    simp [behindKey, emit, allowKey, insert]
  rw [inserted, openBlock, flow, indent]
  change some (((Lexer.allowKey { (if stand.opens then _ else _ : Lexer) with
    candidates := none :: stand.candidates.drop 1 } false).skip 1).emit .value) = _
  by_cases opens : stand.opens
  · simp [atValue, opens, insert, emit, allowKey, skip, moved, outer, cursor, tokens]
  · simp [atValue, opens, emit, allowKey, skip, moved, indent, outer, cursor, tokens]

/-- At the colon, the next tokens are those of a key with its value. -/
theorem token?_behindKey {g : Char} {rest : List Char}
    (written : stand.cursor.rest = 'i' :: 'd' :: ':' :: g :: rest) (blank : isSpace g = true) :
    (behindKey stand).token? = some (atValue stand 0) := by
  have colon : (behindKey stand).cursor.rest = ':' :: g :: rest := by
    simp [behindKey, Cursor.skip, written]
  rw [token?_eq_reader? colon (.inr (by decide)), colon, ← value?_behindKey]
  obtain rfl | rfl := isSpace_cases blank <;> cases (behindKey stand).inFlow <;> rfl

/-- At the value of a key, no place waits to become another one. -/
theorem atValue_idle (idle : stand.Idle) (blanks : Nat) : (atValue stand blanks).Idle := by
  intro entry there
  obtain rfl | there := List.mem_cons.mp there
  · rfl
  · exact idle entry (List.mem_of_mem_drop there)

/-- At the value of a key, blocks are closed as they were before it. -/
theorem atValue_settled (settled : stand.Settled stand.cursor.column) (blanks : Nat) :
    (atValue stand blanks).Settled stand.cursor.column := by
  by_cases opens : stand.opens
  · refine .inr (.inl ?_)
    simp [atValue, opens]
  · have same : (atValue stand blanks).inFlow = stand.inFlow :=
      inFlow_replaced none stand.candidates
    rw [Settled, same]
    simpa [Settled, atValue, opens] using settled

/-- Blanks are passed over up to what is neither blank nor the sign of a comment. -/
theorem pastBlanks_gap {cursor : Cursor} {gap : List Char} {c : Char} {rest : List Char}
    (written : cursor.rest = gap ++ c :: rest) (inside : cursor.column ≠ 0)
    (blank : ∀ d ∈ gap, isSpace d) (solid : isSpace c = false) (content : c ≠ '#') :
    pastBlanks true cursor = cursor.skip gap.length := by
  have tabs : isFiller true = isSpace := rfl
  have taken : cursor.rest.takeWhile isSpace = gap := by
    rw [written, List.takeWhile_append_of_pos blank, List.takeWhile_cons_of_neg (by simp [solid]),
      List.append_nil]
  have next : (cursor.skip gap.length).rest = c :: rest := by simp [Cursor.skip, written]
  rw [pastBlanks, pastMark_eq, if_neg (by simp [inside]), tabs, Cursor.skipWhile, Cursor.takeWhile]
  dsimp only
  rw [taken, skipComment_eq, next, if_neg (by simpa using content)]

/-- From the colon, the lexer comes to the value behind the gap. -/
theorem settle?_atValue {gap : List Char} {c : Char} {rest : List Char}
    (written : stand.cursor.rest = 'i' :: 'd' :: ':' :: gap ++ c :: rest)
    (blank : ∀ d ∈ gap, isSpace d) (solid : (isSpace c || isBreak c) = false) (content : c ≠ '#')
    (idle : stand.Idle) (settled : stand.Settled stand.cursor.column) :
    (atValue stand 0).settle? = some (atValue stand gap.length) := by
  have next : (atValue stand 0).cursor.rest = gap ++ c :: rest := by
    simp [atValue, Cursor.skip, written]
  have moved : (atValue stand 0).cursor.skip gap.length = (atValue stand gap.length).cursor :=
    skip_skip _ _ _
  have here : (atValue stand gap.length).cursor.rest = c :: rest := by
    simp [← moved, Cursor.skip, next]
  simp only [Bool.or_eq_false_iff] at solid
  have passed : pastBlanks ((atValue stand 0).inFlow || !(atValue stand 0).keyAllowed)
      (atValue stand 0).cursor = (atValue stand gap.length).cursor := by
    rw [show (atValue stand 0).keyAllowed = false from rfl, Bool.not_false, Bool.or_true,
      pastBlanks_gap next (Nat.succ_ne_zero _) blank solid.1 content, moved]
  rw [settle?_eq_moved passed (takeBreak?_solid here solid.2) ((atValue_idle idle 0).fresh _)
    (atValue_settled settled 0) (Nat.le_add_right _ _)]
  rfl

/-- A numeral begins a plain scalar. -/
theorem reader?_numeral {c : Char} (numeral : NumericId.isNumeral c) (flow : Bool)
    (rest : List Char) : reader? flow (c :: rest) = plain? := by
  have dash := numeral_ne numeral (show NumericId.isNumeral '-' = false by decide)
  have question := numeral_ne numeral (show NumericId.isNumeral '?' = false by decide)
  have colon := numeral_ne numeral (show NumericId.isNumeral ':' = false by decide)
  have bar := numeral_ne numeral (show NumericId.isNumeral '|' = false by decide)
  have angle := numeral_ne numeral (show NumericId.isNumeral '>' = false by decide)
  have plain : startsPlain flow (c :: rest) = true := by
    have absent : c ∉ ['-', '?', ':', ',', '[', ']', '\x7b', '\x7d', '#', '&', '*', '!', '|', '>',
        '\'', '"', '%', '@', '\x60'] := by
      intro there
      have none := List.all_eq_true.mp (show List.all _ (!NumericId.isNumeral ·) by decide) c there
      simp [numeral] at none
    simp [startsPlain, dash, question, colon, isSpace_numeral numeral, isBreak_numeral numeral]
    simpa [dash, question, colon] using absent
  unfold reader?
  dsimp only
  split
  all_goals try (exact absurd numeral (by decide))
  simp [dash, question, colon, bar, angle, plain]

/-- A number that is a plain scalar of its own ends at the gap behind it, and a key may begin there
if the gap holds a line break. -/
theorem token?_plainNumber {number rest : List Char} {after : Lexer} (there : number ≠ [])
    (numerals : ∀ c ∈ number, NumericId.isNumeral c) (written : stand.cursor.rest = number ++ rest)
    (inside : stand.cursor.column ≠ 0) (ends : endsLine rest) (value : stand.keyAllowed = false)
    (read : stand.token? = some after)
    (own : after.tokens.getLast? = some (.scalar .plain (String.ofList number))) :
    ∃ next, takeGap? (some (stand.indent + 1).toNat) (rest.length + 1)
        ⟨[], [], stand.cursor.skip number.length⟩ = some next ∧
      after = (({ stand with cursor := next.cursor } : Lexer).allowKey !next.breaks.isEmpty).emit
        (.scalar .plain (String.ofList number)) := by
  obtain ⟨c, digits, rfl⟩ := List.exists_cons_of_ne_nil there
  rw [token?_eq_reader? written (.inl inside), written, List.cons_append,
    reader?_numeral (numerals c List.mem_cons_self), plain?, noteCandidate?_eq,
    if_neg (by simp [value])] at read
  dsimp only [Option.bind_eq_bind, Option.bind_some] at read
  obtain ⟨plain, taken, same⟩ := Option.bind_eq_some_iff.mp read
  cases same
  have text : plain.text = c :: digits := by
    rw [emit, List.getLast?_concat, Option.some.injEq, Token.scalar.injEq] at own
    exact String.ofList_injective own.2
  obtain ⟨next, passed, cursor_eq, newLine_eq⟩ :=
    takePlain?_number there numerals written inside ends (Nat.lt_succ_self _) taken text
  refine ⟨next, passed, ?_⟩
  rw [cursor_eq, newLine_eq, text]

/-- A number between quotes is one token, and the lexer stands behind the closing quote. -/
theorem token?_quotedNumber {number rest : List Char}
    (numerals : ∀ c ∈ number, NumericId.isNumeral c)
    (written : stand.cursor.rest = '"' :: number ++ '"' :: rest)
    (inside : stand.cursor.column ≠ 0) (value : stand.keyAllowed = false) :
    stand.token? = some
      ((({ stand with cursor := stand.cursor.skip (number.length + 2) } : Lexer).allowKey
        false).emit (.scalar .doubleQuoted (String.ofList number))) := by
  have next : (stand.cursor.skip 1).rest = number ++ '"' :: rest := by
    simp [Cursor.skip, written]
  have size : stand.cursor.rest.length + 1 = number.length + 1 + (rest.length + 2) := by
    simp only [written, List.length_cons, List.length_append]
    omega
  have moved : (stand.cursor.skip 1).skip (number.length + 1) =
      stand.cursor.skip (number.length + 2) := by
    rw [skip_skip, Nat.add_comm]
  rw [token?_eq_reader? written (.inl inside), written]
  change keyPart? (quoted? false) stand = _
  rw [keyPart?, noteCandidate?_eq, if_neg (by simp [value])]
  dsimp only [Option.bind_eq_bind, Option.bind_some]
  rw [quoted?, size, takeQuoted?_number _ numerals next (Nat.succ_ne_zero _), moved]
  rfl

end Lexer

end HostAudit.Yaml
