import HostAudit.Proofs.LocalReaders

/-
This file proves that reading plain scalars and scalars in quotes is local.
-/

namespace HostAudit.Yaml

variable {fork : Fork} {cursor other : Cursor}

/-- An escape takes so many characters, and no more is read. -/
theorem takeEscape?_skip {c : Char} {after : Cursor} (read : takeEscape? cursor = some (c, after)) :
    ∃ count, after = cursor.skip count := by
  rw [takeEscape?] at read
  split at read
  · cases read
  · split at read
    · simp only [Option.bind_eq_bind] at read
      split at read
      · cases read
      · obtain ⟨code, -, read⟩ := Option.bind_eq_some_iff.mp read
        split at read
        · cases read
          exact ⟨_, rfl⟩
        · cases read
    · obtain ⟨_, -, same⟩ := Option.map_eq_some_iff.mp read
      cases same
      exact ⟨1, rfl⟩

/-- Reading an escape is local. -/
theorem local_takeEscape? : LocalReader takeEscape? where
  shortens cursor := by
    intro c after read
    obtain ⟨count, rfl⟩ := takeEscape?_skip read
    exact skip_le cursor count
  tracks {fork cursor other} twin := by
    intro c after read before
    rw [takeEscape?] at read
    split at read
    · cases read
    · rename_i letter rest written
      obtain ⟨restOther, writtenOther⟩ := twin.rest_cons written
      rw [takeEscape?, writtenOther]
      simp only
      split at read
      · rename_i width found
        simp only [Option.bind_eq_bind] at read ⊢
        split at read
        · cases read
        · rename_i complete
          obtain ⟨code, code_read, read⟩ := Option.bind_eq_some_iff.mp read
          split at read
          · rename_i valid
            cases read
            have same := twin.take_eq before
            rw [written, writtenOther, Nat.add_comm, List.take_succ_cons, List.take_succ_cons]
              at same
            have digits := List.tail_eq_of_cons_eq same
            rw [digits, if_neg complete, code_read]
            exact ⟨other.skip (1 + width), by simp [valid], twin.skip before⟩
          · cases read
      · obtain ⟨_, found, same⟩ := Option.map_eq_some_iff.mp read
        cases same
        rw [found]
        exact ⟨other.skip 1, rfl, twin.skip before⟩

/-- This reads blanks and line breaks behind those of a gap, whose own cursor says nothing. -/
def gapFrom? (indent : Option Nat) (fuel : Nat) (gap : Gap) (cursor : Cursor) :
    Option (Gap × Cursor) :=
  (takeGap? indent fuel { gap with cursor }).map fun after =>
    ({ after with cursor := gap.cursor }, after.cursor)

/-- A turn of reading a gap, at the next character. -/
def gapTurn? (indent : Option Nat) (gap : Gap) :
    Option Char → Cursor → Option (Turn Gap Gap × Cursor)
  | none, cursor => some (.last gap, cursor)
  | some c, cursor =>
      if isSpace c then
        if gap.breaks.isEmpty then
          some (.further { gap with blanks := gap.blanks ++ [c] } id, cursor.skip 1)
        else if c = '\t' ∧ indent.any (cursor.column < ·) then none
        else some (.further gap id, cursor.skip 1)
      else cursor.takeBreak?.elim (some (.last gap, cursor)) fun (read, cursor) =>
        some (.further ⟨[], gap.breaks ++ [read], gap.cursor⟩ id, cursor)

/-- A turn of reading a gap is local. -/
theorem local_gapTurn? (indent : Option Nat) (gap : Gap) (head? : Option Char) :
    LocalReader (gapTurn? indent gap head?) := by
  cases head? with
  | none => exact .some _
  | some c =>
      unfold gapTurn?
      dsimp only
      split_ifs
      · exact .skip (.some _) 1
      · refine .chooseAt (fun twin => ?_) .none (.skip (.some _) 1)
        rw [twin.column_eq]
      · refine local_takeBreak?.orElse Twin.takeBreak?_none (fun read => ?_) (.some _)
        exact .some (Turn.further (Gap.mk [] (gap.breaks ++ [read]) gap.cursor) id)

/-- Where a blank or a line break is next, a gap is not empty. -/
theorem gapTurn?_moves {indent : Option Nat} {gap : Gap} {turn : Turn Gap Gap} {after : Cursor}
    {c : Char} {rest : List Char} (written : cursor.rest = c :: rest)
    (read : gapTurn? indent gap (some c) cursor = some (turn, after)) :
    after.rest.length < cursor.rest.length ∨
      turn = .last gap ∧ after = cursor ∧ (isSpace c || isBreak c) = false := by
  have passed := skip_lt Nat.one_pos (written ▸ List.cons_ne_nil c rest : cursor.rest ≠ [])
  unfold gapTurn? at read
  dsimp only at read
  split_ifs at read
  · cases read
    exact .inl passed
  · cases read
    exact .inl passed
  · rename_i solid
    cases broken : cursor.takeBreak? with
    | some taken =>
        rw [broken] at read
        cases read
        exact .inl (takeBreak?_shorter broken)
    | none =>
        rw [broken] at read
        cases read
        refine .inr ⟨rfl, rfl, ?_⟩
        rw [takeBreak?_eq, written, Option.map_eq_none_iff] at broken
        unfold breakAt? at broken
        grind

/-- A gap is read character by character. -/
theorem gapLoop (indent : Option Nat) :
    LocalLoop (fun gap cursor => gapTurn? indent gap cursor.rest.head? cursor)
      (gapFrom? indent) where
  reader gap := .on (fun twin => twin.look near_head?) (local_gapTurn? indent gap)
  moves {gap next finish cursor after} read := by
    cases written : cursor.rest with
    | nil =>
        rw [written] at read
        cases read
    | cons c rest =>
        rw [written] at read
        obtain less | ⟨same, -⟩ := gapTurn?_moves written read
        · rwa [written] at less
        · cases same
  succ {fuel} gap cursor _ := by
    rw [gapFrom?, takeGap?]
    dsimp only
    cases written : cursor.rest with
    | nil => rfl
    | cons c rest =>
        rw [List.head?_cons, gapTurn?]
        dsimp only
        split_ifs
        · rw [Option.bind_some, Turn.follow_further]; rfl
        · rfl
        · rw [Option.bind_some, Turn.follow_further]; rfl
        · cases cursor.takeBreak? with
          | none => rfl
          | some taken => rw [Option.elim_some, Option.bind_some, Turn.follow_further]; rfl

/-- Where a blank or a line break is next, a gap is not empty. -/
theorem gapFrom?_lt {indent : Option Nat} {gap next : Gap} {after : Cursor} {c : Char}
    {rest : List Char} (written : cursor.rest = c :: rest)
    (blank : (isSpace c || isBreak c) = true)
    (read : gapFrom? indent (cursor.rest.length + 1) gap cursor = some (next, after)) :
    after.rest.length < cursor.rest.length := by
  refine (gapLoop indent).shorter (fun {turn middle} taken => ?_) read
  rw [written] at taken
  obtain less | ⟨-, -, solid⟩ := gapTurn?_moves written taken
  · exact less
  · rw [blank] at solid
    cases solid

/-- Gaps with the same blanks and breaks, and cursors that are twins. -/
theorem takeGap?_twin {indent : Option Nat} {fuel fuelOther : Nat} {blanks breaks : List Char}
    {after : Gap} (twin : Twin fork cursor other) (enough : cursor.rest.length < fuel)
    (enoughOther : other.rest.length < fuelOther)
    (read : takeGap? indent fuel ⟨blanks, breaks, cursor⟩ = some after)
    (before : Before fork after.cursor) :
    ∃ afterOther, takeGap? indent fuelOther ⟨blanks, breaks, other⟩ =
        some ⟨after.blanks, after.breaks, afterOther⟩ ∧ Twin fork after.cursor afterOther := by
  have found : gapFrom? indent fuel ⟨blanks, breaks, cursor⟩ cursor =
      some ({ after with cursor }, after.cursor) := by
    rw [gapFrom?, read]
    rfl
  obtain ⟨afterOther, foundOther, twinAfter⟩ :=
    (gapLoop indent).tracks twin enough enoughOther _ _ _ found before
  obtain ⟨last, readOther, same⟩ := Option.map_eq_some_iff.mp foundOther
  obtain ⟨_, rfl⟩ := Prod.mk.inj same
  obtain ⟨lastBlanks, lastBreaks, lastCursor⟩ := last
  cases after
  cases same
  exact ⟨lastCursor, readOther, twinAfter⟩

/-- What the next characters of a quoted scalar are: its end, characters to be taken, a backslash,
or blanks and line breaks. -/
inductive QuotedPart where
  | missing
  | closing
  | taken (read : List Char) (count : Nat)
  | backslash
  | gap

def quotedPart (single : Bool) : List Char → QuotedPart
  | [] => .missing
  | c :: rest =>
      if c = '\'' then
        if single then if rest.head? = some '\'' then .taken ['\''] 2 else .closing
        else .taken ['\''] 1
      else if c = '"' then if single then .taken ['"'] 1 else .closing
      else if c = '\\' then if single then .taken ['\\'] 1 else .backslash
      else if isSpace c || isBreak c then .gap
      else .taken [c] 1

/-- The next part of a quoted scalar can be seen. -/
theorem near_quotedPart (single : Bool) : Near (quotedPart single) := by
  intro text
  match text with
  | [] => rfl
  | [_] => rfl
  | _ :: _ :: _ => rfl

/-- Characters that are taken are there. -/
theorem quotedPart_eq_taken {single : Bool} {text read : List Char} {count : Nat}
    (part : quotedPart single text = .taken read count) : 0 < count ∧ text ≠ [] := by
  cases text with
  | nil => cases part
  | cons c rest =>
      refine ⟨?_, List.cons_ne_nil c rest⟩
      unfold quotedPart at part
      grind

/-- A gap begins with a blank or a line break. -/
theorem quotedPart_eq_gap {single : Bool} {text : List Char}
    (part : quotedPart single text = .gap) :
    ∃ c rest, text = c :: rest ∧ (isSpace c || isBreak c) = true := by
  cases text with
  | nil => cases part
  | cons c rest =>
      refine ⟨c, rest, rfl, ?_⟩
      unfold quotedPart at part
      grind

/-- A part that is there has text. -/
theorem rest_ne_nil {single : Bool} {text : List Char} {part : QuotedPart}
    (found : quotedPart single text = part) (there : part ≠ .missing) : text ≠ [] := by
  rintro rfl
  exact there found.symm

/-- This reads the rest of a quoted scalar behind a text. -/
def quotedBehind? (single : Bool) (fuel : Nat) (text : List Char) (cursor : Cursor) :
    Option (List Char × Cursor) :=
  (takeQuoted? single fuel cursor).map fun (more, cursor) => (text ++ more, cursor)

/-- This reads a gap, and the rest of a quoted scalar behind it. -/
def gapBehind? (single : Bool) (fuel : Nat) (first : List Char) (cursor : Cursor) :
    Option (List Char × Cursor) :=
  (takeGap? none (cursor.rest.length + 1) ⟨[], first, cursor⟩).bind fun gap =>
    quotedBehind? single fuel (if first.isEmpty then gap.text else gap.breaks.drop 1) gap.cursor

/-- This reads an escape behind its backslash, and the rest of a quoted scalar behind it. -/
def escapeBehind? (single : Bool) (fuel : Nat) (cursor : Cursor) : Option (List Char × Cursor) :=
  match cursor.takeBreak? with
  | some (read, cursor) => gapBehind? single fuel [read] cursor
  | none => (takeEscape? cursor).bind fun (c, cursor) => quotedBehind? single fuel [c] cursor

/-- A quoted scalar is read part by part. -/
theorem takeQuoted?_succ (single : Bool) (fuel : Nat) (cursor : Cursor) :
    takeQuoted? single (fuel + 1) cursor =
      if cursor.atDocumentMark then none
      else match quotedPart single cursor.rest with
        | .missing => none
        | .closing => some ([], cursor.skip 1)
        | .taken read count => quotedBehind? single fuel read (cursor.skip count)
        | .backslash => escapeBehind? single fuel (cursor.skip 1)
        | .gap => gapBehind? single fuel [] cursor := by
  rw [takeQuoted?]
  split
  · rfl
  · split
    · rename_i written
      rw [written]
      rfl
    · rename_i rest written
      rw [written]
      cases single <;> rfl
    · rename_i rest alone written
      have last : rest.head? ≠ some '\'' := by
        intro next
        obtain ⟨more, rfl⟩ := List.head?_eq_some_iff.mp next
        exact alone more rfl
      rw [written]
      cases single
      · rfl
      · simp [quotedPart, last]
    · rename_i rest written
      rw [written]
      cases single <;> rfl
    · rename_i rest written
      rw [written]
      cases single
      · change (match (cursor.skip 1).takeBreak? with
          | some (read, cursor) => gapBehind? false fuel [read] cursor
          | none => if rest.isEmpty then none
            else (takeEscape? (cursor.skip 1)).bind fun (c, cursor) =>
              quotedBehind? false fuel [c] cursor) =
          match (cursor.skip 1).takeBreak? with
          | some (read, cursor) => gapBehind? false fuel [read] cursor
          | none => (takeEscape? (cursor.skip 1)).bind fun (c, cursor) =>
              quotedBehind? false fuel [c] cursor
        have ended (empty : rest.isEmpty) : takeEscape? (cursor.skip 1) = none := by
          have last : (cursor.skip 1).rest = [] := by
            simpa [Cursor.skip, written] using empty
          rw [takeEscape?, last]
        split
        · rfl
        · split
          · rename_i empty
            rw [ended empty]
            rfl
          · rfl
      · rfl
    · rename_i c more _ quote double back written
      have part : quotedPart single (c :: more) =
          if isSpace c || isBreak c then .gap else .taken [c] 1 := by
        simp only [quotedPart, if_neg quote, if_neg double, if_neg back]
      rw [written, part]
      split <;> rfl

/-- This reads the text of a gap in a quoted scalar, where a backslash may stand before its first
line break. -/
def gapText? (first : List Char) (cursor : Cursor) : Option (List Char × Cursor) :=
  (gapFrom? none (cursor.rest.length + 1) ⟨[], first, .ofText []⟩ cursor).map fun (gap, cursor) =>
    (if first.isEmpty then gap.text else gap.breaks.drop 1, cursor)

/-- Reading a gap in a quoted scalar is local. -/
theorem local_gapText? (first : List Char) : LocalReader (gapText? first) :=
  ((gapLoop none).reads ⟨[], first, .ofText []⟩).map fun gap =>
    if first.isEmpty then gap.text else gap.breaks.drop 1

/-- This reads what an escape stands for, behind its backslash. -/
def escapeText? (cursor : Cursor) : Option (List Char × Cursor) :=
  cursor.takeBreak?.elim ((takeEscape? cursor).map fun (c, cursor) => ([c], cursor))
    fun (read, cursor) => gapText? [read] cursor

/-- Reading what an escape stands for is local. -/
theorem local_escapeText? : LocalReader escapeText? :=
  local_takeBreak?.orElse Twin.takeBreak?_none (fun read => local_gapText? [read])
    (local_takeEscape?.map fun c => [c])

/-- The rest of a quoted scalar follows a gap. -/
theorem gapBehind?_eq (single : Bool) (fuel : Nat) (first : List Char) (cursor : Cursor) :
    gapBehind? single fuel first cursor = (gapText? first cursor).bind fun (text, cursor) =>
      quotedBehind? single fuel text cursor := by
  rw [gapBehind?, gapText?, gapFrom?, Option.map_map, Option.bind_map]
  rfl

/-- The rest of a quoted scalar follows an escape. -/
theorem escapeBehind?_eq (single : Bool) (fuel : Nat) (cursor : Cursor) :
    escapeBehind? single fuel cursor = (escapeText? cursor).bind fun (text, cursor) =>
      quotedBehind? single fuel text cursor := by
  rw [escapeBehind?, escapeText?]
  cases cursor.takeBreak? with
  | some broken => exact gapBehind?_eq single fuel [broken.1] broken.2
  | none =>
      rw [Option.elim_none, Option.bind_map]
      rfl

/-- A turn of reading a quoted scalar, at its next part. -/
def quotedTurn? : QuotedPart → Cursor → Option (Turn Unit (List Char) × Cursor)
  | .missing, _ => none
  | .closing, cursor => some (.last [], cursor.skip 1)
  | .taken read count, cursor => some (.further () (read ++ ·), cursor.skip count)
  | .backslash, cursor => (escapeText? (cursor.skip 1)).map fun (text, cursor) =>
      (.further () (text ++ ·), cursor)
  | .gap, cursor => (gapText? [] cursor).map fun (text, cursor) =>
      (.further () (text ++ ·), cursor)

/-- A turn of reading a quoted scalar is local. -/
theorem local_quotedTurn? (part : QuotedPart) : LocalReader (quotedTurn? part) := by
  cases part with
  | missing => exact .none
  | closing => exact .skip (.some _) 1
  | taken read count => exact .skip (.some _) count
  | backslash => exact (local_escapeText?.map fun text => Turn.further () (text ++ ·)).skip 1
  | gap => exact (local_gapText? []).map fun text => Turn.further () (text ++ ·)

/-- A turn that others follow moves on. -/
theorem quotedTurn?_moves {single : Bool} {turn : Turn Unit (List Char)} {after : Cursor}
    (read : quotedTurn? (quotedPart single cursor.rest) cursor = some (turn, after)) :
    after.rest.length < cursor.rest.length := by
  cases part : quotedPart single cursor.rest with
  | missing =>
      rw [part] at read
      cases read
  | closing =>
      rw [part] at read
      cases read
      exact skip_lt Nat.one_pos (rest_ne_nil part (by simp))
  | taken text count =>
      rw [part] at read
      cases read
      exact skip_lt (quotedPart_eq_taken part).1 (quotedPart_eq_taken part).2
  | backslash =>
      rw [part] at read
      obtain ⟨_, found, same⟩ := Option.map_eq_some_iff.mp read
      cases same
      exact (local_escapeText?.shortens _ _ _ found).trans_lt
        (skip_lt Nat.one_pos (rest_ne_nil part (by simp)))
  | gap =>
      rw [part] at read
      obtain ⟨c, rest, written, blank⟩ := quotedPart_eq_gap part
      obtain ⟨⟨text, _⟩, found, same⟩ := Option.map_eq_some_iff.mp read
      cases same
      obtain ⟨⟨gap, _⟩, passed, same⟩ := Option.map_eq_some_iff.mp found
      cases same
      exact gapFrom?_lt written blank passed

/-- A quoted scalar is read part by part. -/
theorem quotedLoop (single : Bool) :
    LocalLoop (fun _ cursor => if cursor.atDocumentMark then none
        else quotedTurn? (quotedPart single cursor.rest) cursor)
      (fun fuel _ cursor => takeQuoted? single fuel cursor) where
  reader _ := .chooseAt (fun twin => by rw [twin.atDocumentMark_eq]) .none
    (.on (fun twin => twin.look (near_quotedPart single)) local_quotedTurn?)
  moves read := by
    split at read
    · cases read
    · exact quotedTurn?_moves read
  succ {fuel} _ cursor _ := by
    rw [takeQuoted?_succ]
    split
    · rfl
    · cases quotedPart single cursor.rest with
      | missing => rfl
      | closing => rfl
      | taken read count => rfl
      | backslash =>
          rw [escapeBehind?_eq, quotedTurn?, Option.bind_map]
          rfl
      | gap =>
          rw [gapBehind?_eq, quotedTurn?, Option.bind_map]
          rfl

/-- The next character of a word in a plain scalar, unless the word ends. -/
def wordPart? (flow : Bool) : List Char → Option (Option Char)
  | [] => some none
  | c :: rest =>
      if isSpace c || isBreak c then some none
      else if flow && hasStrayColon (c :: rest) then none
      else if endsPlain flow (c :: rest) then some none
      else some (some c)

/-- Two characters are enough to see a stray colon. -/
theorem hasStrayColon_cons (a b : Char) (rest more : List Char) :
    hasStrayColon (a :: b :: rest) = hasStrayColon (a :: b :: more) := by
  by_cases colon : a = ':'
  · subst colon
    rfl
  · unfold hasStrayColon
    grind

/-- Two characters are enough to see the end of a plain scalar. -/
theorem endsPlain_cons (flow : Bool) (a b : Char) (rest more : List Char) :
    endsPlain flow (a :: b :: rest) = endsPlain flow (a :: b :: more) := by
  by_cases colon : a = ':'
  · subst colon
    rfl
  · unfold endsPlain
    grind

/-- The next character of a word can be seen. -/
theorem near_wordPart? (flow : Bool) : Near (wordPart? flow) := by
  intro text
  match text with
  | [] => rfl
  | [_] => rfl
  | a :: b :: rest =>
      simp only [wordPart?, List.take_succ_cons]
      rw [hasStrayColon_cons a b (rest.take 2) rest, endsPlain_cons flow a b (rest.take 2) rest]

/-- A word is read character by character. -/
theorem takePlainWord?_succ (flow : Bool) (fuel : Nat) (cursor : Cursor) :
    takePlainWord? flow (fuel + 1) cursor =
      (wordPart? flow cursor.rest).bind fun part =>
        match part with
        | none => some ([], cursor)
        | some c => (takePlainWord? flow fuel (cursor.skip 1)).map fun (more, cursor) =>
            (c :: more, cursor) := by
  rw [takePlainWord?]
  split
  · rename_i written
    rw [written]
    rfl
  · rename_i c rest written
    rw [written, wordPart?]
    split
    · rfl
    · split
      · rfl
      · split <;> rfl

/-- A turn of reading a word, with the number of characters that it passes over. -/
def wordTurn : Option Char → Turn Unit (List Char) × Nat
  | none => (.last [], 0)
  | some c => (.further () (c :: ·), 1)

/-- A word of a plain scalar is read character by character. -/
theorem wordLoop (flow : Bool) :
    LocalLoop (fun _ cursor => ((wordPart? flow cursor.rest).map wordTurn).map
        fun (turn, count) => (turn, cursor.skip count))
      (fun fuel _ cursor => takePlainWord? flow fuel cursor) where
  reader _ := .look ((near_wordPart? flow).comp fun part? => part?.map wordTurn)
  moves {_ _ _ cursor after} read := by
    cases found : wordPart? flow cursor.rest with
    | none =>
        rw [found] at read
        cases read
    | some part =>
        rw [found] at read
        cases part with
        | none => cases read
        | some c =>
            cases read
            refine skip_lt Nat.one_pos fun ended => ?_
            rw [ended] at found
            cases found
  succ _ cursor _ := by
    rw [takePlainWord?_succ]
    cases wordPart? flow cursor.rest with
    | none => rfl
    | some part => cases part <;> rfl

/-- This reads what follows a word of a plain scalar: nothing, or a gap and further words. -/
def plainBehind? (flow : Bool) (indent fuel : Nat) (plain : Plain) (start : Gap) : Option Plain :=
  match start.cursor.rest with
  | [] => some plain
  | c :: _ =>
      if isSpace c || isBreak c then
        (takeGap? (some indent) (start.cursor.rest.length + 1) start).bind fun next =>
          if !flow && next.cursor.column < indent then
            some { plain with newLine := !next.breaks.isEmpty, cursor := next.cursor }
          else takePlain? flow indent fuel plain next
      else some plain

/-- A plain scalar that ends before a gap, or goes on with a word after it. -/
def Plain.with (plain : Plain) (gap : Gap) (word : List Char) (after : Cursor) : Plain :=
  if word.isEmpty then { plain with newLine := !gap.breaks.isEmpty, cursor := gap.cursor }
  else ⟨plain.text ++ gap.text ++ word, false, after⟩

/-- The gap before the place after a word: a new one, unless the word is empty. -/
def Gap.past (gap : Gap) (word : List Char) (after : Cursor) : Gap :=
  if word.isEmpty then { gap with cursor := after } else ⟨[], [], after⟩

/-- A plain scalar is read word by word. -/
theorem takePlain?_succ (flow : Bool) (indent fuel : Nat) (plain : Plain) (gap : Gap) :
    takePlain? flow indent (fuel + 1) plain gap =
      if gap.cursor.atDocumentMark || gap.cursor.rest.head? == some '#' then
        some (plain.with gap [] gap.cursor)
      else (takePlainWord? flow (gap.cursor.rest.length + 1) gap.cursor).bind fun (word, after) =>
        plainBehind? flow indent fuel (plain.with gap word after) (gap.past word after) := by
  rw [takePlain?]
  split
  · rfl
  · refine congrArg _ (funext fun (word, after) => ?_)
    cases word <;> rfl

@[simp] theorem Gap.past_cursor (gap : Gap) (word : List Char) (after : Cursor) :
    (gap.past word after).cursor = after := by
  rw [past]
  split <;> rfl

/-- Where no word is, none is passed over. -/
theorem takePlainWord?_nil {flow : Bool} {fuel : Nat} {after : Cursor}
    (read : takePlainWord? flow fuel cursor = some ([], after)) : after = cursor := by
  cases fuel with
  | zero =>
      cases read
      rfl
  | succ fuel =>
      rw [takePlainWord?_succ] at read
      obtain ⟨part, -, read⟩ := Option.bind_eq_some_iff.mp read
      cases part with
      | none =>
          cases read
          rfl
      | some c =>
          obtain ⟨_, -, same⟩ := Option.map_eq_some_iff.mp read
          cases same

/-- Only the text of a plain scalar counts for what is read further. -/
theorem takePlain?_of_text {flow : Bool} {indent fuel : Nat} (some : 0 < fuel) (plain : Plain)
    (gap : Gap) (newLine : Bool) (cursor : Cursor) :
    takePlain? flow indent fuel plain gap =
      takePlain? flow indent fuel ⟨plain.text, newLine, cursor⟩ gap := by
  have same (word : List Char) (after : Cursor) :
      plain.with gap word after = (⟨plain.text, newLine, cursor⟩ : Plain).with gap word after := by
    unfold Plain.with
    split <;> rfl
  obtain ⟨fuel, rfl⟩ : ∃ more, fuel = more + 1 := ⟨fuel - 1, by omega⟩
  simp only [takePlain?_succ, same]

/-- This reads a plain scalar behind its text so far and a gap, whose own cursor says nothing. The
result is its text, and whether a line break was passed over. -/
def plainFrom? (flow : Bool) (indent fuel : Nat) (sofar : List Char × Gap) (cursor : Cursor) :
    Option ((List Char × Bool) × Cursor) :=
  (takePlain? flow indent fuel ⟨sofar.1, false, cursor⟩ { sofar.2 with cursor }).map fun plain =>
    ((plain.text, plain.newLine), plain.cursor)

/-- A turn of reading a plain scalar, behind a word. -/
def wordBehind? (flow : Bool) (indent : Nat) (plain : Plain) (gap : Gap) (cursor : Cursor) :
    Option (Turn (List Char × Gap) (List Char × Bool) × Cursor) :=
  if cursor.rest.head?.any fun c => isSpace c || isBreak c then
    (gapFrom? (some indent) (cursor.rest.length + 1) gap cursor).bind fun (next, cursor) =>
      if !flow && cursor.column < indent then
        some (.last (plain.text, !next.breaks.isEmpty), cursor)
      else some (.further (plain.text, next) id, cursor)
  else some (.last (plain.text, plain.newLine), cursor)

/-- What follows a word is read in a local way. -/
theorem local_wordBehind? (flow : Bool) (indent : Nat) (plain : Plain) (gap : Gap) :
    LocalReader (wordBehind? flow indent plain gap) := by
  refine .choose (near_head?.comp fun head? => (head?.any fun c => isSpace c || isBreak c) = true)
    (((gapLoop (some indent)).reads gap).bind fun next => ?_) (.some _)
  refine .chooseAt (fun twin => ?_) (.some (Turn.last (plain.text, !next.breaks.isEmpty)))
    (.some (Turn.further (plain.text, next) id))
  rw [twin.column_eq]

/-- A turn that others follow has passed over a gap. -/
theorem wordBehind?_moves {flow : Bool} {indent : Nat} {plain : Plain} {gap : Gap}
    {next : List Char × Gap} {finish : List Char × Bool → List Char × Bool} {after : Cursor}
    (read : wordBehind? flow indent plain gap cursor = some (.further next finish, after)) :
    after.rest.length < cursor.rest.length := by
  rw [wordBehind?] at read
  split at read
  · rename_i blank
    obtain ⟨c, first, blank⟩ := (Option.any_eq_true _ _).mp blank
    obtain ⟨rest, written⟩ := List.head?_eq_some_iff.mp first
    obtain ⟨⟨passed, middle⟩, found, last⟩ := Option.bind_eq_some_iff.mp read
    have less := gapFrom?_lt written blank found
    dsimp only at last
    split at last <;> cases last
    exact less
  · cases read

/-- A turn of reading a plain scalar: a word, and what follows it. -/
def plainTurn? (flow : Bool) (indent : Nat) (sofar : List Char × Gap) (cursor : Cursor) :
    Option (Turn (List Char × Gap) (List Char × Bool) × Cursor) :=
  if cursor.atDocumentMark || cursor.rest.head? == some '#' then
    some (.last (sofar.1, !sofar.2.breaks.isEmpty), cursor)
  else (takePlainWord? flow (cursor.rest.length + 1) cursor).bind fun (word, after) =>
    wordBehind? flow indent
      (Plain.with ⟨sofar.1, false, sofar.2.cursor⟩ sofar.2 word sofar.2.cursor)
      (sofar.2.past word sofar.2.cursor) after

/-- A turn of reading a plain scalar is local. -/
theorem local_plainTurn? (flow : Bool) (indent : Nat) (sofar : List Char × Gap) :
    LocalReader (plainTurn? flow indent sofar) := by
  refine .chooseAt (fun {fork cursor other} twin => ?_) (.some _)
    (((wordLoop flow).reads ()).bind fun word => local_wordBehind? _ _ _ _)
  have head : other.rest.head? = cursor.rest.head? := twin.look near_head?
  rw [twin.atDocumentMark_eq, head]

/-- A turn that others follow moves on. -/
theorem plainTurn?_moves {flow : Bool} {indent : Nat} {sofar next : List Char × Gap}
    {finish : List Char × Bool → List Char × Bool} {after : Cursor}
    (read : plainTurn? flow indent sofar cursor = some (.further next finish, after)) :
    after.rest.length < cursor.rest.length := by
  rw [plainTurn?] at read
  split at read
  · cases read
  · obtain ⟨⟨word, middle⟩, found, last⟩ := Option.bind_eq_some_iff.mp read
    exact (wordBehind?_moves last).trans_le
      ((wordLoop flow).shortens (Nat.lt_succ_self _) () _ _ found)

/-- What follows a word is a turn, and the turns behind it. -/
theorem plainBehind?_eq {flow : Bool} {indent fuel : Nat} (enough : cursor.rest.length ≤ fuel)
    (plain : Plain) (gap : Gap) :
    (plainBehind? flow indent fuel { plain with cursor } { gap with cursor }).map
        (fun plain => ((plain.text, plain.newLine), plain.cursor)) =
      (wordBehind? flow indent plain gap cursor).bind
        (Turn.follow (plainFrom? flow indent fuel)) := by
  rw [plainBehind?, wordBehind?, gapFrom?]
  dsimp only
  cases written : cursor.rest with
  | nil => rfl
  | cons c rest =>
      rw [written, List.length_cons] at enough
      rw [List.head?_cons, Option.any_some]
      dsimp only
      split
      · cases takeGap? (some indent) ((c :: rest).length + 1) { gap with cursor } with
        | none => rfl
        | some next =>
            dsimp only [Option.map_some, Option.bind_some]
            split
            · rfl
            · rw [Option.bind_some, Turn.follow_further,
                takePlain?_of_text (by omega) _ _ false next.cursor]
              rfl
      · rfl

/-- A plain scalar is read word by word. -/
theorem plainLoop (flow : Bool) (indent : Nat) :
    LocalLoop (plainTurn? flow indent) (plainFrom? flow indent) where
  reader := local_plainTurn? flow indent
  moves := plainTurn?_moves
  succ {fuel} sofar cursor enough := by
    rw [plainFrom?, takePlain?_succ, plainTurn?]
    dsimp only
    split
    · rfl
    · cases found : takePlainWord? flow (cursor.rest.length + 1) cursor with
      | none => rfl
      | some taken =>
          obtain ⟨word, after⟩ := taken
          have shorter := (wordLoop flow).shortens (Nat.lt_succ_self _) () _ _ found
          have behind := @plainBehind?_eq after flow indent fuel (shorter.trans enough)
            (Plain.with ⟨sofar.1, false, sofar.2.cursor⟩ sofar.2 word sofar.2.cursor)
            (sofar.2.past word sofar.2.cursor)
          dsimp only [Option.bind_some]
          rw [← behind]
          cases word with
          | nil =>
              cases takePlainWord?_nil found
              rfl
          | cons c word => rfl

end HostAudit.Yaml
