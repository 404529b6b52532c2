import HostAudit.Proofs.IdTokens

/-
This file proves on what the reading of all tokens does not depend: on the side of a gap from which
it goes on, on the column behind a token that ends its line, and, before a mark that ends a value in
a flow collection, on whether a key may begin.
-/

namespace HostAudit.Yaml

namespace Lexer

variable {lexer stand : Lexer} {fuel : Nat} {tokens : List Token}

/-- This reads all tokens from the one at which the lexer stands. -/
def cut? (stand : Lexer) (fuel : Nat) : Option (List Token) :=
  if stand.cursor.rest.isEmpty then stand.finish?
  else stand.token?.bind fun next => next.run? fuel

/-- A run settles before the first token and cuts them all from there. -/
theorem run?_succ (lexer : Lexer) (fuel : Nat) :
    lexer.run? (fuel + 1) = lexer.settle?.bind fun stand => stand.cut? fuel := rfl

/-- A run that cuts the tokens goes to the first one. -/
theorem run?_settles (runs : lexer.run? fuel = some tokens) :
    ∃ stand fuel, lexer.settle? = some stand ∧ stand.cut? fuel = some tokens := by
  cases fuel with
  | zero => cases runs
  | succ fuel =>
      obtain ⟨stand, settled, cut⟩ := Option.bind_eq_some_iff.mp runs
      exact ⟨stand, fuel, settled, cut⟩

/-- Where two lexers settle alike, their runs are the same. -/
theorem run?_congr {other : Lexer} (same : lexer.settle? = other.settle?) (fuel : Nat) :
    lexer.run? fuel = other.run? fuel := by
  cases fuel with
  | zero => rfl
  | succ fuel => rw [run?_succ, run?_succ, same]

/-- The way to the next token does not depend on the fuel, if there is enough. -/
theorem toNextToken_fuel {fuelOther : Nat} (enough : lexer.cursor.rest.length < fuel)
    (enoughOther : lexer.cursor.rest.length < fuelOther) :
    lexer.toNextToken fuel = lexer.toNextToken fuelOther := by
  induction fuel generalizing lexer fuelOther with
  | zero => omega
  | succ fuel ih =>
      obtain ⟨fuelOther, rfl⟩ : ∃ more, fuelOther = more + 1 := ⟨fuelOther - 1, by omega⟩
      have passed :=
        (local_pastBlanks (lexer.inFlow || !lexer.keyAllowed)).shorter lexer.cursor
      rw [toNextToken_succ, toNextToken_succ]
      dsimp only
      split
      · rename_i broken
        have less := takeBreak?_shorter broken
        exact ih (by dsimp only; omega) (by dsimp only; omega)
      · rfl

/-- No token begins with a tab. -/
theorem token?_tab (tab : stand.cursor.rest.head? = some '\t') : stand.token? = none := by
  obtain ⟨rest, written⟩ := List.head?_eq_some_iff.mp tab
  rw [token?_eq_reader? written (.inr (by decide)), written]
  cases stand.inFlow <;> rfl

/-- A blank is passed over by itself. -/
theorem pastBlanks_skip {cursor : Cursor} {c : Char} {rest : List Char} {tabs : Bool}
    (written : cursor.rest = c :: rest) (blank : isFiller tabs c = true) :
    pastBlanks tabs cursor = pastBlanks tabs (cursor.skip 1) := by
  have other : c ≠ '\ufeff' := by
    rintro rfl
    cases tabs <;> cases blank
  have next : (cursor.skip 1).rest = rest := by simp [Cursor.skip, written]
  rw [pastBlanks, pastBlanks, pastMark_eq, if_neg (by simp [written, other]), pastMark_eq,
    if_neg (fun mark => Nat.succ_ne_zero _ mark.1), Cursor.skipWhile, Cursor.skipWhile,
    Cursor.takeWhile, Cursor.takeWhile, next, written, List.takeWhile_cons_of_pos blank]
  dsimp only
  rw [skip_skip, List.length_cons, Nat.add_comm]

/-- The lexer within a gap: outside of flow collections a key may begin behind a line break. -/
def within (lexer : Lexer) (gap : Gap) : Lexer :=
  ({ lexer with cursor := gap.cursor } : Lexer).allowKey (!lexer.inFlow && !gap.breaks.isEmpty)

/-- What is no space may not stand before a token. -/
theorem isFiller_solid {c : Char} (tabs : Bool) (solid : isSpace c = false) :
    isFiller tabs c = false := by
  have other : c ≠ ' ' ∧ c ≠ '\t' := by simpa [isSpace] using solid
  simp [isFiller, other.1, other.2]

/-- A character that breaks a line is taken as a break. -/
theorem takeBreak?_of_isBreak {cursor : Cursor} {c : Char} {rest : List Char}
    (written : cursor.rest = c :: rest) (breaks : isBreak c = true) :
    ∃ taken, cursor.takeBreak? = some taken := by
  rw [takeBreak?_eq, written, breakAt?]
  split_ifs <;> exact ⟨_, rfl⟩

/-- What is taken as a break breaks a line. -/
theorem takeBreak?_isBreak {cursor after : Cursor} {c read : Char} {rest : List Char}
    (written : cursor.rest = c :: rest) (broken : cursor.takeBreak? = some (read, after)) :
    isBreak c = true := by
  by_contra solid
  rw [takeBreak?_solid written (by simpa using solid)] at broken
  cases broken

/-- Behind a line break the way goes on. -/
theorem toNextToken_broken (lexer : Lexer) {broken : Char × Cursor}
    (read : (pastBlanks (lexer.inFlow || !lexer.keyAllowed) lexer.cursor).takeBreak? =
      some broken) (fuel : Nat) : lexer.toNextToken (fuel + 1) =
      toNextToken { lexer with
        cursor := broken.2
        keyAllowed := lexer.keyAllowed || !lexer.inFlow } fuel := by
  rw [toNextToken_succ]
  dsimp only
  rw [read]

/-- The way to the next token depends on the place behind the blanks only. -/
theorem toNextToken_moved {cursor : Cursor}
    (same : pastBlanks (lexer.inFlow || !lexer.keyAllowed) lexer.cursor =
      pastBlanks (lexer.inFlow || !lexer.keyAllowed) cursor) (fuel : Nat) :
    lexer.toNextToken (fuel + 1) = ({ lexer with cursor } : Lexer).toNextToken (fuel + 1) := by
  rw [toNextToken_succ, same]
  exact (toNextToken_succ { lexer with cursor } fuel).symm

/-- Tabs are passed over in a gap unless they would serve as indentation. -/
theorem within_tabs (lexer : Lexer) (gap : Gap) :
    ((lexer.within gap).inFlow || !(lexer.within gap).keyAllowed) =
      (lexer.inFlow || gap.breaks.isEmpty) := by
  change (lexer.inFlow || !(!lexer.inFlow && !gap.breaks.isEmpty)) = _
  cases lexer.inFlow <;> simp

/-- Within a gap a blank is passed over. -/
theorem toNextToken_filler (lexer : Lexer) {gap : Gap} {c : Char} {rest : List Char}
    (written : gap.cursor.rest = c :: rest)
    (filler : isFiller (lexer.inFlow || gap.breaks.isEmpty) c = true) (fuel : Nat) :
    (lexer.within gap).toNextToken (fuel + 1) =
      ({ lexer.within gap with cursor := gap.cursor.skip 1 } : Lexer).toNextToken (fuel + 1) := by
  refine toNextToken_moved ?_ fuel
  rw [within_tabs]
  exact pastBlanks_skip written filler

/-- A tab where a key may begin is no filler: the lexer stops at it. -/
theorem toNextToken_atTab (lexer : Lexer) {gap : Gap} {rest : List Char}
    (written : gap.cursor.rest = '\t' :: rest)
    (stops : isFiller (lexer.inFlow || gap.breaks.isEmpty) '\t' = false) (fuel : Nat) :
    ((lexer.within gap).toNextToken (fuel + 1)).cursor.rest.head? = some '\t' := by
  have stays := pastBlanks_eq_self written (.inr (by decide)) stops (by decide)
  rw [toNextToken_succ, within_tabs]
  dsimp only
  rw [show (lexer.within gap).cursor = gap.cursor from rfl, stays, takeBreak?_solid written rfl,
    written]
  rfl

/-- Within a gap a line break is passed over, and is noted. -/
theorem toNextToken_ofBreak (lexer : Lexer) {gap : Gap} {c taken : Char} {rest : List Char}
    {after : Cursor} (written : gap.cursor.rest = c :: rest) (solid : isSpace c = false)
    (broken : gap.cursor.takeBreak? = some (taken, after)) (fuel : Nat) :
    (lexer.within gap).toNextToken (fuel + 1) =
      (lexer.within ⟨[], gap.breaks ++ [taken], after⟩).toNextToken fuel := by
  have ends := takeBreak?_isBreak written broken
  have stays := pastBlanks_eq_self written (.inr (ne_of_apply_ne isBreak (by rw [ends]; decide)))
    (isFiller_solid (lexer.inFlow || gap.breaks.isEmpty) solid)
    (ne_of_apply_ne isBreak (by rw [ends]; decide))
  have key : (!lexer.inFlow && !gap.breaks.isEmpty || !lexer.inFlow) =
      (!lexer.inFlow && !(gap.breaks ++ [taken]).isEmpty) := by
    cases lexer.inFlow <;> simp
  have step := toNextToken_broken (lexer.within gap)
    (by rw [within_tabs]; exact (congrArg Cursor.takeBreak? stays).trans broken) fuel
  rw [step, within, within, ← key]
  rfl

/-- From within a gap, the lexer goes where it goes from the end of the gap, or it meets a tab. -/
theorem toNextToken_within (lexer : Lexer) {indent : Option Nat} {gapFuel fuelNext : Nat}
    {gap next : Gap} (read : takeGap? indent gapFuel gap = some next)
    (enough : gap.cursor.rest.length < fuel) (enoughNext : next.cursor.rest.length < fuelNext) :
    (lexer.within gap).toNextToken fuel = (lexer.within next).toNextToken fuelNext ∨
      ((lexer.within gap).toNextToken fuel).cursor.rest.head? = some '\t' := by
  induction gapFuel generalizing gap fuel with
  | zero =>
      cases read
      exact .inl (toNextToken_fuel enough enoughNext)
  | succ gapFuel ih =>
      obtain ⟨fuel, rfl⟩ : ∃ more, fuel = more + 1 := ⟨fuel - 1, by omega⟩
      rw [takeGap?] at read
      split at read
      · cases read
        exact .inl (toNextToken_fuel enough enoughNext)
      · rename_i c rest written
        have less := skip_lt Nat.one_pos (written ▸ List.cons_ne_nil c rest : gap.cursor.rest ≠ [])
        split at read
        · rename_i space
          split at read
          · rename_i first
            rw [toNextToken_filler lexer written (by rw [first, Bool.or_true]; exact space)]
            exact ih read (by dsimp only; omega)
          · split at read
            · cases read
            · by_cases filler : isFiller (lexer.inFlow || gap.breaks.isEmpty) c = true
              · rw [toNextToken_filler lexer written filler]
                exact ih read (by dsimp only; omega)
              · obtain rfl | rfl := isSpace_cases space
                · exact absurd rfl filler
                · exact .inr (toNextToken_atTab lexer written (by simpa using filler) fuel)
        · rename_i solid
          split at read
          · rename_i taken after broken
            have shorter := takeBreak?_shorter broken
            rw [toNextToken_ofBreak lexer written (by simpa using solid) broken]
            exact ih read (by dsimp only; omega)
          · cases read
            exact .inl (toNextToken_fuel enough enoughNext)

/-- Dropping stale candidates does not move the cursor. -/
theorem dropStale?_cursor (settled : lexer.dropStale? = some stand) :
    stand.cursor = lexer.cursor := by
  rw [dropStale?_eq] at settled
  split at settled
  · cases settled
  · cases settled
    rfl

/-- Settling moves the cursor to the next token. -/
theorem settle?_cursor (settled : lexer.settle? = some stand) :
    stand.cursor = (lexer.toNextToken (lexer.cursor.rest.length + 1)).cursor := by
  obtain ⟨fresh, dropped, same⟩ := Option.map_eq_some_iff.mp settled
  subst same
  rw [unroll_cursor, dropStale?_cursor dropped]

/-- A run that reads all tokens reads the same ones from behind a gap. -/
theorem run?_gap {indent : Option Nat} {next : Gap} (value : lexer.keyAllowed = false)
    (read : takeGap? indent (lexer.cursor.rest.length + 1) ⟨[], [], lexer.cursor⟩ = some next)
    (runs : lexer.run? fuel = some tokens) : (lexer.within next).run? fuel = some tokens := by
  have here : lexer.within ⟨[], [], lexer.cursor⟩ = lexer := by
    rw [within]
    simp only [List.isEmpty_nil, Bool.not_true, Bool.and_false]
    rw [← value]
    rfl
  cases fuel with
  | zero => cases runs
  | succ fuel =>
      obtain same | stuck := toNextToken_within lexer read (Nat.lt_succ_self _)
        (Nat.lt_succ_self _)
      · rw [here] at same
        have settled : lexer.settle? = (lexer.within next).settle? := by
          rw [settle?, settle?, same]
          rfl
        rw [← run?_congr settled, runs]
      · rw [here] at stuck
        obtain ⟨stand, settled, cut⟩ := Option.bind_eq_some_iff.mp runs
        rw [← settle?_cursor settled] at stuck
        obtain ⟨rest, written⟩ := List.head?_eq_some_iff.mp stuck
        have more : ¬stand.cursor.rest.isEmpty = true := by simp [written]
        rw [if_neg more, token?_tab stuck] at cut
        cases cut

/-- The text goes on with a mark that ends the value before it in a flow collection. -/
def endsFlowValue (stand : Lexer) : Bool :=
  stand.cursor.rest.head?.any fun c => c == ',' || c == ']' || c == '\x7d'

/-- In a flow collection, whether a key is allowed makes no difference to the way. -/
theorem toNextToken_allowKey (flow : lexer.inFlow = true) (allowed : Bool) (fuel : Nat) :
    (lexer.allowKey allowed).toNextToken fuel = (lexer.toNextToken fuel).allowKey allowed := by
  induction fuel generalizing lexer with
  | zero => rfl
  | succ fuel ih =>
      have flowOther : (lexer.allowKey allowed).inFlow = true := flow
      rw [toNextToken_succ, toNextToken_succ]
      simp only [flow, flowOther, Bool.true_or, Bool.not_true, Bool.or_false, allowKey_cursor]
      cases (pastBlanks true lexer.cursor).takeBreak? with
      | none => rfl
      | some broken =>
          have flowNext : ({ lexer with cursor := broken.2 } : Lexer).inFlow = true := flow
          exact ih flowNext

/-- Whether a key is allowed makes no difference to stale candidates. -/
theorem dropStale?_allowKey (lexer : Lexer) (allowed : Bool) :
    (lexer.allowKey allowed).dropStale? = lexer.dropStale?.map (·.allowKey allowed) := by
  rw [dropStale?_eq, dropStale?_eq]
  change (if lexer.candidates.any fun entry =>
    stale lexer entry && entry.any (·.required) then none else _) = _
  split <;> rfl

/-- Whether a key is allowed makes no difference to the candidate that is dropped. -/
theorem dropCandidate?_allowKey (lexer : Lexer) (allowed : Bool) :
    (lexer.allowKey allowed).dropCandidate? = lexer.dropCandidate?.map (·.allowKey allowed) := by
  match written : lexer.candidates with
  | [] | none :: _ => simp [dropCandidate?, allowKey, written]
  | some candidate :: rest =>
      simp only [dropCandidate?, allowKey, written]
      split <;> rfl

/-- The way to the next token stays in the flow collection. -/
theorem toNextToken_inFlow (lexer : Lexer) (fuel : Nat) :
    (lexer.toNextToken fuel).inFlow = lexer.inFlow := by
  induction fuel generalizing lexer with
  | zero => rfl
  | succ fuel ih =>
      rw [toNextToken_succ]
      dsimp only
      split
      · exact ih _
      · rfl

/-- Dropping stale candidates stays in the flow collection. -/
theorem dropStale?_inFlow (settled : lexer.dropStale? = some stand) :
    stand.inFlow = lexer.inFlow := by
  rw [dropStale?_eq] at settled
  split at settled
  · cases settled
  · cases settled
    simp only [inFlow, List.length_map]

/-- In a flow collection no block is closed. -/
theorem unroll_inFlow (flow : lexer.inFlow = true) (column : Int) :
    lexer.unroll column = lexer := by
  rw [unroll]
  cases lexer.outer.length with
  | zero => rfl
  | succ fuel => rw [closeBlocks, if_neg (by simp [flow])]

/-- In a flow collection, whether a key is allowed makes no difference to settling. -/
theorem settle?_allowKey (flow : lexer.inFlow = true) (allowed : Bool) :
    (lexer.allowKey allowed).settle? = lexer.settle?.map (·.allowKey allowed) := by
  rw [settle?, settle?, allowKey_cursor, toNextToken_allowKey flow, dropStale?_allowKey,
    Option.map_map, Option.map_map]
  cases dropped : (lexer.toNextToken (lexer.cursor.rest.length + 1)).dropStale? with
  | none => rfl
  | some fresh =>
      have flowFresh : fresh.inFlow = true := by
        rw [dropStale?_inFlow dropped, toNextToken_inFlow, flow]
      have flowOther : (fresh.allowKey allowed).inFlow = true := flowFresh
      simp only [Option.map_some, Function.comp_apply, unroll_inFlow flowFresh,
        unroll_inFlow flowOther]

/-- A flow collection is closed whether a key is allowed or not. -/
theorem closeFlow?_allowKey (lexer : Lexer) (allowed : Bool) (token : Token) :
    closeFlow? token (lexer.allowKey allowed) = closeFlow? token lexer := by
  rw [closeFlow?, closeFlow?, dropCandidate?_allowKey]
  cases lexer.dropCandidate? <;> rfl

/-- An entry ends whether a key is allowed or not. -/
theorem flowEntry?_allowKey (lexer : Lexer) (allowed : Bool) :
    flowEntry? (lexer.allowKey allowed) = flowEntry? lexer := by
  unfold flowEntry?
  rw [dropCandidate?_allowKey]
  cases lexer.dropCandidate? <;> rfl

/-- Behind a value in a flow collection, the next token does not depend on whether a key is
allowed. -/
theorem token?_allowKey (ends : stand.endsFlowValue = true) (allowed : Bool) :
    (stand.allowKey allowed).token? = stand.token? := by
  obtain ⟨c, rest, written⟩ : ∃ c rest, stand.cursor.rest = c :: rest := by
    cases written : stand.cursor.rest with
    | nil => simp [endsFlowValue, written] at ends
    | cons c rest => exact ⟨c, rest, rfl⟩
  have writtenOther : (stand.allowKey allowed).cursor.rest = c :: rest := written
  simp only [endsFlowValue, written, List.head?_cons, Option.any_some, Bool.or_eq_true,
    beq_iff_eq] at ends
  have plain : c ≠ '%' ∧ c ≠ '-' ∧ c ≠ '.' := by
    obtain (rfl | rfl) | rfl := ends <;> decide
  rw [token?_eq_reader? written (.inr plain), written,
    token?_eq_reader? writtenOther (.inr plain), writtenOther]
  obtain (rfl | rfl) | rfl := ends
  · exact flowEntry?_allowKey stand allowed
  · exact closeFlow?_allowKey stand allowed .flowSequenceEnd
  · exact closeFlow?_allowKey stand allowed .flowMappingEnd

/-- In a flow collection, whether a key may begin does not matter before a mark that ends a
value. -/
theorem run?_allowKey (flow : lexer.inFlow = true) (allowed : Bool)
    (ends : ∀ stand, lexer.settle? = some stand → stand.endsFlowValue = true) :
    (lexer.allowKey allowed).run? fuel = lexer.run? fuel := by
  cases fuel with
  | zero => rfl
  | succ fuel =>
      rw [run?_succ, run?_succ, settle?_allowKey flow]
      cases settled : lexer.settle? with
      | none => rfl
      | some stand =>
          have closing := ends stand settled
          rw [Option.map_some, Option.bind_some, Option.bind_some, cut?, cut?,
            token?_allowKey closing, allowKey_cursor]
          have more : ¬stand.cursor.rest.isEmpty = true := by
            intro empty
            rw [List.isEmpty_iff] at empty
            simp [endsFlowValue, empty] at closing
          rw [if_neg more, if_neg more]

/-- Blocks are closed wherever the cursor is. -/
theorem closeBlocks_moveTo (lexer : Lexer) (cursor : Cursor) (column : Int) (fuel : Nat) :
    ({ lexer with cursor } : Lexer).closeBlocks column fuel =
      { lexer.closeBlocks column fuel with cursor } := by
  induction fuel generalizing lexer with
  | zero => rfl
  | succ fuel ih =>
      obtain ⟨start, tokens, indent, outer, keyAllowed, candidates⟩ := lexer
      have flow : Lexer.inFlow ⟨cursor, tokens, indent, outer, keyAllowed, candidates⟩ =
          Lexer.inFlow ⟨start, tokens, indent, outer, keyAllowed, candidates⟩ := rfl
      rw [closeBlocks, closeBlocks, flow]
      dsimp only
      split
      · cases outer with
        | nil => rfl
        | cons indent outer =>
            exact ih ⟨start, tokens ++ [.blockEnd], indent, outer, keyAllowed, candidates⟩
      · rfl

/-- A run is finished wherever the cursor is. -/
theorem finish?_moveTo (lexer : Lexer) (cursor : Cursor) :
    ({ lexer with cursor } : Lexer).finish? = lexer.finish? := by
  rw [finish?, finish?, unroll, unroll]
  dsimp only
  rw [closeBlocks_moveTo]
  generalize lexer.closeBlocks (-1) lexer.outer.length = closed
  rcases written : closed.candidates with _ | ⟨_ | candidate, rest⟩
  · simp [dropCandidate?, written]
  · simp [dropCandidate?, written]
  · simp only [dropCandidate?, written]
    split <;> rfl

/-- The number of blanks and characters of a comment at the start of a text. -/
def fillerLength (text : List Char) : Nat :=
  let blanks := (text.takeWhile isSpace).length
  let rest := text.drop blanks
  blanks + if rest.head? = some '#' then (rest.takeWhile (!isBreak ·)).length else 0

/-- Within a line, blanks and a comment are passed over at once. -/
theorem pastBlanks_eq_skip {cursor : Cursor} (inside : cursor.column ≠ 0) :
    pastBlanks true cursor = cursor.skip (fillerLength cursor.rest) := by
  have tabs : isFiller true = isSpace := rfl
  rw [pastBlanks, pastMark_eq, if_neg (fun mark => inside mark.1), tabs, Cursor.skipWhile,
    Cursor.takeWhile, skipComment_eq, fillerLength]
  dsimp only
  by_cases comment : (cursor.rest.drop (cursor.rest.takeWhile isSpace).length).head? = some '#'
  · rw [if_pos (show (cursor.skip _).rest.head? = some '#' from comment), if_pos comment]
    exact skip_skip _ _ _
  · rw [if_neg (show (cursor.skip _).rest.head? ≠ some '#' from comment), if_neg comment]
    rfl

/-- Dropping as many characters as are kept leaves what is behind them. -/
theorem drop_length_takeWhile (keep : Char → Bool) (text : List Char) :
    text.drop (text.takeWhile keep).length = text.dropWhile keep := by
  have whole := List.takeWhile_append_dropWhile (p := keep) (l := text)
  calc text.drop (text.takeWhile keep).length
      = (text.takeWhile keep ++ text.dropWhile keep).drop (text.takeWhile keep).length := by
        rw [whole]
    _ = text.dropWhile keep := List.drop_left

/-- A line ends where a break follows blanks and a comment. -/
theorem endsLine_eq (text : List Char) :
    endsLine text = (text.drop (fillerLength text)).head?.all isBreak := by
  rw [endsLine, fillerLength]
  simp only [drop_length_takeWhile]
  split
  · rw [← List.drop_drop, drop_length_takeWhile, drop_length_takeWhile]
  · rw [Nat.add_zero, drop_length_takeWhile]

/-- Where only blanks and a comment are left of the text, the run ends. -/
theorem run?_ended {column : Nat} (value : lexer.keyAllowed = false) (idle : lexer.Idle)
    (settled : lexer.Settled column) (within : column ≤ lexer.cursor.column)
    (inside : lexer.cursor.column ≠ 0)
    (ended : lexer.cursor.rest.drop (fillerLength lexer.cursor.rest) = []) (fuel : Nat) :
    lexer.run? (fuel + 1) = lexer.finish? := by
  have tabs : (lexer.inFlow || !lexer.keyAllowed) = true := by rw [value]; exact Bool.or_true _
  have solid : (lexer.cursor.skip (fillerLength lexer.cursor.rest)).takeBreak? = none := by
    rw [takeBreak?_eq]
    simp only [Cursor.skip, ended]
    rfl
  have moved := settle?_eq_moved (by rw [tabs]; exact pastBlanks_eq_skip inside) solid
    (idle.fresh _) settled (within.trans (Nat.le_add_right _ _))
  rw [run?_succ, moved, Option.bind_some, cut?, if_pos (by simp [Cursor.skip, ended]),
    finish?_moveTo]

/-- A run does not depend on the column behind a token after which the line ends. -/
theorem run?_column {column : Nat} {cursor : Cursor} (value : lexer.keyAllowed = false)
    (idle : lexer.Idle) (settled : lexer.Settled column) (within : column ≤ lexer.cursor.column)
    (withinOther : column ≤ cursor.column) (inside : lexer.cursor.column ≠ 0)
    (insideOther : cursor.column ≠ 0) (ends : endsLine lexer.cursor.rest)
    (rest_eq : cursor.rest = lexer.cursor.rest) (index_eq : cursor.index = lexer.cursor.index)
    (line_eq : cursor.line = lexer.cursor.line) :
    ({ lexer with cursor } : Lexer).run? fuel = lexer.run? fuel := by
  have tabs : (lexer.inFlow || !lexer.keyAllowed) = true := by rw [value]; exact Bool.or_true _
  rw [endsLine_eq] at ends
  cases written : lexer.cursor.rest.drop (fillerLength lexer.cursor.rest) with
  | nil =>
      -- The text ends, and with it the run; what is left to do does not look at the cursor.
      cases fuel with
      | zero => rfl
      | succ fuel =>
          have endedOther : cursor.rest.drop (fillerLength cursor.rest) = [] := by
            rw [rest_eq, written]
          have other := @run?_ended { lexer with cursor } column value idle settled withinOther
            insideOther endedOther fuel
          rw [run?_ended value idle settled within inside written, other, finish?_moveTo]
  | cons c more =>
      -- The line ends; on the next one the columns are the same again.
      have behind := pastBlanks_eq_skip inside
      have behindOther := pastBlanks_eq_skip insideOther
      rw [rest_eq] at behindOther
      rw [written] at ends
      have breaks : isBreak c = true := by simpa using ends
      have same : (cursor.skip (fillerLength lexer.cursor.rest)).takeBreak? =
          (lexer.cursor.skip (fillerLength lexer.cursor.rest)).takeBreak? := by
        simp only [takeBreak?_eq, Cursor.skip, rest_eq, index_eq, line_eq]
      have rest_written : (lexer.cursor.skip (fillerLength lexer.cursor.rest)).rest = c :: more :=
        written
      obtain ⟨broken, read⟩ := takeBreak?_of_isBreak rest_written breaks
      refine run?_congr ?_ fuel
      have next : ({ lexer with cursor } : Lexer).toNextToken (cursor.rest.length + 1) =
          lexer.toNextToken (lexer.cursor.rest.length + 1) := by
        have here := toNextToken_broken lexer (by rw [tabs, behind, read])
        have hereOther := toNextToken_broken { lexer with cursor }
          (show (pastBlanks (lexer.inFlow || !lexer.keyAllowed) cursor).takeBreak? = some broken by
            rw [tabs, behindOther, same, read])
        rw [here, hereOther, rest_eq]
        rfl
      rw [settle?, settle?, next]

end Lexer

end HostAudit.Yaml
