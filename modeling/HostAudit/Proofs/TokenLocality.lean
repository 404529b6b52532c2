import HostAudit.Proofs.TagLocality

/-
This file proves that cutting text into tokens is local: two lexers that stand at the same place of
texts that have not gone apart yet cut the same tokens.
-/

namespace HostAudit.Yaml

/-- A candidate in a text that is longer by some characters so far. -/
def Candidate.moved (shift : Nat) (candidate : Candidate) : Candidate :=
  { candidate with index := candidate.index + shift }

/-- Where two texts go apart, and the tokens that have been cut from each so far. -/
structure Parting where
  fork : Fork
  tokens : List Token
  again : List Token
  paired : again.length = tokens.length

variable {parting : Parting} {lexer other : Lexer}

/-- Two lexers stand at the same place before the texts go apart, and have cut the same tokens since
the parting. -/
inductive Lexer.Twin (parting : Parting) : Lexer → Lexer → Prop where
  | intro {cursor cursorOther : Cursor} (cursors : Yaml.Twin parting.fork cursor cursorOther)
      (recent : List Token) (indent : Int) (outer : List Int) (keyAllowed : Bool)
      (candidates : List (Option Candidate))
      (later : ∀ candidate, some candidate ∈ candidates → parting.tokens.length ≤ candidate.place) :
      Lexer.Twin parting
        ⟨cursor, parting.tokens ++ recent, indent, outer, keyAllowed, candidates⟩
        ⟨cursorOther, parting.again ++ recent, indent, outer, keyAllowed,
          candidates.map (Option.map (Candidate.moved parting.fork.shift))⟩

namespace Lexer

namespace Twin

/-- Their cursors are twins. -/
theorem cursors (twin : Twin parting lexer other) :
    Yaml.Twin parting.fork lexer.cursor other.cursor := by
  cases twin
  assumption

/-- They are in blocks of the same indentation. -/
theorem indent_eq (twin : Twin parting lexer other) : other.indent = lexer.indent := by
  cases twin
  rfl

/-- They have opened the same blocks. -/
theorem outer_eq (twin : Twin parting lexer other) : other.outer = lexer.outer := by
  cases twin
  rfl

/-- A key is allowed for both or for none. -/
theorem keyAllowed_eq (twin : Twin parting lexer other) :
    other.keyAllowed = lexer.keyAllowed := by
  cases twin
  rfl

/-- They are both in a flow collection or both outside. -/
theorem inFlow_eq (twin : Twin parting lexer other) : other.inFlow = lexer.inFlow := by
  cases twin
  simp only [inFlow, List.length_map]

/-- Twins cut the same token. -/
theorem emit (twin : Twin parting lexer other) (token : Token) :
    Twin parting (lexer.emit token) (other.emit token) := by
  obtain ⟨cursors, recent, indent, outer, keyAllowed, candidates, later⟩ := twin
  simp only [Lexer.emit, List.append_assoc]
  exact .intro cursors (recent ++ [token]) indent outer keyAllowed candidates later

/-- Allowing a key keeps them twins. -/
theorem allowKey (twin : Twin parting lexer other) (allowed : Bool) :
    Twin parting (lexer.allowKey allowed) (other.allowKey allowed) := by
  obtain ⟨cursors, recent, indent, outer, _, candidates, later⟩ := twin
  exact .intro cursors recent indent outer allowed candidates later

/-- Moving both to twin cursors keeps them twins. -/
theorem moveTo (twin : Twin parting lexer other) {cursor cursorOther : Cursor}
    (cursors : Yaml.Twin parting.fork cursor cursorOther) :
    Twin parting { lexer with cursor } { other with cursor := cursorOther } := by
  obtain ⟨_, recent, indent, outer, keyAllowed, candidates, later⟩ := twin
  exact .intro cursors recent indent outer keyAllowed candidates later

/-- Going on keeps them twins as long as the texts have not gone apart. -/
theorem skip (twin : Twin parting lexer other) {count : Nat}
    (before : Before parting.fork (lexer.cursor.skip count)) :
    Twin parting (lexer.skip count) (other.skip count) :=
  twin.moveTo (twin.cursors.skip before)

/-- Changing the blocks in the same way keeps them twins. -/
theorem withBlocks (twin : Twin parting lexer other) (indent : Int) (outer : List Int) :
    Twin parting { lexer with indent, outer } { other with indent, outer } := by
  obtain ⟨cursors, recent, _, _, keyAllowed, candidates, later⟩ := twin
  exact .intro cursors recent indent outer keyAllowed candidates later

/-- A token is inserted at the same place, among those cut since the parting. -/
theorem insert (twin : Twin parting lexer other) {place : Nat} (token : Token)
    (later : parting.tokens.length ≤ place) :
    Twin parting (lexer.insert place token) (other.insert place token) := by
  obtain ⟨cursors, recent, indent, outer, keyAllowed, candidates, after⟩ := twin
  have laterOther : parting.again.length ≤ place := parting.paired ▸ later
  simp only [Lexer.insert, List.take_append, List.drop_append, List.take_of_length_le later,
    List.take_of_length_le laterOther, List.drop_of_length_le later,
    List.drop_of_length_le laterOther, List.nil_append, List.append_assoc, parting.paired]
  exact .intro cursors _ indent outer keyAllowed candidates after

/-- The tokens from before the parting are kept. -/
theorem length_le (twin : Twin parting lexer other) :
    parting.tokens.length ≤ lexer.tokens.length := by
  cases twin
  simp

/-- They have cut the same number of tokens. -/
theorem length_eq (twin : Twin parting lexer other) :
    other.tokens.length = lexer.tokens.length := by
  cases twin
  simp [parting.paired]

/-- Opening a block keeps them twins. -/
theorem openBlock (twin : Twin parting lexer other) {place : Nat} (column : Nat) (token : Token)
    (later : parting.tokens.length ≤ place) :
    Twin parting (lexer.openBlock column place token) (other.openBlock column place token) := by
  rw [Lexer.openBlock, Lexer.openBlock, twin.inFlow_eq, twin.indent_eq]
  split
  · rw [twin.outer_eq]
    exact (twin.insert token later).withBlocks column (lexer.indent :: lexer.outer)
  · exact twin

/-- Closing blocks keeps them twins. -/
theorem closeBlocks (twin : Twin parting lexer other) (column : Int) (fuel : Nat) :
    Twin parting (lexer.closeBlocks column fuel) (other.closeBlocks column fuel) := by
  induction fuel generalizing lexer other with
  | zero => exact twin
  | succ fuel ih =>
      rw [Lexer.closeBlocks, Lexer.closeBlocks, twin.inFlow_eq, twin.indent_eq, twin.outer_eq]
      split
      · split
        · exact ih ((twin.emit .blockEnd).withBlocks _ _)
        · exact twin
      · exact twin

/-- Closing the blocks that a column ends keeps them twins. -/
theorem unroll (twin : Twin parting lexer other) (column : Int) :
    Twin parting (lexer.unroll column) (other.unroll column) := by
  rw [Lexer.unroll, Lexer.unroll, twin.outer_eq]
  exact twin.closeBlocks column _

/-- They have the same candidates, at indices that are moved. -/
theorem candidates_eq (twin : Twin parting lexer other) : other.candidates =
    lexer.candidates.map (Option.map (Candidate.moved parting.fork.shift)) := by
  cases twin
  rfl

/-- Candidates come after the parting. -/
theorem later (twin : Twin parting lexer other) {candidate : Candidate}
    (there : some candidate ∈ lexer.candidates) : parting.tokens.length ≤ candidate.place := by
  cases twin
  rename_i later
  exact later candidate there

/-- Changing the candidates in the same way keeps them twins. -/
theorem withCandidates (twin : Twin parting lexer other) (candidates : List (Option Candidate))
    (later : ∀ candidate, some candidate ∈ candidates → parting.tokens.length ≤ candidate.place) :
    Twin parting { lexer with candidates }
      { other with
        candidates := candidates.map (Option.map (Candidate.moved parting.fork.shift)) } := by
  obtain ⟨cursors, recent, indent, outer, keyAllowed, _, _⟩ := twin
  exact .intro cursors recent indent outer keyAllowed candidates later

end Twin

@[simp] theorem emit_cursor (lexer : Lexer) (token : Token) :
    (lexer.emit token).cursor = lexer.cursor := rfl

@[simp] theorem allowKey_cursor (lexer : Lexer) (allowed : Bool) :
    (lexer.allowKey allowed).cursor = lexer.cursor := rfl

@[simp] theorem skip_cursor (lexer : Lexer) (count : Nat) :
    (lexer.skip count).cursor = lexer.cursor.skip count := rfl

@[simp] theorem insert_cursor (lexer : Lexer) (place : Nat) (token : Token) :
    (lexer.insert place token).cursor = lexer.cursor := rfl

/-- Opening a block does not move the cursor. -/
@[simp] theorem openBlock_cursor (lexer : Lexer) (column place : Nat) (token : Token) :
    (lexer.openBlock column place token).cursor = lexer.cursor := by
  rw [openBlock]
  split <;> rfl

/-- Closing blocks does not move the cursor. -/
@[simp] theorem closeBlocks_cursor (lexer : Lexer) (column : Int) (fuel : Nat) :
    (lexer.closeBlocks column fuel).cursor = lexer.cursor := by
  induction fuel generalizing lexer with
  | zero => rfl
  | succ fuel ih =>
      rw [closeBlocks]
      split
      · split
        · exact ih _
        · rfl
      · rfl

@[simp] theorem unroll_cursor (lexer : Lexer) (column : Int) :
    (lexer.unroll column).cursor = lexer.cursor := closeBlocks_cursor lexer column _

/-- A step that reads the same as long as the texts have not gone apart, and leaves no more of the
text than there was. -/
structure Local (step : Lexer → Option Lexer) : Prop where
  shorter {lexer next : Lexer} :
    step lexer = some next → next.cursor.rest.length ≤ lexer.cursor.rest.length
  twin {parting : Parting} {lexer other next : Lexer} : Twin parting lexer other →
    step lexer = some next → Before parting.fork next.cursor →
      ∃ nextOther, step other = some nextOther ∧ Twin parting next nextOther

namespace Local

variable {first second : Lexer → Option Lexer}

/-- A local step behind another is local. -/
theorem bind (one : Local first) (two : Local second) :
    Local fun lexer => (first lexer).bind second where
  shorter read := by
    obtain ⟨middle, read, last⟩ := Option.bind_eq_some_iff.mp read
    exact (two.shorter last).trans (one.shorter read)
  twin twin read before := by
    obtain ⟨middle, read, last⟩ := Option.bind_eq_some_iff.mp read
    obtain ⟨middleOther, readOther, twinMiddle⟩ :=
      one.twin twin read (before.of_le (two.shorter last))
    obtain ⟨nextOther, lastOther, twinNext⟩ := two.twin twinMiddle last before
    exact ⟨nextOther, by rw [readOther, Option.bind_some, lastOther], twinNext⟩

/-- A step that fails is local. -/
theorem none : Local fun _ => .none where
  shorter := by rintro _ _ ⟨⟩
  twin := by rintro _ _ _ _ _ ⟨⟩

/-- A step that always succeeds. -/
theorem pure {step : Lexer → Lexer}
    (shorter : ∀ lexer, (step lexer).cursor.rest.length ≤ lexer.cursor.rest.length)
    (twin : ∀ {parting lexer other}, Twin parting lexer other →
      Before parting.fork (step lexer).cursor → Twin parting (step lexer) (step other)) :
    Local fun lexer => some (step lexer) where
  shorter := by
    rintro lexer _ ⟨⟩
    exact shorter lexer
  twin := by
    rintro _ _ _ _ related ⟨⟩ before
    exact ⟨_, rfl, twin related before⟩

/-- A step that depends on what is the same at both lexers. -/
theorem on {A : Type} {view : Lexer → A} {step : A → Lexer → Option Lexer}
    (same : ∀ {parting lexer other}, Twin parting lexer other → view other = view lexer)
    (all : ∀ a, Local (step a)) : Local fun lexer => step (view lexer) lexer where
  shorter read := (all _).shorter read
  twin twin read before := by
    rw [same twin]
    exact (all _).twin twin read before

/-- A choice between local steps is local if twins choose the same. -/
theorem choose {holds : Lexer → Bool}
    (same : ∀ {parting lexer other}, Twin parting lexer other → holds other = holds lexer)
    (one : Local first) (two : Local second) :
    Local fun lexer => if holds lexer then first lexer else second lexer := by
  have either (yes : Bool) : Local fun lexer => if yes then first lexer else second lexer := by
    cases yes
    · exact two
    · exact one
  exact on same either

end Local

/-- Dropping the candidate is local. -/
theorem local_dropCandidate? : Local dropCandidate? where
  shorter {lexer next} read := by
    rw [dropCandidate?] at read
    split at read
    · split at read
      · cases read
      · cases read
        exact le_rfl
    · cases read
      exact le_rfl
  twin {parting lexer other next} twin read _ := by
    obtain ⟨cursors, recent, indent, outer, keyAllowed, candidates, later⟩ := twin
    match candidates with
    | [] | .none :: _ =>
        cases read
        exact ⟨_, rfl, .intro cursors recent indent outer keyAllowed _ later⟩
    | some candidate :: rest =>
        simp only [dropCandidate?, List.map_cons, Option.map_some] at read ⊢
        split at read
        · cases read
        · rename_i free
          cases read
          refine ⟨_, if_neg free, ?_⟩
          refine .intro cursors recent indent outer keyAllowed (.none :: rest)
            fun candidate there => ?_
          exact later candidate (List.mem_cons_of_mem _ (by simpa using there))

/-- A candidate that is moved is stale where it was before. -/
theorem isStale_moved {fork : Fork} {cursor cursorOther : Cursor}
    (twin : Yaml.Twin fork cursor cursorOther) (candidate : Candidate) :
    isStale cursorOther (candidate.moved fork.shift) = isStale cursor candidate := by
  have shifted : candidate.index + fork.shift + 1024 < cursor.index + fork.shift ↔
      candidate.index + 1024 < cursor.index := by omega
  simp only [isStale, Candidate.moved, twin.line_eq, twin.index_eq, shifted]

/-- A candidate that can no longer be a key. -/
def stale (lexer : Lexer) (entry : Option Candidate) : Bool := entry.any (isStale lexer.cursor)

/-- Twins find the same candidates stale. -/
theorem Twin.stale_moved (twin : Twin parting lexer other) (entry : Option Candidate) :
    stale other (entry.map (Candidate.moved parting.fork.shift)) = stale lexer entry := by
  cases entry with
  | none => rfl
  | some candidate => exact isStale_moved twin.cursors candidate

/-- Stale candidates are dropped unless one of them had to be a key. -/
theorem dropStale?_eq (lexer : Lexer) : lexer.dropStale? =
    if lexer.candidates.any fun entry => stale lexer entry && entry.any (·.required) then none
    else some { lexer with
      candidates := lexer.candidates.map fun entry => if stale lexer entry then none else entry } :=
  rfl

/-- Dropping the stale candidates is local. -/
theorem local_dropStale? : Local dropStale? where
  shorter {lexer next} read := by
    rw [dropStale?_eq] at read
    split at read
    · cases read
    · cases read
      exact le_rfl
  twin {parting lexer other next} twin read _ := by
    rw [dropStale?_eq] at read ⊢
    have required (entry : Option Candidate) :
        (entry.map (Candidate.moved parting.fork.shift)).any (·.required) =
          entry.any (·.required) := by
      cases entry <;> rfl
    rw [twin.candidates_eq]
    simp only [List.any_map, List.map_map, Function.comp_def, twin.stale_moved, required]
    split at read
    · cases read
    · rename_i kept
      cases read
      refine ⟨_, if_neg kept, ?_⟩
      have moved : (lexer.candidates.map fun entry =>
          if stale lexer entry then none else entry.map (Candidate.moved parting.fork.shift)) =
          (lexer.candidates.map fun entry => if stale lexer entry then none else entry).map
            (Option.map (Candidate.moved parting.fork.shift)) := by
        rw [List.map_map]
        refine List.map_congr_left fun entry _ => ?_
        simp only [Function.comp_apply]
        split <;> rfl
      rw [moved]
      refine twin.withCandidates _ fun candidate there => ?_
      obtain ⟨entry, member, same⟩ := List.mem_map.mp there
      split at same
      · cases same
      · exact twin.later (same ▸ member)

/-- The candidate that is noted where a key may begin. -/
def candidateHere (lexer : Lexer) : Candidate :=
  ⟨!lexer.inFlow && lexer.indent == lexer.cursor.column, lexer.tokens.length, lexer.cursor.index,
    lexer.cursor.line, lexer.cursor.column⟩

/-- Twins note the same candidate, at an index that is moved. -/
theorem Twin.candidateHere_eq (twin : Twin parting lexer other) :
    candidateHere other = (candidateHere lexer).moved parting.fork.shift := by
  simp only [candidateHere, Candidate.moved, twin.inFlow_eq, twin.indent_eq, twin.length_eq,
    twin.cursors.column_eq, twin.cursors.index_eq, twin.cursors.line_eq]

/-- A candidate is noted in place of the last one where a key may begin. -/
theorem noteCandidate?_eq (lexer : Lexer) : lexer.noteCandidate? =
    if lexer.keyAllowed then
      lexer.dropCandidate?.map fun dropped =>
        { dropped with candidates := some (candidateHere lexer) :: dropped.candidates.drop 1 }
    else some lexer := by
  rw [noteCandidate?]
  split
  · rw [Option.map_eq_bind]
    rfl
  · rfl

/-- Noting a candidate is local. -/
theorem local_noteCandidate? : Local noteCandidate? where
  shorter {lexer next} read := by
    rw [noteCandidate?_eq] at read
    split at read
    · obtain ⟨_, dropped, same⟩ := Option.map_eq_some_iff.mp read
      cases same
      have kept := local_dropCandidate?.shorter dropped
      exact kept
    · cases read
      exact le_rfl
  twin {parting lexer other next} twin read before := by
    rw [noteCandidate?_eq] at read ⊢
    rw [twin.keyAllowed_eq]
    split at read
    · rename_i allowed
      obtain ⟨_, dropped, same⟩ := Option.map_eq_some_iff.mp read
      cases same
      obtain ⟨droppedOther, dropOther, twinDropped⟩ := local_dropCandidate?.twin twin dropped before
      rw [if_pos allowed, dropOther, twin.candidateHere_eq]
      refine ⟨_, rfl, ?_⟩
      dsimp only
      rw [twinDropped.candidates_eq, ← List.map_drop]
      refine twinDropped.withCandidates (_ :: _) fun candidate there => ?_
      obtain same | there := List.mem_cons.mp there
      · cases same
        exact twin.length_le
      · exact twinDropped.later (List.mem_of_mem_drop there)
    · rename_i forbidden
      cases read
      exact ⟨other, if_neg forbidden, twin⟩

/-- The mark of the byte order at the start of a line is passed over. -/
def pastMark (cursor : Cursor) : Cursor :=
  match cursor.column, cursor.rest with
  | 0, '\ufeff' :: _ => cursor.skip 1
  | _, _ => cursor

/-- The mark of the byte order is passed over at the start of a line only. -/
theorem pastMark_eq (cursor : Cursor) : pastMark cursor =
    if cursor.column = 0 ∧ cursor.rest.head? = some '\ufeff' then cursor.skip 1 else cursor := by
  unfold pastMark
  split
  · rename_i start written
    rw [if_pos ⟨start, by rw [written]; rfl⟩]
  · rename_i other
    refine (if_neg ?_).symm
    rintro ⟨start, mark⟩
    obtain ⟨rest, written⟩ := List.head?_eq_some_iff.mp mark
    exact other rest start written

/-- A blank that may stand before a token; a tab may not where it would serve as indentation. -/
def isFiller (tabs : Bool) (c : Char) : Bool := c == ' ' || (tabs && c == '\t')

/-- What may stand before a token on its line: a mark of the byte order, blanks, a comment. -/
def pastBlanks (tabs : Bool) (cursor : Cursor) : Cursor :=
  ((pastMark cursor).skipWhile (isFiller tabs)).skipComment

/-- Passing over the mark of the byte order is local. -/
theorem local_pastMark : LocalPass pastMark := by
  rw [funext pastMark_eq]
  refine .choose (fun {fork cursor other} twin => ?_) (.skip 1) .stay
  have head : (other.rest.head? = some '\ufeff') = (cursor.rest.head? = some '\ufeff') :=
    twin.look (near_head '\ufeff')
  rw [twin.column_eq, head]

/-- Passing over blanks and a comment is local. -/
theorem local_pastBlanks (tabs : Bool) : LocalPass (pastBlanks tabs) :=
  (local_pastMark.trans (.skipWhile (isFiller tabs))).trans local_skipComment

/-- On the way to the next token, one line after another is passed over. -/
theorem toNextToken_succ (lexer : Lexer) (fuel : Nat) : lexer.toNextToken (fuel + 1) =
    let cursor := pastBlanks (lexer.inFlow || !lexer.keyAllowed) lexer.cursor
    match cursor.takeBreak? with
    | some (_, cursor) =>
        toNextToken { lexer with cursor, keyAllowed := lexer.keyAllowed || !lexer.inFlow } fuel
    | none => { lexer with cursor } := rfl

/-- On the way to the next token, nothing is read twice. -/
theorem toNextToken_le (lexer : Lexer) (fuel : Nat) :
    (lexer.toNextToken fuel).cursor.rest.length ≤ lexer.cursor.rest.length := by
  induction fuel generalizing lexer with
  | zero => exact le_rfl
  | succ fuel ih =>
      have passed := (local_pastBlanks (lexer.inFlow || !lexer.keyAllowed)).shorter lexer.cursor
      rw [toNextToken_succ]
      dsimp only
      split
      · rename_i broken
        exact (ih _).trans ((takeBreak?_shorter broken).le.trans passed)
      · exact passed

/-- Twins go to the same token, with fuel enough for each. -/
theorem toNextToken_twin {fuel fuelOther : Nat} (twin : Twin parting lexer other)
    (enough : lexer.cursor.rest.length < fuel) (enoughOther : other.cursor.rest.length < fuelOther)
    (before : Before parting.fork (lexer.toNextToken fuel).cursor) :
    Twin parting (lexer.toNextToken fuel) (other.toNextToken fuelOther) := by
  induction fuel generalizing lexer other fuelOther with
  | zero => omega
  | succ fuel ih =>
      obtain ⟨fuelOther, rfl⟩ : ∃ more, fuelOther = more + 1 := ⟨fuelOther - 1, by omega⟩
      have blanks := local_pastBlanks (lexer.inFlow || !lexer.keyAllowed)
      have passed := blanks.shorter lexer.cursor
      have passedOther := blanks.shorter other.cursor
      rw [toNextToken_succ] at before ⊢
      rw [toNextToken_succ]
      rw [twin.inFlow_eq, twin.keyAllowed_eq]
      dsimp only at before ⊢
      split at before
      · rename_i broken
        have near := before.of_le (toNextToken_le _ _)
        have cursors := blanks.twin twin.cursors (near.of_le (takeBreak?_shorter broken).le)
        obtain ⟨next, brokenOther, twinNext⟩ := local_takeBreak?.tracks cursors _ _ broken near
        have less := takeBreak?_shorter broken
        have lessOther := takeBreak?_shorter brokenOther
        rw [brokenOther]
        exact ih ((twin.moveTo twinNext).allowKey _) (by dsimp only [allowKey]; omega)
          (by dsimp only [allowKey]; omega) before
      · rename_i unbroken
        have cursors := blanks.twin twin.cursors before
        rw [cursors.takeBreak?_none unbroken]
        exact (twin.moveTo cursors).allowKey lexer.keyAllowed

/-- Going to the next token is local. -/
theorem local_toNextToken :
    Local fun lexer => some (lexer.toNextToken (lexer.cursor.rest.length + 1)) :=
  .pure (fun lexer => toNextToken_le lexer _) fun twin before =>
    toNextToken_twin twin (Nat.lt_succ_self _) (Nat.lt_succ_self _) before

/-- Closing the blocks that end here is local. -/
theorem local_unroll : Local fun lexer => some (lexer.unroll lexer.cursor.column) :=
  .pure (fun lexer => by rw [unroll_cursor]) fun twin _ => by
    rw [twin.cursors.column_eq]
    exact twin.unroll _

/-- Settling is going to the next token, dropping stale candidates and closing blocks. -/
theorem settle?_eq (lexer : Lexer) : lexer.settle? =
    ((some (lexer.toNextToken (lexer.cursor.rest.length + 1))).bind dropStale?).bind
      fun lexer => some (lexer.unroll lexer.cursor.column) := by
  rw [settle?, Option.map_eq_bind]
  rfl

/-- Settling before a token is local. -/
theorem local_settle? : Local settle? := by
  rw [funext settle?_eq]
  exact (local_toNextToken.bind local_dropStale?).bind local_unroll

/-- Cutting a token is local. -/
theorem local_emit (token : Token) : Local fun lexer => some (lexer.emit token) :=
  .pure (fun _ => le_rfl) fun twin _ => twin.emit token

/-- Allowing a key is local. -/
theorem local_allowKey (allowed : Bool) : Local fun lexer => some (lexer.allowKey allowed) :=
  .pure (fun _ => le_rfl) fun twin _ => twin.allowKey allowed

/-- Going on is local. -/
theorem local_skip (count : Nat) : Local fun lexer => some (lexer.skip count) :=
  .pure (fun lexer => skip_le lexer.cursor count) fun twin before => twin.skip before

/-- This passes over the mark of a token. -/
theorem local_mark (allowed : Bool) (count : Nat) (token : Token) :
    Local fun lexer => some (((lexer.allowKey allowed).skip count).emit token) :=
  .pure (fun lexer => skip_le lexer.cursor count) fun twin before =>
    ((twin.allowKey allowed).skip before).emit token

/-- Leaving all blocks is local. -/
theorem local_leaveBlocks? : Local leaveBlocks? := by
  have blocks : Local fun lexer => some (lexer.unroll (-1)) :=
    .pure (fun lexer => by rw [unroll_cursor]) fun twin _ => twin.unroll _
  exact (blocks.bind local_dropCandidate?).bind (local_allowKey false)

/-- A step that reads a part of a token from the cursor. -/
theorem local_take {A : Type} {take : Cursor → Option (A × Cursor)} {step : A → Lexer → Lexer}
    (reader : LocalReader take) (still : ∀ a lexer, (step a lexer).cursor = lexer.cursor)
    (twin : ∀ {parting lexer other} a, Twin parting lexer other →
      Twin parting (step a lexer) (step a other)) :
    Local fun lexer => (take lexer.cursor).map fun (a, cursor) => step a { lexer with cursor } where
  shorter {lexer next} read := by
    obtain ⟨⟨a, cursor⟩, found, same⟩ := Option.map_eq_some_iff.mp read
    cases same
    rw [still]
    exact reader.shortens _ _ _ found
  twin {parting lexer other next} related read before := by
    obtain ⟨⟨a, cursor⟩, found, same⟩ := Option.map_eq_some_iff.mp read
    cases same
    rw [still] at before
    obtain ⟨cursorOther, foundOther, cursors⟩ := reader.tracks related.cursors _ _ found before
    exact ⟨_, by rw [foundOther]; rfl, twin a (related.moveTo cursors)⟩

/-- Cutting a token that may be a key is local if reading it is. -/
theorem local_keyPart? {take : Cursor → Option (Token × Cursor)} (reader : LocalReader take) :
    Local (keyPart? take) := by
  have part := @local_take Token take (fun token lexer => (lexer.allowKey false).emit token) reader
    (fun _ _ => rfl) fun token twin => (twin.allowKey false).emit token
  simp only [Option.map_eq_bind] at part
  exact local_noteCandidate?.bind part

/-- The token of a scalar in quotes. -/
def quotedToken (single : Bool) (text : List Char) : Token :=
  .scalar (if single then .singleQuoted else .doubleQuoted) (String.ofList text)

/-- Cutting a scalar in quotes is local. -/
theorem local_quoted? (single : Bool) : Local (keyPart? (quoted? single)) := by
  refine local_keyPart? (LocalReader.map ⟨fun cursor => ?_, fun {fork cursor other} twin => ?_⟩
    (quotedToken single))
  · have shorter := skip_le cursor 1
    exact ((quotedLoop single).shortens (by omega) ()).trans shorter
  · have shorter := skip_le cursor 1
    have shorterOther := skip_le other 1
    refine .inTime _ ((quotedLoop single).shortens (by omega) ()) fun near => ?_
    exact (quotedLoop single).tracks (twin.skip near) (by omega) (by omega) ()

/-- Cutting a block scalar is local. -/
theorem local_block? (literal : Bool) : Local (block? literal) := by
  have part (indent : Int) := @local_take (List Char)
    (fun cursor => takeBlock? literal (if 0 ≤ indent then some indent.toNat else none)
      (cursor.skip 1))
    (fun text lexer => (lexer.allowKey true).emit
      (.scalar (if literal then .literal else .folded) (String.ofList text)))
    ((local_takeBlock? _ _).skip 1) (fun _ _ => rfl) fun token twin => (twin.allowKey true).emit _
  simp only [Option.map_eq_bind] at part
  exact local_dropCandidate?.bind (.on Twin.indent_eq part)

/-- A plain scalar may be a key, and a key may begin behind its last line. -/
theorem plain?_eq (lexer : Lexer) : lexer.plain? = lexer.noteCandidate?.bind fun lexer =>
    (plainFrom? lexer.inFlow (lexer.indent + 1).toNat (lexer.cursor.rest.length + 1)
      ([], ⟨[], [], .ofText []⟩) lexer.cursor).map fun (plain, cursor) =>
        ({ lexer with cursor }.allowKey plain.2).emit (.scalar .plain (String.ofList plain.1)) := by
  refine congrArg _ (funext fun lexer => ?_)
  rw [plainFrom?, Option.map_map, Option.map_eq_bind]
  rfl

/-- Cutting a plain scalar is local. -/
theorem local_plain? : Local plain? := by
  have part (flow : Bool) (indent : Int) := @local_take (List Char × Bool) _
    (fun plain lexer => (lexer.allowKey plain.2).emit (.scalar .plain (String.ofList plain.1)))
    ((plainLoop flow (indent + 1).toNat).reads ([], ⟨[], [], .ofText []⟩)) (fun _ _ => rfl)
    fun plain twin => (twin.allowKey _).emit _
  rw [funext plain?_eq]
  exact local_noteCandidate?.bind (.on Twin.inFlow_eq fun flow => .on Twin.indent_eq (part flow))

/-- This opens a flow collection. -/
def enterFlow (lexer : Lexer) : Lexer := { lexer with candidates := none :: lexer.candidates }

/-- Opening a flow collection is local. -/
theorem local_openFlow? (token : Token) : Local (openFlow? token) := by
  have enter : Local fun lexer => some (enterFlow lexer) :=
    .pure (fun _ => le_rfl) fun {parting lexer other} twin _ => by
      rw [enterFlow, enterFlow, twin.candidates_eq]
      exact twin.withCandidates (none :: lexer.candidates) fun candidate there =>
        twin.later (by simpa using there)
  exact local_noteCandidate?.bind (enter.bind (local_mark true 1 token))

/-- This leaves a flow collection, if there is one. -/
def leaveFlow (lexer : Lexer) : Lexer :=
  { lexer with
    candidates := if lexer.inFlow then lexer.candidates.drop 1 else lexer.candidates }

/-- Closing a flow collection is local. -/
theorem local_closeFlow? (token : Token) : Local (closeFlow? token) := by
  have leave : Local fun lexer => some (leaveFlow lexer) :=
    .pure (fun _ => le_rfl) fun {parting lexer other} twin _ => by
      rw [leaveFlow, leaveFlow, twin.inFlow_eq, twin.candidates_eq]
      split
      · rw [← List.map_drop]
        exact twin.withCandidates _ fun candidate there => twin.later (List.mem_of_mem_drop there)
      · exact twin.withCandidates _ fun candidate there => twin.later there
  exact local_dropCandidate?.bind (leave.bind (local_mark false 1 token))

/-- Going on to another entry of a flow collection is local. -/
theorem local_flowEntry? : Local flowEntry? :=
  local_dropCandidate?.bind (local_mark true 1 .flowEntry)

/-- Entering a block is local. -/
theorem local_enterBlock? (token : Token) : Local fun lexer => lexer.enterBlock? token := by
  have stay : Local fun lexer => some lexer := .pure (fun _ => le_rfl) fun twin _ => twin
  have enter : Local fun lexer =>
      some (lexer.openBlock lexer.cursor.column lexer.tokens.length token) :=
    .pure (fun lexer => by rw [openBlock_cursor]) fun twin _ => by
      rw [twin.cursors.column_eq, twin.length_eq]
      exact twin.openBlock _ token twin.length_le
  exact .choose Twin.inFlow_eq stay (.choose Twin.keyAllowed_eq enter .none)

/-- Going on to another entry of a block is local. -/
theorem local_blockEntry? : Local blockEntry? :=
  (local_enterBlock? .blockSequenceStart).bind
    (local_dropCandidate?.bind (local_mark true 1 .blockEntry))

/-- Outside of flow collections, a key may begin behind a mark of a key or a value. -/
theorem local_blockMark (token : Token) :
    Local fun lexer => some (((lexer.allowKey !lexer.inFlow).skip 1).emit token) :=
  .pure (fun lexer => skip_le lexer.cursor 1) fun twin before => by
    rw [twin.inFlow_eq]
    exact ((twin.allowKey _).skip before).emit token

/-- Cutting the mark of a key is local. -/
theorem local_key? : Local key? :=
  (local_enterBlock? .blockMappingStart).bind (local_dropCandidate?.bind (local_blockMark .key))

/-- This makes a candidate a key. -/
def markKey (candidate : Candidate) (lexer : Lexer) : Lexer :=
  (lexer.insert candidate.place .key).openBlock candidate.column candidate.place .blockMappingStart

/-- The mark of a value makes the candidate before it a key. -/
theorem value?_eq (lexer : Lexer) : lexer.value? =
    match lexer.candidates with
    | some candidate :: rest =>
        some ((({ markKey candidate lexer with candidates := none :: rest }.allowKey false).skip
          1).emit .value)
    | _ => (lexer.enterBlock? .blockMappingStart).bind fun lexer =>
        some (((lexer.allowKey !lexer.inFlow).skip 1).emit .value) := rfl

/-- Cutting the mark of a value is local. -/
theorem local_value? : Local value? where
  shorter {lexer next} read := by
    rw [value?_eq] at read
    split at read
    · cases read
      simp only [emit_cursor, skip_cursor, allowKey_cursor, markKey, openBlock_cursor,
        insert_cursor]
      exact skip_le _ _
    · exact ((local_enterBlock? .blockMappingStart).bind (local_blockMark .value)).shorter read
  twin {parting lexer other next} twin read before := by
    rw [value?_eq] at read ⊢
    rw [twin.candidates_eq]
    match written : lexer.candidates with
    | some candidate :: rest =>
        rw [written] at read
        cases read
        have place := twin.later (written ▸ List.mem_cons_self)
        have marked := (twin.insert .key place).openBlock candidate.column .blockMappingStart place
        refine ⟨_, rfl, ?_⟩
        have cleared := marked.withCandidates (none :: rest) fun candidate there =>
          twin.later (written ▸ List.mem_cons_of_mem _ (by simpa using there))
        exact ((cleared.allowKey false).skip before).emit .value
    | [] | none :: _ =>
        rw [written] at read
        exact ((local_enterBlock? .blockMappingStart).bind (local_blockMark .value)).twin twin read
          before

/-- What kind of token begins here can be seen. -/
theorem near_reader? (flow : Bool) : Near (reader? flow) := by
  intro text
  match text with
  | [] => rfl
  | [_] => rfl
  | _ :: _ :: _ => rfl

/-- Cutting a token of the kind that is seen is local. -/
theorem local_reader? (flow : Bool) (text : List Char) : Local (reader? flow text) := by
  unfold reader?
  split
  · exact .pure (fun _ => le_rfl) fun twin _ => twin
  · split
    · exact local_openFlow? _
    · exact local_openFlow? _
    · exact local_closeFlow? _
    · exact local_closeFlow? _
    · exact local_flowEntry?
    · exact local_keyPart? (local_takeName?.map Token.alias)
    · exact local_keyPart? (local_takeName?.map Token.anchor)
    · exact local_keyPart? (local_takeTag? flow)
    · exact local_quoted? true
    · exact local_quoted? false
    · split_ifs
      · exact local_blockEntry?
      · exact local_key?
      · exact local_value?
      · exact local_block? true
      · exact local_block? false
      · exact local_plain?
      · exact .none

/-- This reads the token with which the text begins. -/
theorem local_read : Local fun lexer => reader? lexer.inFlow lexer.cursor.rest lexer := by
  have near : Near fun text => text.take 4 := fun text => by simp [List.take_take]
  have seen : Local fun lexer => reader? lexer.inFlow (lexer.cursor.rest.take 4) lexer :=
    @Local.on (Bool × List Char) (fun lexer => (lexer.inFlow, lexer.cursor.rest.take 4))
      (fun view => reader? view.1 view.2)
      (fun twin => by rw [twin.inFlow_eq, twin.cursors.look near])
      fun view => local_reader? view.1 view.2
  have all (lexer : Lexer) : reader? lexer.inFlow (lexer.cursor.rest.take 4) lexer =
      reader? lexer.inFlow lexer.cursor.rest lexer := by rw [near_reader? lexer.inFlow]
  rw [← funext all]
  exact seen

/-- This reads the directive at the cursor. -/
theorem local_directive : Local fun lexer => (takeDirective? lexer.cursor).map
    fun (token, cursor) => { lexer with cursor }.emit token :=
  @local_take Token takeDirective? (fun token lexer => lexer.emit token) local_takeDirective?
    (fun _ _ => rfl) fun token twin => twin.emit token

/-- The mark at the start of the text, where one of a document is. -/
def documentMark (lexer : Lexer) : Token :=
  if lexer.cursor.rest.head? = some '-' then .documentStart else .documentEnd

/-- Cutting the mark of a document is local. -/
theorem local_documentMark : Local fun lexer =>
    lexer.leaveBlocks?.bind fun left => some ((left.skip 3).emit (documentMark lexer)) :=
  @Local.on Token documentMark
    (fun token lexer => lexer.leaveBlocks?.bind fun left => some ((left.skip 3).emit token))
    (fun twin => by
      rw [documentMark, documentMark]
      rw [twin.cursors.look near_head?])
    fun token => local_leaveBlocks?.bind ((local_skip 3).bind (local_emit token))

/-- Cutting a token is local. -/
theorem local_token? : Local token? := by
  have directive := local_leaveBlocks?.bind local_directive
  simp only [Option.map_eq_bind] at directive
  refine .choose (fun {parting lexer other} twin => ?_) directive
    (.choose (fun twin => twin.cursors.atDocumentMark_eq) local_documentMark local_read)
  have head : other.cursor.rest.head? = lexer.cursor.rest.head? := twin.cursors.look near_head?
  rw [isDirective, isDirective, twin.cursors.column_eq, head]

end Lexer

end HostAudit.Yaml
