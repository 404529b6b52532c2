import HostAudit.Proofs.Locality

/-
This file proves that reading comments and block scalars is local.
-/

namespace HostAudit.Yaml

variable {fork : Fork} {cursor other : Cursor}

def chompingAt? : List Char → Option (Chomping × Nat)
  | '+' :: _ => some (.keep, 1)
  | '-' :: _ => some (.strip, 1)
  | _ => none

/-- The width at the start of a text, with its number of characters. It must not be zero. -/
def widthAt? : List Char → Option (Option Nat × Nat)
  | '0' :: _ => none
  | c :: _ => some (if Integer.isDigit c then (some (c.toNat - '0'.toNat), 1) else (none, 0))
  | [] => some (none, 0)

/-- Chomping is told by one character. -/
theorem near_chompingAt? : Near chompingAt? := by
  intro text
  cases text with
  | nil => rfl
  | cons c rest =>
      rw [List.take_succ_cons]
      unfold chompingAt?
      grind

/-- The width is told by one character. -/
theorem near_widthAt? : Near widthAt? := by
  intro text
  cases text with
  | nil => rfl
  | cons c rest =>
      rw [List.take_succ_cons]
      unfold widthAt?
      grind

theorem takeChomping?_eq (cursor : Cursor) : takeChomping? cursor =
    (chompingAt? cursor.rest).map fun (chomping, count) => (chomping, cursor.skip count) := by
  unfold takeChomping? chompingAt?
  grind

theorem takeWidth?_eq (cursor : Cursor) : takeWidth? cursor =
    (widthAt? cursor.rest).map fun (width, count) => (width, cursor.skip count) := by
  have unmoved : cursor.skip 0 = cursor := rfl
  unfold takeWidth? widthAt?
  grind

theorem local_takeWidth? : LocalReader takeWidth? := by
  rw [funext takeWidth?_eq]
  exact .look near_widthAt?

theorem local_takeChomping? : LocalReader takeChomping? := by
  rw [funext takeChomping?_eq]
  exact .look near_chompingAt?

/-- Where there is no chomping in one text, there is none in the other. -/
theorem takeChomping?_none (twin : Twin fork cursor other) (none : takeChomping? cursor = none) :
    takeChomping? other = .none := by
  rw [takeChomping?_eq, Option.map_eq_none_iff] at none ⊢
  rw [twin.look near_chompingAt?, none]

/-- This reads the chomping behind a width, or takes the usual one. -/
def chompingBehind (width : Option Nat) (cursor : Cursor) : (Option Nat × Chomping) × Cursor :=
  if width.isSome then
    match takeChomping? cursor with
    | some (chomping, cursor) => ((width, chomping), cursor)
    | none => ((width, .clip), cursor)
  else ((none, .clip), cursor)

/-- What follows a width is read in the same way in both texts. -/
theorem local_chompingBehind (width : Option Nat) :
    LocalReader fun cursor => some (chompingBehind width cursor) := by
  cases width with
  | none => exact .some (none, Chomping.clip)
  | some width =>
      have tried (cursor : Cursor) : some (chompingBehind (some width) cursor) =
          (takeChomping? cursor).elim (some ((some width, .clip), cursor))
            fun (chomping, cursor) => some ((some width, chomping), cursor) := by
        simp only [chompingBehind, Option.isSome_some, if_true]
        cases takeChomping? cursor <;> rfl
      rw [funext tried]
      exact local_takeChomping?.orElse takeChomping?_none
        (fun chomping => .some (some width, chomping)) (.some (some width, Chomping.clip))

/-- Marks of a block scalar are a chomping and perhaps a width, or a width and perhaps a
chomping. -/
theorem takeBlockMarks?_eq (cursor : Cursor) : takeBlockMarks? cursor =
    (takeChomping? cursor).elim
      ((takeWidth? cursor).bind fun (width, cursor) => some (chompingBehind width cursor))
      fun (chomping, cursor) =>
        (takeWidth? cursor).map fun (width, cursor) => ((width, chomping), cursor) := by
  rw [takeBlockMarks?]
  cases takeChomping? cursor with
  | some => rfl
  | none =>
      refine congrArg (takeWidth? cursor).bind (funext fun (width, cursor) => ?_)
      cases width with
      | none => rfl
      | some width =>
          simp only [chompingBehind, Option.isSome_some, if_true]
          cases takeChomping? cursor <;> rfl

theorem local_takeBlockMarks? : LocalReader takeBlockMarks? := by
  rw [funext takeBlockMarks?_eq]
  exact local_takeChomping?.orElse takeChomping?_none
    (fun chomping => local_takeWidth?.map (·, chomping))
    (local_takeWidth?.bind local_chompingBehind)

/-- A comment goes to the end of its line. -/
theorem skipComment_eq (cursor : Cursor) : cursor.skipComment =
    if cursor.rest.head? = some '#' then cursor.skipWhile (!isBreak ·) else cursor := by
  unfold Cursor.skipComment
  split
  · rename_i mark
    rw [mark, if_pos List.head?_cons]
  · rename_i other
    refine (if_neg fun mark => ?_).symm
    obtain ⟨rest, written⟩ := List.head?_eq_some_iff.mp mark
    exact other rest written

/-- A comment is passed over in the same way in both texts, if its line ends in time. -/
theorem local_skipComment : LocalPass Cursor.skipComment := by
  rw [funext skipComment_eq]
  exact .choose (fun twin => twin.look (near_head '#')) (.skipWhile (!isBreak ·)) .stay

/-- This passes over blanks and a comment. -/
def pastComment (cursor : Cursor) : Cursor := (cursor.skipWhile isSpace).skipComment

theorem local_pastComment : LocalPass pastComment :=
  (LocalPass.skipWhile isSpace).trans local_skipComment

/-- A line is finished by a break behind its comment, or by the end of the text. -/
theorem finishLine?_eq (cursor : Cursor) : cursor.finishLine? =
    if (pastComment cursor).rest = [] then some (pastComment cursor)
    else (pastComment cursor).takeBreak?.map Prod.snd := by
  unfold Cursor.finishLine?
  dsimp only
  split
  · rename_i ended
    exact (if_pos ended).symm
  · rename_i more
    exact (if_neg more).symm

/-- Whether a text is at its end is seen from its first character. -/
theorem near_ended : Near fun text => text = [] := by
  intro text
  cases text <;> simp

/-- The rest of a line is passed over in the same way in both texts. -/
theorem local_finishLine? {A : Type} (a : A) :
    LocalReader fun cursor => cursor.finishLine?.map fun cursor => (a, cursor) := by
  have last : LocalReader fun cursor => if cursor.rest = [] then some (a, cursor)
      else cursor.takeBreak?.map fun broken => (a, broken.2) :=
    .choose near_ended (.some a) (local_takeBreak?.map fun _ => a)
  have finished (cursor : Cursor) : (cursor.finishLine?.map fun cursor => (a, cursor)) =
      if (pastComment cursor).rest = [] then some (a, pastComment cursor)
      else (pastComment cursor).takeBreak?.map fun broken => (a, broken.2) := by
    rw [finishLine?_eq]
    split
    · rfl
    · rw [Option.map_map]
      rfl
  rw [funext finished]
  exact last.behind local_pastComment

/-- As many characters are kept in a text as in another that begins like it. -/
theorem le_length_takeWhile {keep : Char → Bool} {text again : List Char} {count : Nat}
    (same : again.take count = text.take count) (long : count ≤ (text.takeWhile keep).length) :
    count ≤ (again.takeWhile keep).length := by
  induction count generalizing text again with
  | zero => omega
  | succ count ih =>
      cases text with
      | nil => simp at long
      | cons c rest =>
          cases again with
          | nil => simp at same
          | cons d more =>
              simp only [List.take_succ_cons, List.cons.injEq] at same
              obtain ⟨rfl, same⟩ := same
              rw [List.takeWhile_cons] at long ⊢
              split at long
              · rename_i kept
                rw [if_pos kept]
                simp only [List.length_cons, Nat.add_le_add_iff_right] at long ⊢
                exact ih same long
              · simp at long

/-- The number of spaces of an indentation, at most up to a column. -/
def indentation (indent : Option Nat) (cursor : Cursor) : Nat :=
  let spaces := (cursor.takeWhile (· == ' ')).1.length
  match indent with
  | some indent => min spaces (indent - cursor.column)
  | none => spaces

/-- The indentation is the same in both texts as far as it is looked at. -/
theorem Twin.indentation_eq {indent : Option Nat} (twin : Twin fork cursor other)
    (before : Before fork (cursor.skip (indentation indent cursor))) :
    indentation indent other = indentation indent cursor := by
  have all (near : Before fork (cursor.skipWhile (· == ' '))) :
      (other.takeWhile (· == ' ')).1 = (cursor.takeWhile (· == ' ')).1 := twin.taken_eq near
  cases indent with
  | none =>
      simp only [indentation] at before ⊢
      rw [all before]
  | some indent =>
      simp only [indentation] at before ⊢
      rw [twin.column_eq]
      by_cases long : (cursor.takeWhile (· == ' ')).1.length ≤ indent - cursor.column
      · rw [min_eq_left long] at before
        rw [all before]
      · have wide : indent - cursor.column ≤ (cursor.takeWhile (· == ' ')).1.length := by omega
        rw [min_eq_right wide] at before
        have wideOther : indent - cursor.column ≤ (other.takeWhile (· == ' ')).1.length :=
          le_length_takeWhile (twin.take_eq before) wide
        rw [min_eq_right wide, min_eq_right wideOther]

/-- Indentation is passed over in the same way in both texts. -/
theorem local_indentation (indent : Option Nat) :
    LocalPass fun cursor => cursor.skip (indentation indent cursor) where
  shorter cursor := skip_le cursor _
  twin twin before := by
    rw [twin.indentation_eq before]
    exact twin.skip before

/-- A tab stands where a space of an indentation is expected. -/
def tabInIndentation (indent : Option Nat) (cursor : Cursor) : Bool :=
  (match indent with
    | some indent => decide (cursor.column < indent)
    | none => true) && cursor.rest.head? == some '\t'

/-- The lines before the text of a block scalar are read one after another. -/
theorem takeMargin?_succ (indent : Option Nat) (fuel : Nat) (breaks : List Char) (widest : Nat)
    (cursor : Cursor) :
    takeMargin? indent (fuel + 1) ⟨breaks, widest, cursor⟩ =
      let cursor := cursor.skip (indentation indent cursor)
      if tabInIndentation indent cursor then none
      else match cursor.takeBreak? with
        | some (read, next) =>
            takeMargin? indent fuel ⟨breaks ++ [read], max widest cursor.column, next⟩
        | none => some ⟨breaks, max widest cursor.column, cursor⟩ := rfl

/-- This reads indentation and empty lines behind those of a margin, whose own cursor says
nothing. -/
def marginFrom? (indent : Option Nat) (fuel : Nat) (margin : Margin) (cursor : Cursor) :
    Option (Margin × Cursor) :=
  (takeMargin? indent fuel { margin with cursor }).map fun after =>
    ({ after with cursor := margin.cursor }, after.cursor)

/-- A turn of reading a margin, behind the indentation, which ends at a column. -/
def marginTurn? (indent : Option Nat) (margin : Margin) (column : Nat) (cursor : Cursor) :
    Option (Turn Margin Margin × Cursor) :=
  if tabInIndentation indent cursor then none
  else cursor.takeBreak?.elim
    (some (.last { margin with widest := max margin.widest column }, cursor))
    fun (read, cursor) =>
      some (.further ⟨margin.breaks ++ [read], max margin.widest column, margin.cursor⟩ id, cursor)

/-- One such line is read in the same way in both texts. -/
theorem local_marginTurn? (indent : Option Nat) (margin : Margin) (column : Nat) :
    LocalReader (marginTurn? indent margin column) := by
  refine .chooseAt (fun {fork cursor other} twin => ?_) .none
    (local_takeBreak?.orElse Twin.takeBreak?_none (fun read => ?_) (.some _))
  · have head : other.rest.head? = cursor.rest.head? := twin.look near_head?
    simp only [tabInIndentation, head, twin.column_eq]
  · exact .some (Turn.further
      (Margin.mk (margin.breaks ++ [read]) (max margin.widest column) margin.cursor) id)

/-- A margin is read line by line. -/
theorem marginLoop (indent : Option Nat) :
    LocalLoop (fun margin cursor => marginTurn? indent margin
        (cursor.skip (indentation indent cursor)).column (cursor.skip (indentation indent cursor)))
      (marginFrom? indent) where
  reader margin := .behind (.on Twin.column_eq (local_marginTurn? indent margin))
    (local_indentation indent)
  moves {margin next finish cursor after} read := by
    have shorter := skip_le cursor (indentation indent cursor)
    rw [marginTurn?] at read
    split at read
    · cases read
    · cases broken : (cursor.skip (indentation indent cursor)).takeBreak? with
      | none =>
          rw [broken] at read
          cases read
      | some taken =>
          rw [broken] at read
          cases read
          exact (takeBreak?_shorter broken).trans_le shorter
  succ {fuel} margin cursor _ := by
    rw [marginFrom?, takeMargin?_succ, marginTurn?]
    dsimp only
    split
    · rfl
    · cases (cursor.skip (indentation indent cursor)).takeBreak? with
      | none => rfl
      | some taken =>
          rw [Option.elim_some, Option.bind_some, Turn.follow_further]
          rfl

/-- This reads a line without its break, and then the break, if there is one. -/
def takeLine (cursor : Cursor) : (List Char × List Char) × Cursor :=
  let (line, cursor) := cursor.takeWhile (!isBreak ·)
  match cursor.takeBreak? with
  | some (read, cursor) => ((line, [read]), cursor)
  | none => ((line, []), cursor)

/-- A line that is not empty shortens the text. -/
theorem takeLine_shorter (written : cursor.rest ≠ []) :
    (takeLine cursor).2.rest.length < cursor.rest.length := by
  have shorter := skip_le cursor (cursor.rest.takeWhile (!isBreak ·)).length
  rw [takeLine]
  dsimp only [Cursor.takeWhile]
  split
  · rename_i broken
    exact (takeBreak?_shorter broken).trans_le shorter
  · rename_i unbroken
    obtain ⟨c, rest, written⟩ := List.exists_cons_of_ne_nil written
    by_cases solid : isBreak c
    · have none : cursor.rest.takeWhile (!isBreak ·) = [] := by simp [written, solid]
      rw [none, takeBreak?_eq] at unbroken
      have unread : breakAt? (c :: rest) = .none := by
        simpa [Cursor.skip, written] using unbroken
      unfold breakAt? at unread
      grind
    · refine skip_lt ?_ (written ▸ List.cons_ne_nil c rest)
      simp [written, solid]

/-- One line of a block scalar is read in the same way in both texts. -/
theorem local_takeLine : LocalReader fun cursor => some (takeLine cursor) := by
  have lines (cursor : Cursor) : some (takeLine cursor) =
      (some (cursor.takeWhile (!isBreak ·))).bind fun taken =>
        taken.2.takeBreak?.elim (some ((taken.1, []), taken.2))
          fun broken => some ((taken.1, [broken.1]), broken.2) := by
    simp only [takeLine, Option.bind_some]
    cases (cursor.takeWhile (!isBreak ·)).2.takeBreak? <;> rfl
  rw [funext lines]
  refine (local_takeWhile _).bind fun line => ?_
  dsimp only
  exact local_takeBreak?.orElse Twin.takeBreak?_none (fun read => .some (line, [read]))
    (.some (line, []))

/-- What joins a line of a block to the lines before it, apart from empty lines. -/
def Block.joint (literal : Bool) (block : Block) (blank : Bool) : List Char :=
  if !literal && block.lastBreak == ['\n'] && !block.blankLine && !blank then
    if block.empties.isEmpty then [' '] else []
  else block.lastBreak

/-- The lines of a block scalar are read one after another, with the empty lines behind each. -/
theorem takeLines?_succ (literal : Bool) (indent fuel : Nat) (block : Block) :
    takeLines? literal indent (fuel + 1) block =
      match block.cursor.rest with
      | [] => some block
      | c :: _ =>
          if block.cursor.column ≠ indent then some block
          else
            let taken := takeLine block.cursor
            (takeMargin? (some indent) (taken.2.rest.length + 1) ⟨[], 0, taken.2⟩).bind
              fun margin => takeLines? literal indent fuel
                ⟨block.text ++ block.joint literal (isSpace c) ++ block.empties ++ taken.1.1,
                  taken.1.2, margin.breaks, isSpace c, margin.cursor⟩ := by
  rw [takeLines?]
  cases block.cursor.rest with
  | nil => rfl
  | cons c rest =>
      dsimp only [takeLine]
      cases (block.cursor.takeWhile (!isBreak ·)).2.takeBreak? <;> rfl

/-- This reads the line breaks and spaces before the next line of a block. -/
def blockMargin? (indent : Option Nat) (cursor : Cursor) : Option (Margin × Cursor) :=
  marginFrom? indent (cursor.rest.length + 1) ⟨[], 0, .ofText []⟩ cursor

/-- The empty lines before a block scalar are read in the same way in both texts. -/
theorem local_blockMargin? (indent : Option Nat) : LocalReader (blockMargin? indent) :=
  (marginLoop indent).reads _

/-- This reads lines behind those of a block, whose own cursor says nothing. -/
def linesFrom? (literal : Bool) (indent fuel : Nat) (block : Block) (cursor : Cursor) :
    Option (Block × Cursor) :=
  (takeLines? literal indent fuel { block with cursor }).map fun after =>
    ({ after with cursor := block.cursor }, after.cursor)

/-- A turn of reading the lines of a block, at the first character of one. -/
def linesTurn? (literal : Bool) (indent : Nat) (block : Block) :
    Option Char → Cursor → Option (Turn Block Block × Cursor)
  | none, cursor => some (.last block, cursor)
  | some c, cursor =>
      if cursor.column ≠ indent then some (.last block, cursor)
      else (some (takeLine cursor)).bind fun (line, cursor) =>
        (blockMargin? (some indent) cursor).bind fun (margin, cursor) =>
          some (.further ⟨block.text ++ block.joint literal (isSpace c) ++ block.empties ++ line.1,
            line.2, margin.breaks, isSpace c, block.cursor⟩ id, cursor)

/-- One line of a block scalar and the empty lines behind it are read in the same way in both
texts. -/
theorem local_linesTurn? (literal : Bool) (indent : Nat) (block : Block) (head? : Option Char) :
    LocalReader (linesTurn? literal indent block head?) := by
  cases head? with
  | none => exact .some _
  | some c =>
      refine .chooseAt (fun twin => ?_) (.some _)
        (local_takeLine.bind fun line => (local_blockMargin? (some indent)).bind fun margin => ?_)
      · rw [twin.column_eq]
      · exact .some (Turn.further (Block.mk
          (block.text ++ block.joint literal (isSpace c) ++ block.empties ++ line.1) line.2
          margin.breaks (isSpace c) block.cursor) id)

/-- The lines of a block are read one after another. -/
theorem linesLoop (literal : Bool) (indent : Nat) :
    LocalLoop (fun block cursor => linesTurn? literal indent block cursor.rest.head? cursor)
      (linesFrom? literal indent) where
  reader block := .on (fun twin => twin.look near_head?) (local_linesTurn? literal indent block)
  moves {block next finish cursor after} read := by
    cases written : cursor.rest with
    | nil =>
        rw [written] at read
        cases read
    | cons c rest =>
        rw [← written]
        rw [written, List.head?_cons, linesTurn?] at read
        split at read
        · cases read
        · rw [Option.bind_some] at read
          obtain ⟨⟨margin, _⟩, passed, same⟩ := Option.bind_eq_some_iff.mp read
          cases same
          exact ((local_blockMargin? _).shortens _ _ _ passed).trans_lt
            (takeLine_shorter (written ▸ List.cons_ne_nil c rest))
  succ {fuel} block cursor _ := by
    rw [linesFrom?, takeLines?_succ]
    dsimp only
    cases cursor.rest with
    | nil => rfl
    | cons c rest =>
        rw [List.head?_cons, linesTurn?]
        dsimp only
        split
        · rfl
        · simp only [Option.bind_some, blockMargin?, marginFrom?]
          cases takeMargin? (some indent) ((takeLine cursor).2.rest.length + 1)
              ⟨[], 0, (takeLine cursor).2⟩ with
          | none => rfl
          | some margin =>
              rw [Option.map_some, Option.bind_some, Option.bind_some, Option.bind_some,
                Turn.follow_further]
              rfl

/-- This reads the marks of a block and the rest of its first line. -/
def blockHead? (cursor : Cursor) : Option ((Option Nat × Chomping) × Cursor) :=
  (takeBlockMarks? cursor).bind fun (marks, cursor) =>
    cursor.finishLine?.map fun cursor => (marks, cursor)

/-- What stands on the first line of a block scalar is read in the same way in both texts. -/
theorem local_blockHead? : LocalReader blockHead? :=
  local_takeBlockMarks?.bind local_finishLine?

/-- The column of the lines of a block: the given one, or else that of its first line. -/
def blockIndent (given parent : Option Nat) (widest : Nat) : Nat :=
  given.getD (max 1 (max widest (match parent with
    | some parent => parent + 1
    | none => 0)))

/-- The line breaks at the end of a block that belong to its text. -/
def Chomping.ending (chomping : Chomping) (block : Block) : List Char :=
  match chomping with
  | .strip => []
  | .clip => block.lastBreak
  | .keep => block.lastBreak ++ block.empties

/-- This reads the text of a block, behind the line breaks before it. -/
def blockText? (literal : Bool) (chomping : Chomping) (indent : Nat) (breaks : List Char)
    (cursor : Cursor) : Option (List Char × Cursor) :=
  (linesFrom? literal indent (cursor.rest.length + 1) ⟨[], [], breaks, false, .ofText []⟩
    cursor).map fun (block, cursor) => (block.text ++ chomping.ending block, cursor)

/-- The lines of a block scalar are read in the same way in both texts. -/
theorem local_blockText? (literal : Bool) (chomping : Chomping) (indent : Nat)
    (breaks : List Char) : LocalReader (blockText? literal chomping indent breaks) :=
  ((linesLoop literal indent).reads _).map fun block => block.text ++ chomping.ending block

/-- A block scalar has its marks, the empty lines that may set its indentation, and its text. -/
theorem takeBlock?_eq (literal : Bool) (parent : Option Nat) (cursor : Cursor) :
    takeBlock? literal parent cursor =
      (blockHead? cursor).bind fun ((width, chomping), cursor) =>
        let given := width.map fun width => parent.getD 0 + width
        (blockMargin? given cursor).bind fun (margin, cursor) =>
          blockText? literal chomping (blockIndent given parent margin.widest) margin.breaks
            cursor := by
  unfold takeBlock? blockHead?
  rw [Option.bind_assoc]
  refine congrArg (takeBlockMarks? cursor).bind (funext fun ((width, chomping), cursor) => ?_)
  dsimp only
  cases cursor.finishLine? with
  | none => rfl
  | some cursor =>
      simp only [Option.bind_some, blockMargin?, blockText?, marginFrom?, linesFrom?,
        Option.bind_eq_bind, Option.map_eq_bind, Option.bind_assoc]
      rfl

/-- A block scalar is read in the same way in both texts. -/
theorem local_takeBlock? (literal : Bool) (parent : Option Nat) :
    LocalReader (takeBlock? literal parent) := by
  rw [funext (takeBlock?_eq literal parent)]
  exact local_blockHead?.bind fun _ => (local_blockMargin? _).bind fun _ => local_blockText? _ _ _ _

end HostAudit.Yaml
