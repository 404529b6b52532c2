import HostAudit.Proofs.Requoting
import HostAudit.Proofs.TokenRuns

/-
This file proves that putting ids between quotes changes nothing but the style of their tokens: a
lexer on the text as it is and one on the text with its numbers between quotes go from token to
token together.
-/

namespace HostAudit.Yaml

namespace Lexer

variable {lexer stand : Lexer} {fuel : Nat} {tokens : List Token}

/-- The lexer at the token behind the one at which it stands. -/
def next? (stand : Lexer) : Option Lexer := stand.token?.bind settle?

/-- The number is a plain scalar of its own, with which the text goes on. -/
def readsNumber (stand : Lexer) (number : List Char) : Bool :=
  (stand.token?.bind fun after => after.tokens.getLast?) ==
    some (.scalar .plain (String.ofList number))

/-- In a flow collection, the value at which the lexer stands is followed by a mark that ends it. -/
def endsValue (stand : Lexer) : Bool := !stand.inFlow || stand.next?.any (·.endsFlowValue)

/-- The lexer stands at a key `id`, where a key may begin, and the value of the key is the number, a
plain scalar of its own. -/
def hasNumericId (gap number rest : List Char) (stand : Lexer) : Bool :=
  stand.cursor.rest == 'i' :: 'd' :: ':' :: gap ++ (number ++ rest) && stand.keyAllowed &&
    stand.candidates.all (·.isNone) && !gap.isEmpty &&
    (stand.next?.bind next?).any fun value => value.readsNumber number && value.endsValue

/-- The lexer comes from the token at which it stands to another. -/
inductive Reaches : Lexer → Lexer → Prop where
  | here (stand : Lexer) : Reaches stand stand
  | further {stand next last : Lexer} (step : stand.next? = some next) (rest : Reaches next last) :
      Reaches stand last

/-- Going on to the next token is local. -/
theorem local_next? : Local next? := local_token?.bind local_settle?

namespace Reaches

variable {first last : Lexer}

/-- Nothing is read twice on the way to another token. -/
theorem shorter (reaches : Reaches first last) :
    last.cursor.rest.length ≤ first.cursor.rest.length := by
  induction reaches with
  | here => exact le_rfl
  | further step _ ih => exact ih.trans (local_next?.shorter step)

/-- On the way from a token to another, blocks are closed as they have to be. -/
theorem settled (reaches : Reaches first last) (start : first.Settled first.cursor.column) :
    last.Settled last.cursor.column := by
  induction reaches with
  | here => exact start
  | further step _ ih =>
      obtain ⟨_, -, settled⟩ := Option.bind_eq_some_iff.mp step
      exact ih (settle?_settled settled)

/-- A way to another token leads over the next one. -/
theorem next {step : Lexer} (reaches : Reaches first last) (next : first.next? = some step)
    (less : last.cursor.rest.length < first.cursor.rest.length) : Reaches step last := by
  cases reaches with
  | here => omega
  | further other rest =>
      rw [next] at other
      cases other
      exact rest

/-- What lies further on in the text is reached later. -/
theorem after {middle : Lexer} (reaches : Reaches first middle) (far : Reaches first last)
    (less : last.cursor.rest.length < middle.cursor.rest.length) : Reaches middle last := by
  induction reaches with
  | here => exact far
  | further step rest ih =>
      have shorter := rest.shorter
      exact ih (far.next step (by have := local_next?.shorter step; omega)) less

end Reaches

/-- What is cut into tokens from a token on goes on at the next one. -/
theorem cut?_next {next : Lexer} (more : stand.cursor.rest ≠ []) (step : stand.next? = some next)
    (cut : stand.cut? fuel = some tokens) : ∃ fuel, next.cut? fuel = some tokens := by
  rw [cut?, if_neg (by simpa using more)] at cut
  obtain ⟨after, read, runs⟩ := Option.bind_eq_some_iff.mp cut
  rw [next?, read, Option.bind_some] at step
  obtain ⟨_, fuel, settled, cut⟩ := run?_settles runs
  rw [step] at settled
  cases settled
  exact ⟨fuel, cut⟩

/-- Two lexers that stand at the same place cut the same tokens up to a place before the parting. -/
theorem Reaches.twin {parting : Parting} {first last other : Lexer} {fuelOther : Nat}
    {tokensOther : List Token} (reaches : Reaches first last)
    (before : Before parting.fork last.cursor) (more : last.cursor.rest ≠ [])
    (twin : Twin parting first other) (cut : first.cut? fuel = some tokens)
    (cutOther : other.cut? fuelOther = some tokensOther) :
    ∃ lastOther fuel fuelOther, Twin parting last lastOther ∧ last.cut? fuel = some tokens ∧
      lastOther.cut? fuelOther = some tokensOther := by
  induction reaches generalizing other fuel fuelOther with
  | here => exact ⟨other, fuel, fuelOther, twin, cut, cutOther⟩
  | @further stand next last step rest ih =>
      have there : stand.cursor.rest ≠ [] := by
        have longer := (Reaches.further step rest).shorter
        have positive := List.length_pos_iff.mpr more
        exact List.length_pos_iff.mp (by omega)
      have thereOther : other.cursor.rest ≠ [] := by
        obtain ⟨c, text, written⟩ := List.exists_cons_of_ne_nil there
        obtain ⟨textOther, writtenOther⟩ := twin.cursors.rest_cons written
        simp [writtenOther]
      obtain ⟨nextOther, stepOther, twinNext⟩ :=
        local_next?.twin twin step (before.of_le rest.shorter)
      obtain ⟨_, cutNext⟩ := cut?_next there step cut
      obtain ⟨_, cutNextOther⟩ := cut?_next thereOther stepOther cutOther
      exact ih before more twinNext cutNext cutNextOther

/-- From a key with a number behind it, the lexer comes to the colon and then to the number. -/
theorem next?_id {gap : List Char} {c : Char} {rest : List Char}
    (written : stand.cursor.rest = 'i' :: 'd' :: ':' :: gap ++ c :: rest) (apart : gap ≠ [])
    (blank : ∀ d ∈ gap, isSpace d) (solid : (isSpace c || isBreak c) = false) (content : c ≠ '#')
    (idle : stand.Idle) (allowed : stand.keyAllowed = true)
    (settled : stand.Settled stand.cursor.column) :
    stand.next? = some (behindKey stand) ∧
      (behindKey stand).next? = some (atValue stand gap.length) := by
  obtain ⟨g, gap, rfl⟩ := List.exists_cons_of_ne_nil apart
  have first := blank g List.mem_cons_self
  refine ⟨?_, ?_⟩
  · rw [next?, token?_id written first idle allowed, Option.bind_some,
      settle?_behindKey written idle settled]
  · rw [next?, token?_behindKey written first, Option.bind_some,
      settle?_atValue written blank solid content idle settled]

/-- The lexer behind a number at which it stood, in the given style. -/
def behindNumber (stand : Lexer) (style : Style) (number : List Char) (cursor : Cursor) : Lexer :=
  (({ stand with cursor } : Lexer).allowKey false).emit (.scalar style (String.ofList number))

/-- The lexer behind a number at which it stood between quotes, as if the quotes took no room in the
line. -/
def behindQuotes (stand : Lexer) (number rest : List Char) : Lexer :=
  stand.behindNumber .doubleQuoted number ⟨rest, stand.cursor.index + (number.length + 2),
    stand.cursor.line, stand.cursor.column + number.length⟩

/-- Where no place waits to become a key, none is moved. -/
theorem Idle.unmoved (idle : lexer.Idle) (shift : Nat) :
    lexer.candidates.map (Option.map (Candidate.moved shift)) = lexer.candidates := by
  refine (List.map_congr_left fun entry there => ?_).trans (List.map_id _)
  rw [idle entry there]
  rfl

/-- Where no place waits to become a key in one run, none does in the other. -/
theorem Twin.candidates_of_idle {parting : Parting} {other : Lexer}
    (twin : Twin parting lexer other) (idle : lexer.Idle) : other.candidates = lexer.candidates :=
  twin.candidates_eq.trans (idle.unmoved _)

/-- Lexers that wait for no key are twins where their texts go apart later. -/
theorem Twin.of_idle {fork : Fork} {other : Lexer}
    (cursors : Yaml.Twin fork lexer.cursor other.cursor)
    (paired : other.tokens.length = lexer.tokens.length) (indent_eq : other.indent = lexer.indent)
    (outer_eq : other.outer = lexer.outer) (keyAllowed_eq : other.keyAllowed = lexer.keyAllowed)
    (candidates_eq : other.candidates = lexer.candidates) (idle : lexer.Idle) :
    Twin ⟨fork, lexer.tokens, other.tokens, paired⟩ lexer other := by
  obtain ⟨cursor, tokens, indent, outer, keyAllowed, candidates⟩ := lexer
  obtain ⟨cursorOther, tokensOther, indentOther, outerOther, keyOther, candidatesOther⟩ := other
  cases indent_eq
  cases outer_eq
  cases keyAllowed_eq
  cases candidates_eq
  have unmoved : candidates.map (Option.map (Candidate.moved fork.shift)) = candidates :=
    idle.unmoved fork.shift
  have twin := @Twin.intro ⟨fork, tokens, tokensOther, paired⟩ _ _ cursors [] indent outer
    keyAllowed candidates fun candidate there => by cases idle _ there
  rw [List.append_nil, List.append_nil, unmoved] at twin
  exact twin

/-- What `hasNumericId` tells of a lexer, and what the gap and the number consist of. -/
structure AtId (stand : Lexer) (gap number rest : List Char) : Prop where
  text : stand.cursor.rest = 'i' :: 'd' :: ':' :: gap ++ (number ++ rest)
  keyAllowed : stand.keyAllowed = true
  idle : stand.Idle
  apart : gap ≠ []
  blank : ∀ c ∈ gap, isSpace c
  there : number ≠ []
  numerals : ∀ c ∈ number, NumericId.isNumeral c
  value : ∀ value, stand.next?.bind next? = some value →
    value.readsNumber number = true ∧ value.endsValue = true

/-- What the check for a numeric id tells is what the proof needs of the key. -/
theorem atId_of_hasNumericId {gap number rest : List Char} (blank : ∀ c ∈ gap, isSpace c)
    (there : number ≠ []) (numerals : ∀ c ∈ number, NumericId.isNumeral c)
    (has : stand.hasNumericId gap number rest = true) : stand.AtId gap number rest := by
  simp only [hasNumericId, Bool.and_eq_true, beq_iff_eq, List.all_eq_true] at has
  obtain ⟨⟨⟨⟨text, keyAllowed⟩, idle⟩, apart⟩, value⟩ := has
  refine ⟨text, keyAllowed, ?idle, by simpa using apart, blank, there, numerals, ?value⟩
  case idle => exact fun entry member => Option.isNone_iff_eq_none.mp (idle entry member)
  case value =>
    intro last steps
    simpa [steps] using value

/-- What is left of a text and of the text with its numbers between quotes, from a number on, and
how far the key before it reaches back. Each number has a lexer that stands at its key. -/
inductive Numbered (There : Lexer → Prop) : List Char → List Char → Nat → Prop where
  | last : Numbered There [] [] 0
  | id {gap number lead first second : List Char} {margin : Nat} {stand : Lexer}
      (there : There stand) (key : stand.AtId gap number (lead ++ first))
      (ends : endsLine (lead ++ first)) (endsQuoted : endsLine (lead ++ second))
      (within : margin ≤ lead.length) (rest : Numbered There first second margin) :
      Numbered There (number ++ (lead ++ first)) ('"' :: number ++ '"' :: (lead ++ second))
        (3 + gap.length)

/-- Behind every key there is room to look ahead, or the texts are at their ends. -/
theorem Numbered.sees {There : Lexer → Prop} {first second : List Char} {margin : Nat}
    (numbered : Numbered There first second margin) : 4 ≤ margin ∨ first = [] ∧ second = [] := by
  cases numbered with
  | last => exact .inr ⟨rfl, rfl⟩
  | id _ key =>
      have positive := List.length_pos_iff.mpr key.apart
      exact .inl (by omega)

/-- A cursor is before the parting as long as it has not come to a key. -/
theorem Numbered.before {There : Lexer → Prop} {first second : List Char} {margin shift : Nat}
    {cursor : Cursor} (numbered : Numbered There first second margin)
    (far : ∀ stand, There stand → stand.cursor.rest.length ≤ margin + first.length →
      stand.cursor.rest.length ≤ cursor.rest.length) :
    Before ⟨first, second, margin, shift, numbered.sees⟩ cursor := by
  cases numbered with
  | last => exact Nat.zero_le _
  | id there key =>
      have size := congrArg List.length key.text
      simp only [List.length_cons, List.length_append] at size
      have longer := far _ there (by simp only [List.length_append]; omega)
      simp only [Before, List.length_append]
      omega

section Sides

variable {gap number rest : List Char}

/-- At the value of a key, the text behind the gap is left. -/
theorem atValue_rest {text : List Char}
    (written : stand.cursor.rest = 'i' :: 'd' :: ':' :: gap ++ text) :
    (atValue stand gap.length).cursor.rest = text := by
  have behind : (stand.cursor.skip 3).rest = gap ++ text := by simp [Cursor.skip, written]
  have moved : (stand.cursor.skip 3).skip gap.length = stand.cursor.skip (3 + gap.length) :=
    skip_skip _ _ _
  change (stand.cursor.skip (3 + gap.length)).rest = text
  rw [← moved]
  simp only [Cursor.skip] at behind ⊢
  rw [behind, List.drop_left]

/-- The value of a key is never at the start of a line. -/
theorem atValue_inside (stand : Lexer) (blanks : Nat) :
    (atValue stand blanks).cursor.column ≠ 0 := by
  simp [atValue, Cursor.skip]

/-- The two tokens before the number. -/
theorem AtId.next? (key : stand.AtId gap number rest)
    (settled : stand.Settled stand.cursor.column) :
    stand.next? = some (behindKey stand) ∧
      (behindKey stand).next? = some (atValue stand gap.length) := by
  obtain ⟨c, digits, rfl⟩ := List.exists_cons_of_ne_nil key.there
  have numeral := key.numerals c List.mem_cons_self
  exact next?_id key.text key.apart key.blank
    (by rw [isSpace_numeral numeral, isBreak_numeral numeral]; rfl)
    (numeral_ne numeral (by decide)) key.idle key.keyAllowed settled

/-- The plain number: the lexer goes on behind the gap that follows it. -/
theorem cut?_plainNumber (key : stand.AtId gap number rest) (ends : endsLine rest)
    (settled : stand.Settled stand.cursor.column) (cut : stand.cut? fuel = some tokens) :
    ∃ next after fuel, takeGap? (some ((atValue stand gap.length).indent + 1).toNat)
        (rest.length + 1) ⟨[], [], (atValue stand gap.length).cursor.skip number.length⟩ =
          some next ∧
      after = (behindNumber (atValue stand gap.length) .plain number next.cursor).allowKey
        (!next.breaks.isEmpty) ∧
      stand.next?.bind next? = some (atValue stand gap.length) ∧
      (atValue stand gap.length).next? = after.settle? ∧ after.run? fuel = some tokens := by
  have written := key.text
  obtain ⟨first, second⟩ := key.next? settled
  have steps : stand.next?.bind next? = some (atValue stand gap.length) := by
    rw [first, Option.bind_some, second]
  have colon : (behindKey stand).cursor.rest = ':' :: gap ++ (number ++ rest) := by
    simp [behindKey, Cursor.skip, written]
  have value := atValue_rest written
  obtain ⟨fuel, cut⟩ := cut?_next (by simp [written]) first cut
  obtain ⟨fuel, cut⟩ := cut?_next (by simp [colon]) second cut
  rw [cut?, if_neg (by simp [value, key.there])] at cut
  obtain ⟨after, read, runs⟩ := Option.bind_eq_some_iff.mp cut
  have own : after.tokens.getLast? = some (.scalar .plain (String.ofList number)) := by
    simpa [readsNumber, read] using (key.value _ steps).1
  obtain ⟨next, passed, same⟩ :=
    token?_plainNumber key.there key.numerals value (atValue_inside _ _) ends rfl read own
  exact ⟨next, after, fuel, passed, same, steps, by rw [next?, read, Option.bind_some], runs⟩

/-- The number between quotes: the lexer goes on behind them, as if they took no room. -/
theorem cut?_quoted {value : Lexer} {column : Nat}
    (numerals : ∀ c ∈ number, NumericId.isNumeral c)
    (written : value.cursor.rest = '"' :: number ++ '"' :: rest) (ends : endsLine rest)
    (key : value.keyAllowed = false) (idle : value.Idle) (settled : value.Settled column)
    (within : column ≤ value.cursor.column) (inside : value.cursor.column ≠ 0)
    (cut : value.cut? fuel = some tokens) :
    (value.behindQuotes number rest).run? fuel = some tokens := by
  have behind : (value.cursor.skip (number.length + 2)).rest = rest := by
    simp [Cursor.skip, written]
  have insideOther : value.cursor.column + number.length ≠ 0 := by omega
  rw [cut?, if_neg (by simp [written]), token?_quotedNumber numerals written inside key,
    Option.bind_some] at cut
  rw [← cut]
  exact @run?_column
    (behindNumber value .doubleQuoted number (value.cursor.skip (number.length + 2))) fuel column
    ⟨rest, value.cursor.index + (number.length + 2), value.cursor.line,
      value.cursor.column + number.length⟩ rfl idle settled
    (within.trans (Nat.le_add_right _ _)) (within.trans (Nat.le_add_right _ _))
    (fun zero => inside (Nat.eq_zero_of_add_eq_zero_right zero)) insideOther
    (by rw [← behind] at ends; exact ends) behind.symm rfl rfl

/-- Behind a number between quotes, a run goes on as if the quotes took no room. -/
theorem cut?_quotedNumber (apart : gap ≠ []) (blank : ∀ c ∈ gap, isSpace c)
    (numerals : ∀ c ∈ number, NumericId.isNumeral c) (ends : endsLine rest)
    (written : stand.cursor.rest = 'i' :: 'd' :: ':' :: gap ++ ('"' :: number ++ '"' :: rest))
    (idle : stand.Idle) (allowed : stand.keyAllowed = true)
    (settled : stand.Settled stand.cursor.column) (cut : stand.cut? fuel = some tokens) :
    ∃ fuel, ((atValue stand gap.length).behindQuotes number rest).run? fuel = some tokens := by
  obtain ⟨first, second⟩ := next?_id written apart blank rfl (by decide) idle allowed settled
  have colon : (behindKey stand).cursor.rest = ':' :: gap ++ ('"' :: number ++ '"' :: rest) := by
    simp [behindKey, Cursor.skip, written]
  obtain ⟨fuel, cut⟩ := cut?_next (by simp [written]) first cut
  obtain ⟨fuel, cut⟩ := cut?_next (by simp [colon]) second cut
  exact ⟨fuel, cut?_quoted numerals (atValue_rest written) ends rfl (atValue_idle idle _)
    (atValue_settled settled _) (Nat.le_add_right _ _) (atValue_inside _ _) cut⟩

end Sides

/-- Runs that are twins have given the same tokens, but for the numbers between quotes. -/
theorem Twin.requoted {parting : Parting} {other : Lexer} (twin : Twin parting lexer other)
    (requoted : Requoted parting.tokens parting.again) : Requoted lexer.tokens other.tokens := by
  cases twin
  exact requoted.append (.refl _)

/-- Where nothing tells two texts apart any more, they go on with the same tokens. -/
theorem run?_same {parting : Parting} {other : Lexer} {fuelOther : Nat} {tokensOther : List Token}
    (requoted : Requoted parting.tokens parting.again)
    (ended : ∀ cursor, Before parting.fork cursor) (twin : Twin parting lexer other)
    (runs : lexer.run? fuel = some tokens) (runsOther : other.run? fuelOther = some tokensOther) :
    Requoted tokens tokensOther := by
  induction fuel generalizing lexer other fuelOther with
  | zero => cases runs
  | succ fuel ih =>
      obtain ⟨stand, settled, cut⟩ := Option.bind_eq_some_iff.mp runs
      replace cut : stand.cut? fuel = some tokens := cut
      obtain ⟨standOther, settledOther, twinStand⟩ := local_settle?.twin twin settled (ended _)
      obtain ⟨_, fuelOther, again, runsOther⟩ := run?_settles runsOther
      rw [settledOther] at again
      cases again
      cases written : stand.cursor.rest with
      | nil =>
          have writtenOther := twinStand.cursors.rest_nil written
          rw [cut?, if_pos (by simp [written])] at cut
          rw [cut?, if_pos (by simp [writtenOther])] at runsOther
          obtain ⟨closed, dropped, same⟩ := Option.map_eq_some_iff.mp cut
          obtain ⟨closedOther, droppedOther, twinClosed⟩ :=
            local_dropCandidate?.twin (twinStand.unroll (-1)) dropped (ended _)
          rw [finish?, droppedOther] at runsOther
          cases runsOther
          subst same
          exact twinClosed.requoted requoted
      | cons c text =>
          obtain ⟨textOther, writtenOther⟩ := twinStand.cursors.rest_cons written
          rw [cut?, if_neg (by simp [written])] at cut
          rw [cut?, if_neg (by simp [writtenOther])] at runsOther
          obtain ⟨next, read, runs⟩ := Option.bind_eq_some_iff.mp cut
          obtain ⟨nextOther, readOther, twinNext⟩ := local_token?.twin twinStand read (ended _)
          rw [readOther, Option.bind_some] at runsOther
          exact ih twinNext runs runsOther

section Values

variable {parting : Parting} {other : Lexer} {number lead first second : List Char}
  {margin : Nat}

/-- Twins open a block at the same places. -/
theorem Twin.opens_eq (twin : Twin parting stand other) : other.opens = stand.opens := by
  rw [opens, opens, twin.inFlow_eq, twin.indent_eq, twin.cursors.column_eq]

/-- Twins have closed the same blocks. -/
theorem Twin.settled (twin : Twin parting stand other)
    (settled : stand.Settled stand.cursor.column) :
    other.Settled other.cursor.column := by
  rw [Settled, twin.inFlow_eq, twin.indent_eq, twin.outer_eq, twin.cursors.column_eq]
  exact settled

/-- The number between quotes is the requoted value of the key. -/
theorem Twin.number_requoted (twin : Twin parting stand other)
    (requoted : Requoted parting.tokens parting.again) (blanks : Nat) (number rest : List Char)
    (cursor : Cursor) : Requoted (behindNumber (atValue stand blanks) .plain number cursor).tokens
      (behindQuotes (atValue other blanks) number rest).tokens := by
  have before := (twin.requoted requoted).append
    (.refl (if stand.opens then [Token.blockMappingStart] else []))
  have whole := before.append (.id (String.ofList number) .nil)
  rw [List.append_assoc, List.append_assoc] at whole
  change Requoted (stand.tokens ++ (_ ++ [.key, .scalar .plain "id", .value]) ++ [_])
    (other.tokens ++ (_ ++ [.key, .scalar .plain "id", .value]) ++ [_])
  rw [twin.opens_eq]
  simpa only [List.append_assoc, List.cons_append, List.nil_append] using whole

/-- Behind the number, plain or between quotes, the lexers are twins again. -/
theorem Twin.behindNumber (twin : Twin parting stand other) (idle : stand.Idle) (blanks : Nat)
    (here : (atValue stand blanks).cursor.rest = number ++ (lead ++ first))
    (within : margin ≤ lead.length) (sees : 4 ≤ margin ∨ first = [] ∧ second = [])
    (paired : ((atValue other blanks).behindQuotes number (lead ++ second)).tokens.length =
      (Lexer.behindNumber (atValue stand blanks) .plain number
        ((atValue stand blanks).cursor.skip number.length)).tokens.length) :
    Twin ⟨⟨first, second, margin, parting.fork.shift + 2, sees⟩, _, _, paired⟩
      (Lexer.behindNumber (atValue stand blanks) .plain number
        ((atValue stand blanks).cursor.skip number.length))
      ((atValue other blanks).behindQuotes number (lead ++ second)) := by
  have candidates := twin.candidates_of_idle idle
  refine .of_idle ?cursors paired ?indent ?outer rfl ?candidates ?idle
  case indent =>
    change (if other.opens then (other.cursor.column : Int) else other.indent) = _
    rw [twin.opens_eq, twin.indent_eq, twin.cursors.column_eq]
    rfl
  case outer =>
    change (if other.opens then other.indent :: other.outer else other.outer) = _
    rw [twin.opens_eq, twin.indent_eq, twin.outer_eq]
    rfl
  case candidates =>
    change none :: other.candidates.drop 1 = _
    rw [candidates]
    rfl
  case idle => exact atValue_idle idle blanks
  case cursors =>
    have index : (atValue other blanks).cursor.index + (number.length + 2) =
        (atValue stand blanks).cursor.index + number.length + (parting.fork.shift + 2) := by
      have moved := twin.cursors.index_eq
      change other.cursor.index + (3 + blanks) + (number.length + 2) =
        stand.cursor.index + (3 + blanks) + number.length + (parting.fork.shift + 2)
      omega
    have column : (atValue other blanks).cursor.column = (atValue stand blanks).cursor.column :=
      congrArg (· + (3 + blanks)) twin.cursors.column_eq
    have line : (atValue other blanks).cursor.line = (atValue stand blanks).cursor.line :=
      twin.cursors.line_eq
    have behind : (atValue stand blanks).cursor.skip number.length =
        ⟨lead ++ first, (atValue stand blanks).cursor.index + number.length,
          (atValue stand blanks).cursor.line,
          (atValue stand blanks).cursor.column + number.length⟩ := by
      rw [Cursor.skip, here, List.drop_left]
    change Yaml.Twin _ ((atValue stand blanks).cursor.skip number.length) ⟨lead ++ second, _, _, _⟩
    rw [index, column, line, behind]
    exact .intro lead _ _ _ within

/-- One side has read the gap behind a value with it, the other is yet to read it: both come to the
same tokens. In a flow collection this takes a mark that ends the value, for elsewhere a line break
lets a key begin on one side only. -/
theorem Twin.pastGap {plain quoted step : Lexer} {next : Gap} {gapFuel : Nat}
    (twin : Twin parting plain quoted) (value : quoted.keyAllowed = false)
    (enough : plain.cursor.rest.length < gapFuel)
    (passed : takeGap? (some (plain.indent + 1).toNat) gapFuel ⟨[], [], plain.cursor⟩ = some next)
    (settled : (({ plain with cursor := next.cursor } : Lexer).allowKey
      (!next.breaks.isEmpty)).settle? = some step) (near : Before parting.fork step.cursor)
    (ends : plain.inFlow = true → step.endsFlowValue = true)
    (runs : quoted.run? fuel = some tokens) :
    ∃ after, Twin parting (({ plain with cursor := next.cursor } : Lexer).allowKey
      (!next.breaks.isEmpty)) after ∧ after.run? fuel = some tokens := by
  have before : Before parting.fork next.cursor := near.of_le (local_settle?.shorter settled)
  obtain ⟨cursor, passedOther, cursors⟩ :=
    takeGap?_twin twin.cursors enough (Nat.lt_succ_self _) passed before
  have runsGap := run?_gap value passedOther runs
  have twinNext := twin.moveTo cursors
  refine ⟨_, twinNext.allowKey (!next.breaks.isEmpty), ?_⟩
  rw [within] at runsGap
  cases flow : quoted.inFlow with
  | false =>
      rw [flow] at runsGap
      exact runsGap
  | true =>
      have flowHere : ({ plain with cursor := next.cursor } : Lexer).inFlow = true :=
        twinNext.inFlow_eq.symm.trans flow
      rw [settle?_allowKey flowHere] at settled
      obtain ⟨early, settledEarly, rfl⟩ := Option.map_eq_some_iff.mp settled
      have closing : ∀ last, ({ quoted with cursor } : Lexer).settle? = some last →
          last.endsFlowValue = true := by
        intro last settledOther
        obtain ⟨_, found, twinLast⟩ := local_settle?.twin twinNext settledEarly near
        rw [settledOther] at found
        cases found
        rw [endsFlowValue, twinLast.cursors.look near_head?]
        exact ends flowHere
      have flowOther : ({ quoted with cursor } : Lexer).inFlow = true := flow
      rw [run?_allowKey flowOther _ closing] at runsGap ⊢
      exact runsGap

/-- From a key and its number, plain on one side and between quotes on the other, both lexers come
to the same place behind the number. -/
theorem Twin.pastNumber {gap : List Char} {fuelOther : Nat} {tokensOther : List Token}
    (twin : Twin parting stand other) (requoted : Requoted parting.tokens parting.again)
    (key : stand.AtId gap number (lead ++ first)) (ends : endsLine (lead ++ first))
    (endsQuoted : endsLine (lead ++ second)) (within : margin ≤ lead.length)
    (sees : 4 ≤ margin ∨ first = [] ∧ second = [])
    (written : other.cursor.rest =
      'i' :: 'd' :: ':' :: gap ++ ('"' :: number ++ '"' :: (lead ++ second)))
    (settled : stand.Settled stand.cursor.column)
    (near : ∀ next, (atValue stand gap.length).next? = some next →
      Before ⟨first, second, margin, parting.fork.shift + 2, sees⟩ next.cursor)
    (cut : stand.cut? fuel = some tokens) (cutOther : other.cut? fuelOther = some tokensOther) :
    ∃ (base again : List Token) (paired : again.length = base.length) (after afterOther : Lexer)
      (fuel fuelOther : Nat), Requoted base again ∧
      Twin ⟨⟨first, second, margin, parting.fork.shift + 2, sees⟩, base, again, paired⟩ after
        afterOther ∧
      (atValue stand gap.length).next? = after.settle? ∧ after.run? fuel = some tokens ∧
      afterOther.run? fuelOther = some tokensOther := by
  have idleOther : other.Idle := by
    rw [Idle, twin.candidates_of_idle key.idle]
    exact key.idle
  obtain ⟨next, after, fuel, passed, same, steps, onward, runs⟩ :=
    cut?_plainNumber key ends settled cut
  obtain ⟨fuelOther, runsOther⟩ := cut?_quotedNumber key.apart key.blank key.numerals endsQuoted
    written idleOther (twin.keyAllowed_eq.trans key.keyAllowed) (twin.settled settled) cutOther
  have here := atValue_rest key.text
  have again := twin.number_requoted requoted gap.length number (lead ++ second)
    ((atValue stand gap.length).cursor.skip number.length)
  have behind := twin.behindNumber key.idle gap.length here within sees again.length_eq
  obtain ⟨step, _, settledAfter, -⟩ := run?_settles runs
  have stepped := onward.trans settledAfter
  have closing : (atValue stand gap.length).inFlow = true → step.endsFlowValue = true := by
    intro flow
    have value := (key.value _ steps).2
    rw [endsValue, flow, stepped] at value
    exact value
  have enough : ((atValue stand gap.length).cursor.skip number.length).rest.length <
      (lead ++ first).length + 1 := by
    rw [Cursor.skip, here, List.drop_left]
    exact Nat.lt_succ_self _
  rw [same] at settledAfter
  obtain ⟨afterOther, twinAfter, runsGap⟩ := behind.pastGap rfl enough passed settledAfter
    (near step stepped) closing runsOther
  exact ⟨_, _, again.length_eq, after, afterOther, fuel, fuelOther, again, same ▸ twinAfter, onward,
    runs, runsGap⟩

end Values

/-- What lies behind a number is reached from it. -/
theorem Reaches.fromNumber {gap number rest : List Char} {last : Lexer}
    (key : stand.AtId gap number rest) (settled : stand.Settled stand.cursor.column)
    (reaches : Reaches stand last) (less : last.cursor.rest.length ≤ rest.length) :
    Reaches (atValue stand gap.length) last := by
  obtain ⟨first, second⟩ := key.next? settled
  have positive := List.length_pos_iff.mpr key.there
  have size := congrArg List.length (atValue_rest key.text)
  rw [List.length_append] at size
  have shorter := local_next?.shorter first
  have shorterYet := local_next?.shorter second
  exact (reaches.next first (by omega)).next second (by omega)

/-- The lexer comes to the token at which another stands. -/
def Ahead (lexer last : Lexer) : Prop := ∃ first, lexer.settle? = some first ∧ Reaches first last

/-- Two runs come to a token before the parting together. -/
theorem Ahead.twin {parting : Parting} {other : Lexer} {fuelOther : Nat}
    {tokensOther : List Token} (ahead : lexer.Ahead stand)
    (before : Before parting.fork stand.cursor) (more : stand.cursor.rest ≠ [])
    (twin : Twin parting lexer other) (runs : lexer.run? fuel = some tokens)
    (runsOther : other.run? fuelOther = some tokensOther) :
    ∃ standOther fuel fuelOther, Twin parting stand standOther ∧
      stand.Settled stand.cursor.column ∧ stand.cut? fuel = some tokens ∧
      standOther.cut? fuelOther = some tokensOther := by
  obtain ⟨start, settled, reaches⟩ := ahead
  obtain ⟨_, settledOther, twinStart⟩ :=
    local_settle?.twin twin settled (before.of_le reaches.shorter)
  obtain ⟨_, _, again, cut⟩ := run?_settles runs
  rw [settled] at again
  cases again
  obtain ⟨_, _, againOther, cutOther⟩ := run?_settles runsOther
  rw [settledOther] at againOther
  cases againOther
  obtain ⟨standOther, fuel, fuelOther, twinStand, cut, cutOther⟩ :=
    reaches.twin before more twinStart cut cutOther
  exact ⟨standOther, fuel, fuelOther, twinStand, reaches.settled (settle?_settled settled), cut,
    cutOther⟩

/-- What lies further on in the text lies ahead of a token as well. -/
theorem Ahead.reaches {last : Lexer} (ahead : lexer.Ahead stand) (far : lexer.Ahead last)
    (less : last.cursor.rest.length < stand.cursor.rest.length) : Reaches stand last := by
  obtain ⟨start, settled, reaches⟩ := ahead
  obtain ⟨_, again, far⟩ := far
  rw [settled] at again
  cases again
  exact reaches.after far less

/-- Two lexers cut requoted tokens, if one reads the numbers plain and the other between quotes. -/
theorem run?_requoted {There : Lexer → Prop} {first second : List Char} {margin : Nat}
    (numbered : Numbered There first second margin) :
    ∀ {shift : Nat} {base again : List Token} {paired : again.length = base.length}
      {lexer other : Lexer} {fuel fuelOther : Nat} {tokens tokensOther : List Token},
      Requoted base again →
      Twin ⟨⟨first, second, margin, shift, numbered.sees⟩, base, again, paired⟩ lexer other →
      (∀ stand, There stand → stand.cursor.rest.length ≤ margin + first.length →
        Ahead lexer stand) →
      lexer.run? fuel = some tokens → other.run? fuelOther = some tokensOther →
      Requoted tokens tokensOther := by
  induction numbered with
  | last =>
      intro shift base again paired lexer other fuel fuelOther tokens tokensOther requoted twin _
        runs runsOther
      exact run?_same requoted (fun _ => Nat.zero_le _) twin runs runsOther
  | @id gap number lead first second margin stand there key ends endsQuoted within rest ih =>
      intro shift base again paired lexer other fuel fuelOther tokens tokensOther requoted twin
        ahead runs runsOther
      have written := key.text
      have size := congrArg List.length written
      simp only [List.length_cons, List.length_append] at size
      -- Both lexers come to the key.
      have aheadKey := ahead stand there (by simp only [List.length_append]; omega)
      have before : ∀ sees, Before ⟨number ++ (lead ++ first),
          '"' :: number ++ '"' :: (lead ++ second), 3 + gap.length, shift, sees⟩ stand.cursor := by
        intro sees
        simp only [Before, List.length_append]
        omega
      obtain ⟨standOther, fuel, fuelOther, twinStand, level, cut, cutOther⟩ :=
        aheadKey.twin (before _) (by simp [written]) twin runs runsOther
      have writtenOther := twinStand.cursors.rest_append written
      -- The ids behind this one lie ahead of it.
      have positive := List.length_pos_iff.mpr key.there
      have further : ∀ last, There last → last.cursor.rest.length ≤ margin + first.length →
          Reaches (atValue stand gap.length) last := by
        intro last thereLast less
        have far := ahead last thereLast (by simp only [List.length_append]; omega)
        exact (aheadKey.reaches far (by omega)).fromNumber key level
          (by simp only [List.length_append]; omega)
      have value := congrArg List.length (atValue_rest written)
      simp only [List.length_append] at value
      obtain ⟨_, _, _, after, afterOther, _, _, again, twinAfter, onward, runsAfter,
          runsAfterOther⟩ := twinStand.pastNumber requoted key ends endsQuoted within rest.sees
        writtenOther level
        (fun next step => rest.before fun last thereLast less =>
          ((further last thereLast less).next step (by omega)).shorter) cut cutOther
      refine ih again twinAfter (fun last thereLast less => ?_) runsAfter runsAfterOther
      obtain ⟨step, _, settledAfter, -⟩ := run?_settles runsAfter
      exact ⟨step, settledAfter,
        (further last thereLast less).next (onward.trans settledAfter) (by omega)⟩

end Lexer

end HostAudit.Yaml
