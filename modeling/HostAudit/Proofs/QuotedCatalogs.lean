import HostAudit.Catalog.Reader
import HostAudit.Proofs.IdLines
import HostAudit.Proofs.IdQuoting
import HostAudit.Proofs.RequotedCatalogs
import Mathlib.Data.List.DropRight

/-
This file proves that quoting the ids of a catalog changes nothing else that is read from it, as
long as each number that is quoted is an id.
-/

namespace HostAudit

namespace Yaml

namespace Lexer

variable {stand last : Lexer} {fuel : Nat}

/-- The lexer at each token of its text, from the one at which it stands on. -/
def stands (stand : Lexer) : Nat → List Lexer
  | 0 => []
  | fuel + 1 => stand :: (stand.next?.map fun next => next.stands fuel).getD []

/-- All these lexers can be reached. -/
theorem reaches_stands (there : last ∈ stand.stands fuel) : Reaches stand last := by
  induction fuel generalizing stand with
  | zero => cases there
  | succ fuel ih =>
      rw [stands, List.mem_cons] at there
      rcases there with rfl | there
      · exact .here last
      · cases step : stand.next? with
        | none =>
            rw [step] at there
            cases there
        | some next =>
            rw [step] at there
            exact .further step (ih there)

end Lexer

/-- The lexers at the tokens of a text. -/
def stands (text : List Char) : List Lexer :=
  ((Lexer.ofText text).settle?.map fun stand => stand.stands (text.length + 1)).getD []

/-- The lexers at the tokens of a text are ahead of the one at its start. -/
theorem ahead_stands {text : List Char} {stand : Lexer} (there : stand ∈ stands text) :
    (Lexer.ofText text).Ahead stand := by
  rw [stands] at there
  cases settled : (Lexer.ofText text).settle? with
  | none =>
      rw [settled] at there
      cases there
  | some first =>
      rw [settled] at there
      exact ⟨first, settled, Lexer.reaches_stands there⟩

end Yaml

namespace NumericId

open Yaml

/-- The line breaks and lines that follow a line. -/
def behind (lines : List (List Char)) : List Char := lines.flatMap ('\n' :: ·)

/-- Joined lines are the first one and what is behind it. -/
theorem join_lines (line : List Char) (lines : List (List Char)) :
    Text.join ['\n'] (line :: lines) = line ++ behind lines := by
  induction lines generalizing line with
  | nil => exact (List.append_nil line).symm
  | cons next lines ih =>
      rw [Text.join_cons _ _ (List.cons_ne_nil next lines), ih]
      simp [behind]

/-- If the number in a line gets quotes, it is the value of a key `id` for one of the lexers, and a
scalar of its own. -/
def isId (stands : List Lexer) (line following : List Char) : Bool :=
  (divide? line).all fun (before, number, after) =>
    stands.any (·.hasNumericId (before.rtakeWhile isGap) number (after ++ following))

def areIds (stands : List Lexer) : List (List Char) → Bool
  | [] => true
  | line :: lines => isId stands line (behind lines) && areIds stands lines

/-- Each number in a text that gets quotes is the value of a key `id`, and a scalar of its own. -/
def quotesIdsOnly (text : List Char) : Bool := areIds (stands text) (Text.splitAt '\n' text)

/-- A number is not empty. -/
theorem isNumber_ne_nil {number : List Char} (isNumber : isNumber number = true) : number ≠ [] := by
  rintro rfl
  cases isNumber

/-- A line break is no space. -/
theorem isSpace_of_isBreak {c : Char} (broken : isBreak c = true) : isSpace c = false := by
  rw [Bool.eq_false_iff]
  intro space
  rw [isSpace, Bool.or_eq_true, beq_iff_eq, beq_iff_eq] at space
  obtain rfl | rfl := space
  · cases broken
  · cases broken

/-- What is behind a line begins with a line break, if there is more. -/
theorem head?_dropWhile_break (text : List Char) :
    (text.dropWhile (!isBreak ·)).head?.all isBreak = true := by
  have stops := List.head?_dropWhile_not (!isBreak ·) text
  cases head : (text.dropWhile (!isBreak ·)).head? with
  | none => rfl
  | some c => simpa [head] using stops

/-- The end of a line is its end before further lines, too. -/
theorem endsLine_append {after following : List Char} (ends : endsLine after = true)
    (follows : following.head?.all isBreak = true) : Yaml.endsLine (after ++ following) = true := by
  rw [Yaml.endsLine, List.dropWhile_append]
  cases written : after.dropWhile isSpace with
  | nil =>
      have blanks : following.dropWhile isSpace = following := by
        cases following with
        | nil => rfl
        | cons c rest => rw [List.dropWhile_cons, if_neg (by simp [isSpace_of_isBreak follows])]
      have other : following.head? ≠ some '#' := by
        intro mark
        rw [mark] at follows
        cases follows
      simpa [blanks, other] using follows
  | cons c rest =>
      by_cases mark : c = '#'
      · subst mark
        exact head?_dropWhile_break _
      · have gap : after.dropWhile isGap = c :: rest := written
        have last : c = '\r' ∧ rest = [] := by simpa [endsLine, gap, mark] using ends
        obtain ⟨rfl, rfl⟩ := last
        rfl

/-- The gap before a number is what stands behind the colon. -/
theorem rtakeWhile_gap {gap : List Char} (blank : ∀ c ∈ gap, isGap c) (lead : List Char) :
    (lead ++ ['i', 'd', ':'] ++ gap).rtakeWhile isGap = gap := by
  have turned : ∀ c ∈ gap.reverse, isGap c := fun c there => blank c (List.mem_reverse.mp there)
  rw [List.rtakeWhile, List.reverse_append, List.takeWhile_append_of_pos turned]
  simp [isGap]

/-- A divided line has the key of an id before its number, and its end behind. -/
theorem divide?_eq_some {line before number after : List Char}
    (divided : divide? line = some (before, number, after)) :
    (∃ lead, before = lead ++ ['i', 'd', ':'] ++ before.rtakeWhile isGap) ∧
      line = before ++ (number ++ after) ∧ number ≠ [] ∧ (∀ c ∈ number, isNumeral c) ∧
      endsLine after = true := by
  obtain ⟨indent, dash, gap, rfl, -, -, blank, whole, valid, numerals, ends⟩ :=
    divide?_parts divided
  refine ⟨⟨indent ++ dash, ?_⟩, whole, isNumber_ne_nil valid, numerals, ends⟩
  rw [rtakeWhile_gap blank]

/-- Two texts go apart at the first of the numbers, one of them having quotes around each. -/
def GoApart (There : Lexer → Prop) (plain quoted : List Char) : Prop :=
  ∃ lead first second margin, plain = lead ++ first ∧ quoted = lead ++ second ∧
    margin ≤ lead.length ∧ Lexer.Numbered There first second margin

namespace GoApart

variable {There : Lexer → Prop} {plain quoted : List Char}

/-- The same text before both changes nothing. -/
theorem behindText (apart : GoApart There plain quoted) (text : List Char) :
    GoApart There (text ++ plain) (text ++ quoted) := by
  obtain ⟨lead, first, second, margin, rfl, rfl, within, numbered⟩ := apart
  refine ⟨text ++ lead, first, second, margin, ?_, ?_, ?_, numbered⟩
  · rw [List.append_assoc]
  · rw [List.append_assoc]
  · rw [List.length_append]
    omega

end GoApart

/-- If the number in a line is an id, quoting the line sets it apart there and nowhere else. -/
theorem goApart_line {stands : List Lexer} {line following quoted : List Char}
    (ids : isId stands line following = true) (follows : following.head?.all isBreak = true)
    (followsQuoted : quoted.head?.all isBreak = true)
    (apart : GoApart (· ∈ stands) following quoted) :
    GoApart (· ∈ stands) (line ++ following) (quoteLine line ++ quoted) := by
  rw [isId] at ids
  rw [quoteLine]
  cases divided : divide? line with
  | none => exact apart.behindText line
  | some parts =>
      obtain ⟨before, number, after⟩ := parts
      obtain ⟨⟨lead, written⟩, rfl, there, numerals, ends⟩ := divide?_eq_some divided
      rw [divided, Option.all_some, List.any_eq_true] at ids
      obtain ⟨stand, thereStand, kept⟩ := ids
      obtain ⟨inner, first, second, margin, rfl, rfl, within, numbered⟩ := apart
      have blank : ∀ c ∈ before.rtakeWhile isGap, isSpace c := fun _ member =>
        List.mem_rtakeWhile_imp member
      have endsHere := endsLine_append ends follows
      have endsQuoted := endsLine_append ends followsQuoted
      rw [← List.append_assoc] at endsHere endsQuoted kept
      have key := Lexer.atId_of_hasNumericId blank there numerals kept
      refine ⟨before, _, _, _, ?plain, ?quoted, ?margin,
        .id thereStand key endsHere endsQuoted ?within numbered⟩
      case plain => simp
      case quoted => simp
      case margin =>
        have size := congrArg List.length written
        simp only [List.length_append, List.length_cons, List.length_nil] at size
        omega
      case within =>
        rw [List.length_append]
        omega

/-- What is behind a line begins with a line break. -/
theorem head?_behind (lines : List (List Char)) : (behind lines).head?.all isBreak = true := by
  cases lines <;> rfl

/-- Quoting the lines behind a line sets them apart at their numbers. -/
theorem goApart_behind {stands : List Lexer} {lines : List (List Char)}
    (ids : areIds stands lines = true) :
    GoApart (· ∈ stands) (behind lines) (behind (lines.map quoteLine)) := by
  induction lines with
  | nil => exact ⟨[], [], [], 0, rfl, rfl, le_rfl, .last⟩
  | cons line lines ih =>
      rw [areIds, Bool.and_eq_true] at ids
      exact (goApart_line ids.1 (head?_behind lines) (head?_behind _) (ih ids.2)).behindText ['\n']

/-- Quoting the numbers in a text sets it apart from the text at those numbers. -/
theorem goApart_quote {text : List Char} (ids : quotesIdsOnly text = true) :
    GoApart (· ∈ stands text) text (quote text) := by
  obtain ⟨line, lines, split⟩ := List.exists_cons_of_ne_nil (Text.splitAt_ne_nil '\n' text)
  have whole := Text.join_splitAt '\n' text
  rw [quotesIdsOnly, split, areIds, Bool.and_eq_true] at ids
  have apart := goApart_line ids.1 (head?_behind lines) (head?_behind (lines.map quoteLine))
    (goApart_behind ids.2)
  rw [split, join_lines] at whole
  rw [whole] at apart
  rwa [quote, split, List.map_cons, join_lines]

/-- Quoting ids changes the tokens of a text only in the style of those ids. -/
theorem tokens?_quote {text : List Char} {tokens quoted : List Token}
    (ids : quotesIdsOnly text = true) (read : tokens? text = some tokens)
    (readQuoted : tokens? (quote text) = some quoted) : Requoted tokens quoted := by
  rw [tokens?] at read readQuoted
  split at read
  case isFalse => cases read
  split at readQuoted
  case isFalse => cases readQuoted
  obtain ⟨lead, first, second, margin, plain, again, within, numbered⟩ := goApart_quote ids
  have twin := @Lexer.Twin.of_idle (Lexer.ofText (lead ++ first))
    ⟨first, second, margin, 0, numbered.sees⟩ (Lexer.ofText (lead ++ second))
    (.intro lead 0 0 0 within) rfl rfl rfl rfl rfl (by simp [Lexer.Idle, Lexer.ofText])
  rw [← plain, ← again] at twin
  exact Lexer.run?_requoted numbered .nil twin (fun stand there _ => ahead_stands there) read
    readQuoted

end NumericId

namespace Catalog

open Definition

/-- As long as each number that gets quotes is an id, a catalog is the same with and without the
quotes, but for the ids of its checks, of its groups and its own. -/
theorem quoting_changes_ids_only (options : LoadOptions) (text : String) {plain quoted : Catalog}
    (ids : NumericId.quotesIdsOnly (Placeholder.fill options.substitutions text).toList = true)
    (read : ofYaml? catalog? (Placeholder.fill options.substitutions text) = some plain)
    (readQuoted : ofFilled? (Placeholder.fill options.substitutions text) = some quoted) :
    quoted.withoutIds = plain.withoutIds := by
  generalize Placeholder.fill options.substitutions text = filled at ids read readQuoted
  obtain ⟨document, readDocument, readPlain⟩ := Option.bind_eq_some_iff.mp read
  obtain ⟨tokens, cut, parsed⟩ := Option.bind_eq_some_iff.mp readDocument
  obtain ⟨again, readAgain, readQuoted⟩ := Option.bind_eq_some_iff.mp readQuoted
  obtain ⟨tokensAgain, cutAgain, parsedAgain⟩ := Option.bind_eq_some_iff.mp readAgain
  rw [String.toList_ofList] at cutAgain
  have requoted := NumericId.tokens?_quote ids cut cutAgain
  have same := Yaml.Document.ofTokens?_same requoted parsed parsedAgain
  exact (Agrees.catalog (Place.Alike.root same) plain readPlain quoted readQuoted).symm

/-- A catalog with zeros at the end of its ids, and a probe of more than one line. -/
def trailingZeros : String :=
  "id: 1.10\ntype: node\ngroups:\n- id: 1.20\n  checks:\n  - id: 1.20.30 # new\n    audit: |\n" ++
    "      ps -C $name |\n        wc -l\n"

/-- In this catalog quoting keeps the zeros of the ids, and all else. -/
theorem quoting_changes_ids_only_trailingZeros :
    ∃ plain quoted,
      ofYaml? catalog? (Placeholder.fill [("name", "etcd")] trailingZeros) = some plain ∧
      ofFilled? (Placeholder.fill [("name", "etcd")] trailingZeros) = some quoted ∧
      plain.id = "1.1" ∧ quoted.id = "1.10" ∧ quoted.withoutIds = plain.withoutIds := by
  let options : LoadOptions := ⟨[("name", "etcd")], none, none⟩
  let check : Check :=
    ⟨"1.20.30", "", "ps -C etcd |\n  wc -l\n", "", "", none, none, "", false, false, false⟩
  let plain : Catalog := ⟨"1.1", "", "", "node", [⟨"1.2", "", "", [check]⟩]⟩
  let quoted : Catalog := ⟨"1.10", "", "", "node", [⟨"1.20", "", "", [check]⟩]⟩
  have read : ofYaml? catalog? (Placeholder.fill options.substitutions trailingZeros) =
      some plain := by decide +kernel
  have readQuoted : ofFilled? (Placeholder.fill options.substitutions trailingZeros) =
      some quoted := by decide +kernel
  exact ⟨plain, quoted, read, readQuoted, rfl, rfl,
    quoting_changes_ids_only options trailingZeros (by decide +kernel) read readQuoted⟩

/-- A catalog with a probe that writes a line like that of an id. -/
def hereDocument : String :=
  "id: 1\ntype: node\ngroups:\n  - id: 1.1\n    checks:\n      - id: 1.1.1\n        audit: |\n" ++
    "          cat <<EOF\n          id: 4\n          EOF\n        scored: true\n"

/-- A number in the text of a probe gets quotes as well, and the probe becomes another one. -/
theorem quoting_changes_probe :
    NumericId.quotesIdsOnly (Placeholder.fill [] hereDocument).toList = false ∧
    ∃ plain quoted, ofYaml? catalog? (Placeholder.fill [] hereDocument) = some plain ∧
      ofFilled? (Placeholder.fill [] hereDocument) = some quoted ∧
      plain.checks.map Check.audit = ["cat <<EOF\nid: 4\nEOF\n"] ∧
      quoted.checks.map Check.audit = ["cat <<EOF\nid: \"4\"\nEOF\n"] ∧
      quoted.withoutIds ≠ plain.withoutIds := by
  let catalog (audit : String) : Catalog :=
    ⟨"1", "", "", "node", [⟨"1.1", "", "",
      [⟨"1.1.1", "", audit, "", "", none, none, "", true, false, false⟩]⟩]⟩
  refine ⟨by decide +kernel, catalog "cat <<EOF\nid: 4\nEOF\n",
    catalog "cat <<EOF\nid: \"4\"\nEOF\n", ?read, ?readQuoted, rfl, rfl, ?differ⟩
  case read => decide +kernel
  case readQuoted => decide +kernel
  case differ => decide +kernel

end Catalog

end HostAudit
