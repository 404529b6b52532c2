import HostAudit.Proofs.Numerals
import HostAudit.Proofs.Pieces
import HostAudit.Proofs.Protocol

/-
This file proves that the reason of a failed probe tells the failure. A quoted text ends where its
closing quote stands, whatever follows it, so that the command and the output can be told apart from
the words around them.
-/

namespace HostAudit

namespace Integer

/-- Hexadecimal digits are the first sixteen digits. -/
theorem mem_hexChars {value : Nat} {c : Char} (member : c ∈ hexChars value) :
    ∃ digit < 16, c = Nat.digitChar digit := by
  induction value using Nat.strongRecOn with
  | ind value ih =>
      rw [hexChars, Nat.toDigits_eq_if (by decide)] at member
      split at member
      · rename_i small
        exact ⟨value, small, List.mem_singleton.mp member⟩
      · rcases List.mem_append.mp member with higher | last
        · exact ih (value / 16) (by omega) higher
        · exact ⟨value % 16, Nat.mod_lt value (by decide), List.mem_singleton.mp last⟩

/-- Different numbers have different hexadecimal digits. -/
theorem hexChars_injective : Function.Injective hexChars := by
  have digits : ∀ first < 16, ∀ second < 16,
      Nat.digitChar first = Nat.digitChar second → first = second := by decide
  intro first
  induction first using Nat.strongRecOn with
  | ind first ih =>
      intro second same
      rw [hexChars, hexChars, Nat.toDigits_eq_if (by decide),
        @Nat.toDigits_eq_if 16 second (by decide)] at same
      split at same <;> split at same
      · rename_i small small'
        exact digits first small second small' (List.singleton_inj.mp same)
      · have lengths := congrArg List.length same
        simp [Nat.toDigits_ne_nil] at lengths
      · have lengths := congrArg List.length same
        simp [Nat.toDigits_ne_nil] at lengths
      · obtain ⟨higher, last⟩ := List.append_inj' same rfl
        have quotients := ih (first / 16) (by omega) higher
        have remainders := digits _ (Nat.mod_lt first (by decide)) _ (Nat.mod_lt second (by decide))
          (List.singleton_inj.mp last)
        omega

/-- Different numbers have different decimal digits. -/
theorem text_injective : Function.Injective text := by
  intro first second same
  have spelled : chars first = chars second := String.ofList_injective same
  have read := signed?_chars first
  rw [spelled, signed?_chars second] at read
  exact (Option.some.inj read).symm

end Integer

namespace Text

/-- It can be told where the writing of a value ends, and which value it is, whatever follows. -/
def PrefixFree {A : Type} (write : A → List Char) : Prop :=
  ∀ ⦃first second : A⦄ ⦃after more : List Char⦄,
    write first ++ after = write second ++ more → first = second ∧ after = more

/-- Values that are written one after another up to a mark that none of them begins with. -/
theorem PrefixFree.closed {A : Type} {write : A → List Char} (free : PrefixFree write)
    {close : Char} (others : ∀ value, ∃ c rest, write value = c :: rest ∧ c ≠ close) :
    PrefixFree fun values : List A => values.flatMap write ++ [close] := by
  intro first
  induction first with
  | nil =>
      intro second after more same
      cases second with
      | nil => exact ⟨rfl, by simpa using same⟩
      | cons value values =>
          obtain ⟨c, rest, begun, different⟩ := others value
          simp [begun, Ne.symm different] at same
  | cons value values ih =>
      intro second after more same
      cases second with
      | nil =>
          obtain ⟨c, rest, begun, different⟩ := others value
          simp [begun, different] at same
      | cons other others =>
          simp only [List.flatMap_cons, List.append_assoc] at same
          obtain ⟨rfl, remaining⟩ := free same
          obtain ⟨rfl, rfl⟩ := ih (by simpa using remaining)
          exact ⟨rfl, rfl⟩

/-- The characters that a backslash and a letter stand for, with the letters. -/
def letters : List (Char × Char) :=
  [('"', '"'), ('\\', '\\'), ('\n', 'n'), ('\r', 'r'), ('\t', 't'), ('\x00', '0')]

/-- How a character may stand between quotes: after a backslash as a letter or with its code, or as
it is. -/
inductive Escaped (c : Char) : List Char → Prop
  | letter {letter : Char} (listed : (c, letter) ∈ letters) : Escaped c ['\\', letter]
  | code : Escaped c ('\\' :: 'u' :: '\x7b' :: Integer.hexChars c.toNat ++ ['\x7d'])
  | same (quote : c ≠ '"') (backslash : c ≠ '\\') : Escaped c [c]

/-- Every character is written in one of the ways to escape it. -/
theorem escaped_escape (c : Char) : Escaped c (escape c) := by
  unfold escape
  split
  case h_7 quote backslash _ _ _ _ =>
    split
    · exact .same quote backslash
    · exact .code
  all_goals exact .letter (by decide)

/-- What a character is written as begins with something else than the closing quote. -/
theorem Escaped.begins {c : Char} {written : List Char} (escaped : Escaped c written) :
    ∃ first rest, written = first :: rest ∧ first ≠ '"' := by
  cases escaped with
  | letter listed => exact ⟨'\\', _, rfl, by decide⟩
  | code => exact ⟨'\\', _, rfl, by decide⟩
  | same quote backslash => exact ⟨c, [], rfl, quote⟩

/-- The code of a character ends at the brace, which is no digit. -/
theorem code_unique {first second : Nat} {after more : List Char}
    (same : Integer.hexChars first ++ '\x7d' :: after = Integer.hexChars second ++ '\x7d' :: more) :
    first = second ∧ after = more := by
  have digits (value : Nat) : ∀ c ∈ Integer.hexChars value, (c != '\x7d') = true := by
    have plain : ∀ digit < 16, (Nat.digitChar digit != '\x7d') = true := by decide
    intro c member
    obtain ⟨digit, small, rfl⟩ := Integer.mem_hexChars member
    exact plain digit small
  have stops (rest : List Char) : ∀ c ∈ ('\x7d' :: rest).head?, (c != '\x7d') = false := by simp
  obtain ⟨code, rest⟩ := span_append _ (digits first) (stops after)
  obtain ⟨code', rest'⟩ := span_append _ (digits second) (stops more)
  rw [same] at code rest
  exact ⟨Integer.hexChars_injective (code.symm.trans code'),
    (List.cons.inj (rest.symm.trans rest')).2⟩

/-- A written character can be told from what follows, whatever other text begins in the same
way. -/
theorem Escaped.unique {c d : Char} {written other after more : List Char}
    (escaped : Escaped c written) (another : Escaped d other)
    (same : written ++ after = other ++ more) : c = d ∧ after = more := by
  have alone : ∀ one ∈ letters, ∀ two ∈ letters, one.2 = two.2 → one.1 = two.1 := by decide
  have noCode : ∀ one ∈ letters, one.2 ≠ 'u' := by decide
  cases escaped with
  | letter listed =>
      cases another with
      | letter listed' =>
          simp only [List.cons_append, List.nil_append, List.cons.injEq, true_and] at same
          exact ⟨alone _ listed _ listed' same.1, same.2⟩
      | code =>
          simp only [List.cons_append, List.nil_append, List.cons.injEq, true_and] at same
          exact absurd same.1 (noCode _ listed)
      | same quote backslash =>
          simp only [List.cons_append, List.cons.injEq] at same
          exact absurd same.1.symm backslash
  | code =>
      cases another with
      | letter listed =>
          simp only [List.cons_append, List.nil_append, List.cons.injEq, true_and] at same
          exact absurd same.1.symm (noCode _ listed)
      | code =>
          simp only [List.cons_append, List.append_assoc, List.nil_append, List.cons.injEq,
            true_and] at same
          obtain ⟨codes, remaining⟩ := code_unique same
          exact ⟨Char.toNat_inj.mp codes, remaining⟩
      | same quote backslash =>
          simp only [List.cons_append, List.cons.injEq] at same
          exact absurd same.1.symm backslash
  | same quote backslash =>
      cases another with
      | same quote' backslash' => simpa using same
      | letter listed =>
          simp only [List.cons_append, List.cons.injEq] at same
          exact absurd same.1 backslash
      | code =>
          simp only [List.cons_append, List.cons.injEq] at same
          exact absurd same.1 backslash

/-- No quoted text is the beginning of another one. -/
theorem prefixFree_quotedChars : PrefixFree quotedChars := by
  have free : PrefixFree escape := fun _ _ _ _ => (escaped_escape _).unique (escaped_escape _)
  intro first second after more same
  exact free.closed (fun c => (escaped_escape c).begins) (List.cons.inj same).2

/-- This is the law of quoted texts on strings. -/
theorem quoted_unique {first second after more : String}
    (same : quoted first ++ after = quoted second ++ more) : first = second ∧ after = more := by
  have spelled := congrArg String.toList same
  simp only [quoted, String.toList_append, String.toList_ofList] at spelled
  obtain ⟨texts, remaining⟩ := prefixFree_quotedChars spelled
  exact ⟨String.toList_inj.mp texts, String.toList_inj.mp remaining⟩

end Text

namespace ProbeFailure

/-- Different exit codes have different texts. -/
theorem codeText_injective : Function.Injective codeText := by
  have known (code : Int) : Integer.text code ≠ "unknown" := by
    intro same
    have spelled : Integer.chars code = "unknown".toList := by
      rw [← same, Integer.text, String.toList_ofList]
    have letter : 'u' ∈ Integer.chars code := by
      rw [spelled]
      decide
    exact absurd (Integer.mem_chars letter) (by decide)
  intro first second same
  cases first with
  | none =>
      cases second with
      | none => rfl
      | some code => exact absurd same.symm (known code)
  | some code =>
      cases second with
      | none => exact absurd same (known code)
      | some other => exact congrArg some (Integer.text_injective same)

def command : ProbeFailure → String
  | notStarted command _ => command
  | ended command _ _ => command

/-- What the message says behind the command. -/
def remainder : ProbeFailure → String
  | notStarted _ message => ", error: " ++ message
  | ended _ output code =>
      ", output: " ++ (Text.quoted output ++ (", error: exit status " ++ codeText code))

/-- A message is the command in quotes between fixed words, and what remains to be said. -/
theorem message_eq (failure : ProbeFailure) :
    failure.message = "failed to run: " ++ (Text.quoted failure.command ++ failure.remainder) := by
  cases failure with
  | notStarted command message =>
      change "failed to run: " ++ Text.quoted command ++ ", error: " ++ message = _
      rw [String.append_assoc, String.append_assoc]
      rfl
  | ended command output code =>
      change "failed to run: " ++ Text.quoted command ++ ", output: " ++ Text.quoted output ++
        ", error: exit status " ++ codeText code = _
      simp only [String.append_assoc]
      rfl

/-- The word behind the command tells whether it was started. -/
theorem error_ne_output (first second : String) :
    ", error: " ++ first ≠ ", output: " ++ second := by
  intro same
  have spelled := congrArg String.toList same
  simp at spelled

/-- With the same command, the remainder tells what failed. -/
theorem eq_of_remainder {first second : ProbeFailure} (commands : first.command = second.command)
    (remainders : first.remainder = second.remainder) : first = second := by
  cases first with
  | notStarted command message =>
      cases second with
      | notStarted command' message' =>
          rw [(String.append_right_inj ", error: ").mp remainders]
          exact congrArg (notStarted · message') commands
      | ended command' output code => exact absurd remainders (error_ne_output _ _)
  | ended command output code =>
      cases second with
      | notStarted command' message => exact absurd remainders.symm (error_ne_output _ _)
      | ended command' output' code' =>
          obtain ⟨outputs, codes⟩ :=
            Text.quoted_unique ((String.append_right_inj ", output: ").mp remainders)
          have ending := (String.append_right_inj ", error: exit status ").mp codes
          rw [outputs, codeText_injective ending]
          exact congrArg (ended · output' code') commands

/-- Different failures have different messages. -/
theorem message_injective : Function.Injective message := by
  intro first second same
  rw [message_eq, message_eq] at same
  obtain ⟨commands, remainders⟩ :=
    Text.quoted_unique ((String.append_right_inj "failed to run: ").mp same)
  exact eq_of_remainder commands remainders

/-- Failures have the same message only if they are the same: of the same kind, of the same command,
with the same output and code or the same message of the system. So checks that stop at a failure
have the same reason only if they stop at the same failure. -/
theorem reason_determines_failure :
    (∀ first second : ProbeFailure, first.message = second.message ↔ first = second) ∧
    ∀ (check other : Check) (probe another : Probe) (failure failure' : ProbeFailure),
      check.decided? = none → check.failure? probe = some failure →
      other.decided? = none → other.failure? another = some failure' →
      ((check.run probe).reason = (other.run another).reason ↔ failure = failure') := by
  refine ⟨fun first second => message_injective.eq_iff, ?reasons⟩
  intro check other probe another failure failure' undecided failed undecided' failed'
  rw [Check.run_of_failure undecided failed, Check.run_of_failure undecided' failed']
  exact message_injective.eq_iff

/-- A command that prints what looks like the end of a message, and the failure it looks like. -/
theorem reason_determines_failure_misleading :
    let misleading : ProbeFailure := .ended "cat" "\", output: \"\", error: exit status 1" none
    let other : ProbeFailure := .ended "cat\", output: \"" "" (some 1)
    let check : Check := { Check.database with audit := "cat" }
    misleading.message ≠ other.message ∧
    ((check.run fun _ => .error misleading).reason = (check.run fun _ => .error other).reason ↔
      misleading = other) := by
  intro misleading other check
  have different : misleading ≠ other := by decide
  exact ⟨fun same => different ((reason_determines_failure.1 _ _).mp same),
    reason_determines_failure.2 check check _ _ misleading other (by decide) (by decide)
      (by decide) (by decide)⟩

end ProbeFailure

end HostAudit
