import HostAudit.Text.Blank
import HostAudit.Text.Pieces
import HostAudit.Text.Quoted

/-
This file holds probes, which answer commands, and how commands can fail.
-/

namespace HostAudit

/-- A command was not started, or it ended without success. A command that was killed has no
code. -/
inductive ProbeFailure where
  | notStarted (command message : String)
  | ended (command output : String) (code : Option Int)
deriving DecidableEq, Repr

namespace ProbeFailure

def codeText : Option Int → String
  | some code => Integer.text code
  | none => "unknown"

def message : ProbeFailure → String
  | notStarted command message =>
      "failed to run: " ++ Text.quoted command ++ ", error: " ++ message
  | ended command output code =>
      "failed to run: " ++ Text.quoted command ++ ", output: " ++ Text.quoted output ++
        ", error: exit status " ++ codeText code

/-- The code that a command ended with. -/
def code? : ProbeFailure → Option Int
  | notStarted .. => none
  | ended _ _ code => code

def output? : ProbeFailure → Option String
  | notStarted .. => none
  | ended _ output _ => some output

/-- A command or a file was missing. -/
def isNotFound : ProbeFailure → Bool
  | notStarted .. => false
  | ended _ output code =>
      code == some 127 || Text.contains "No such file or directory".toList output.toList

end ProbeFailure

/-- A probe answers a command with its output. -/
abbrev Probe := String → Except ProbeFailure String

/-- The probe that gives recorded answers. A blank command succeeds, unless it is known not to have
ended by itself; any other command that is not recorded is not found. -/
def Probe.recorded (answers : List (String × Except ProbeFailure String)) : Probe := fun command =>
  match answers.lookup command with
  | some (.error failure) =>
      if Text.isBlankText command && failure.code?.isSome then .ok "" else .error failure
  | some (.ok output) => .ok (if Text.isBlankText command then "" else output)
  | none =>
      if Text.isBlankText command then .ok "" else .error (.ended command "" (some 127))

/-- What comes of asking probes: the commands that were asked, in order, and the answer. -/
structure Asked (A : Type) where
  commands : List String
  answer : Except ProbeFailure A

namespace Asked

def pure {A : Type} (value : A) : Asked A := ⟨[], .ok value⟩

/-- This goes on with an answer; a failure ends it. -/
def andThen {A B : Type} (asked : Asked A) (next : A → Asked B) : Asked B :=
  match asked.answer with
  | .ok value => ⟨asked.commands ++ (next value).commands, (next value).answer⟩
  | .error failure => ⟨asked.commands, .error failure⟩

def ask (probe : Probe) (command : String) : Asked String := ⟨[command], probe command⟩

/-- This turns some failures into answers. -/
def forgive {A : Type} (asked : Asked A) (answer? : ProbeFailure → Option A) : Asked A :=
  match asked.answer with
  | .ok _ => asked
  | .error failure => ⟨asked.commands, (answer? failure).elim (.error failure) .ok⟩

/-- A blank command is not asked. -/
def askUnlessBlank (probe : Probe) (command : String) : Asked (Option String) :=
  if Text.isBlankText command then pure none
  else (ask probe command).andThen fun output => pure (some output)

end Asked

end HostAudit
