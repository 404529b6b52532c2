import HostAudit.Probe
import HostAudit.Script.Run

/-
This file answers probes by running their commands as scripts.
-/

namespace HostAudit

namespace Script

/-- How a program has ended; one that was killed has no status. -/
structure Ending where
  output : List Char
  errors : List Char
  status : Option Nat

/-- Commands may nest this deep. -/
def depthLimit : Nat := 40000

/-- This starts a program with a script as its input. -/
def execute (tree : FileTree) (program script : String) : Ending :=
  let name := octets program
  let (result, machine) :=
    (launch depthLimit .script name []).run (Machine.start tree name [] (octets script))
  let status := match result with
    | .error (.killed _) | .error .exhausted => none
    | _ => some (machine.status % 256)
  ⟨(machine.stream 1).content, (machine.stream 2).content, status⟩

/-- What a program has printed: its output, and behind it its complaints. -/
def Ending.text (ending : Ending) : String := textOf ending.output ++ textOf ending.errors

/-- The reason why a program cannot be started. -/
def refusal? (tree : FileTree) (program : String) : Option String :=
  if program.toList.contains '\x00' then some "nul byte found in provided data"
  else match Program.locate tree program with
    | .missing => some (FileFault.message .missing)
    | .refused => some "Permission denied (os error 13)"
    | .program _ => none

end Script

/-- The probe that gives each command to a shell as its input. A blank command succeeds without a
shell. -/
def Probe.script (tree : FileTree) (shell : String) : Probe := fun command =>
  if Text.isBlankText command then .ok ""
  else match Script.refusal? tree shell with
    | some reason => .error (.notStarted command reason)
    | none =>
        let ending := Script.execute tree shell command
        if ending.status = some 0 then .ok ending.text
        else .error (.ended command ending.text (ending.status.map Int.ofNat))

end HostAudit
