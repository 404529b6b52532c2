import HostAudit.Text.Pieces
import HostAudit.Number.Integer

/-
This file holds sets of code points as runs of neighbours, and the text that tables are kept in.
-/

namespace HostAudit.Unicode

/-- The first and the last code point of every run. -/
abbrev Runs := List (Nat × Nat)

/-- The runs that words spell from `position` on: the gap before a run, and after a hyphen how many
code points follow its first one. Numbers are in base 36. -/
def Runs.ofWords (position : Nat) : List (List Char) → Runs
  | [] => []
  | word :: rest =>
      let numbers := (Text.splitAt '-' word).map fun part => (Integer.natural? 36 part).getD 0
      let first := position + numbers.headD 0
      let last := first + numbers.tail.headD 0
      (first, last) :: Runs.ofWords (last + 1) rest

/-- The runs that lines of words spell. -/
def Runs.ofLines (lines : List String) : Runs :=
  Runs.ofWords 0 (lines.flatMap fun line => Text.splitAt ' ' line.toList)

def Runs.contains (runs : Runs) (code : Nat) : Bool :=
  runs.any fun (first, last) => first ≤ code && code ≤ last

end HostAudit.Unicode
