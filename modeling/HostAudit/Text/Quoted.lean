import HostAudit.Number.Integer
import HostAudit.Unicode.Category
import HostAudit.Unicode.Property

/-
This file writes text between double quotes, with escapes for what cannot be seen.
-/

namespace HostAudit.Text

/-- The controls, the formats, the private and unassigned characters, and all separators. -/
def unseen : Unicode.Runs := Unicode.categoryUnion ["cc", "cf", "co", "cn", "zl", "zp", "zs"]

/-- The characters that join the one before them. -/
def extending : Unicode.Runs := (Unicode.property? "graphemeextend").getD []

/-- A character that stands as it is. -/
def isShown (c : Char) : Bool :=
  (' ' ≤ c && c ≤ '~') || !(unseen.contains c.toNat || extending.contains c.toNat)

def escape (c : Char) : List Char :=
  match c with
  | '"' => ['\\', '"']
  | '\\' => ['\\', '\\']
  | '\n' => ['\\', 'n']
  | '\r' => ['\\', 'r']
  | '\t' => ['\\', 't']
  | '\x00' => ['\\', '0']
  | c => if isShown c then [c] else '\\' :: 'u' :: '\x7b' :: Integer.hexChars c.toNat ++ ['\x7d']

def quotedChars (text : List Char) : List Char := '"' :: text.flatMap escape ++ ['"']

def quoted (text : String) : String := String.ofList (quotedChars text.toList)

end HostAudit.Text
