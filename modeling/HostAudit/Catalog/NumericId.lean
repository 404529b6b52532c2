import HostAudit.Number.Integer
import HostAudit.Text.Pieces

/-
This file puts numbers that serve as ids between quotes, so that they keep the form in which they
are written.
-/

namespace HostAudit.NumericId

/-- A blank within a line. -/
def isGap (c : Char) : Bool := c == ' ' || c == '\t'

/-- This divides a text after its leading blanks. -/
def takeGap (text : List Char) : List Char × List Char :=
  (text.takeWhile isGap, text.dropWhile isGap)

/-- The mark of a list item, with at least one blank after it. There may be none. -/
def takeDash (text : List Char) : List Char × List Char :=
  match text with
  | '-' :: rest =>
      match takeGap rest with
      | ([], _) => ([], text)
      | (gap, after) => ('-' :: gap, after)
  | _ => ([], text)

/-- Digits in groups with points between them. -/
def isNumber (text : List Char) : Bool :=
  (Text.splitAt '.' text).all fun part => !part.isEmpty && part.all Integer.isDigit

/-- What may follow a number up to the end of its line: blanks, a comment and a carriage return. -/
def endsLine (text : List Char) : Bool :=
  let rest := text.dropWhile isGap
  let rest := if rest.head? = some '#' then rest.dropWhile (· ≠ '\r') else rest
  rest.isEmpty || rest == ['\r']

def isNumeral (c : Char) : Bool := Integer.isDigit c || c == '.'

/-- The text of a line before an id that is a number, the number, and the text after it. -/
def divide? (line : List Char) : Option (List Char × List Char × List Char) := do
  let (indent, rest) := takeGap line
  let (dash, rest) := takeDash rest
  let rest ← Text.after? ['i', 'd', ':'] rest
  let (gap, rest) := takeGap rest
  let number := rest.takeWhile isNumeral
  let rest := rest.dropWhile isNumeral
  if isNumber number && endsLine rest then
    some (indent ++ dash ++ ['i', 'd', ':'] ++ gap, number, rest)
  else none

/-- A line with its id between quotes, if that is a number. -/
def quoteLine (line : List Char) : List Char :=
  match divide? line with
  | some (before, number, after) => before ++ '"' :: number ++ '"' :: after
  | none => line

/-- A text with all such ids between quotes. -/
def quote (text : List Char) : List Char :=
  Text.join ['\n'] ((Text.splitAt '\n' text).map quoteLine)

end HostAudit.NumericId
