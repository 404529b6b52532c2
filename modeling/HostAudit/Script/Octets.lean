import HostAudit.Number.Integer
import HostAudit.Text.Pieces
import HostAudit.Text.Utf8

/-
This file turns strings into octets and back, and octets into lines.
-/

namespace HostAudit.Script

/-- The octets of a text in UTF-8. -/
def octets (text : String) : List Char :=
  (Text.Utf8.bytes text).map fun byte => Char.ofNat byte.toNat

def bytesOf (text : List Char) : List UInt8 := text.map fun c => UInt8.ofNat c.toNat

def ofBytes (bytes : List UInt8) : List Char := bytes.map fun byte => Char.ofNat byte.toNat

/-- The text that octets encode, with a replacement for each malformed part. -/
def textOf (text : List Char) : String := Text.Utf8.replaced (bytesOf text)

/-- The lines of a text; a last line needs no line end. -/
def linesOf (text : List Char) : List (List Char) :=
  if text.isEmpty then []
  else
    let lines := Text.splitAt '\n' text
    if lines.getLast? = some [] then lines.dropLast else lines

/-- Each line with its line end. -/
def ended (lines : List (List Char)) : List Char := lines.flatMap (· ++ ['\n'])

/-- What a program prints, what it complains about, and the status that it ends with. -/
structure Answer where
  output : List Char
  errors : List Char
  status : Nat

namespace Answer

def success (output : List Char) : Answer := ⟨output, [], 0⟩

def failure (status : Nat) (message : String) : Answer := ⟨[], octets message ++ ['\n'], status⟩

/-- Two answers, one after the other; the status is the greater one. -/
def andThen (first second : Answer) : Answer :=
  ⟨first.output ++ second.output, first.errors ++ second.errors, max first.status second.status⟩

end Answer

/-- The options and the other words of a program. An option that takes a value finds it behind its
letter or in the next word. -/
def options (valued : List Char) : Nat → List (List Char) →
    List (Char × List Char) × List (List Char)
  | 0, words => ([], words)
  | _ + 1, [] => ([], [])
  | _ + 1, ['-', '-'] :: rest => ([], rest)
  | fuel + 1, ('-' :: letter :: more) :: rest =>
      if valued.contains letter then
        if more.isEmpty then
          let (found, others) := options valued fuel (rest.drop 1)
          ((letter, rest.headD []) :: found, others)
        else
          let (found, others) := options valued fuel rest
          ((letter, more) :: found, others)
      else
        let (found, others) :=
          options valued fuel (if more.isEmpty then rest else ('-' :: more) :: rest)
        ((letter, []) :: found, others)
  | fuel + 1, word :: rest =>
      let (found, others) := options valued fuel rest
      (found, word :: others)

/-- The options of all words. -/
def optionsOf (valued : String) (words : List (List Char)) :
    List (Char × List Char) × List (List Char) :=
  options valued.toList (Integer.total (words.map List.length) + words.length + 1) words

end HostAudit.Script
