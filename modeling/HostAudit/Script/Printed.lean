import HostAudit.Number.Decimal
import HostAudit.Script.Arithmetic

/-
This file holds what `echo` and `printf` print: escapes, and values laid out by a format.
-/

namespace HostAudit.Script

namespace Printed

def isOctal (c : Char) : Bool := '0' ≤ c && c ≤ '7'

/-- The octet behind a backslash, and what follows it. A letter that has no meaning leaves the
backslash standing. -/
def escape (text : List Char) : Char × List Char :=
  let octal := (text.take 3).takeWhile isOctal
  if !octal.isEmpty then
    (Char.ofNat (((Integer.natural? 8 octal).getD 0) % 256), text.drop octal.length)
  else match text with
    | '\\' :: rest => ('\\', rest)
    | 'a' :: rest => ('\x07', rest)
    | 'b' :: rest => ('\x08', rest)
    | 'e' :: rest => ('\x1b', rest)
    | 'f' :: rest => ('\x0c', rest)
    | 'n' :: rest => ('\n', rest)
    | 'r' :: rest => ('\r', rest)
    | 't' :: rest => ('\t', rest)
    | 'v' :: rest => ('\x0b', rest)
    | rest => ('\\', rest)

/-- A text with its escapes carried out, and whether one of them ends all printing. -/
def escaped : Nat → List Char → List Char × Bool
  | 0, _ => ([], false)
  | _ + 1, [] => ([], false)
  | _ + 1, '\\' :: 'c' :: _ => ([], true)
  | fuel + 1, '\\' :: rest =>
      let rest := match rest with
        | '0' :: c :: more => if isOctal c then c :: more else rest
        | _ => rest
      let (c, rest) := escape rest
      let (more, ended) := escaped fuel rest
      (c :: more, ended)
  | fuel + 1, c :: rest =>
      let (more, ended) := escaped fuel rest
      (c :: more, ended)

/-- The words with a blank between them. -/
def spaced : List (List Char) → List Char
  | [] => []
  | [word] => word
  | word :: rest => word ++ ' ' :: spaced rest

/-- What the program `echo` prints: it carries out escapes only when it is asked to. -/
def plainEcho (arguments : List (List Char)) : List Char :=
  let isOption (word : List Char) : Bool :=
    word.head? == some '-' && 1 < word.length && (word.drop 1).all "neE".toList.contains
  let words := arguments.dropWhile isOption
  let letters := (arguments.takeWhile isOption).flatten
  let text := spaced words
  let escapes := (letters.reverse.find? fun c => c == 'e' || c == 'E') == some 'e'
  let (shown, ended) := if escapes then escaped (text.length + 1) text else (text, false)
  if letters.contains 'n' || ended then shown else shown ++ ['\n']

/-- What the command `echo` of a shell prints. -/
def echo (arguments : List (List Char)) : List Char :=
  let (silent, words) := match arguments with
    | ['-', 'n'] :: rest => (true, rest)
    | words => (false, words)
  let text := spaced words
  let (shown, ended) := escaped (text.length + 1) text
  if silent || ended then shown else shown ++ ['\n']

/-- How a value is laid out. -/
structure Layout where
  left : Bool
  zeros : Bool
  sign : Option Char
  alternate : Bool
  width : Nat
  precision : Option Nat

def pad (layout : Layout) (text : List Char) : List Char :=
  let fill := List.replicate (layout.width - text.length) ' '
  if layout.left then text ++ fill else fill ++ text

/-- This lays out a number: its sign, zeros up to the precision or the width, and its digits. -/
def number (layout : Layout) (lead : List Char) (digits : List Char) : List Char :=
  let digits := match layout.precision with
    | some precision => List.replicate (precision - digits.length) '0' ++ digits
    | none =>
        if layout.zeros && !layout.left then
          List.replicate (layout.width - lead.length - digits.length) '0' ++ digits
        else digits
  pad layout (lead ++ digits)

/-- The numbers that a conversion can take. -/
structure Range where
  least : Int
  greatest : Int
  /-- What is taken for a number below the least. -/
  below : Int

def signedRange : Range := ⟨-2 ^ 63, 2 ^ 63 - 1, -2 ^ 63⟩

/-- Without a sign, a negative number stands for the one that agrees with it in 64 bits. -/
def unsignedRange : Range := ⟨-(2 ^ 64 - 1), 2 ^ 64 - 1, 2 ^ 64 - 1⟩

/-- The number that an argument writes, and a complaint if it does not write one throughout. -/
def integer (range : Range) (argument : List Char) : Int × List (List Char) :=
  match argument with
  | [] => (0, [])
  | '"' :: rest | '\'' :: rest => (rest.head?.elim 0 fun c => c.toNat, [])
  | _ =>
      let text := argument.dropWhile Char.isWhitespace
      let (negative, digits) := match text with
        | '-' :: rest => (true, rest)
        | '+' :: rest => (false, rest)
        | rest => (false, rest)
      let (body, value?) := match digits with
        | '0' :: 'x' :: rest | '0' :: 'X' :: rest =>
            let run := rest.takeWhile fun c => (Integer.digit? 16 c).isSome
            (run.length + 2, Integer.natural? 16 run)
        | '0' :: rest =>
            let run := rest.takeWhile isOctal
            (run.length + 1, some ((Integer.natural? 8 run).getD 0))
        | _ =>
            let run := digits.takeWhile Char.isDigit
            (run.length, Integer.natural? 10 run)
      let magnitude : Int := value?.getD 0
      let value := if negative then -magnitude else magnitude
      let complaint :=
        if value?.isNone && body < 2 then [argument ++ ": expected numeric value".toList]
        else if value?.isNone || body < digits.length then
          [argument ++ ": not completely converted".toList]
        else if value < range.least || range.greatest < value then
          [argument ++ ": Numerical result out of range".toList]
        else []
      (if value < range.least then range.below else min value range.greatest, complaint)

/-- The double that an argument writes, and a complaint if it does not write one throughout. -/
def double (argument : List Char) : Double × List (List Char) :=
  let text := argument.dropWhile Char.isWhitespace
  let read? (size : Nat) : Option (Double × Nat) :=
    (Decimal.readDouble? (text.take size)).map fun value => (value, size)
  if argument.isEmpty then (Double.zero false, [])
  else match (List.range (text.length + 1)).reverse.findSome? read? with
    | none => (Double.zero false, [argument ++ ": expected numeric value".toList])
    | some (value, size) =>
        (value, if size < text.length then [argument ++ ": not completely converted".toList]
          else [])

/-- This lays out a double with a number of decimals. -/
def fixedPoint (layout : Layout) (value : Double) : List Char :=
  let sign := if value.negative then ['-'] else layout.sign.toList
  let places := layout.precision.getD 6
  let magnitude := { value with negative := false }
  let plain := { layout with precision := none }
  if value.isNaN then pad layout (sign ++ "nan".toList)
  else if !value.isFinite then pad layout (sign ++ "inf".toList)
  else
    let digits := (magnitude.fixedText places).toList
    number plain sign (if places = 0 && !layout.alternate then digits.dropLast else digits)

/-- What printing has come to: the text, the complaints, the arguments that are left, whether it is
over, and whether the format is to blame for this. -/
structure Progress where
  text : List Char
  complaints : List (List Char)
  arguments : List (List Char)
  ended : Bool
  broken : Bool

def Progress.next (progress : Progress) : List Char × Progress :=
  (progress.arguments.headD [], { progress with arguments := progress.arguments.drop 1 })

def Progress.put (progress : Progress) (text : List Char) : Progress :=
  { progress with text := progress.text ++ text }

/-- A format that cannot be read ends all printing. -/
def Progress.reject (progress : Progress) (complaint : List Char) : Progress :=
  { progress with
    complaints := progress.complaints ++ [complaint], ended := true, broken := true }

/-- The flags of a conversion. -/
def flags (layout : Layout) : List Char → Layout × List Char
  | '-' :: rest => flags { layout with left := true } rest
  | '0' :: rest => flags { layout with zeros := true } rest
  | '+' :: rest => flags { layout with sign := some '+' } rest
  | ' ' :: rest => flags { layout with sign := layout.sign.or (some ' ') } rest
  | '#' :: rest => flags { layout with alternate := true } rest
  | rest => (layout, rest)

/-- A count that stands in the format or, for a star, in the next argument. -/
def count (format : List Char) (progress : Progress) : Option Int × List Char × Progress :=
  match format with
  | '*' :: rest =>
      let (argument, progress) := progress.next
      (some (integer signedRange argument).1, rest, progress)
  | _ =>
      let digits := format.takeWhile Char.isDigit
      ((Integer.natural? 10 digits).map Int.ofNat, format.drop digits.length, progress)

def unsigned (value : Int) : Nat := (value % 2 ^ 64).toNat

/-- This prints one value by its conversion letter. -/
def conversion (layout : Layout) (letter : Char) (progress : Progress) : Progress :=
  let (argument, after) := progress.next
  let cut (text : List Char) : List Char := layout.precision.elim text text.take
  let based (base : Nat) (lead : List Char) : Progress :=
    let (value, complaints) := integer unsignedRange argument
    let digits := Nat.toDigits base (unsigned value)
    let lead := if layout.alternate && value ≠ 0 then lead else []
    { after.put (number layout lead digits) with complaints := after.complaints ++ complaints }
  match letter with
  | 's' => after.put (pad layout (cut argument))
  | 'c' => after.put (pad layout [argument.headD '\x00'])
  | 'b' =>
      let (text, ended) := escaped (argument.length + 1) argument
      { after.put (pad layout (cut text)) with ended := ended }
  | 'd' | 'i' =>
      let (value, complaints) := integer signedRange argument
      let sign := if value < 0 then ['-'] else layout.sign.toList
      { after.put (number layout sign (Integer.naturalChars value.natAbs)) with
        complaints := after.complaints ++ complaints }
  | 'u' => based 10 []
  | 'o' => based 8 ['0']
  | 'x' => based 16 ['0', 'x']
  | 'X' =>
      let shown := based 16 ['0', 'X']
      let added := shown.text.drop progress.text.length
      { shown with text := progress.text ++ added.map Char.toUpper }
  | 'f' | 'F' =>
      let (value, complaints) := double argument
      { after.put (fixedPoint layout value) with complaints := after.complaints ++ complaints }
  | c => progress.reject (['%', c] ++ ": invalid directive".toList)

/-- This goes through a format once. -/
def formatted : Nat → List Char → Progress → Progress
  | 0, _, progress => progress
  | _ + 1, [], progress => progress
  | fuel + 1, c :: rest, progress =>
      if progress.ended then progress
      else match c, rest with
        | '\\', _ =>
            let (octet, rest) := escape rest
            formatted fuel rest (progress.put [octet])
        | '%', '%' :: rest => formatted fuel rest (progress.put ['%'])
        | '%', _ =>
            let (layout, rest) := flags ⟨false, false, none, false, 0, none⟩ rest
            let (width, rest, progress) := count rest progress
            let layout := { layout with
              width := (width.getD 0).natAbs, left := layout.left || width.getD 0 < 0 }
            let (layout, rest, progress) := match rest with
              | '.' :: rest =>
                  let (precision, rest, progress) := count rest progress
                  ({ layout with precision := some (precision.getD 0).toNat }, rest, progress)
              | _ => (layout, rest, progress)
            match rest with
            | letter :: rest => formatted fuel rest (conversion layout letter progress)
            | [] => progress.reject "missing format character".toList
        | c, _ => formatted fuel rest (progress.put [c])

/-- A format is used again as long as it takes arguments and some are left. -/
def repeated (format : List Char) : Nat → Progress → Progress
  | 0, progress => progress
  | fuel + 1, progress =>
      let after := formatted (format.length + 1) format progress
      if after.ended || after.arguments.isEmpty ||
          after.arguments.length = progress.arguments.length then after
      else repeated format fuel after

/-- What `printf` comes to. -/
def printf (format : List Char) (arguments : List (List Char)) : Progress :=
  repeated format (arguments.length + 1) ⟨[], [], arguments, false, false⟩

def Progress.status (progress : Progress) : Nat :=
  if progress.broken then 2 else if progress.complaints.isEmpty then 0 else 1

end Printed

end HostAudit.Script
