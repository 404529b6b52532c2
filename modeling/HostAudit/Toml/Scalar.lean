import HostAudit.Number.Decimal
import HostAudit.Text.Blank
import HostAudit.Text.Pieces
import HostAudit.Toml.Value

/-
This file reads numbers, truth values, dates and times.
-/

namespace HostAudit.Toml

/-- This reads a number of just so many digits, within bounds. -/
def takeDigits? (count least greatest : Nat) (text : List Char) : Option (Nat × List Char) := do
  let digits := text.take count
  if digits.length < count || !digits.all Integer.isDigit then none
  let value ← Integer.natural? 10 digits
  if least ≤ value && value ≤ greatest then some (value, text.drop count) else none

def daysOfMonth (year month : Nat) : Nat :=
  if month = 2 then
    if year % 4 = 0 ∧ (year % 100 ≠ 0 ∨ year % 400 = 0) then 29 else 28
  else if month = 4 ∨ month = 6 ∨ month = 9 ∨ month = 11 then 30
  else 31

/-- This reads a date, and gives it as text. -/
def takeDate? (text : List Char) : Option (List Char × List Char) := do
  let (year, rest) ← takeDigits? 4 0 9999 text
  let rest ← Text.after? ['-'] rest
  let (month, rest) ← takeDigits? 2 1 12 rest
  let rest ← Text.after? ['-'] rest
  let (day, rest) ← takeDigits? 2 1 (daysOfMonth year month) rest
  pure (Integer.padded 4 year ++ '-' :: Integer.padded 2 month ++ '-' :: Integer.padded 2 day, rest)

/-- This reads a fraction of a second, of which nine digits count. It has no zeros at its end. -/
def takeFraction (text : List Char) : List Char × List Char :=
  match text with
  | '.' :: rest =>
      let digits := rest.takeWhile Integer.isDigit
      if digits.isEmpty then ([], text)
      else
        let kept := Text.dropTrailing (· == '0') (digits.take 9)
        (if kept.isEmpty then [] else '.' :: kept, rest.dropWhile Integer.isDigit)
  | _ => ([], text)

def takeTime? (text : List Char) : Option (List Char × List Char) := do
  let (hour, rest) ← takeDigits? 2 0 23 text
  let rest ← Text.after? [':'] rest
  let (minute, rest) ← takeDigits? 2 0 59 rest
  let rest ← Text.after? [':'] rest
  let (second, rest) ← takeDigits? 2 0 60 rest
  let (fraction, rest) := takeFraction rest
  pure (Integer.padded 2 hour ++ ':' :: Integer.padded 2 minute ++ ':' ::
    Integer.padded 2 second ++ fraction, rest)

/-- This reads an offset from universal time. There may be none. -/
def takeOffset (text : List Char) : List Char × List Char :=
  let signed? (sign : Char) (rest : List Char) : Option (List Char × List Char) := do
    let (hour, rest) ← takeDigits? 2 0 23 rest
    let rest ← Text.after? [':'] rest
    let (minute, rest) ← takeDigits? 2 0 59 rest
    let sign := if hour = 0 ∧ minute = 0 then '+' else sign
    pure (sign :: Integer.padded 2 hour ++ ':' :: Integer.padded 2 minute, rest)
  match text with
  | [] => ([], [])
  | c :: rest =>
      if c = 'Z' ∨ c = 'z' then (['Z'], rest)
      else if c = '+' ∨ c = '-' then (signed? c rest).getD ([], text)
      else ([], text)

/-- This reads a date, a time, or both with an offset. -/
def takeMoment? (text : List Char) : Option (List Char × List Char) :=
  match takeDate? text with
  | none => takeTime? text
  | some (date, rest) =>
      let time? := match rest with
        | c :: after => if c = 'T' ∨ c = 't' ∨ c = ' ' then takeTime? after else none
        | [] => none
      match time? with
      | none => some (date, rest)
      | some (time, rest) =>
          let (offset, rest) := takeOffset rest
          some (date ++ 'T' :: time ++ offset, rest)

/-- This reads digits, between which single lines may stand. -/
def takeGroups? (isDigit : Char → Bool) : List Char → Option (List Char × List Char)
  | [] => none
  | c :: rest =>
      if isDigit c then
        match rest with
        | '_' :: after =>
            (takeGroups? isDigit after).map fun (more, after) => (c :: more, after)
        | after =>
            match takeGroups? isDigit after with
            | some (more, after) => some (c :: more, after)
            | none => some ([c], after)
      else none

def takeSign (text : List Char) : List Char × List Char :=
  match text with
  | '+' :: rest => (['+'], rest)
  | '-' :: rest => (['-'], rest)
  | _ => ([], text)

/-- This reads a decimal number with a sign, which does not begin with a needless zero. -/
def takeDecimal? (text : List Char) : Option (List Char × List Char) :=
  let (sign, rest) := takeSign text
  match rest with
  | '0' :: rest => some (sign ++ ['0'], rest)
  | _ => (takeGroups? Integer.isDigit rest).map fun (digits, after) => (sign ++ digits, after)

/-- This reads the exponent of a number. -/
def takeExponent? (text : List Char) : Option (List Char × List Char) :=
  match text with
  | c :: rest =>
      if c = 'e' ∨ c = 'E' then
        let (sign, rest) := takeSign rest
        (takeGroups? Integer.isDigit rest).map fun (digits, after) => ('e' :: sign ++ digits, after)
      else none
  | [] => none

/-- This reads a number with decimals or an exponent, or both. One that is too large is refused,
unless it is negative. -/
def takeFloat? (text : List Char) : Option (List Char × List Char) := do
  let (whole, rest) ← takeDecimal? text
  let (number, rest) ← match rest with
    | '.' :: rest => do
        let (decimals, rest) ← takeGroups? Integer.isDigit rest
        let (exponent, rest) := (takeExponent? rest).getD ([], rest)
        some (whole ++ '.' :: decimals ++ exponent, rest)
    | rest => (takeExponent? rest).map fun (exponent, rest) => (whole ++ exponent, rest)
  let value ← Decimal.readDouble? number
  if value = .infinity false then none else some (number, rest)

/-- This reads an infinity, or what is not a number. -/
def takeSpecial? (text : List Char) : Option (List Char × List Char) :=
  let (sign, rest) := takeSign text
  let word? (word : List Char) : Option (List Char × List Char) :=
    (Text.after? word rest).map fun after => (sign ++ word, after)
  word? ['i', 'n', 'f'] <|> word? ['n', 'a', 'n']

def isHex (c : Char) : Bool := (Integer.digit? 16 c).isSome

def isOctal (c : Char) : Bool := '0' ≤ c && c ≤ '7'

def isBinary (c : Char) : Bool := c == '0' || c == '1'

/-- This reads a whole number of 64 bits in a base that its mark names. -/
def takeBased? (text : List Char) : Option (List Char × List Char) :=
  let based? (base : Nat) (isDigit : Char → Bool) (rest : List Char) :
      Option (List Char × List Char) := do
    let (digits, after) ← takeGroups? isDigit rest
    let value ← Integer.int64? base digits
    pure (Integer.chars value, after)
  match text with
  | '0' :: 'x' :: rest => based? 16 isHex rest
  | '0' :: 'o' :: rest => based? 8 isOctal rest
  | '0' :: 'b' :: rest => based? 2 isBinary rest
  | _ => none

/-- This reads a whole number of 64 bits. -/
def takeInteger? (text : List Char) : Option (List Char × List Char) := do
  let (digits, after) ← takeDecimal? text
  let value ← Integer.int64? 10 digits
  pure (Integer.chars value, after)

def takeBool? (text : List Char) : Option (List Char × List Char) :=
  let word? (word : List Char) : Option (List Char × List Char) :=
    (Text.after? word text).map fun after => (word, after)
  word? ['t', 'r', 'u', 'e'] <|> word? ['f', 'a', 'l', 's', 'e']

/-- This reads a value that is not between marks. -/
def takeScalar? (text : List Char) : Option (Value × List Char) :=
  match takeMoment? text with
  | some (moment, rest) => some (.moment (String.ofList moment), rest)
  | none =>
      (takeBool? text <|> takeSpecial? text <|> takeFloat? text <|> takeBased? text <|>
        takeInteger? text).map fun (literal, rest) => (.literal (String.ofList literal), rest)

end HostAudit.Toml
