import HostAudit.Json.Value

/-
This file cuts JSON text into tokens.
-/

namespace HostAudit.Json

inductive Token where
  | openBrace
  | closeBrace
  | openBracket
  | closeBracket
  | colon
  | comma
  | null
  | bool (value : Bool)
  | number (value : Number)
  | text (value : String)
deriving DecidableEq, Repr

/-- A significand of at most 64 bits, and the power of ten that the digits read so far leave. -/
structure Scan where
  significand : Nat
  exponent : Int
deriving Repr

/-- A digit joins the significand while it fits 64 bits. -/
def Scan.extended? (scan : Scan) (value : Nat) : Option Nat :=
  let next := scan.significand * 10 + value
  if next < 2 ^ 64 then some next else none

/-- Digits before the point: from the first that does not fit on, each one is a power of ten. -/
def Scan.whole (scan : Scan) : List Char → Scan
  | [] => scan
  | c :: rest =>
      match scan.extended? (c.toNat - '0'.toNat) with
      | some significand => Scan.whole { scan with significand } rest
      | none => { scan with exponent := scan.exponent + (rest.length + 1) }

/-- Digits after the point: from the first that does not fit on, all are dropped. -/
def Scan.fraction (scan : Scan) : List Char → Scan
  | [] => scan
  | c :: rest =>
      match scan.extended? (c.toNat - '0'.toNat) with
      | some significand => Scan.fraction ⟨significand, scan.exponent - 1⟩ rest
      | none => scan

/-- The power of ten as a binary64 value. -/
def powerOfTen (exponent : Nat) : Double := Double.ofNat (10 ^ exponent)

/-- This divides by powers of ten that are themselves binary64 values, the largest first. -/
def divideByPower : Nat → Double → Nat → Double
  | 0, value, _ => value
  | fuel + 1, value, power =>
      if power ≤ 308 then value.div (powerOfTen power)
      else if value.isZero then value
      else divideByPower fuel (value.div (powerOfTen 308)) (power - 308)

/-- The value of a scanned number: the significand is rounded first, then scaled by a rounded
power of ten. A number that is too large has none. -/
def Scan.toDouble? (negative : Bool) (scan : Scan) : Option Double :=
  let value := Double.ofNat scan.significand
  let scaled? : Option Double := match scan.exponent with
    | .ofNat power =>
        if 308 < power then if value.isZero then some value else none
        else
          let scaled := value.mul (powerOfTen power)
          if scaled.isFinite then some scaled else none
    | .negSucc below => some (divideByPower 8 value (below + 1))
  scaled?.map fun scaled => { scaled with negative }

/-- The value of a number from its sign, its digits before and after the point, and its exponent. -/
def Number.ofParts? (negative : Bool) (whole : List Char) (fraction : Option (List Char))
    (exponent : Option Int) : Option Number :=
  let scan := Scan.whole ⟨0, 0⟩ whole
  match fraction, exponent with
  | none, none =>
      if scan.exponent = 0 then
        let value : Int := if negative then -scan.significand else scan.significand
        if Number.fits value && !(negative && value == 0) then some (.integer value)
        else some (.double { Double.ofNat scan.significand with negative })
      else (scan.toDouble? negative).map .double
  | _, _ =>
      let scan := scan.fraction (fraction.getD [])
      let power := exponent.getD 0
      if 2 ^ 31 ≤ power.natAbs then
        if scan.significand = 0 ∨ power < 0 then some (.double (Double.zero negative)) else none
      else (Scan.toDouble? negative ⟨scan.significand, scan.exponent + power⟩).map .double

/-- This reads a point and the digits after it, at least one. -/
def takeFraction? : List Char → Option (Option (List Char) × List Char)
  | '.' :: rest =>
      let digits := rest.takeWhile Integer.isDigit
      if digits.isEmpty then none else some (some digits, rest.dropWhile Integer.isDigit)
  | rest => some (none, rest)

/-- This reads an exponent: a letter, an optional sign and at least one digit. -/
def takeExponent? : List Char → Option (Option Int × List Char)
  | [] => some (none, [])
  | c :: rest =>
      if c = 'e' ∨ c = 'E' then
        let (negative, rest) := Decimal.takeSign rest
        (Integer.natural? 10 (rest.takeWhile Integer.isDigit)).map fun value =>
          (some (if negative then -Int.ofNat value else value), rest.dropWhile Integer.isDigit)
      else some (none, c :: rest)

/-- This reads the digits before a point: a single zero, or digits that do not begin with one. -/
def takeWhole? (text : List Char) : Option (List Char × List Char) :=
  let digits := text.takeWhile Integer.isDigit
  if digits.isEmpty || (digits.head? == some '0' && 1 < digits.length) then none
  else some (digits, text.dropWhile Integer.isDigit)

def takeNumber? (text : List Char) : Option (Number × List Char) := do
  let (negative, rest) := match text with
    | '-' :: rest => (true, rest)
    | rest => (false, rest)
  let (whole, rest) ← takeWhole? rest
  let (fraction, rest) ← takeFraction? rest
  let (exponent, rest) ← takeExponent? rest
  let number ← Number.ofParts? negative whole fraction exponent
  pure (number, rest)

/-- A character of a string, or a 16-bit unit that an escape names. -/
inductive Piece where
  | char (value : Char)
  | unit (value : Nat)
deriving Repr

/-- The meaning of a one-letter escape. -/
def escaped? : Char → Option Char
  | '"' => some '"'
  | '\\' => some '\\'
  | '/' => some '/'
  | 'b' => some '\x08'
  | 'f' => some '\x0c'
  | 'n' => some '\n'
  | 'r' => some '\r'
  | 't' => some '\t'
  | _ => none

def unescape? : List Char → Option (List Piece)
  | [] => some []
  | '\\' :: 'u' :: a :: b :: c :: d :: rest => do
      let value ← Integer.natural? 16 [a, b, c, d]
      let pieces ← unescape? rest
      pure (.unit value :: pieces)
  | '\\' :: letter :: rest => do
      let c ← escaped? letter
      let pieces ← unescape? rest
      pure (.char c :: pieces)
  | c :: rest =>
      if c.val < 0x20 || c == '\\' then none else (unescape? rest).map (.char c :: ·)

/-- Two units make one character when the first is a high surrogate and the second a low one; a
surrogate that stands otherwise makes none. -/
def assemble? : List Piece → Option (List Char)
  | [] => some []
  | .char c :: rest => (assemble? rest).map (c :: ·)
  | .unit high :: .unit low :: rest =>
      if 0xD800 ≤ high ∧ high < 0xDC00 then
        if 0xDC00 ≤ low ∧ low < 0xE000 then
          (assemble? rest).map
            (Char.ofNat (0x10000 + (high - 0xD800) * 0x400 + (low - 0xDC00)) :: ·)
        else none
      else if 0xDC00 ≤ high ∧ high < 0xE000 then none
      else (assemble? (.unit low :: rest)).map (Char.ofNat high :: ·)
  | .unit value :: rest =>
      if 0xD800 ≤ value ∧ value < 0xE000 then none
      else (assemble? rest).map (Char.ofNat value :: ·)

/-- The characters up to the closing quote, as they are written, and what follows the quote. -/
def takeQuoted? : List Char → Option (List Char × List Char)
  | [] => none
  | '"' :: rest => some ([], rest)
  | '\\' :: c :: rest => (takeQuoted? rest).map fun (body, after) => ('\\' :: c :: body, after)
  | c :: rest => (takeQuoted? rest).map fun (body, after) => (c :: body, after)

/-- This reads a string whose opening quote has been read. -/
def takeText? (text : List Char) : Option (String × List Char) := do
  let (body, after) ← takeQuoted? text
  let pieces ← unescape? body
  let chars ← assemble? pieces
  pure (String.ofList chars, after)

/-- The blanks between tokens. -/
def isGap (c : Char) : Bool := c == ' ' || c == '\n' || c == '\t' || c == '\r'

/-- This reads one token at the start of the text. -/
def Token.take? : List Char → Option (Token × List Char)
  | '{' :: rest => some (.openBrace, rest)
  | '}' :: rest => some (.closeBrace, rest)
  | '[' :: rest => some (.openBracket, rest)
  | ']' :: rest => some (.closeBracket, rest)
  | ':' :: rest => some (.colon, rest)
  | ',' :: rest => some (.comma, rest)
  | '"' :: rest => (takeText? rest).map fun (value, after) => (.text value, after)
  | 'n' :: 'u' :: 'l' :: 'l' :: rest => some (.null, rest)
  | 't' :: 'r' :: 'u' :: 'e' :: rest => some (.bool true, rest)
  | 'f' :: 'a' :: 'l' :: 's' :: 'e' :: rest => some (.bool false, rest)
  | rest => (takeNumber? rest).map fun (value, after) => (.number value, after)

/-- The tokens of a text, at most `fuel` of them. -/
def tokensUpTo? : Nat → List Char → Option (List Token)
  | 0, text => if text.all isGap then some [] else none
  | fuel + 1, text =>
      match text.dropWhile isGap with
      | [] => some []
      | first :: others => do
          let (token, rest) ← Token.take? (first :: others)
          let tokens ← tokensUpTo? fuel rest
          pure (token :: tokens)

/-- The tokens of a text, each of which has at least one character. -/
def tokens? (text : List Char) : Option (List Token) := tokensUpTo? text.length text

end HostAudit.Json
