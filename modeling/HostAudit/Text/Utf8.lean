/-
This file reads bytes as UTF-8. A byte sequence falls into characters and malformed parts, where a
malformed part is as long as it could still have become a character. `text?` refuses malformed
parts and `replaced` puts a replacement character in the place of each.
-/

namespace HostAudit.Text.Utf8

/-- A character whose first bytes have been read: the bits so far, the bounds that the next byte
has to meet, and the number of bytes after that one. -/
structure Begun where
  bits : Nat
  low : Nat
  high : Nat
  further : Nat
deriving DecidableEq, Repr

/-- One byte completes a character (`some`) or a malformed part (`none`), or leaves one begun. -/
structure Step where
  completed : List (Option Char)
  begun : Option Begun
deriving DecidableEq, Repr

/-- The bounds of a second byte keep out long forms, surrogates and numbers above the last
character. -/
def first (byte : Nat) : Step :=
  if byte < 0x80 then ⟨[some (Char.ofNat byte)], none⟩
  else if byte < 0xC2 then ⟨[none], none⟩
  else if byte < 0xE0 then ⟨[], some ⟨byte - 0xC0, 0x80, 0xBF, 0⟩⟩
  else if byte = 0xE0 then ⟨[], some ⟨0, 0xA0, 0xBF, 1⟩⟩
  else if byte = 0xED then ⟨[], some ⟨0xD, 0x80, 0x9F, 1⟩⟩
  else if byte < 0xF0 then ⟨[], some ⟨byte - 0xE0, 0x80, 0xBF, 1⟩⟩
  else if byte = 0xF0 then ⟨[], some ⟨0, 0x90, 0xBF, 2⟩⟩
  else if byte < 0xF4 then ⟨[], some ⟨byte - 0xF0, 0x80, 0xBF, 2⟩⟩
  else if byte = 0xF4 then ⟨[], some ⟨4, 0x80, 0x8F, 2⟩⟩
  else ⟨[none], none⟩

/-- A byte that cannot continue what is begun ends it as malformed and begins anew. -/
def next : Option Begun → Nat → Step
  | none, byte => first byte
  | some begun, byte =>
      if begun.low ≤ byte ∧ byte ≤ begun.high then
        let bits := begun.bits * 64 + (byte - 0x80)
        match begun.further with
        | 0 => ⟨[some (Char.ofNat bits)], none⟩
        | further + 1 => ⟨[], some ⟨bits, 0x80, 0xBF, further⟩⟩
      else ⟨none :: (first byte).completed, (first byte).begun⟩

/-- The characters and the malformed parts of the bytes, in order. -/
def parts : Option Begun → List UInt8 → List (Option Char)
  | none, [] => []
  | some _, [] => [none]
  | begun, byte :: rest =>
      (next begun byte.toNat).completed ++ parts (next begun byte.toNat).begun rest

/-- The text that the bytes encode, if no part is malformed. -/
def text? (bytes : List UInt8) : Option String :=
  ((parts none bytes).mapM id).map String.ofList

def replaced (bytes : List UInt8) : String :=
  String.ofList ((parts none bytes).map (·.getD '\uFFFD'))

/-- The bytes of a text. -/
def bytes (text : String) : List UInt8 := text.toUTF8.toList

end HostAudit.Text.Utf8
