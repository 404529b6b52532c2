import HostAudit.Json.Token

/-
This file reads JSON values from tokens and from text.
-/

namespace HostAudit.Json

mutual

/-- This reads one value; arrays and objects may nest `depth` deep. -/
def value? : Nat → Nat → List Token → Option (Value × List Token)
  | 0, _, _ => none
  | fuel + 1, depth, tokens =>
      match tokens, depth with
      | .null :: rest, _ => some (.null, rest)
      | .bool value :: rest, _ => some (.bool value, rest)
      | .number value :: rest, _ => some (.number value, rest)
      | .text value :: rest, _ => some (.text value, rest)
      | .openBracket :: .closeBracket :: rest, _ + 1 => some (.array [], rest)
      | .openBracket :: rest, depth + 1 =>
          (items? fuel depth rest).map fun (items, after) => (.array items, after)
      | .openBrace :: .closeBrace :: rest, _ + 1 => some (.object [], rest)
      | .openBrace :: rest, depth + 1 =>
          (members? fuel depth rest).map fun (members, after) => (.object members, after)
      | _, _ => none

/-- This reads items, at least one, and the bracket after them. -/
def items? : Nat → Nat → List Token → Option (List Value × List Token)
  | 0, _, _ => none
  | fuel + 1, depth, tokens => do
      let (item, rest) ← value? fuel depth tokens
      match rest with
      | .comma :: rest =>
          let (items, after) ← items? fuel depth rest
          pure (item :: items, after)
      | .closeBracket :: after => pure ([item], after)
      | _ => none

/-- This reads members, at least one, and the brace after them. -/
def members? : Nat → Nat → List Token → Option (List (String × Value) × List Token)
  | 0, _, _ => none
  | fuel + 1, depth, tokens =>
      match tokens with
      | .text name :: .colon :: rest => do
          let (value, rest) ← value? fuel depth rest
          match rest with
          | .comma :: rest =>
              let (members, after) ← members? fuel depth rest
              pure ((name, value) :: members, after)
          | .closeBrace :: after => pure ([(name, value)], after)
          | _ => none
      | _ => none

end

/-- Arrays and objects nest at most this deep. -/
def nestingLimit : Nat := 127

/-- The value that a token list spells, with nothing after it. -/
def ofTokens? (tokens : List Token) : Option Value :=
  match value? (tokens.length + 1) nestingLimit tokens with
  | some (value, []) => some value
  | _ => none

/-- The value that a text spells, its members in the order of the text. -/
def read? (text : String) : Option Value := (tokens? text.toList).bind ofTokens?

/-- A document keeps its members sorted by name, the last of equal names winning. -/
def readDocument? (text : String) : Option Value := (read? text).map Value.sorted

end HostAudit.Json
