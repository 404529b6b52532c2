import HostAudit.Pattern.Syntax

/-
This file reads patterns from their text. A text that spells no pattern has no reading.
-/

namespace HostAudit.Pattern

/-- The modes that a pattern switches on and off as it is read. -/
structure Modes where
  ignoreCase : Bool := false
  multiLine : Bool := false
  dotAll : Bool := false
  swapGreed : Bool := false
  unicode : Bool := true
  carriage : Bool := false
  verbose : Bool := false
deriving Repr

/-- A part of a pattern: how deep its syntax nests, and whether a repetition may follow it. -/
structure Item where
  pattern : Pattern
  depth : Nat := 0
  repeatable : Bool := true
deriving Repr

/-- What an escape or a plain character stands for. A byte is a character that is written by two
hexadecimal digits. -/
inductive Atom where
  | literal (c : Char) (byte : Bool)
  | set (set : Class)
  | look (anchor : Anchor)
deriving Repr

/-- This drops blanks, and comments that start with a hash, when the mode is verbose. -/
def skipGap : Nat → List Char → List Char
  | 0, text => text
  | fuel + 1, text =>
      match text with
      | '#' :: rest => skipGap fuel ((rest.dropWhile (· != '\n')).drop 1)
      | c :: rest => if Text.isBlank c then skipGap fuel rest else c :: rest
      | [] => []

def Modes.skip (modes : Modes) (text : List Char) : List Char :=
  if modes.verbose then skipGap text.length text else text

/-- The class of characters, with both cases when the mode ignores case. -/
def Modes.fold (modes : Modes) (set : Class) : Class :=
  if !modes.ignoreCase then set
  else if modes.unicode then .folded set
  else .asciiFolded set

def Modes.word (modes : Modes) : Class := if modes.unicode then Class.word else Class.asciiWord

/-- Outside the Unicode modes a class may hold ASCII characters only. -/
def Modes.allows (modes : Modes) (set : Class) : Bool :=
  modes.unicode || (List.range 128).all fun code => !set.containsCode (code + 128)

def isHexDigit (c : Char) : Bool := (Integer.digit? 16 c).isSome

/-- The character with a code, unless the code is a surrogate or too large. -/
def charOf? (code : Nat) : Option Char :=
  if code.isValidChar then some (Char.ofNat code) else none

/-- This reads `count` hexadecimal digits, between which a verbose mode has gaps. -/
def hexDigits? (modes : Modes) : Nat → List Char → Option (List Char × List Char)
  | 0, rest => some ([], rest)
  | count + 1, c :: rest =>
      if isHexDigit c then
        (hexDigits? modes count (modes.skip rest)).map fun (digits, rest) => (c :: digits, rest)
      else none
  | _ + 1, [] => none

/-- This reads hexadecimal digits up to a closing brace. -/
def bracedDigits? (modes : Modes) : Nat → List Char → Option (List Char × List Char)
  | 0, _ => none
  | fuel + 1, text =>
      match modes.skip text with
      | '}' :: rest => some ([], modes.skip rest)
      | c :: rest =>
          if isHexDigit c then
            (bracedDigits? modes fuel rest).map fun (digits, rest) => (c :: digits, rest)
          else none
      | [] => none

/-- This reads a character that is given by its code, after the letter of the escape. -/
def code? (modes : Modes) (width : Nat) (text : List Char) : Option (Atom × List Char) := do
  match modes.skip text with
  | '{' :: rest =>
      let (digits, rest) ← bracedDigits? modes (rest.length + 1) rest
      let c ← (Integer.natural? 16 digits).bind charOf?
      pure (.literal c false, rest)
  | rest =>
      let (digits, rest) ← hexDigits? modes width rest
      let c ← (Integer.natural? 16 digits).bind charOf?
      pure (.literal c (width == 2), rest)

/-- This reads the name of a property up to a closing brace. -/
def propertyName? (modes : Modes) : Nat → List Char → Option (List Char × List Char)
  | 0, _ => none
  | fuel + 1, text =>
      match modes.skip text with
      | '}' :: rest => some ([], rest)
      | c :: rest => (propertyName? modes fuel rest).map fun (name, rest) => (c :: name, rest)
      | [] => none

/-- The class of a property, whose name may be followed by a value. -/
def namedProperty? (name : List Char) : Option Class :=
  match Text.breakOn ['!', '='] name with
  | some (before, after) => (Class.valued? before after).map .not
  | none =>
      match Text.breakOn [':'] name with
      | some (before, after) => Class.valued? before after
      | none =>
          match Text.breakOn ['='] name with
          | some (before, after) => Class.valued? before after
          | none => Class.property? name

/-- This reads a property class after its letter. -/
def propertyClass? (modes : Modes) (negated : Bool) (text : List Char) :
    Option (Atom × List Char) := do
  if !modes.unicode then none
  let (set, rest) ← match modes.skip text with
    | '{' :: rest => do
        let (name, rest) ← propertyName? modes (rest.length + 1) rest
        pure (← namedProperty? name, rest)
    | '\\' :: _ => none
    | c :: rest => do pure (← Class.property? [c], modes.skip rest)
    | [] => none
  let set := modes.fold set
  pure (.set (if negated then .not set else set), rest)

/-- The characters that may stand escaped for themselves: ASCII, but no letters, digits or
angles. -/
def standsForItself (c : Char) : Bool :=
  c.val < 0x80 && !c.isAlphanum && c != '<' && c != '>'

/-- This reads the letters of a special word edge and the brace after them. -/
def edgeName? (modes : Modes) : Nat → List Char → Option (List Char × List Char)
  | 0, _ => none
  | fuel + 1, text =>
      match text with
      | '}' :: rest => some ([], rest)
      | c :: rest =>
          if c.isAlpha || c == '-' then
            (edgeName? modes fuel (modes.skip rest)).map fun (name, rest) => (c :: name, rest)
          else none
      | [] => none

/-- This reads a word edge, after its letter; a brace with a name in it makes it a special one. -/
def wordEdge? (modes : Modes) (text : List Char) : Option (Atom × List Char) :=
  match text with
  | '{' :: inner =>
      match modes.skip inner with
      | [] => none
      | c :: rest =>
          if c.isAlpha || c == '-' then do
            let (name, rest) ← edgeName? modes (rest.length + 2) (c :: rest)
            let anchor ← match String.ofList name with
              | "start" => some (Anchor.wordStart modes.word)
              | "end" => some (.wordEnd modes.word)
              | "start-half" => some (.wordStartHalf modes.word)
              | "end-half" => some (.wordEndHalf modes.word)
              | _ => none
            pure (.look anchor, rest)
          else some (.look (.wordEdge modes.word), text)
  | _ => some (.look (.wordEdge modes.word), text)

/-- The class of a letter such as `d`, in the words of the modes. -/
def letterClass? (modes : Modes) : Char → Option Class
  | 'd' => some (if modes.unicode then Class.digit else Class.asciiDigit)
  | 's' => some (if modes.unicode then Class.blank else Class.asciiBlank)
  | 'w' => some modes.word
  | _ => none

/-- This reads an escape, after its backslash. -/
def escape? (modes : Modes) : List Char → Option (Atom × List Char)
  | [] => none
  | 'x' :: rest => code? modes 2 rest
  | 'u' :: rest => code? modes 4 rest
  | 'U' :: rest => code? modes 8 rest
  | 'p' :: rest => propertyClass? modes false rest
  | 'P' :: rest => propertyClass? modes true rest
  | 'b' :: rest => wordEdge? modes rest
  | 'B' :: rest => some (.look (.wordInside modes.word), rest)
  | '<' :: rest => some (.look (.wordStart modes.word), rest)
  | '>' :: rest => some (.look (.wordEnd modes.word), rest)
  | 'A' :: rest => some (.look .textStart, rest)
  | 'z' :: rest => some (.look .textEnd, rest)
  | 'a' :: rest => some (.literal '\x07' false, rest)
  | 'f' :: rest => some (.literal '\x0c' false, rest)
  | 't' :: rest => some (.literal '\t' false, rest)
  | 'n' :: rest => some (.literal '\n' false, rest)
  | 'r' :: rest => some (.literal '\r' false, rest)
  | 'v' :: rest => some (.literal '\x0b' false, rest)
  | c :: rest =>
      match letterClass? modes c with
      | some set => some (.set set, rest)
      | none =>
          match letterClass? modes c.toLower with
          | some set => some (.set (.not set), rest)
          | none => if standsForItself c then some (.literal c false, rest) else none

/-- The operators between the parts of a bracketed class. -/
inductive SetOperator where
  | and
  | without
  | either
deriving Repr

/-- A part of a bracketed class and how deep it nests. -/
structure SetItem where
  set : Class
  depth : Nat
deriving Repr

/-- The union of the items, the last one first. -/
def SetItem.union : List SetItem → SetItem
  | [] => ⟨.none, 0⟩
  | [item] => item
  | item :: rest =>
      let items := item :: rest
      ⟨items.foldl (fun set item => .or item.set set) .none,
        1 + (items.map SetItem.depth).foldl max 0⟩

def SetOperator.apply (modes : Modes) (left : Option (SetOperator × SetItem)) (right : SetItem) :
    SetItem :=
  match left with
  | none => right
  | some (operator, left) =>
      let first := modes.fold left.set
      let second := modes.fold right.set
      let set : Class := match operator with
        | and => .and first second
        | without => .without first second
        | either => .either first second
      ⟨set, 1 + max left.depth right.depth⟩

/-- This reads a class of ASCII characters by name, after its first bracket. -/
def asciiClass? : List Char → Option (Class × List Char)
  | ':' :: text =>
      let (negated, text) := match text with
        | '^' :: rest => (true, rest)
        | rest => (false, rest)
      let name := text.takeWhile (· != ':')
      match text.dropWhile (· != ':'), Class.ascii? (String.ofList name) with
      | ':' :: ']' :: rest, some set => some (if negated then .not set else set, rest)
      | _, _ => none
  | _ => none

/-- This reads a single member of a bracketed class. -/
def setAtom? (modes : Modes) : List Char → Option (Atom × List Char)
  | [] => none
  | '\\' :: rest => escape? modes rest
  | c :: rest => some (.literal c false, rest)

/-- The code of a character in a class: outside the Unicode modes only ASCII characters and bytes
have one. -/
def setCode? (modes : Modes) : Atom → Option Nat
  | .literal c byte => if modes.unicode || byte || c.val < 0x80 then some c.toNat else none
  | _ => none

/-- This reads a member of a bracketed class, which may be a range. A hyphen before the closing
bracket or before another hyphen makes none. -/
def setRange? (modes : Modes) (text : List Char) : Option (Class × List Char) := do
  let (first, rest) ← setAtom? modes text
  let rest := modes.skip rest
  let isRange := match rest with
    | '-' :: more => match modes.skip more with
      | ']' :: _ => false
      | '-' :: _ => false
      | _ => true
    | _ => false
  if isRange then
    let (last, rest) ← setAtom? modes (modes.skip (rest.drop 1))
    let low ← setCode? modes first
    let high ← setCode? modes last
    if low ≤ high then pure (.range low high, rest) else none
  else match first with
    | .set set => pure (set, rest)
    | .look _ => none
    | literal => do
        let code ← setCode? modes literal
        pure (.range code code, rest)

/-- This drops leading hyphens of a class and counts them. -/
def leadingHyphens (modes : Modes) : Nat → List Char → Nat × List Char
  | 0, text => (0, text)
  | fuel + 1, '-' :: rest =>
      let (count, rest) := leadingHyphens modes fuel (modes.skip rest)
      (count + 1, rest)
  | _ + 1, text => (0, text)

/-- This reads the start of a bracketed class: a caret that negates, and hyphens or a bracket that
stand for themselves there. -/
def openSet (modes : Modes) (text : List Char) : Bool × List SetItem × List Char :=
  let text := modes.skip text
  let (negated, text) := match text with
    | '^' :: rest => (true, modes.skip rest)
    | rest => (false, rest)
  let (hyphens, text) := leadingHyphens modes text.length text
  let items := List.replicate hyphens ⟨.single '-', 0⟩
  match items, text with
  | [], ']' :: rest => (negated, [⟨.single ']', 0⟩], modes.skip rest)
  | _, _ => (negated, items, text)

/-- This reads a bracketed class after its opening. -/
def set? (modes : Modes) : Nat → Bool → Option (SetOperator × SetItem) → List SetItem → List Char →
    Option (SetItem × List Char)
  | 0, _, _, _, _ => none
  | fuel + 1, negated, left, items, text =>
      let operate (operator : SetOperator) (rest : List Char) :=
        set? modes fuel negated
          (some (operator, SetOperator.apply modes left (SetItem.union items))) [] rest
      match modes.skip text with
      | [] => none
      | '[' :: rest =>
          match asciiClass? rest with
          | some (set, rest) => set? modes fuel negated left (⟨modes.fold set, 0⟩ :: items) rest
          | none => do
              let (innerNegated, innerItems, rest) := openSet modes rest
              let (inner, rest) ← set? modes fuel innerNegated none innerItems rest
              set? modes fuel negated left (inner :: items) rest
      | ']' :: rest =>
          let whole := SetOperator.apply modes left (SetItem.union items)
          let set := modes.fold whole.set
          some (⟨if negated then .not set else set, whole.depth + 1⟩, rest)
      | '&' :: '&' :: rest => operate .and rest
      | '-' :: '-' :: rest => operate .without rest
      | '~' :: '~' :: rest => operate .either rest
      | text => do
          let (set, rest) ← setRange? modes text
          set? modes fuel negated left (⟨set, 0⟩ :: items) rest

/-- This reads a bracketed class after its first bracket. -/
def bracketed? (modes : Modes) (text : List Char) : Option (Item × List Char) := do
  let (negated, items, rest) := openSet modes text
  let (item, rest) ← set? modes (rest.length + 1) negated none items rest
  if modes.allows item.set then pure (⟨.one item.set, item.depth, true⟩, rest) else none

/-- This sets one mode by its letter. -/
def Modes.set? (modes : Modes) (value : Bool) : Char → Option Modes
  | 'i' => some { modes with ignoreCase := value }
  | 'm' => some { modes with multiLine := value }
  | 's' => some { modes with dotAll := value }
  | 'U' => some { modes with swapGreed := value }
  | 'u' => some { modes with unicode := value }
  | 'R' => some { modes with carriage := value }
  | 'x' => some { modes with verbose := value }
  | _ => none

/-- This reads the letters that switch modes, no letter twice and at most one hyphen, after which
letters switch off. The answer begins at the colon or parenthesis that ends them. -/
def modes? (modes : Modes) (seen : List Char) : List Char → Option (Modes × List Char × List Char)
  | [] => none
  | c :: rest =>
      if c = ':' ∨ c = ')' then
        if seen.head? = some '-' then none else some (modes, seen, c :: rest)
      else if seen.contains c then none
      else if c = '-' then modes? modes ('-' :: seen) rest
      else match modes.set? (!seen.contains '-') c with
        | some modes => modes? modes (c :: seen) rest
        | none => none

/-- A letter of some script, or a character that letters are made of. -/
def isLetter (c : Char) : Bool := ((Unicode.property? "alphabetic").getD []).contains c.toNat

def isNumeric (c : Char) : Bool := ((Unicode.category? "n").getD []).contains c.toNat

/-- A name begins with a letter or a line; digits, points and brackets may follow. -/
def isNameStart (c : Char) : Bool := c == '_' || isLetter c

def isNamePart (c : Char) : Bool :=
  c == '_' || c == '.' || c == '[' || c == ']' || isLetter c || isNumeric c

/-- This reads the name of a group, up to a closing angle. -/
def groupName? (names : List (List Char)) (text : List Char) :
    Option (List Char × List Char) :=
  let name := text.takeWhile (· != '>')
  match name, text.dropWhile (· != '>') with
  | first :: others, '>' :: rest =>
      if isNameStart first && others.all isNamePart && !names.contains name then some (name, rest)
      else none
  | _, _ => none

/-- What an opening parenthesis begins: a group in some modes, perhaps with a name, or a switch of
modes that lasts to the end of the surrounding group. -/
inductive Opening where
  | group (modes : Modes) (name : Option (List Char))
  | switch (modes : Modes)
deriving Repr

/-- This reads what follows an opening parenthesis. Conditions on what stands around are refused. -/
def opening? (modes : Modes) (names : List (List Char)) (text : List Char) :
    Option (Opening × List Char) :=
  match modes.skip text with
  | '?' :: '=' :: _ => none
  | '?' :: '!' :: _ => none
  | '?' :: '<' :: '=' :: _ => none
  | '?' :: '<' :: '!' :: _ => none
  | '?' :: 'P' :: '<' :: rest =>
      (groupName? names rest).map fun (name, rest) => (.group modes (some name), rest)
  | '?' :: '<' :: rest =>
      (groupName? names rest).map fun (name, rest) => (.group modes (some name), rest)
  | '?' :: rest =>
      match modes? modes [] rest with
      | some (inner, _, ':' :: rest) => some (.group inner none, rest)
      | some (inner, seen, ')' :: rest) =>
          if seen.isEmpty then none else some (.switch inner, rest)
      | _ => none
  | rest => some (.group modes none, rest)

/-- The items, the last one first, one after another. -/
def sequence : List Item → Item
  | [] => ⟨.empty, 0, true⟩
  | [item] => item
  | item :: rest =>
      let items := item :: rest
      ⟨items.foldl (fun pattern item => .seq item.pattern pattern) .empty,
        1 + (items.map Item.depth).foldl max 0, true⟩

/-- The branches, the last one first, as alternatives. -/
def alternatives : List Item → Item
  | [] => ⟨.empty, 0, true⟩
  | [item] => item
  | item :: rest =>
      let items := item :: rest
      ⟨rest.foldl (fun pattern item => .alt item.pattern pattern) item.pattern,
        1 + (items.map Item.depth).foldl max 0, true⟩

/-- This reads a count between blanks; it fits 32 bits. -/
def count? (modes : Modes) (text : List Char) : Option Nat × List Char :=
  let text := text.dropWhile Text.isBlank
  let rec digits : Nat → List Char → List Char × List Char
    | 0, text => ([], text)
    | fuel + 1, c :: rest =>
        if Integer.isDigit c then
          let (found, rest) := digits fuel (modes.skip rest)
          (c :: found, rest)
        else ([], c :: rest)
    | _ + 1, [] => ([], [])
  let (found, rest) := digits text.length text
  ((Integer.natural? 10 found).filter (· < 2 ^ 32), rest.dropWhile Text.isBlank)

/-- This reads the counts of a repetition, after its opening brace. -/
def counts? (modes : Modes) (text : List Char) : Option (Nat × Option Nat × List Char) := do
  let (least, rest) := count? modes (modes.skip text)
  let least ← least
  match rest with
  | '}' :: rest => pure (least, some least, rest)
  | ',' :: rest =>
      match modes.skip rest with
      | '}' :: rest => pure (least, none, rest)
      | rest =>
          let (greatest, rest) := count? modes rest
          let greatest ← greatest
          match rest with
          | '}' :: rest => if least ≤ greatest then pure (least, some greatest, rest) else none
          | _ => none
  | _ => none

/-- A mark after a repetition says which match is preferred, not which texts match. -/
def dropLazy : List Char → List Char
  | '?' :: rest => rest
  | rest => rest

/-- This repeats the last item. -/
def repeated? (least : Nat) (greatest : Option Nat) : List Item → Option (List Item)
  | [] => none
  | item :: rest =>
      if item.repeatable then
        some (⟨.many item.pattern least greatest, item.depth + 1, true⟩ :: rest)
      else none

/-- The pattern of a character outside brackets. -/
def literal? (modes : Modes) (c : Char) (byte : Bool) : Option Item :=
  if !modes.unicode && byte && 0x80 ≤ c.val then none
  else some ⟨.one (modes.fold (.single c)), 0, true⟩

def atom? (modes : Modes) : Atom → Option Item
  | .literal c byte => literal? modes c byte
  | .set set => if modes.allows set then some ⟨.one set, 0, true⟩ else none
  | .look anchor => some ⟨.look anchor, 0, true⟩

/-- The pattern of a single plain character. -/
def plain? (modes : Modes) : Char → Option Item
  | '.' =>
      if !modes.unicode then none
      else
        let set : Class :=
          if modes.dotAll then .any
          else if modes.carriage then .not (.ranges [('\n', '\n'), ('\r', '\r')])
          else .not .lineBreak
        some ⟨.one set, 0, true⟩
  | '^' =>
      let anchor : Anchor :=
        if !modes.multiLine then .textStart
        else if modes.carriage then .carriageLineStart
        else .lineStart
      some ⟨.look anchor, 0, true⟩
  | '$' =>
      let anchor : Anchor :=
        if !modes.multiLine then .textEnd
        else if modes.carriage then .carriageLineEnd
        else .lineEnd
      some ⟨.look anchor, 0, true⟩
  | c => literal? modes c false

/-- This reads branches up to the end of the text or of the group. `branches` are complete, and
`items` belong to the branch that is being read; both have the last one first. -/
def branches? : Nat → Modes → List (List Char) → List Item → List Item → List Char →
    Option (Item × List (List Char) × List Char)
  | 0, _, _, _, _, _ => none
  | fuel + 1, modes, names, branches, items, text =>
      let repeatLast (least : Nat) (greatest : Option Nat) (rest : List Char) :=
        (repeated? least greatest items).bind fun items =>
          branches? fuel modes names branches items (dropLazy rest)
      let append (item : Item) (rest : List Char) :=
        branches? fuel modes names branches (item :: items) rest
      match modes.skip text with
      | [] => some (alternatives (sequence items :: branches), names, [])
      | ')' :: rest => some (alternatives (sequence items :: branches), names, ')' :: rest)
      | '|' :: rest => branches? fuel modes names (sequence items :: branches) [] rest
      | '?' :: rest => repeatLast 0 (some 1) rest
      | '*' :: rest => repeatLast 0 none rest
      | '+' :: rest => repeatLast 1 none rest
      | '{' :: rest => do
          let (least, greatest, rest) ← counts? modes rest
          repeatLast least greatest (modes.skip rest)
      | '[' :: rest => do
          let (item, rest) ← bracketed? modes rest
          append item rest
      | '\\' :: rest => do
          let (atom, rest) ← escape? modes rest
          append (← atom? modes atom) rest
      | '(' :: rest => do
          match ← opening? modes names rest with
          | (.switch inner, rest) =>
              branches? fuel inner names branches (⟨.empty, 0, false⟩ :: items) rest
          | (.group inner name, rest) =>
              let (item, names, rest) ← branches? fuel inner (name.toList ++ names) [] [] rest
              match rest with
              | ')' :: rest =>
                  branches? fuel modes names branches
                    (⟨item.pattern, item.depth + 1, true⟩ :: items)
                    rest
              | _ => none
      | c :: rest => do append (← plain? modes c) rest

/-- The syntax of a pattern nests at most this deep. -/
def nestingLimit : Nat := 250

/-- A class takes room for each of its runs. -/
def Class.weight : Class → Nat
  | none => 1
  | range _ last => if last < 0x80 then 1 else if last < 0x800 then 2 else 3
  | runs members => members.length
  | not inner => inner.weight
  | or left right => left.weight + right.weight
  | and left right => left.weight + right.weight
  | folded inner => inner.weight
  | asciiFolded inner => inner.weight

/-- The room that a pattern takes, where a counted repetition stands written out. -/
def weight : Pattern → Nat
  | empty => 1
  | one set => set.weight
  | look _ => 1
  | seq first second => first.weight + second.weight
  | alt left right => left.weight + right.weight + 1
  | many body least greatest => body.weight * max 1 (greatest.getD least) + 1

/-- A pattern takes at most this many bytes. -/
def sizeLimit : Nat := 10 * 2 ^ 20

/-- A pattern takes at most this much room, each unit of which has 32 bytes. -/
def weightLimit : Nat := sizeLimit / 32

/-- The pattern that a text spells. -/
def ofText? (text : String) : Option Pattern :=
  match branches? (text.length + 1) {} [] [] [] text.toList with
  | some (item, _, []) =>
      if item.depth ≤ nestingLimit && item.pattern.weight ≤ weightLimit then some item.pattern
      else none
  | _ => none

end HostAudit.Pattern
