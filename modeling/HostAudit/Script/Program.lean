import HostAudit.Script.Columns
import HostAudit.Script.Condition
import HostAudit.Script.Grep
import HostAudit.Script.Printed

/-
This file holds the programs that scripts can call, by name.
-/

namespace HostAudit.Script

namespace Program

/-- The complaint of a program about a file that it cannot read. -/
def complaint (program path : String) (fault : FileFault) : Answer :=
  match program, fault with
  | "head", .isDirectory | "tail", .isDirectory =>
      .failure 1 (program ++ ": error reading '" ++ path ++ "': " ++ fault.reason)
  | "head", _ | "tail", _ =>
      .failure 1 (program ++ ": cannot open '" ++ path ++ "' for reading: " ++ fault.reason)
  | "sort", .isDirectory => .failure 2 ("sort: read failed: " ++ path ++ ": " ++ fault.reason)
  | "sort", _ => .failure 2 ("sort: cannot read: " ++ path ++ ": " ++ fault.reason)
  | _, _ => .failure 1 (program ++ ": " ++ path ++ ": " ++ fault.reason)

/-- The text of a file, or the complaint of a program about it. -/
def content (tree : FileTree) (program : String) (input : List Char) (name : List Char) :
    Except Answer (List Char) :=
  if name = ['-'] then .ok input
  else match tree.bytes (textOf name) with
    | .ok bytes => .ok (ofBytes bytes)
    | .error fault => .error (complaint program (textOf name) fault)

/-- The files one after another, or the input when none is named. -/
def concatenated (tree : FileTree) (program : String) (files : List (List Char))
    (input : List Char) : Answer :=
  if files.isEmpty then .success input
  else (files.map fun name =>
    match content tree program input name with
    | .ok text => Answer.success text
    | .error answer => answer).foldl .andThen (.success [])

/-- A program that works on the text of its files. -/
def onText (tree : FileTree) (program : String) (valued : String) (words : List (List Char))
    (input : List Char) (work : List Char → List Char) : Answer :=
  let read := concatenated tree program (optionsOf valued (Columns.modern words)).2 input
  ⟨work read.output, read.errors, read.status⟩

/-- This counts each file, and all of them when there are several. -/
def wordCounts (tree : FileTree) (words : List (List Char)) (input : List Char) : Answer :=
  let (given, files) := optionsOf "" words
  if files.isEmpty then .success (Columns.count words input)
  else
    let letters := given.map Prod.fst
    let texts := files.map fun name => (name, content tree "wc" input name)
    let known := texts.filterMap fun (_, text) => text.toOption
    let total := Integer.total (known.map List.length)
    let width := (Integer.naturalChars total).length
    let single := files.length = 1 && (Columns.counts letters []).length = 1
    let line (text name : List Char) : List Char :=
      Columns.layout (if single then 1 else width) (Columns.counts letters text) ++ ' ' :: name ++
        ['\n']
    let each := (texts.map fun (name, text) => match text with
      | .ok text => Answer.success (line text name)
      | .error answer => answer).foldl .andThen (.success [])
    if files.length = 1 then each
    else { each with output := each.output ++ line known.flatten "total".toList }

def baseName (path : List Char) : List Char :=
  let trimmed := (path.reverse.dropWhile (· == '/')).reverse
  if trimmed.isEmpty then path.take 1
  else ((Text.splitAt '/' trimmed).getLast?).getD []

def directoryName (path : List Char) : List Char :=
  let trimmed := (path.reverse.dropWhile (· == '/')).reverse
  let above := (trimmed.reverse.dropWhile (· != '/')).dropWhile (· == '/')
  if trimmed.isEmpty then (if path.isEmpty then ['.'] else ['/'])
  else if !trimmed.contains '/' then ['.']
  else if above.isEmpty then ['/'] else above.reverse

/-- What a format says of a file. -/
def described (node : FileNode) (name : List Char) : Nat → List Char → List Char
  | 0, _ => []
  | _ + 1, [] => []
  | fuel + 1, '%' :: letter :: rest =>
      (match letter with
        | 'a' => (if node.isDirectory then "755" else "644").toList
        | 'U' | 'G' => "root".toList
        | 'u' | 'g' => ['0']
        | 'n' => name
        | 'F' => (match node with
            | .directory _ => "directory"
            | .file [] => "regular empty file"
            | _ => "regular file").toList
        | 'A' => (if node.isDirectory then "drwxr-xr-x" else "-rw-r--r--").toList
        | 's' => (match node with
            | .file bytes => Integer.naturalChars bytes.length
            | _ => "4096".toList)
        | '%' => ['%']
        | _ => ['?']) ++ described node name fuel rest
  | fuel + 1, c :: rest => c :: described node name fuel rest

def status (tree : FileTree) (words : List (List Char)) : Answer :=
  let (given, files) := optionsOf "cf" (words.map fun word =>
    if "--format=".toList.isPrefixOf word then "-c".toList ++ word.drop 9
    else if "--printf=".toList.isPrefixOf word then "-c".toList ++ word.drop 9
    else word)
  let format := (given.lookup 'c').getD "%n".toList
  if files.isEmpty then .failure 1 "stat: missing operand\nTry 'stat --help' for more information."
  else (files.map fun name => match tree.node? (textOf name) with
    | some node => Answer.success (described node name (format.length + 1) format ++ ['\n'])
    | none => .failure 1 ("stat: cannot statx '" ++ textOf name ++
        "': No such file or directory")).foldl .andThen (.success [])

def listing (tree : FileTree) (words : List (List Char)) : Answer :=
  let (given, files) := optionsOf "" words
  let shown (name : String) : Bool :=
    name.toList.head? != some '.' || given.any fun (letter, _) => letter == 'a' || letter == 'A'
  ((if files.isEmpty then [['.']] else files).map fun name => match tree.node? (textOf name) with
    | some (.directory entries) =>
        if given.any (·.1 == 'd') then Answer.success (name ++ ['\n'])
        else .success (ended ((((entries.map Prod.fst).filter shown).mergeSort (· ≤ ·)).map octets))
    | some _ => .success (name ++ ['\n'])
    | none => .failure 2 ("ls: cannot access '" ++ textOf name ++
        "': No such file or directory")).foldl .andThen (.success [])

/-- The lines of a text with their numbers in front. -/
def numbered (text : List Char) : List Char :=
  ((linesOf text).zipIdx 1).flatMap fun (line, index) =>
    let number := Integer.naturalChars index
    List.replicate (6 - number.length) ' ' ++ number ++ '\t' :: line ++
      if index = (linesOf text).length && text.getLast? != some '\n' then [] else ['\n']

def whoIs (words : List (List Char)) : List Char :=
  let letters := words.flatten
  (if letters.contains 'n' then "root"
    else if letters.contains 'u' || letters.contains 'g' then "0"
    else "uid=0(root) gid=0(root) groups=0(root)").toList ++ ['\n']

/-- The programs and what they do with their words and their input. -/
def table (tree : FileTree) : List (String × (List (List Char) → List Char → Answer)) :=
  [("true", fun _ _ => .success []),
    ("false", fun _ _ => ⟨[], [], 1⟩),
    ("echo", fun words _ => .success (Printed.plainEcho words)),
    ("cat", fun words input =>
      let (given, files) := optionsOf "" words
      let read := concatenated tree "cat" files input
      if given.any (·.1 == 'n') then { read with output := numbered read.output } else read),
    ("tr", Columns.exchange),
    ("grep", Grep.run tree 'G'),
    ("egrep", Grep.run tree 'E'),
    ("fgrep", Grep.run tree 'F'),
    ("head", fun words input => onText tree "head" "nc" words input (Columns.head words)),
    ("tail", fun words input => onText tree "tail" "nc" words input (Columns.tail words)),
    ("wc", wordCounts tree),
    ("sort", fun words input => onText tree "sort" "kto" words input (Columns.sorted words)),
    ("uniq", fun words input => onText tree "uniq" "" words input (Columns.unique words)),
    ("cut", fun words input =>
      let read := concatenated tree "cut" (optionsOf "dfcb" words).2 input
      let answer := Columns.cut words read.output
      ⟨answer.output, read.errors ++ answer.errors, max read.status answer.status⟩),
    ("seq", fun words _ => Columns.sequence words),
    ("rev", fun _ input => .success (ended ((linesOf input).map List.reverse))),
    ("basename", fun words _ =>
      let name := baseName (words.headD [])
      let ending := words[1]?.getD []
      .success ((if ending.isSuffixOf name && ending ≠ name then
        name.take (name.length - ending.length) else name) ++ ['\n'])),
    ("dirname", fun words _ => .success (directoryName (words.headD []) ++ ['\n'])),
    ("stat", fun words _ => status tree words),
    ("ls", fun words _ => listing tree words),
    ("sleep", fun _ _ => .success []),
    ("whoami", fun _ _ => .success "root\n".toList),
    ("id", fun words _ => .success (whoIs words)),
    ("pwd", fun _ _ => .success (('/' :: octets (Text.joined "/" tree.working)) ++ ['\n']))]

def find? (tree : FileTree) (name : String) : Option (List (List Char) → List Char → Answer) :=
  (table tree).lookup name

/-- This removes, makes or touches each of some files. -/
def changeEach (change : FileTree → List Char → Except String FileTree) (tree : FileTree)
    (names : List (List Char)) : FileTree × Answer :=
  names.foldl (fun (tree, answer) name => match change tree name with
    | .ok tree => (tree, answer)
    | .error message => (tree, answer.andThen (.failure 1 message))) (tree, .success [])

/-- The programs that change the files of the tree. -/
def change? (tree : FileTree) (name : String) (words : List (List Char)) :
    Option (FileTree × Answer) :=
  let (given, names) := optionsOf "" words
  let has (letter : Char) : Bool := given.any (·.1 == letter)
  match name with
  | "touch" => some (changeEach (fun tree name =>
      let path := textOf name
      if tree.holds path then .ok tree
      else (tree.write path []).mapError fun fault =>
        "touch: cannot touch '" ++ path ++ "': " ++ fault.reason) tree names)
  | "mkdir" => some (changeEach (fun tree name =>
      let path := textOf name
      if has 'p' && (tree.node? path).any FileNode.isDirectory then .ok tree
      else (tree.makeDirectory (has 'p') path).mapError fun reason =>
        "mkdir: cannot create directory '" ++ path ++ "': " ++ reason) tree names)
  | "rm" => some (changeEach (fun tree name =>
      let path := textOf name
      match tree.place path with
      | .error fault =>
          if has 'f' then .ok tree
          else .error ("rm: cannot remove '" ++ path ++ "': " ++ fault.reason)
      | .ok place =>
          if (tree.root.at? place).any FileNode.isDirectory && !has 'r' && !has 'R' then
            .error ("rm: cannot remove '" ++ path ++ "': Is a directory")
          else .ok { tree with root := tree.root.removed place }) tree names)
  | _ => none

/-- The shells, which are programs too. -/
def shells : List String := ["sh", "dash", "bash"]

def directories : List String :=
  ["/bin", "/usr/bin", "/usr/local/bin", "/sbin", "/usr/sbin", "/usr/local/sbin"]

/-- How a word leads to a program. -/
inductive Located where
  | program (name : String)
  | refused
  | missing
deriving DecidableEq, Repr

def isProgram (tree : FileTree) (name : String) : Bool :=
  shells.contains name || (find? tree name).isSome ||
    ["printf", "test", "[", "env", "tee", "which", "touch", "mkdir", "rm"].contains name

/-- A word with a separator is a path; any other word names a program. -/
def locate (tree : FileTree) (word : String) : Located :=
  if word.toList.contains '/' then
    let name := String.ofList (baseName word.toList)
    if directories.contains (String.ofList (directoryName word.toList)) && isProgram tree name &&
        word.toList.getLast? != some '/' then
      .program name
    else if tree.holds word then .refused
    else .missing
  else if isProgram tree word then .program word else .missing

end Program

end HostAudit.Script
