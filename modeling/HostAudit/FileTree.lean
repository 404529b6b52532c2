import HostAudit.Number.Integer
import HostAudit.Text.Pieces
import HostAudit.Text.Utf8

/-
This file holds the files that a command sees: a tree of directories with a working directory in
it, how a written path leads to a place in the tree, and how files are read and written. The names
of files are texts: names that are not valid UTF-8 are left out.
-/

namespace HostAudit

/-- A file, a symbolic link with the path it holds, or a directory with its named entries. -/
inductive FileNode where
  | file (bytes : List UInt8)
  | link (target : String)
  | directory (entries : List (String × FileNode))
deriving Repr

/-- The reasons why a path cannot be read or written. -/
inductive FileFault where
  | missing
  | isDirectory
  | notDirectory
  | manyLinks
  | malformed
deriving DecidableEq, Repr

/-- The reason in words. -/
def FileFault.reason : FileFault → String
  | .missing => "No such file or directory"
  | .isDirectory => "Is a directory"
  | .notDirectory => "Not a directory"
  | .manyLinks => "Too many levels of symbolic links"
  | .malformed => "stream did not contain valid UTF-8"

/-- The number that the system gives a reason. -/
def FileFault.number? : FileFault → Option Nat
  | .missing => some 2
  | .isDirectory => some 21
  | .notDirectory => some 20
  | .manyLinks => some 40
  | .malformed => none

def FileFault.message (fault : FileFault) : String :=
  match fault.number? with
  | some number => fault.reason ++ " (os error " ++ Integer.naturalText number ++ ")"
  | none => fault.reason

namespace FileNode

def isFile : FileNode → Bool
  | .file _ => true
  | _ => false

def isDirectory : FileNode → Bool
  | .directory _ => true
  | _ => false

/-- The node under a list of names; a link leads nowhere here. -/
def at? : List String → FileNode → Option FileNode
  | [], node => some node
  | name :: rest, .directory entries => (entries.lookup name).bind (at? rest)
  | _ :: _, _ => none

/-- This puts an entry in the place of the entry of that name, or behind the others. -/
def putEntry (name : String) (node : FileNode) :
    List (String × FileNode) → List (String × FileNode)
  | [] => [(name, node)]
  | (other, held) :: rest =>
      if other = name then (name, node) :: rest else (other, held) :: putEntry name node rest

/-- This puts `node` under a list of names and makes the directories on the way. -/
def put (node : FileNode) : List String → FileNode → FileNode
  | [], _ => node
  | name :: rest, .directory entries =>
      let inner := put node rest ((entries.lookup name).getD (.directory []))
      .directory (putEntry name inner entries)
  | name :: rest, _ => .directory [(name, put node rest (.directory []))]

/-- This takes away what stands under a list of names. -/
def removed : List String → FileNode → FileNode
  | [name], .directory entries => .directory (entries.filter (·.1 != name))
  | name :: rest, .directory entries =>
      match entries.lookup name with
      | some inner => .directory (putEntry name (removed rest inner) entries)
      | none => .directory entries
  | _, node => node

end FileNode

/-- The names that lead to the working directory start at the root. -/
structure FileTree where
  root : FileNode
  working : List String
deriving Repr

namespace FileTree

/-- The parts of a path; one that ends in a separator has to lead to a directory, which the part
`.` demands. -/
def parts (path : String) : List String :=
  let named := (Text.pieces '/' path).filter (· != "")
  if path.toList.getLast? = some '/' then named ++ ["."] else named

def isAbsolute (path : String) : Bool := path.toList.head? = some '/'

/-- This follows the parts of a path from a directory, with a bound on the number of links, and
returns the names that lead from the root to the same place without links. -/
def follow (tree : FileTree) (links : Nat) (place : List String) :
    List String → Except FileFault (List String)
  | [] => .ok place
  | name :: rest =>
      match tree.root.at? place with
      | some (.directory entries) =>
          if name = "." then tree.follow links place rest
          else if name = ".." then tree.follow links place.dropLast rest
          else match entries.lookup name with
            | none => .error .missing
            | some (.link target) =>
                match links with
                | 0 => .error .manyLinks
                | links + 1 =>
                    tree.follow links (if isAbsolute target then [] else place)
                      (parts target ++ rest)
            | some _ => tree.follow links (place ++ [name]) rest
      | some _ => .error .notDirectory
      | none => .error .missing
  termination_by parts => (links, parts.length)

/-- A path may pass this many links. -/
def linkLimit : Nat := 40

def start (tree : FileTree) (path : String) : List String :=
  if isAbsolute path then [] else tree.working

/-- The place that a path leads to; the empty path leads nowhere. -/
def place (tree : FileTree) (path : String) : Except FileFault (List String) :=
  if path = "" then .error .missing
  else tree.follow linkLimit (tree.start path) (parts path)

def node? (tree : FileTree) (path : String) : Option FileNode :=
  match tree.place path with
  | .ok place => tree.root.at? place
  | .error _ => none

def holds (tree : FileTree) (path : String) : Bool := (tree.node? path).isSome

def isFile (tree : FileTree) (path : String) : Bool := (tree.node? path).any FileNode.isFile

/-- The bytes of the file that a path leads to. -/
def bytes (tree : FileTree) (path : String) : Except FileFault (List UInt8) := do
  match tree.root.at? (← tree.place path) with
  | some (.file bytes) => .ok bytes
  | some (.directory _) => .error .isDirectory
  | _ => .error .missing

/-- The text of the file that a path leads to. -/
def text (tree : FileTree) (path : String) : Except FileFault String := do
  match Text.Utf8.text? (← tree.bytes path) with
  | some text => .ok text
  | none => .error .malformed

/-- This writes a file: over the file that stands there, or as a new entry of a directory that
is there already. -/
def write (tree : FileTree) (path : String) (bytes : List UInt8) : Except FileFault FileTree :=
  let put (place : List String) : FileTree :=
    { tree with root := (FileNode.file bytes).put place tree.root }
  match tree.place path with
  | .ok place =>
      match tree.root.at? place with
      | some (.directory _) => .error .isDirectory
      | _ => .ok (put place)
  | .error .missing =>
      match (parts path).reverse with
      | [] => .error .missing
      | "." :: above => do
          let _ ← tree.follow linkLimit (tree.start path) above.tail.reverse
          .error .isDirectory
      | name :: above => do
          let parent ← tree.follow linkLimit (tree.start path) above.reverse
          match tree.root.at? parent with
          | some (.directory entries) =>
              if (entries.lookup name).isSome then .error .missing
              else .ok (put (parent ++ [name]))
          | some _ => .error .notDirectory
          | none => .error .missing
  | .error fault => .error fault

/-- This makes a directory, and with `above` also those above it that are missing. -/
def makeDirectory (tree : FileTree) (above : Bool) (path : String) : Except String FileTree :=
  let put (place : List String) : FileTree :=
    { tree with root := (FileNode.directory []).put place tree.root }
  let names := (parts path).filter (· != ".")
  if tree.holds path then .error "File exists"
  else match tree.follow linkLimit (tree.start path) names.dropLast, names.getLast? with
    | .ok parent, some name =>
        if (tree.root.at? parent).any FileNode.isDirectory then .ok (put (parent ++ [name]))
        else .error (FileFault.reason .notDirectory)
    | .error .missing, some _ =>
        if above then .ok (put (tree.start path ++ names))
        else .error (FileFault.reason .missing)
    | .error fault, _ => .error fault.reason
    | .ok _, none => .error (FileFault.reason .missing)

end FileTree

end HostAudit
