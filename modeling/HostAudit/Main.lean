import HostAudit.Session
import Std.Time.DateTime.Timestamp

/-
This file is the program. It takes the files that a command line names into a file tree, carries the
command line out on it, and writes the files that this has changed. The text of help and the page
about the program are those of a library, which is not here: help is a line about the usage, and the
page is empty.
-/

namespace HostAudit.Main

/-- This takes a file or directory into a node, up to a depth. Links below a directory stay links,
and what cannot be read is left out. -/
def nodeOf? (depth : Nat) (path : String) : IO (Option FileNode) := do
  try
    return some (.file (← IO.FS.readBinFile path).toList)
  catch _ =>
    match depth with
    | 0 => return none
    | depth + 1 =>
        try
          let mut found : List (String × FileNode) := []
          for entry in ← (← IO.FS.realPath path).readDir do
            if (← entry.path.symlinkMetadata).type matches .symlink then
              let target := (← IO.FS.realPath entry.path).toString
              found := (entry.fileName, .link target) :: found
            else if let some node ← nodeOf? depth (path ++ "/" ++ entry.fileName) then
              found := (entry.fileName, node) :: found
          return some (.directory found)
        catch _ => return none

/-- Directories are looked into up to this depth. -/
def depthLimit : Nat := 32

/-- The names that lead from the root to a path. -/
def placeOf (tree : FileTree) (path : String) : List String :=
  tree.start path ++ (FileTree.parts path).filter (· != ".")

/-- This puts what a path leads to into a tree. -/
def withPath (tree : FileTree) (path : String) : IO FileTree := do
  match ← nodeOf? depthLimit path with
  | none => return tree
  | some node => return { tree with root := node.put (placeOf tree path) tree.root }

def withPaths (tree : FileTree) (paths : List String) : IO FileTree := paths.foldlM withPath tree

/-- The tree that holds nothing but the working directory. -/
def emptyTree : IO FileTree := do
  let working := FileTree.parts (← IO.currentDir).toString
  return ⟨(FileNode.directory []).put working (.directory []), working⟩

/-- The path of the user's settings. -/
def userSettings? : IO (Option String) := do
  match ← IO.getEnv "XDG_CONFIG_HOME", ← IO.getEnv "HOME" with
  | some directory, _ => return some (directory ++ "/benchlens/config.toml")
  | none, some home => return some (home ++ "/.config/benchlens/config.toml")
  | none, none => return none

/-- The paths at which a request may write. -/
def written (request : Request) : List String :=
  match request with
  | .run request => request.output.toList
  | .validate _ => []
  | .init _ => [Settings.fileName]
  | .manual directory => [Catalog.extended directory "benchlens.1"]

/-- The catalogs that the command line names, or else the settings. -/
def catalogs (around : Surroundings) (line : CommandLine) : List String :=
  let named := match line.request with
    | .run request => request.catalogs
    | .validate request => request.catalogs
    | _ => []
  match Session.settingsOf around line.settings with
  | .ok settings => Session.catalogPaths named settings
  | .error _ => named

/-- This puts a file that is to be written into the tree as it is, or else its directory. -/
def withWritable (tree : FileTree) (path : String) : IO FileTree := do
  let directory := Script.textOf (Script.Program.directoryName (Script.octets path))
  match ← nodeOf? 1 path, ← nodeOf? 1 directory with
  | some node, _ => return { tree with root := node.put (placeOf tree path) tree.root }
  | none, some (.directory _) =>
      let place := placeOf tree directory
      return if (tree.root.at? place).isSome then tree
        else { tree with root := (FileNode.directory []).put place tree.root }
  | none, _ => return tree

def now : IO Moment := do
  let time ← Std.Time.Timestamp.now
  return ⟨time.toSecondsSinceUnixEpoch.val, 0⟩

def carryOut (line : CommandLine) : IO UInt32 := do
  let ofUser ← userSettings?
  let tree ← withPaths (← emptyTree)
    (Settings.fileName :: ofUser.toList ++ line.settings.toList)
  let colored := (← (← IO.getStdout).isTty) && (← IO.getEnv "NO_COLOR").isNone
  let around : Surroundings := ⟨tree, ofUser, colored, (← now).text⟩
  let tree ← withPaths tree (catalogs around line)
  let tree ← (written line.request).foldlM withWritable tree
  match Session.ofCommandLine { around with files := tree } line with
  | .error fault =>
      IO.eprintln ("Error: " ++ fault.message)
      return SessionFault.exitCode.toUInt32
  | .ok session =>
      for path in written line.request do
        if let .ok bytes := session.files.bytes path then
          IO.FS.writeBinFile path ⟨bytes.toArray⟩
      IO.eprint session.errors
      IO.print session.output
      return session.code.toUInt32

end HostAudit.Main

def main (words : List String) : IO UInt32 := do
  match HostAudit.CommandLine.read words with
  | .ok line => HostAudit.Main.carryOut line
  | .error fault =>
      match fault with
      | .version => IO.println ("benchlens " ++ HostAudit.Report.version)
      | .help => IO.println "Usage: benchlens [OPTIONS] <COMMAND>"
      | _ => IO.eprintln "Usage: benchlens [OPTIONS] <COMMAND>"
      return fault.exitCode.toUInt32
