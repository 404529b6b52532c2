import HostAudit.Catalog.Reader
import HostAudit.FileTree

/-
This file finds catalogs in a file tree and reads them. In a directory the files whose names end in
`.yaml` or `.yml` are catalogs, at any depth, except `config.yaml`; they come in the order of their
paths, which are compared name by name. A path that is itself a file is a catalog under any name.
-/

namespace HostAudit

/-- Why the catalogs of a path cannot be had. -/
inductive DiscoveryFault where
  | unreadable (path reason : String)
  | empty (path : String)
  | refused (fault : CatalogFault)
deriving DecidableEq, Repr

namespace Catalog

/-- The name ends in the ending and has something before it. -/
def hasEnding (ending name : String) : Bool :=
  ending != name && ending.toList.isSuffixOf name.toList

def isCatalogName (name : String) : Bool :=
  (hasEnding ".yaml" name || hasEnding ".yml" name) && name != "config.yaml"

def byName (first second : String × List (List String)) : Bool := first.1 ≤ second.1

mutual

/-- The catalogs below a node, by the names that lead to them. Links are not followed. -/
def below : FileNode → List (List String)
  | .directory entries => ((belowEntries entries).mergeSort byName).flatMap Prod.snd
  | _ => []

/-- The catalogs below each entry. -/
def belowEntries : List (String × FileNode) → List (String × List (List String))
  | [] => []
  | (name, node) :: rest =>
      (name, (if node.isFile && isCatalogName name then [[name]] else []) ++
        (below node).map (name :: ·)) :: belowEntries rest

end

/-- A path with one more name at its end. -/
def extended (path name : String) : String :=
  if path.toList.getLast? = some '/' then path ++ name else path ++ "/" ++ name

/-- The paths of the catalogs that a path stands for. -/
def discover (tree : FileTree) (path : String) : Except DiscoveryFault (List String) :=
  match tree.node? path with
  | some (.file _) => .ok [path]
  | some node =>
      match below node with
      | [] => .error (.empty path)
      | found => .ok (found.map (·.foldl extended path))
  | none => .error (.unreadable path "no such file or directory")

def load (tree : FileTree) (options : LoadOptions) (path : String) :
    Except DiscoveryFault Catalog :=
  match tree.text path with
  | .error fault => .error (.unreadable path fault.message)
  | .ok text =>
      match read options text with
      | .error fault => .error (.refused fault)
      | .ok catalog => .ok catalog

/-- The catalogs of one path, each with the path it was read from. -/
def loadPath (tree : FileTree) (options : LoadOptions) (path : String) :
    Except DiscoveryFault (List (String × Catalog)) := do
  (← discover tree path).mapM fun file => do
    return (file, ← load tree options file)

/-- The catalogs of several paths, in the order of the paths. -/
def loadAll (tree : FileTree) (options : LoadOptions) (paths : List String) :
    Except DiscoveryFault (List (String × Catalog)) := do
  return (← paths.mapM (loadPath tree options)).flatten

end Catalog

end HostAudit
