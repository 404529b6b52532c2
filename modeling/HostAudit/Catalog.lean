import HostAudit.Check

/-
This file holds catalogs, which are groups of checks.
-/

namespace HostAudit

structure Group where
  id : String
  text : String
  kind : String
  checks : List Check
deriving DecidableEq, Repr

/-- All checks of a group of this kind are skipped. -/
def Group.isSkipped (group : Group) : Bool := Text.trimmed group.kind = "skip"

/-- A catalog is made for hosts of one kind, its target. -/
structure Catalog where
  id : String
  version : String
  text : String
  target : String
  groups : List Group
deriving DecidableEq, Repr

def Catalog.checks (catalog : Catalog) : List Check := catalog.groups.flatMap Group.checks

end HostAudit
