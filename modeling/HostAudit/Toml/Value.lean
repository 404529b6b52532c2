/-
This file holds the values of a TOML document, and how a document is put together from its
statements.
-/

namespace HostAudit.Toml

/-- Numbers and truth values are held as they are written. -/
inductive Value where
  | text (value : String)
  | literal (text : String)
  | moment (text : String)
  | array (items : List Value)
  | table (members : List (String × Value))
deriving Repr

/-- How a table came about: by a heading of its own, by a heading further in, or by a name with
dots in it. -/
inductive Origin where
  | heading
  | implied
  | dotted
deriving DecidableEq, Repr

/-- What a name stands for while a document is read. -/
inductive Entry where
  | value (value : Value)
  | table (origin : Origin) (members : List (String × Entry))
  | tables (elements : List (List (String × Entry)))
deriving Repr

abbrev Members := List (String × Entry)

namespace Members

/-- This changes what a name stands for, or puts it at the end. -/
def update? (name : String) (change : Option Entry → Option Entry) : Members → Option Members
  | [] => (change none).map fun entry => [(name, entry)]
  | (other, entry) :: rest =>
      if other = name then (change (some entry)).map fun entry => (other, entry) :: rest
      else (update? name change rest).map ((other, entry) :: ·)

/-- This changes the table at the end of a path. Tables on the way that are missing arise with the
given origin. Names with dots lead through no table that has a heading. -/
def descend? (missing : Origin) (change : Origin → Members → Option Members) :
    List String → Origin → Members → Option Members
  | [], origin, members => change origin members
  | name :: path, _, members =>
      members.update? name fun
        | none => (descend? missing change path missing []).map (.table missing)
        | some (.value _) => none
        | some (.table origin held) =>
            if missing = .dotted ∧ origin = .heading then none
            else (descend? missing change path origin held).map (.table origin)
        | some (.tables elements) =>
            match elements.getLast? with
            | some last => (descend? missing change path .heading last).map fun last =>
                .tables (elements.dropLast ++ [last])
            | none => none

/-- This opens a table. A table may be opened once only. -/
def open? (path : List String) (name : String) (root : Members) : Option Members :=
  descend? .implied (fun _ members => members.update? name fun
    | none => some (.table .heading [])
    | some (.table .implied held) => some (.table .heading held)
    | _ => none) path .heading root

/-- This adds an element to a list of tables. -/
def append? (path : List String) (name : String) (root : Members) : Option Members :=
  descend? .implied (fun _ members => members.update? name fun
    | none => some (.tables [[]])
    | some (.tables elements) => some (.tables (elements ++ [[]]))
    | _ => none) path .heading root

/-- This sets a name that stands for nothing yet. -/
def set? (name : String) (value : Value) (members : Members) : Option Members :=
  members.update? name fun
    | none => some (.value value)
    | some _ => none

/-- This sets a name, with dots or without, in a table. -/
def assign? (path : List String) (name : String) (value : Value) (members : Members) :
    Option Members :=
  if path.isEmpty then members.set? name value
  else descend? .dotted (fun origin members =>
    if origin = .dotted then members.set? name value else none) path .heading members

/-- This sets a name in the table of a heading. -/
def assignAt? (table path : List String) (name : String) (value : Value) (root : Members) :
    Option Members :=
  descend? .implied (fun _ members => members.assign? path name value) table .heading root

end Members

mutual

def Entry.toValue : Entry → Value
  | .value value => value
  | .table _ members => .table (membersValue members)
  | .tables elements => .array (elementsValue elements)

def membersValue : List (String × Entry) → List (String × Value)
  | [] => []
  | (name, entry) :: rest => (name, entry.toValue) :: membersValue rest

def elementsValue : List (List (String × Entry)) → List Value
  | [] => []
  | members :: rest => .table (membersValue members) :: elementsValue rest

end

end HostAudit.Toml
