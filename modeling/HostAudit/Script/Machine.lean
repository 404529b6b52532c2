import HostAudit.FileTree
import HostAudit.Script.Arithmetic
import HostAudit.Script.Glob
import HostAudit.Script.Octets

/-
This file holds the state of a running script: its variables, its files, and the streams that its
descriptors lead to.
-/

namespace HostAudit.Script

/-- Where a descriptor leads. -/
inductive Target where
  | closed
  | discarded
  | stream (index : Nat)
  | file (path : String)
deriving DecidableEq, Repr

/-- Octets that wait to be read, and the octets written since then, the last ones first. -/
structure Stream where
  waiting : List Char
  written : List (List Char)

namespace Stream

def empty : Stream := ⟨[], []⟩

def content (stream : Stream) : List Char := stream.waiting ++ stream.written.reverse.flatten

def append (stream : Stream) (text : List Char) : Stream :=
  { stream with written := text :: stream.written }

end Stream

structure Machine where
  tree : FileTree
  /-- The name under which the shell complains. -/
  name : List Char
  line : Nat
  /-- The command of the shell that is at work. -/
  speaker : Option (List Char)
  process : Nat
  bindings : Variables
  /-- The variables that other programs see. -/
  exported : List (List Char)
  /-- The variables that keep their values. -/
  fixed : List (List Char)
  arguments : List (List Char)
  functions : List (List Char × Command)
  descriptors : List (Nat × Target)
  streams : List Stream
  status : Nat
  /-- The status of the last command that a word of the current command has run. -/
  substituted : Option Nat
  /-- The letters of the switches that are on. -/
  switches : List Char
  /-- The status of what runs is tested, so that a failure ends no script. -/
  tested : Bool
  /-- What is run at a signal, or for zero at the end of the script. -/
  traps : List (Nat × List Char)
  /-- The number of loops around the current command. -/
  loops : Nat
  /-- The number of functions at work. -/
  calls : Nat
  /-- In a function, the variables that get their values back at its end. -/
  kept : Option (List (List Char × Option (List Char)))
  /-- The commands that ran in the background, with the status of each, the last one first. -/
  background : List (Nat × Nat)
  /-- The permissions that new files do not get. -/
  mask : Nat

/-- Why a script does not simply go on. -/
inductive Flow where
  /-- The script has ended, and perhaps it has chosen the status that it ends with. -/
  | exiting (chosen : Bool)
  /-- A fault, which ends the script unless it is one of a common command. -/
  | failed
  | returning
  | breaking (levels : Nat)
  | continuing (levels : Nat)
  | killed (signal : Nat)
  | exhausted
deriving DecidableEq, Repr

abbrev Running := ExceptT Flow (StateM Machine)

namespace Machine

/-- The variables that a shell sets for itself. -/
def initial : Variables :=
  [("IFS".toList, " \t\n".toList), ("PS4".toList, "+ ".toList),
    ("PPID".toList, "4095".toList)]

/-- The switches in the order in which they are listed, the last ones first, with their names. -/
def switchNames : List (Char × String) :=
  [('e', "errexit"), ('f', "noglob"), ('I', "ignoreeof"), ('i', "interactive"), ('m', "monitor"),
    ('n', "noexec"), ('s', "stdin"), ('x', "xtrace"), ('v', "verbose"), ('V', "vi"),
    ('E', "emacs"), ('C', "noclobber"), ('a', "allexport"), ('b', "notify"), ('u', "nounset"),
    ('p', "privileged")]

/-- A machine with the given input, whose output and complaints go to streams of their own. -/
def start (tree : FileTree) (name : List Char) (arguments : List (List Char))
    (input : List Char) : Machine where
  tree := tree
  name := name
  line := 1
  speaker := none
  process := 4096
  bindings := initial
  exported := []
  fixed := []
  arguments := arguments
  functions := []
  descriptors := [(0, .stream 0), (1, .stream 1), (2, .stream 2)]
  streams := [⟨input, []⟩, .empty, .empty]
  status := 0
  substituted := none
  switches := []
  tested := false
  traps := []
  loops := 0
  calls := 0
  kept := none
  background := []
  mask := 0o022

/-- A failing command ends the script. -/
def strict (machine : Machine) : Bool := machine.switches.contains 'e'

/-- A missing variable ends the script. -/
def demanding (machine : Machine) : Bool := machine.switches.contains 'u'

/-- Commands are shown before they run. -/
def tracing (machine : Machine) : Bool := machine.switches.contains 'x'

/-- Patterns stand for themselves. -/
def literal (machine : Machine) : Bool := machine.switches.contains 'f'

/-- Each variable that is set is exported. -/
def exporting (machine : Machine) : Bool := machine.switches.contains 'a'

/-- Commands are read but not run. -/
def idle (machine : Machine) : Bool := machine.switches.contains 'n'

/-- A redirection does not write over a file. -/
def careful (machine : Machine) : Bool := machine.switches.contains 'C'

def target (machine : Machine) (descriptor : Nat) : Target :=
  (machine.descriptors.lookup descriptor).getD .closed

def setTarget (machine : Machine) (descriptor : Nat) (target : Target) : Machine :=
  { machine with
    descriptors := (descriptor, target) :: machine.descriptors.filter (·.1 != descriptor) }

def stream (machine : Machine) (index : Nat) : Stream := machine.streams[index]?.getD .empty

/-- This opens a stream that holds a text. -/
def opened (machine : Machine) (text : List Char) : Nat × Machine :=
  (machine.streams.length, { machine with streams := machine.streams ++ [⟨text, []⟩] })

def write (machine : Machine) (descriptor : Nat) (text : List Char) : Machine :=
  if text.isEmpty then machine
  else match machine.target descriptor with
  | .stream index =>
      { machine with streams := machine.streams.modify index (·.append text) }
  | .file path =>
      let held := (machine.tree.bytes path).toOption.getD []
      match machine.tree.write path (held ++ bytesOf text) with
      | .ok tree => { machine with tree := tree }
      | .error _ => machine
  | _ => machine

/-- This takes all that waits on a descriptor. -/
def readAll (machine : Machine) (descriptor : Nat) : List Char × Machine :=
  match machine.target descriptor with
  | .stream index =>
      ((machine.stream index).content,
        { machine with streams := machine.streams.set index .empty })
  | _ => ([], machine)

/-- This takes a line that waits on a descriptor, if there is more to read. -/
def readLine (machine : Machine) (descriptor : Nat) : Option (List Char × Bool) × Machine :=
  match machine.target descriptor with
  | .stream index =>
      let text := (machine.stream index).content
      let line := text.takeWhile (· != '\n')
      let rest := text.drop (line.length + 1)
      if text.isEmpty then (none, machine)
      else (some (line, line.length < text.length),
        { machine with streams := machine.streams.set index ⟨rest, []⟩ })
  | _ => (none, machine)

/-- The value of a parameter. -/
def value? (machine : Machine) (name : List Char) : Option (List Char) :=
  match name with
  | ['?'] => some (Integer.naturalChars machine.status)
  | ['#'] => some (Integer.naturalChars machine.arguments.length)
  | ['$'] => some (Integer.naturalChars machine.process)
  | ['!'] => machine.background.head?.map fun (process, _) => Integer.naturalChars process
  | ['-'] => some ((switchNames.map Prod.fst).reverse.filter machine.switches.contains)
  | ['@'] | ['*'] => if machine.arguments.isEmpty then none
      else some (Text.join [' '] machine.arguments)
  | ['0'] => some machine.name
  | name =>
      if name.head?.any Char.isDigit then
        (Integer.natural? 10 name).bind fun number => machine.arguments[number - 1]?
      else machine.bindings.lookup name

end Machine

/-- This writes a complaint of the shell. -/
def complain (message : List Char) : Running Unit := modify fun machine =>
  machine.write 2 (machine.name ++ ": ".toList ++ Integer.naturalChars machine.line ++
    ": ".toList ++ machine.speaker.elim [] (· ++ ": ".toList) ++ message ++ ['\n'])

def setStatus (status : Nat) : Running Unit := modify fun machine =>
  { machine with status := status }

/-- This complains and fails. -/
def fail {A : Type} (message : List Char) : Running A := do
  complain message
  setStatus 2
  throw .failed

/-- This runs something whose effects stay inside, except on streams and files. -/
def inside (body : Running Unit) : Running Unit := do
  let before ← get
  let (result, after) := body.run before
  set { before with
    tree := { after.tree with working := before.tree.working }
    streams := after.streams
    status := after.status }
  match result with
  | .error (.killed signal) => throw (.killed signal)
  | .error .exhausted => throw .exhausted
  | _ => return

/-- This carries something out and hands over how it has ended. -/
def attempt (body : Running Unit) : Running (Except Flow Unit) := fun machine =>
  match body.run machine with
  | (result, machine) => (.ok result, machine)

/-- What a body prints. -/
def captured (body : Running Unit) : Running (List Char) := do
  let before ← get
  let (index, machine) := before.opened []
  set machine
  inside do
    modify fun machine => machine.setTarget 1 (.stream index)
    body
  let after ← get
  set { after with streams := after.streams.take before.streams.length }
  return (after.stream index).content

/-- An expanded character: it may part fields, and it may be part of a pattern. -/
inductive Mark where
  | char (c : Char) (splits active : Bool)
  /-- A quoted part, which makes a field even when it is empty. -/
  | present
  /-- The end of a field. -/
  | cut
deriving DecidableEq, Repr

/-- What has been read of fields: those that are complete, the last one first, the one that is
begun, and whether a blank has just ended one. -/
structure Fields where
  complete : List (List (Char × Bool))
  begun : Option (List (Char × Bool))
  afterBlank : Bool

def Fields.finish (fields : Fields) : Fields :=
  ⟨(fields.begun.map List.reverse).toList ++ fields.complete, none, false⟩

/-- This adds a mark. The separators are the characters that part fields; blanks among them part
fields together. -/
def Fields.add (separators : List Char) (fields : Fields) : Mark → Fields
  | .cut => fields.finish
  | .present => { fields with begun := some (fields.begun.getD []), afterBlank := false }
  | .char c splits active =>
      if splits && separators.contains c then
        if c.isWhitespace then
          if fields.begun.isSome then { fields.finish with afterBlank := true } else fields
        else if fields.begun.isNone && fields.afterBlank then { fields with afterBlank := false }
        else { fields with begun := some (fields.begun.getD []) }.finish
      else { fields with begun := some ((c, active) :: fields.begun.getD []), afterBlank := false }

/-- The fields of marks; each character says whether it is quoted. -/
def fieldsOf (separators : List Char) (marks : List Mark) : List (List (Char × Bool)) :=
  (((marks.foldl (Fields.add separators) ⟨[], none, false⟩).finish).complete.reverse).map
    fun field => field.map fun (c, active) => (c, !active)

/-- The text of marks that make one field. -/
def textOfMarks (marks : List Mark) : List Char :=
  marks.filterMap fun mark => match mark with
    | .char c _ _ => some c
    | .cut => some ' '
    | .present => none

/-- The pattern that marks write. -/
def globOfMarks (marks : List Mark) : List Glob :=
  Glob.ofText (marks.filterMap fun mark => match mark with
    | .char c _ active => some (c, !active)
    | _ => none)

/-- The paths that the parts of a pattern match from a directory on. -/
def pathsFrom (tree : FileTree) : List (List (Char × Bool)) → List Char → List (List Char)
  | [], path => [path]
  | part :: rest, path =>
      let glob := Glob.ofText part
      let extend (name : List Char) : List Char :=
        path ++ name ++ (if rest.isEmpty then [] else ['/'])
      if Glob.isSpecial glob then
        match tree.node? (if path.isEmpty then "." else textOf path) with
        | some (.directory entries) =>
            let names := (entries.map fun (name, _) => octets name).filter fun name =>
              Glob.accepts glob name && (name.head? != some '.' || glob.head? == some (.only '.'))
            (names.mergeSort fun a b => !(b < a)).flatMap fun name =>
              pathsFrom tree rest (extend name)
        | _ => []
      else
        let next := extend (part.map Prod.fst)
        if rest.isEmpty && !tree.holds (textOf next) then [] else pathsFrom tree rest next

/-- This cuts a pattern at the separators of a path. -/
def pathParts : List (Char × Bool) → List (List (Char × Bool))
  | [] => [[]]
  | (c, quoted) :: rest =>
      if c == '/' then [] :: pathParts rest
      else match pathParts rest with
        | [] => [[(c, quoted)]]
        | part :: parts => ((c, quoted) :: part) :: parts

/-- A field that is a pattern stands for the paths it matches, or else for itself. -/
def pathsOf (tree : FileTree) (field : List (Char × Bool)) : List (List Char) :=
  let plain := field.map Prod.fst
  if Glob.isSpecial (Glob.ofText field) then
    match pathsFrom tree (pathParts field) [] with
    | [] => [plain]
    | paths => paths
  else [plain]

/-- This takes away the part of a value that a pattern matches. -/
def trimmed (kind : Trim) (pattern : List Glob) (value : List Char) : List Char :=
  let sizes := List.range (value.length + 1)
  let keepsRest (size : Nat) : Bool := Glob.accepts pattern (value.take size)
  let keepsStart (size : Nat) : Bool := Glob.accepts pattern (value.drop size)
  match kind with
  | .shortestPrefix => (sizes.find? keepsRest).elim value value.drop
  | .longestPrefix => (sizes.reverse.find? keepsRest).elim value value.drop
  | .shortestSuffix => (sizes.reverse.find? keepsStart).elim value value.take
  | .longestSuffix => (sizes.find? keepsStart).elim value value.take

end HostAudit.Script
