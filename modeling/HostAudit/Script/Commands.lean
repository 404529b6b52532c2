import HostAudit.Script.Condition
import HostAudit.Script.Machine
import HostAudit.Script.Printed
import HostAudit.Script.Program
import HostAudit.Script.Reader

/-
This file holds the commands that a shell carries out itself and that need to run nothing: on
variables, switches, traps and signals, and on the input.
-/

namespace HostAudit.Script

/-- This prints, which fails when the output is closed. -/
def print (text : List Char) : Running Unit := do
  let machine ← get
  if machine.target 1 = .closed && !text.isEmpty then
    complain (machine.speaker.getD [] ++ ": I/O error".toList)
    setStatus (machine.status ||| 1)
  else set (machine.write 1 text)

/-- The names of signals with their numbers. -/
def signals : List (String × Nat) :=
  [("EXIT", 0), ("HUP", 1), ("INT", 2), ("QUIT", 3), ("ILL", 4), ("TRAP", 5), ("ABRT", 6),
    ("BUS", 7), ("FPE", 8), ("KILL", 9), ("USR1", 10), ("SEGV", 11), ("USR2", 12), ("PIPE", 13),
    ("ALRM", 14), ("TERM", 15), ("STKFLT", 16), ("CHLD", 17), ("CONT", 18), ("STOP", 19),
    ("TSTP", 20), ("TTIN", 21), ("TTOU", 22), ("URG", 23), ("XCPU", 24), ("XFSZ", 25),
    ("VTALRM", 26), ("PROF", 27), ("WINCH", 28), ("POLL", 29), ("PWR", 30), ("SYS", 31)]

def signal? (text : List Char) : Option Nat :=
  ((Integer.natural? 10 text).filter (· ≤ 64)).or
    (signals.lookup (textOf (text.map Char.toUpper)))

/-- A signal that ends the process that gets it. -/
def isFatal (signal : Nat) : Bool :=
  signal != 0 && !([17, 18, 19, 20, 21, 22, 23, 28] : List Nat).contains signal

/-- What a shell says of a program that a signal has ended. -/
def deathNotice (signal : Nat) : List Char :=
  match ([(1, "Hangup"), (3, "Quit"), (4, "Illegal instruction"), (5, "Trace/breakpoint trap"),
      (6, "Aborted"), (7, "Bus error"), (8, "Floating point exception"), (9, "Killed"),
      (10, "User defined signal 1"), (11, "Segmentation fault"), (12, "User defined signal 2"),
      (14, "Alarm clock"), (15, "Terminated")] : List (Nat × String)).lookup signal with
  | some notice => notice.toList ++ ['\n']
  | none => []

/-- The signal and the processes that the words of `kill` name, or else a complaint. -/
def killOrder (words : List (List Char)) : Except (List Char) (Nat × List (List Char)) :=
  match words with
  | ['-', '-'] :: rest => .ok (15, rest)
  | ['-', 's'] :: name :: rest =>
      match signal? name with
      | some signal => .ok (signal, rest)
      | none => .error ("invalid signal number or name: ".toList ++ name)
  | ('-' :: c :: name) :: rest =>
      match signal? (c :: name) with
      | some signal => .ok (signal, rest)
      | none => .error ("Illegal option -".toList ++ [c])
  | rest => .ok (15, rest)

/-- This sends a signal; only the script itself can be reached. It hands over what the script is to
run at the signal. -/
def kill (words : List (List Char)) : Running (List (List Char)) := do
  match killOrder words with
  | .error message => fail message
  | .ok (_, []) =>
      fail ("Usage: kill [-s sigspec | -signum | -sigspec] [pid | job]... or\n" ++
        "kill -l [exitstatus]").toList
  | .ok (signal, processes) =>
      let machine ← get
      let own := Integer.naturalChars machine.process
      let mut actions := []
      for process in processes do
        if process = own then
          match machine.traps.lookup signal with
          | some action =>
              if signal = 9 then throw (.killed signal)
              if signal ≠ 0 then actions := actions ++ [action]
          | none => if isFatal signal then throw (.killed signal)
        else if (Integer.natural? 10 process).isNone then
          fail ((if process.head? == some '%' then "No such job: " else
            "Illegal number: ").toList ++ process)
        else
          complain "No such process\n".toList
          setStatus 1
      return actions

/-- The number that the first of some words asks for. -/
def numberIn (words : List (List Char)) : Running (Option Nat) := do
  match words with
  | [] => return none
  | word :: _ =>
      match Integer.natural? 10 word with
      | some number => return some number
      | none => fail ("Illegal number: ".toList ++ word)

/-- The number of loops that a command leaves or turns; outside of loops there are none. -/
def levelsIn (words : List (List Char)) : Running Nat := do
  let count := (← numberIn words).getD 1
  if count = 0 then fail "Illegal number: 0".toList
  return min count (← get).loops

/-- This sets a variable, unless it is to keep its value. -/
def assign (name value : List Char) : Running Unit := do
  let machine ← get
  if machine.fixed.contains name then fail (name ++ ": is read only".toList)
  set { machine with
    bindings := machine.bindings.set name value
    exported := if machine.exporting then name :: machine.exported else machine.exported }

/-- This splits `name=value`. -/
def assignment? (word : List Char) : Option (List Char × List Char) :=
  let name := nameAt word
  if !name.isEmpty && (word.drop name.length).head? == some '=' then
    some (name, word.drop (name.length + 1))
  else none

/-- A text between quotes, such that a shell reads it back. -/
def requoted (text : List Char) : List Char :=
  '\'' :: text.flatMap (fun c => if c == '\'' then "'\"'\"'".toList else [c]) ++ ['\'']

/-- The variables of some names, one on a line. -/
def listing (machine : Machine) (lead : String) (names : List (List Char)) : List Char :=
  ended ((names.eraseDups.mergeSort fun a b => !(b < a)).map fun name =>
    lead.toList ++ name ++ (machine.bindings.lookup name).elim [] fun value =>
      '=' :: requoted value)

/-- The name in a word that declares a variable, and its value if the word has one. -/
def declared (word : List Char) : Running (List Char × Option (List Char)) := do
  match assignment? word with
  | some (name, value) => return (name, some value)
  | none =>
      let name := word.takeWhile (· != '=')
      if nameAt name != name || name.isEmpty then fail (name ++ ": bad variable name".toList)
      return (name, none)

/-- This makes variables known to other programs, or lists those that are. -/
def exportAll (words : List (List Char)) : Running Unit := do
  let machine ← get
  if words.isEmpty || words = [['-', 'p']] then print (listing machine "export " machine.exported)
  else for word in words do
    let (name, value?) ← declared word
    if let some value := value? then assign name value
    modify fun machine => { machine with exported := name :: machine.exported }

/-- This makes variables keep their values, or lists those that do. -/
def fixAll (words : List (List Char)) : Running Unit := do
  let machine ← get
  if words.isEmpty || words = [['-', 'p']] then print (listing machine "readonly " machine.fixed)
  else for word in words do
    let (name, value?) ← declared word
    if let some value := value? then assign name value
    modify fun machine => { machine with fixed := name :: machine.fixed }

/-- This gives variables their values back at the end of a function. -/
def keepAll (words : List (List Char)) : Running Unit := do
  if (← get).kept.isNone then fail "not in a function".toList
  for word in words do
    let (name, value?) ← declared word
    modify fun machine => { machine with
      kept := machine.kept.map ((name, machine.bindings.lookup name) :: ·) }
    if let some value := value? then assign name value

def Variables.restored (bindings : Variables) (name : List Char) (value? : Option (List Char)) :
    Variables :=
  match value? with
  | some value => bindings.set name value
  | none => bindings.unset name

/-- Functions may call each other this deep. -/
def callLimit : Nat := 1000

/-- This calls a function with arguments and its own variables. -/
def inFunction (arguments : List (List Char)) (body : Running Unit) : Running Unit := do
  let before ← get
  if callLimit ≤ before.calls then
    fail "Maximum function recursion depth (1000) reached".toList
  set { before with
    arguments := arguments, loops := 0, calls := before.calls + 1, kept := some [] }
  let result ← attempt body
  modify fun after => { after with
    arguments := before.arguments
    loops := before.loops
    calls := before.calls
    kept := before.kept
    bindings := (after.kept.getD []).foldl
      (fun bindings (name, value?) => bindings.restored name value?) after.bindings }
  match result with
  | .ok () | .error .returning => return
  | .error flow => throw flow

/-- This lets a command of the shell do its work, which complains under its name. -/
def speaking (name : List Char) (body : Running Unit) : Running Unit := do
  let before := (← get).speaker
  modify fun machine => { machine with speaker := some name }
  let result ← attempt body
  modify fun machine => { machine with speaker := before }
  match result with
  | .ok () => return
  | .error flow => throw flow

/-- This removes variables or, with the option for it, functions. -/
def unset (words : List (List Char)) : Running Unit := do
  let ofFunctions := words.head? == some ['-', 'f']
  for word in if ofFunctions || words.head? == some ['-', 'v'] then words.drop 1 else words do
    if nameAt word != word then
      fail (word ++ ": bad variable name".toList)
    let machine ← get
    if ofFunctions then
      set { machine with functions := machine.functions.filter (·.1 != word) }
    else if machine.fixed.contains word then
      fail (word ++ ": is read only".toList)
    else set { machine with
      bindings := machine.bindings.unset word
      exported := machine.exported.filter (· != word) }

/-- This turns a switch. -/
def turnSwitch (on : Bool) (letter : Char) (machine : Machine) : Machine :=
  let others := machine.switches.filter (· != letter)
  { machine with switches := if on then letter :: others else others }

/-- The switches and whether they are on, for a reader or for a script. -/
def switchListing (machine : Machine) (forReader : Bool) : List Char :=
  let line (letter : Char) (name : String) : List Char :=
    let on := machine.switches.contains letter
    if forReader then
      name.toList ++ List.replicate (16 - name.length) ' ' ++ (if on then "on" else "off").toList
    else "set ".toList ++ (if on then '-' else '+') :: "o ".toList ++ name.toList
  (if forReader then "Current option settings\n".toList else []) ++
    ended (Machine.switchNames.map fun (letter, name) => line letter name)

/-- This sets the switches and the arguments of a script. -/
def setSwitches : List (List Char) → Running Unit
  | [] => return
  | ['-', '-'] :: rest => modify fun machine => { machine with arguments := rest }
  | ['-'] :: rest => modify fun machine =>
      let machine := turnSwitch false 'x' (turnSwitch false 'v' machine)
      if rest.isEmpty then machine else { machine with arguments := rest }
  | (sign :: letters) :: rest => do
      if sign != '-' && sign != '+' then
        modify fun machine => { machine with arguments := (sign :: letters) :: rest }
      else
        let on := sign == '-'
        for letter in letters.filter (· != 'o') do
          if (Machine.switchNames.lookup letter).isNone then
            fail ("Illegal option -".toList ++ [letter])
          modify (turnSwitch on letter)
        if letters.contains 'o' then
          match rest with
          | [] => modify fun machine => machine.write 1 (switchListing machine on)
          | name :: rest =>
              match Machine.switchNames.find? (·.2 = textOf name) with
              | some (letter, _) => modify (turnSwitch on letter)
              | none => fail ("Illegal option -o ".toList ++ name)
              setSwitches rest
        else setSwitches rest
  | words => modify fun machine => { machine with arguments := words }

/-- This sets what is run at signals, or lists it. -/
def setTraps (words : List (List Char)) : Running Unit := do
  let words := if words.head? == some ['-', '-'] then words.drop 1 else words
  match words with
  | [] =>
      let machine ← get
      for (name, signal) in signals do
        if let some action := machine.traps.lookup signal then
          print ("trap -- ".toList ++ requoted action ++ ' ' :: name.toList ++ ['\n'])
  | first :: rest =>
      let resets := rest.isEmpty || (Integer.natural? 10 first).isSome || first = ['-']
      let names := if rest.isEmpty || (Integer.natural? 10 first).isSome then words else rest
      for name in names do
        match signal? name with
        | none =>
            modify fun machine => machine.write 2 ("trap: ".toList ++ name ++
              ": bad trap\n".toList)
            setStatus 1
            return
        | some signal => modify fun machine =>
            let others := machine.traps.filter (·.1 != signal)
            { machine with traps := if resets then others else (signal, first) :: others }

/-- This shows or sets the permissions that new files do not get. -/
def setMask (words : List (List Char)) : Running Unit := do
  match words with
  | [] => print ('0' :: octal (← get).mask ++ ['\n'])
  | [['-', 'S']] =>
      let mask := (← get).mask
      let rights (letter : Char) (shift : Nat) : List Char :=
        letter :: '=' :: (["r", "w", "x"].zip [4, 2, 1]).flatMap fun (right, bit) =>
          if (mask / 8 ^ shift) / bit % 2 = 0 then right.toList else []
      print (Text.join [','] [rights 'u' 2, rights 'g' 1, rights 'o' 0] ++ ['\n'])
  | word :: _ =>
      match Integer.natural? 8 word with
      | some mask => modify fun machine => { machine with mask := mask % 512 }
      | none => fail ("Illegal number: ".toList ++ word)
where
  octal (mask : Nat) : List Char :=
    let digits := Nat.toDigits 8 mask
    List.replicate (3 - digits.length) '0' ++ digits

/-- This reads a line into variables; the last one takes what is left. -/
def readInto (words : List (List Char)) : Running Unit := do
  let raw := words.contains ['-', 'r']
  let (_, names) := optionsOf "p" words
  if names.isEmpty then fail "arg count".toList
  let (line, whole) ← logicalLine raw 10000
  let separators := ((← get).bindings.lookup "IFS".toList).getD " \t\n".toList
  fill (line.length + names.length + 1) separators names line
  setStatus (if whole then 0 else 1)
where
  /-- A line of the input; a character behind a backslash is marked, and a backslash at the end of
  a line joins the next line to it. -/
  logicalLine (raw : Bool) : Nat → Running (List (Char × Bool) × Bool)
    | 0 => return ([], false)
    | fuel + 1 => do
        let (line?, machine) := (← get).readLine 0
        set machine
        let (line, whole) := line?.getD ([], false)
        if raw then return (line.map fun c => (c, false), whole)
        let (read, goesOn) := protect line
        if goesOn && whole then
          let (more, whole) ← logicalLine raw fuel
          return (read ++ more, whole)
        else return (read, whole)
  protect : List Char → List (Char × Bool) × Bool
    | [] => ([], false)
    | ['\\'] => ([], true)
    | '\\' :: c :: rest => let (read, goesOn) := protect rest; ((c, true) :: read, goesOn)
    | c :: rest => let (read, goesOn) := protect rest; ((c, false) :: read, goesOn)
  fill : Nat → List Char → List (List Char) → List (Char × Bool) → Running Unit
    | 0, _, _, _ => return
    | _ + 1, _, [], _ => return
    | fuel + 1, separators, name :: names, text => do
        let blank (mark : Char × Bool) : Bool :=
          !mark.2 && separators.contains mark.1 && mark.1.isWhitespace
        let parts (mark : Char × Bool) : Bool := !mark.2 && separators.contains mark.1
        let start := text.dropWhile blank
        let field := start.takeWhile fun mark => !parts mark
        let behind := (start.drop field.length).dropWhile blank
        let rest := if behind.head?.any parts then (behind.drop 1).dropWhile blank else behind
        let value := if names.isEmpty && !rest.isEmpty then (start.reverse.dropWhile blank).reverse
          else field
        assign name (value.map Prod.fst)
        fill fuel separators names rest

def workingPath (machine : Machine) : List Char :=
  '/' :: octets (Text.joined "/" machine.tree.working)

def changeDirectory (words : List (List Char)) : Running Unit := do
  let machine ← get
  let former := machine.bindings.lookup "OLDPWD".toList
  let back := words.head? == some ['-']
  let path := if back then former.getD (workingPath machine)
    else words.headD ((machine.bindings.lookup "HOME".toList).getD [])
  if path.isEmpty then return
  match machine.tree.place (textOf path) with
  | .ok place =>
      if (machine.tree.root.at? place).any FileNode.isDirectory then
        set { machine with
          tree := { machine.tree with working := place }
          bindings := machine.bindings.set "OLDPWD".toList (workingPath machine) }
        if back then print (workingPath (← get) ++ ['\n'])
      else fail ("can't cd to ".toList ++ path)
  | .error _ => fail ("can't cd to ".toList ++ path)

/-- The status of a condition. -/
def test (words : List (List Char)) : Running Unit := do
  match Condition.holds (← get).tree words with
  | .ok truth => setStatus (if truth then 0 else 1)
  | .error message => fail message

def printFormatted (words : List (List Char)) : Running Unit := do
  let words := if words.head? == some ['-', '-'] then words.drop 1 else words
  match words with
  | [] => fail "usage: printf format [arg ...]".toList
  | format :: arguments =>
      let progress := Printed.printf format arguments
      for complaint in progress.complaints do
        complain complaint
      setStatus progress.status
      print progress.text

/-- The status of the last of some commands in the background. -/
def waitFor (words : List (List Char)) : Running Unit := do
  let machine ← get
  for word in words do
    setStatus (((Integer.natural? 10 word).bind (List.lookup · machine.background)).getD 127)

/-- The commands of a shell whose faults end the script. -/
def specialCommands : List String :=
  [".", ":", "break", "continue", "eval", "exec", "exit", "export", "local", "readonly", "return",
    "set", "shift", "times", "trap", "unset"]

/-- The other commands of a shell. -/
def shellCommands : List String :=
  ["[", "alias", "cd", "command", "echo", "false", "getopts", "hash", "jobs", "kill", "printf",
    "pwd", "read", "test", "true", "type", "ulimit", "umask", "unalias", "wait"]

/-- The path of the program that a name stands for. -/
def programPath? (machine : Machine) (name : List Char) : Option (List Char) :=
  match Program.locate machine.tree (textOf name) with
  | .program found => some (if name.contains '/' then name else octets ("/usr/bin/" ++ found))
  | _ => none

/-- This says how a name would be called. -/
def locateName (name : List Char) : Running Unit := do
  let machine ← get
  let text := textOf name
  if reserved.contains text || specialCommands.contains text || shellCommands.contains text ||
      (machine.functions.lookup name).isSome then
    print (name ++ ['\n'])
  else match programPath? machine name with
    | some path => print (path ++ ['\n'])
    | none => setStatus 127

/-- This says which program each name stands for. -/
def locatePrograms (names : List (List Char)) : Running Unit := do
  for name in names do
    match programPath? (← get) name with
    | some path => print (path ++ ['\n'])
    | none => setStatus 1

/-- This says what each name stands for. -/
def describeAll (names : List (List Char)) : Running Unit := do
  for name in names do
    let machine ← get
    let text := textOf name
    let say (what : String) : Running Unit := print (name ++ what.toList ++ ['\n'])
    if reserved.contains text then say " is a shell keyword"
    else if (machine.functions.lookup name).isSome then say " is a shell function"
    else if specialCommands.contains text then say " is a special shell builtin"
    else if shellCommands.contains text then say " is a shell builtin"
    else match programPath? machine name with
      | some path => print (name ++ " is ".toList ++ path ++ ['\n'])
      | none =>
          say ": not found"
          setStatus 127

/-- This complains about each name that stands for no program. -/
def findAll (names : List (List Char)) : Running Unit := do
  for name in names do
    if (programPath? (← get) name).isNone && !shellCommands.contains (textOf name) then
      complain (name ++ ": not found".toList)
      setStatus 1

end HostAudit.Script
