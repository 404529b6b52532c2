import HostAudit.Script.Commands
import HostAudit.Script.Program
import HostAudit.Script.Reader

/-
This file runs probe scripts. Commands run one after another; the stages of a pipeline run in order,
each with the whole output of the one before it as input.
-/

namespace HostAudit.Script

/-- This prints, complains and ends as a program has answered. -/
def give (answer : Answer) : Running Unit := modify fun machine =>
  { (machine.write 1 answer.output).write 2 answer.errors with status := answer.status }

/-- The program reads its input when it is given these words. -/
def readsInput (name : String) (words : List (List Char)) : Bool :=
  match name with
  | "tr" | "rev" => true
  | "grep" | "egrep" | "fgrep" =>
      let (given, operands) := optionsOf "emABC" words
      operands.length ≤ (if given.any (·.1 == 'e') then 0 else 1) || operands.contains ['-']
  | "cut" => (optionsOf "dfcb" words).2.isEmpty
  | "sort" => (optionsOf "kto" words).2.isEmpty
  | "cat" | "wc" | "uniq" =>
      let operands := (optionsOf "" words).2
      operands.isEmpty || operands.contains ['-']
  | "head" | "tail" =>
      let operands := (optionsOf "nc" (Columns.modern words)).2
      operands.isEmpty || operands.contains ['-']
  | _ => false

def callProgram (name : String) (words : List (List Char)) : Running Unit := do
  let machine ← get
  match Program.find? machine.tree name with
  | none => setStatus 127
  | some program =>
      if readsInput name words then
        let (input, machine) := machine.readAll 0
        set machine
        give (program words input)
      else give (program words [])

/-- This repeats a step as long as it says so. -/
def repeating (step : Running Bool) : Nat → Machine → Except Flow Unit × Machine
  | 0, machine => (.error .exhausted, machine)
  | fuel + 1, machine =>
      match step.run machine with
      | (.ok true, machine) => repeating step fuel machine
      | (.ok false, machine) => (.ok (), machine)
      | (.error flow, machine) => (.error flow, machine)

/-- A loop may turn this often. -/
def turnLimit : Nat := 10 ^ 7

def repeatWhile (step : Running Bool) : Running Unit := fun machine =>
  repeating step turnLimit machine

/-- Who has a program run. -/
inductive Caller where
  | script
  | program

/-- The complaint that a program may not be run, or that there is none. -/
def Caller.complainOf (caller : Caller) (name : List Char) (refused : Bool) : Running Unit := do
  match caller with
  | .script =>
      complain (name ++ (if refused then ": Permission denied" else ": not found").toList)
  | .program => modify fun machine => machine.write 2 ("env: '".toList ++ name ++
      (if refused then "': Permission denied\n" else "': No such file or directory\n").toList)
  setStatus (if refused then 126 else 127)

/-- This runs one turn of a loop, which says whether the loop goes on. -/
def turn (body : Running Bool) : Running Bool := do
  modify fun machine => { machine with loops := machine.loops + 1 }
  let result ← handOver body
  modify fun machine => { machine with loops := machine.loops - 1 }
  match result with
  | .ok goesOn => return goesOn
  | .error (.breaking 0) => return false
  | .error (.breaking (levels + 1)) => throw (.breaking levels)
  | .error (.continuing 0) => return true
  | .error (.continuing (levels + 1)) => throw (.continuing levels)
  | .error flow => throw flow
where
  handOver (body : Running Bool) : Running (Except Flow Bool) := fun machine =>
    match body.run machine with
    | (result, machine) => (.ok result, machine)

/-- This tests the status of a body, which then ends no script. -/
def tested (body : Running Unit) : Running Bool := do
  let before := (← get).tested
  modify fun machine => { machine with tested := true }
  let result ← attempt body
  modify fun machine => { machine with tested := before }
  match result with
  | .ok () => return (← get).status = 0
  | .error flow => throw flow

/-- A failure whose status is not tested ends a strict script. -/
def settle : Running Unit := do
  let machine ← get
  if machine.strict && !machine.tested && machine.status ≠ 0 then
    throw (.exiting true)

/-- The complaint about a file that a redirection names. -/
def redirectionFault (verb : String) (missing : String) (path : List Char) (fault : FileFault) :
    List Char :=
  let reason := match fault with
    | .missing | .notDirectory => missing
    | fault => fault.reason
  octets ("cannot " ++ verb ++ " ") ++ path ++ octets (": " ++ reason)

/-- This opens what a redirection names; it says whether that was possible. -/
def redirect (descriptor : Nat) (direction : Direction) (word : List Char) : Running Bool := do
  let machine ← get
  let path := textOf word
  let lead (target : Target) : Running Bool := do
    modify fun machine => machine.setTarget descriptor target
    return true
  let refuse (message : List Char) : Running Bool := do
    complain message
    setStatus 2
    return false
  let openText (text : List Char) : Running Bool := do
    let (index, machine) := machine.opened text
    set machine
    lead (.stream index)
  let create (bytes : List UInt8) : Running Bool := do
    match machine.tree.write path bytes with
    | .ok tree =>
        set { machine with tree := tree }
        lead (.file path)
    | .error fault => refuse (redirectionFault "create" "Directory nonexistent" word fault)
  if path = "/dev/null" && direction ≠ .duplicate && direction ≠ .here then lead .discarded
  else match direction with
    | .here => openText word
    | .read =>
        match machine.tree.bytes path with
        | .ok bytes => openText (ofBytes bytes)
        | .error .isDirectory => openText []
        | .error fault => refuse (redirectionFault "open" "No such file" word fault)
    | .write =>
        if machine.careful && machine.tree.isFile path then
          refuse ("cannot create ".toList ++ word ++ ": File exists".toList)
        else create []
    | .append | .readWrite => create ((machine.tree.bytes path).toOption.getD [])
    | .duplicate =>
        if word = ['-'] then lead .closed
        else match Integer.natural? 10 word with
          | some number =>
              if word.length ≠ 1 then fail "Syntax error: Bad fd number".toList
              match machine.descriptors.lookup number with
              | some target => lead target
              | none => refuse (word ++ ": Bad file descriptor".toList)
          | none => fail "Syntax error: Bad fd number".toList

mutual

/-- The marks of a word. -/
def expand : Nat → Word → Running (List Mark)
  | 0, _ => throw .exhausted
  | _ + 1, [] => return []
  | fuel + 1, piece :: rest => do
      let first ← match piece with
        | .text text quoted =>
            pure (text.map (Mark.char · false (!quoted)) ++ if quoted then [.present] else [])
        | .parameter name use quoted => parameter fuel name use quoted
        | .output body quoted => do
            let before := (← get).status
            let text ← captured (whole fuel (run fuel body))
            modify fun machine =>
              { machine with substituted := some machine.status, status := before }
            let text := ((text.filter (· != '\x00')).reverse.dropWhile (· == '\n')).reverse
            pure (mark text quoted)
        | .arithmetic expression quoted => do
            let text := textOfMarks (← expand fuel expression)
            match Arithmetic.expression? text with
            | .error fault => fail (fault.message text)
            | .ok expression =>
                let machine ← get
                match Arithmetic.evaluate machine.bindings expression with
                | .error fault => fail (fault.message text)
                | .ok (value, bindings) =>
                    if let some name := machine.fixed.find? fun name =>
                        bindings.lookup name != machine.bindings.lookup name then
                      fail (name ++ ": is read only".toList)
                    set { machine with bindings := bindings }
                    pure (mark (Integer.chars value) quoted)
      return first ++ (← expand fuel rest)
where
  mark (text : List Char) (quoted : Bool) : List Mark :=
    text.map (Mark.char · (!quoted) (!quoted)) ++ if quoted then [.present] else []

/-- The marks of a parameter. -/
def parameter : Nat → List Char → Use → Bool → Running (List Mark)
  | 0, _, _, _ => throw .exhausted
  | fuel + 1, name, use, quoted => do
      let machine ← get
      let value? := machine.value? name
      let mark (text : List Char) : List Mark :=
        text.map (Mark.char · (!quoted) (!quoted)) ++ if quoted then [.present] else []
      let demand : Running (List Char) := do
        if machine.demanding && value?.isNone && name != ['*'] && name != ['@'] then
          fail (name ++ ": parameter not set".toList)
        return value?.getD []
      let value : Running (List Mark) := do
        if name = ['@'] || (name = ['*'] && !quoted) then
          return ((machine.arguments.map mark).intersperse [.cut]).flatten
        return mark (← demand)
      let substitute (marks : List Mark) : Running (List Mark) :=
        return requote marks ++ if quoted then [.present] else []
      match use with
      | .plain => value
      | .malformed => fail "Bad substitution".toList
      | .length => return mark (Integer.naturalChars (← demand).length)
      | .fallback kind emptyToo word =>
          let absent := value?.isNone || (emptyToo && value? = some [])
          match kind with
          | .value => if absent then substitute (← expand fuel word) else value
          | .assigned =>
              if absent then
                let text := textOfMarks (← expand fuel word)
                assign name text
                return mark text
              else value
          | .required =>
              if absent then
                let text := textOfMarks (← expand fuel word)
                fail (name ++ ": ".toList ++
                  if !text.isEmpty then text
                  else if emptyToo then "parameter not set or null".toList
                  else "parameter not set".toList)
              else value
          | .present => substitute (← if absent then pure [] else expand fuel word)
      | .trim kind word =>
          let pattern := globOfMarks (← expand fuel word)
          return mark (trimmed kind pattern (← demand))
where
  /-- What stands in for a value is parted like a value where it is not quoted. -/
  requote (marks : List Mark) : List Mark := marks.map fun mark => match mark with
    | .char c _ true => .char c true true
    | mark => mark

/-- The fields of words. -/
def fields : Nat → List Word → Running (List (List Char))
  | 0, _ => throw .exhausted
  | _ + 1, [] => return []
  | fuel + 1, word :: rest => do
      let marks ← expand fuel word
      let machine ← get
      let separators := (machine.bindings.lookup "IFS".toList).getD " \t\n".toList
      let found := (fieldsOf separators marks).flatMap fun field =>
        if machine.literal then [field.map Prod.fst] else pathsOf machine.tree field
      return found ++ (← fields fuel rest)

/-- This opens redirections in order; it says whether all were possible. -/
def redirectAll : Nat → List Redirection → Running Bool
  | 0, _ => throw .exhausted
  | _ + 1, [] => return true
  | fuel + 1, .mk descriptor direction word :: rest => do
      let text := textOfMarks (← expand fuel word)
      if ← redirect descriptor direction text then redirectAll fuel rest else return false

/-- The values of assignments. -/
def expandAll : Nat → List (List Char × Word) → Running (List (List Char × List Char))
  | 0, _ => throw .exhausted
  | _ + 1, [] => return []
  | fuel + 1, (name, word) :: rest => do
      let value := textOfMarks (← expand fuel word)
      return (name, value) :: (← expandAll fuel rest)

/-- The commands of a script's text, line by line. -/
def runText : Nat → List Char → Running Unit
  | 0, _ => throw .exhausted
  | fuel + 1, text => do
      let depth := depthOf text
      let turnLine (cursor : Cursor) : Running (Option Cursor) := do
        if cursor.rest.isEmpty then return none
        match line depth depth cursor with
        | .error fault =>
            modify fun machine => { machine with line := fault.line }
            fail fault.message.toList
        | .ok (command, cursor) =>
            run fuel command
            return some cursor
      fun machine => lines turnLine (text.length + 1) ⟨text, 1, 0⟩ machine
where
  lines (turnLine : Cursor → Running (Option Cursor)) :
      Nat → Cursor → Machine → Except Flow Unit × Machine
    | 0, _, machine => (.ok (), machine)
    | count + 1, cursor, machine =>
        match (turnLine cursor).run machine with
        | (.ok (some cursor), machine) => lines turnLine count cursor machine
        | (.ok none, machine) => (.ok (), machine)
        | (.error flow, machine) => (.error flow, machine)

/-- This carries out a script, and then what is to run at its end. -/
def whole : Nat → Running Unit → Running Unit
  | 0, _ => throw .exhausted
  | fuel + 1, body => do
      modify fun machine => { machine with traps := machine.traps.filter (·.2.isEmpty) }
      endedBy (← attempt body)
      let machine ← get
      match machine.traps.lookup 0 with
      | none | some [] => return
      | some action =>
          set { machine with traps := machine.traps.filter (·.1 != 0) }
          let result ← attempt (runText fuel action)
          endedBy result
          if !(result matches .error (.exiting true) | .error .failed) then
            setStatus machine.status
where
  /-- A script that does not go on has ended, unless it was stopped from outside. -/
  endedBy : Except Flow Unit → Running Unit
    | .error (.killed signal) => throw (.killed signal)
    | .error .exhausted => throw .exhausted
    | _ => return

/-- This runs a shell as a program. -/
def shell : Nat → List Char → List (List Char) → Running Unit
  | 0, _, _ => throw .exhausted
  | fuel + 1, name, words => do
      inside <| whole fuel do
        modify fun machine =>
          { machine with
            name := name
            line := 0
            speaker := none
            process := machine.process + 1
            functions := []
            bindings := Machine.initial ++ machine.bindings.filter fun (name, _) =>
              machine.exported.contains name && (Machine.initial.lookup name).isNone
            fixed := []
            switches := []
            tested := false
            loops := 0
            calls := 0
            kept := none
            background := [] }
        obey fuel (words.takeWhile isSwitch).flatten (words.dropWhile isSwitch)
where
  isSwitch (word : List Char) : Bool := word.head? == some '-' && word != ['-', '-']
  /-- This runs the script that the words of a shell name, or its input. -/
  obey (fuel : Nat) (letters : List Char) (words : List (List Char)) : Running Unit := do
    for letter in letters do
      if (Machine.switchNames.lookup letter).isSome then modify (turnSwitch true letter)
      else if letter != '-' && letter != 'c' then
        fail ("Illegal option -".toList ++ [letter])
    let words := if words.head? == some ['-', '-'] then words.drop 1 else words
    if letters.contains 'c' then
      match words with
      | [] => fail "-c requires an argument".toList
      | script :: rest =>
          modify fun machine =>
            { machine with name := rest.headD machine.name, arguments := rest.drop 1, line := 1 }
          runText fuel script
    else if words.isEmpty || letters.contains 's' then
      let (text, machine) := (← get).readAll 0
      set { turnSwitch true 's' machine with arguments := words, line := 1 }
      runText fuel text
    else
      let file := words.headD []
      match (← get).tree.bytes (textOf file) with
      | .ok bytes =>
          modify fun machine =>
            { machine with name := file, arguments := words.drop 1, line := 1 }
          runText fuel (ofBytes bytes)
      | .error _ => fail ("cannot open ".toList ++ file ++ ": No such file".toList)

/-- This runs a program for a caller. -/
def launch : Nat → Caller → List Char → List (List Char) → Running Unit
  | 0, _, _, _ => throw .exhausted
  | fuel + 1, caller, name, words => do
      setStatus 0
      match Program.locate (← get).tree (textOf name) with
      | .refused => caller.complainOf name true
      | .missing => caller.complainOf name false
      | .program found =>
          match found with
          | "sh" | "dash" | "bash" => shell fuel name words
          | "printf" => printFormatted words
          | "test" => test words
          | "[" => test words.dropLast
          | "env" =>
              let before ← get
              for word in words.takeWhile isSetting do
                if let some (name, value) := assignment? word then
                  modify fun machine => { machine with
                    bindings := machine.bindings.set name value
                    exported := name :: machine.exported }
              match words.dropWhile isSetting with
              | [] =>
                  let machine ← get
                  print (ended (machine.exported.eraseDups.reverse.filterMap fun name =>
                    (machine.bindings.lookup name).map fun value => name ++ '=' :: value))
              | name :: rest => launch fuel .program name rest
              modify fun machine =>
                { machine with bindings := before.bindings, exported := before.exported }
          | "tee" =>
              let (given, files) := optionsOf "" words
              let (input, machine) := (← get).readAll 0
              set machine
              give (.success input)
              for file in files do
                let direction := if given.any (·.1 == 'a') then .append else .write
                copyTo direction file input
          | "which" => locatePrograms words
          | found =>
              let machine ← get
              match Program.change? machine.tree found words with
              | some (tree, answer) =>
                  set { machine with tree := tree }
                  give answer
              | none => callProgram found words
where
  isSetting (word : List Char) : Bool := (assignment? word).isSome
  /-- This writes a text also to a file. -/
  copyTo (direction : Direction) (file text : List Char) : Running Unit := do
    let tree := (← get).tree
    let path := textOf file
    let held := if direction = .append then (tree.bytes path).toOption.getD [] else []
    if path ≠ "/dev/null" then
      match tree.write path (held ++ bytesOf text) with
      | .ok tree => modify fun machine => { machine with tree := tree }
      | .error fault =>
          give (.failure 1 ("tee: " ++ path ++ ": " ++ fault.reason))

/-- This calls what a name stands for: a function, a command of the shell, or a program. -/
def call : Nat → List Char → List (List Char) → Running Unit
  | 0, _, _ => throw .exhausted
  | fuel + 1, name, words => do
      let machine ← get
      match machine.functions.lookup name with
      | some body => inFunction words (run fuel body)
      | none =>
          setStatus 0
          carryOut fuel machine.status name words

/-- This calls a command of the shell or a program. The status is that of the command before. A
fault of a common command of the shell does not end the script. -/
def carryOut : Nat → Nat → List Char → List (List Char) → Running Unit
  | 0, _, _, _ => throw .exhausted
  | fuel + 1, status, name, words => do
      let text := textOf name
      if specialCommands.contains text then speaking name (perform fuel status text words)
      else
        let result ← attempt <|
          if text = "command" then
            match words with
            | ['-', 'v'] :: names => names.head?.forM locateName
            | ['-', 'V'] :: names => describeAll (names.take 1)
            | ['-', 'p'] :: name :: rest | name :: rest => carryOut fuel status name rest
            | [] => return
          else if shellCommands.contains text then speaking name (perform fuel status text words)
          else launch fuel .script name words
        match result with
        | .ok () | .error .failed => return
        | .error (.killed signal) =>
            if shellCommands.contains text then throw (.killed signal)
            modify fun machine => machine.write 2 (deathNotice signal)
            setStatus (128 + signal)
        | .error flow => throw flow

/-- The work of a command of the shell. -/
def perform : Nat → Nat → String → List (List Char) → Running Unit
  | 0, _, _, _ => throw .exhausted
  | fuel + 1, status, command, words =>
      match command with
      | "false" => setStatus 1
      | "echo" => print (Printed.echo words)
      | "printf" => printFormatted words
      | "test" => test words
      | "[" =>
          if words.getLast? = some [']'] then test words.dropLast else fail "missing ]".toList
      | "exit" => do
          setStatus ((← numberIn words).getD status % 256)
          throw (.exiting !words.isEmpty)
      | "return" => do
          setStatus ((← numberIn words).getD status)
          throw .returning
      | "break" => do
          let levels ← levelsIn words
          if levels ≠ 0 then throw (.breaking (levels - 1))
      | "continue" => do
          let levels ← levelsIn words
          if levels ≠ 0 then throw (.continuing (levels - 1))
      | "kill" => do
          for action in ← kill words do
            runText fuel action
            setStatus 0
      | "trap" => setTraps words
      | "wait" => waitFor words
      | "umask" => setMask words
      | "cd" => changeDirectory words
      | "pwd" => do print (workingPath (← get) ++ ['\n'])
      | "set" => do
          if words.isEmpty then
            let machine ← get
            print (listing machine "" (machine.bindings.map Prod.fst))
          else setSwitches words
      | "unset" => unset words
      | "export" => exportAll words
      | "readonly" => fixAll words
      | "local" => keepAll words
      | "read" => readInto words
      | "shift" => do
          let count := (← numberIn words).getD 1
          let machine ← get
          if machine.arguments.length < count then fail "can't shift that many".toList
          set { machine with arguments := machine.arguments.drop count }
      | "eval" => do
          let text := Printed.spaced words
          if !Text.isBlankText (textOf text) then
            setStatus status
            runText fuel text
      | "." => do
          let file := words.headD []
          if !file.contains '/' then fail (file ++ ": not found".toList)
          match (← get).tree.bytes (textOf file) with
          | .ok bytes =>
              match ← attempt (speaking file (runText fuel (ofBytes bytes))) with
              | .ok () | .error .returning => return
              | .error flow => throw flow
          | .error _ => fail ("cannot open ".toList ++ file ++ ": No such file".toList)
      | "exec" => do
          match words with
          | [] => return
          | name :: rest =>
              modify fun machine => { machine with traps := [] }
              launch fuel .script name rest
              throw (.exiting true)
      | "type" => describeAll words
      | "hash" => findAll words
      | _ => return

/-- This runs the stages of a pipeline on the current input. -/
def stages : Nat → List Command → Running Unit
  | 0, _ => throw .exhausted
  | _ + 1, [] => return
  | fuel + 1, [last] => inside (whole fuel (run fuel last))
  | fuel + 1, first :: rest => do
      let before := (← get).status
      let text ← captured (whole fuel (run fuel first))
      let (index, machine) := (← get).opened text
      set { machine.setTarget 0 (.stream index) with status := before }
      stages fuel rest

/-- This runs a command. -/
def run : Nat → Command → Running Unit
  | 0, _ => throw .exhausted
  | _ + 1, .nothing => return
  | fuel + 1, .simple line assignments words redirections => do
      if (← get).idle then return
      modify fun machine => { machine with line := line, substituted := none }
      let words ← fields fuel words
      let before ← get
      let opened ← redirectAll fuel redirections
      let values ← if opened then expandAll fuel assignments else pure []
      if before.tracing && opened then
        trace before (values.map (fun (name, value) => name ++ '=' :: value) ++ words)
      match words with
      | [] =>
          if opened then
            assignAll values
            setStatus ((← get).substituted.getD 0)
          modify fun machine => { machine with descriptors := before.descriptors }
          settle
      | name :: arguments =>
          let special := specialCommands.contains (textOf name)
          if !opened then
            modify fun machine => { machine with descriptors := before.descriptors }
            if special then throw .failed
            settle
          else if name = "exec".toList && arguments.isEmpty then
            assignAll values
            setStatus 0
          else
            assignAll values
            if !special then modify fun machine => { machine with
              exported := values.map Prod.fst ++ machine.exported }
            let result ← attempt (call fuel name arguments)
            modify fun machine => { machine with descriptors := before.descriptors }
            if !special && !values.isEmpty then
              modify fun machine => { machine with
                exported := before.exported
                bindings := values.foldl (fun bindings (name, _) =>
                  bindings.restored name (before.bindings.lookup name)) machine.bindings }
            match result with
            | .ok () => settle
            | .error flow => throw flow
  | fuel + 1, .pipeline commands => do
      inside (stages fuel commands)
      settle
  | fuel + 1, .negated body => do
      let succeeded ← tested (run fuel body)
      setStatus (if succeeded then 1 else 0)
  | fuel + 1, .sequence first second => do
      run fuel first
      run fuel second
  | fuel + 1, .both first second => do
      if ← tested (run fuel first) then run fuel second
  | fuel + 1, .either first second => do
      if !(← tested (run fuel first)) then run fuel second
  | fuel + 1, .subshell body => do
      inside (whole fuel (run fuel body))
      settle
  | fuel + 1, .background body => do
      inside do
        modify fun machine => machine.setTarget 0 .discarded
        whole fuel (run fuel body)
      modify fun machine =>
        let process := machine.process + machine.background.length + 1
        { machine with background := (process, machine.status) :: machine.background, status := 0 }
  | fuel + 1, .redirected line body redirections => do
      modify fun machine => { machine with line := line }
      let kept := (← get).descriptors
      if ← redirectAll fuel redirections then
        let result ← attempt (run fuel body)
        modify fun machine => { machine with descriptors := kept }
        match result with
        | .ok () => return
        | .error flow => throw flow
      else
        modify fun machine => { machine with descriptors := kept }
        settle
  | fuel + 1, .conditional condition body other => do
      if ← tested (run fuel condition) then run fuel body
      else
        match other with
        | .nothing => setStatus 0
        | other => run fuel other
  | fuel + 1, .loop condition goal body => do
      setStatus 0
      repeatWhile <| turn do
        let last := (← get).status
        if (← tested (run fuel condition)) = goal then
          run fuel body
          return true
        else
          setStatus last
          return false
  | fuel + 1, .forEach line name words body => do
      modify fun machine => { machine with line := line }
      let values ← match words with
        | some words => fields fuel words
        | none => pure (← get).arguments
      if values.isEmpty then setStatus 0
      eachValue name (run fuel body) values
  | fuel + 1, .select line subject cases => do
      modify fun machine => { machine with line := line }
      let text := textOfMarks (← expand fuel subject)
      choose fuel text cases
  | _ + 1, .define name body => do
      modify fun machine =>
        { machine with
          functions := (name, body) :: machine.functions.filter (·.1 != name), status := 0 }
where
  /-- This shows a command, also when it sends its complaints elsewhere. -/
  trace (before : Machine) (words : List (List Char)) : Running Unit := modify fun machine =>
    let shown := ({ machine with descriptors := before.descriptors }).write 2
      ((before.bindings.lookup "PS4".toList).getD [] ++ Printed.spaced words ++ ['\n'])
    { shown with descriptors := machine.descriptors }
  assignAll (values : List (List Char × List Char)) : Running Unit := do
    for (name, value) in values do
      assign name value
  eachValue (name : List Char) (body : Running Unit) : List (List Char) → Running Unit
    | [] => return
    | value :: rest => do
        assign name value
        if ← turn (do body; return true) then eachValue name body rest

/-- This runs the first case that has a pattern for the text. -/
def choose : Nat → List Char → List (List Word × Command) → Running Unit
  | 0, _, _ => throw .exhausted
  | _ + 1, _, [] => setStatus 0
  | fuel + 1, text, (patterns, body) :: rest => do
      if ← matchesAny fuel text patterns then
        match body with
        | .nothing => setStatus 0
        | body => run fuel body
      else choose fuel text rest

def matchesAny : Nat → List Char → List Word → Running Bool
  | 0, _, _ => throw .exhausted
  | _ + 1, _, [] => return false
  | fuel + 1, text, pattern :: rest => do
      let glob := globOfMarks (← expand fuel pattern)
      if Glob.accepts glob text then return true else matchesAny fuel text rest

end

end HostAudit.Script
