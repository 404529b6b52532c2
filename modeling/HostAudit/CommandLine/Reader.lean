import HostAudit.CommandLine
import HostAudit.Text.Pieces

/-
This file reads command lines. Words are read from the left; the first fault counts. The value of an
option that stands in a word of its own is looked at only when the next option comes or the words
end, so that an unknown option behind it is noticed first. What help says is left out.
-/

namespace HostAudit.CommandLine

/-- What an option takes, and what giving it again does. -/
inductive Taking where
  /-- It takes nothing and is given once. -/
  | nothing
  /-- It takes nothing, and its occurrences are counted. -/
  | occurrences
  | text
  | path
  | form
  /-- It takes paths, one at a time. -/
  | paths
  /-- It takes lists of ids with commas between them. -/
  | ids
  | help
  | version
deriving DecidableEq, Repr

namespace Taking

def takesValue : Taking → Bool
  | text | path | form | paths | ids => true
  | _ => false

/-- Giving it twice is a conflict. -/
def isSingle : Taking → Bool
  | nothing | text | path | form => true
  | _ => false

/-- The values that a word stands for. -/
def values (taking : Taking) (word : String) : List String :=
  match taking with
  | ids => Text.pieces ',' word
  | _ => [word]

def allows (taking : Taking) (value : String) : Bool :=
  match taking with
  | path | paths => !value.isEmpty
  | form => value == "terminal" || value == "json"
  | _ => true

end Taking

/-- An option by its long name and perhaps a letter. -/
structure Rule where
  name : String
  letter : Option Char
  taking : Taking
deriving DecidableEq, Repr

/-- The options that every command has. -/
def commonRules : List Rule :=
  [⟨"verbose", some 'v', .occurrences⟩, ⟨"config", some 'c', .path⟩, ⟨"help", some 'h', .help⟩,
    ⟨"version", some 'V', .version⟩]

def runRules : List Rule :=
  [⟨"catalog", none, .paths⟩, ⟨"target", none, .text⟩, ⟨"group", none, .ids⟩,
    ⟨"check", none, .ids⟩, ⟨"skip", none, .ids⟩, ⟨"only-scored", none, .nothing⟩,
    ⟨"only-unscored", none, .nothing⟩, ⟨"format", some 'f', .form⟩, ⟨"output", some 'o', .path⟩,
    ⟨"include-test-output", none, .nothing⟩, ⟨"no-remediations", none, .nothing⟩,
    ⟨"no-summary", none, .nothing⟩, ⟨"no-totals", none, .nothing⟩,
    ⟨"fail-on-warn", none, .nothing⟩]

def validateRules : List Rule := [⟨"catalog", none, .paths⟩, ⟨"target", none, .text⟩]

def initRules : List Rule := [⟨"force", some 'f', .nothing⟩]

def manualRules : List Rule := [⟨"output", some 'o', .path⟩]

/-- The options of a command, unless there is no such command. -/
def rulesOf? : String → Option (List Rule)
  | "run" => some (commonRules ++ runRules)
  | "validate" => some (commonRules ++ validateRules)
  | "init" => some (commonRules ++ initRules)
  | "generate-man" => some (commonRules ++ manualRules)
  | _ => none

/-- The command `help` tells of the other ones. -/
def isCommand (word : String) : Bool := word == "help" || (rulesOf? word).isSome

/-- The values given for an option. A flag has an empty one for each time it is given. -/
structure Given where
  name : String
  values : List String
deriving DecidableEq, Repr

/-- An option whose value may still come. -/
structure Pending where
  rule : Rule
  value : Option String
deriving DecidableEq, Repr

/-- What has been read. After `--` only words that are no options follow. -/
structure Progress where
  given : List Given
  pending : Option Pending
  trailing : Bool
deriving DecidableEq, Repr

namespace Progress

def start : Progress := ⟨[], none, false⟩

def has (progress : Progress) (name : String) : Bool := progress.given.any (·.name == name)

/-- The next word is the value of an option, unless it is an option itself. -/
def isAwaiting (progress : Progress) : Bool := progress.pending.any (·.value.isNone)

/-- This takes note of an option with its values. -/
def record (progress : Progress) (rule : Rule) (values : List String) :
    Except UsageFault Progress :=
  if rule.taking = .help then .error .help
  else if rule.taking = .version then .error .version
  else if rule.taking.isSingle && progress.has rule.name then .error .conflict
  else if values.all rule.taking.allows then
    .ok { progress with given := progress.given ++ [⟨rule.name, values⟩] }
  else .error .badValue

/-- This looks at the value of the option that is pending. -/
def settle (progress : Progress) : Except UsageFault Progress :=
  match progress.pending with
  | none => .ok progress
  | some ⟨rule, some word⟩ =>
      { progress with pending := none }.record rule (rule.taking.values word)
  | some ⟨_, none⟩ => .error .badValue

/-- This takes an option, with a value if one is attached to it. -/
def take (progress : Progress) (rule : Rule) (attached : Option String) :
    Except UsageFault Progress :=
  if rule.taking.takesValue then
    match attached with
    | some word => do (← progress.settle).record rule (rule.taking.values word)
    | none => do return { (← progress.settle) with pending := some ⟨rule, none⟩ }
  else
    match attached with
    | some _ => .error .unwantedValue
    | none => do (← progress.settle).record rule [""]

/-- This takes the letters of a word. What follows the letter of an option that takes a value is
the value, with or without an equals sign. -/
def takeLetters (rules : List Rule) (progress : Progress) :
    List Char → Except UsageFault Progress
  | [] => .ok progress
  | letter :: rest =>
      match rules.find? (·.letter == some letter) with
      | none => .error .unknownOption
      | some rule =>
          if rule.taking.takesValue then
            progress.take rule (match rest with
              | [] => none
              | '=' :: value => some (String.ofList value)
              | value => some (String.ofList value))
          else do takeLetters rules (← progress.take rule none) rest

/-- This takes a long name and what follows its first equals sign. -/
def takeName (rules : List Rule) (progress : Progress) (word : List Char) :
    Except UsageFault Progress :=
  let (name, attached) := match Text.breakOn ['='] word with
    | some (name, value) => (name, some (String.ofList value))
    | none => (word, none)
  match rules.find? (·.name.toList == name) with
  | none => .error .unknownOption
  | some rule => progress.take rule attached

end Progress

/-- A level of the command line: its options, and whether commands follow them. -/
structure Level where
  rules : List Rule
  hasCommands : Bool

/-- The fault of a word that is neither an option nor a value. -/
def Level.stray (level : Level) (trailing : Bool) (word : String) : UsageFault :=
  if level.hasCommands && !(trailing && isCommand word) then .unknownCommand else .unknownOption

/-- This reads the words of a level, up to a command if one comes. -/
def Level.scan (level : Level) (progress : Progress) :
    List String → Except UsageFault (Progress × Option (String × List String))
  | [] => .ok (progress, none)
  | word :: rest =>
      if progress.trailing then .error (level.stray true word)
      else if level.hasCommands && isCommand word && !progress.isAwaiting then
        .ok (progress, some (word, rest))
      else match word.toList with
        | ['-', '-'] => level.scan { progress with trailing := true } rest
        | '-' :: '-' :: name => do level.scan (← progress.takeName level.rules name) rest
        | '-' :: c :: letters => do
            level.scan (← progress.takeLetters level.rules (c :: letters)) rest
        | _ =>
            match progress.pending with
            | some ⟨rule, none⟩ =>
                level.scan { progress with pending := some ⟨rule, some word⟩ } rest
            | _ => .error (level.stray false word)

/-- The fault that asking for help leads to: help on a command, or on none. -/
def helpOn : List String → UsageFault
  | [] => .help
  | [word] => if isCommand word then .help else .unknownCommand
  | _ => .unknownCommand

/-- All values given for an option. -/
def valuesOf (given : List Given) (name : String) : List String :=
  (given.filter (·.name == name)).flatMap (·.values)

def isGiven (given : List Given) (name : String) : Bool := given.any (·.name == name)

def formOf (given : List Given) : Report.Form :=
  if valuesOf given "format" = ["json"] then .json else .terminal

def requestOf (command : String) (given : List Given) : Request :=
  match command with
  | "run" => .run {
      catalogs := valuesOf given "catalog"
      target := (valuesOf given "target").head?
      groups := valuesOf given "group"
      checks := valuesOf given "check"
      skipped := valuesOf given "skip"
      onlyScored := isGiven given "only-scored"
      onlyUnscored := isGiven given "only-unscored"
      form := formOf given
      output := (valuesOf given "output").head?
      options := {
        includeOutput := isGiven given "include-test-output"
        noRemediations := isGiven given "no-remediations"
        noSummary := isGiven given "no-summary"
        noTotals := isGiven given "no-totals" }
      failOnWarn := isGiven given "fail-on-warn" }
  | "validate" => .validate {
      catalogs := valuesOf given "catalog"
      target := (valuesOf given "target").head? }
  | "init" => .init (isGiven given "force")
  | _ => .manual ((valuesOf given "output").headD ".")

/-- Scored checks and the others cannot both be all there is. -/
def isContradictory (given : List Given) : Bool :=
  isGiven given "only-scored" && isGiven given "only-unscored"

/-- This reads the words behind a command. -/
def readCommand (rules : List Rule) (words : List String) : Except UsageFault (List Given) := do
  let (progress, _) ← Level.scan ⟨rules, false⟩ .start words
  let progress ← progress.settle
  if isContradictory progress.given then .error .conflict else .ok progress.given

/-- This many occurrences are counted. -/
def verbosityLimit : Nat := 255

/-- What is given behind the command counts more than what is given before it. -/
def preferred (before behind : List Given) (name : String) : List String :=
  if isGiven behind name then valuesOf behind name else valuesOf before name

/-- This reads a command line without the name of the program. -/
def read (words : List String) : Except UsageFault CommandLine := do
  match ← Level.scan ⟨commonRules, true⟩ .start words with
  | (_, some ("help", rest)) => .error (helpOn rest)
  | (before, some (command, rest)) =>
      let behind ← readCommand ((rulesOf? command).getD []) rest
      let before ← before.settle
      return {
        verbosity := min verbosityLimit (preferred before.given behind "verbose").length
        settings := (preferred before.given behind "config").head?
        request := requestOf command behind }
  | (progress, none) =>
      let progress ← progress.settle
      .error (if progress.given.isEmpty then .nothingGiven else .missingCommand)

end HostAudit.CommandLine
