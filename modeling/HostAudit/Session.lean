import HostAudit.Audit
import HostAudit.Catalog.Discovery
import HostAudit.CommandLine.Reader
import HostAudit.Lint
import HostAudit.Script
import HostAudit.Settings.Location

/-
This file carries out what a command line asks for, on the files that the program sees.
-/

namespace HostAudit

/-- What carrying out a request depends on: the files, the path of the user's settings, whether
colors are on, and the time. -/
structure Surroundings where
  files : FileTree
  ofUser : Option String
  colored : Bool
  moment : String

/-- Why a request could not be carried out. -/
inductive SessionFault where
  | settings (fault : SettingsFault)
  | catalogs (fault : DiscoveryFault)
  | unwritable (path reason : String)
deriving DecidableEq, Repr

/-- How a request was carried out: the exit code, what is printed, and the files afterwards. -/
structure Session where
  code : Nat
  output : String
  errors : String
  files : FileTree

namespace SettingsFault

def message : SettingsFault → String
  | unreadable path reason => "Failed to read config file '" ++ path ++ "': " ++ reason
  | malformed => "Failed to parse config"
  | alreadyThere path => "'" ++ path ++ "' already exists (use --force to overwrite)"

end SettingsFault

namespace DiscoveryFault

def message : DiscoveryFault → String
  | unreadable path reason => "Failed to read catalog '" ++ path ++ "': " ++ reason
  | empty path => "No catalog files found in '" ++ path ++ "'"
  | refused (.targetMismatch target) => "non-" ++ target ++ " controls file specified"
  | refused .malformed => "failed to unmarshal YAML"

end DiscoveryFault

namespace SessionFault

def message : SessionFault → String
  | settings fault => "Configuration error: " ++ fault.message
  | catalogs fault => "Catalog error: " ++ fault.message
  | unwritable path reason => "Output error: Failed to write '" ++ path ++ "': " ++ reason

/-- The exit code when a request could not be carried out. -/
def exitCode : Nat := 3

end SessionFault

namespace Session

/-- The exit code when a request contradicts itself or lacks what it needs. -/
def unusable : Nat := 4

/-- The exit code of an audit: failures count first, and warnings where they are to count. -/
def exitCode (results : AuditResults) (failOnWarn : Bool) : Nat :=
  if results.hasFailures then 1
  else if failOnWarn && results.hasWarnings then 2
  else 0

/-- A text in the style of a code, where colors are on. -/
def painted (around : Surroundings) (code text : String) : String :=
  if around.colored then Report.styled code text else text

def cyan (around : Surroundings) : String → String := painted around "36"

def yellow (around : Surroundings) : String → String := painted around "33"

def success (around : Surroundings) : String := painted around "1;32" "Success:"

def error (around : Surroundings) : String := painted around "1;31" "Error:"

/-- A session that only prints. -/
def printed (around : Surroundings) (code : Nat) (output : String) : Session :=
  ⟨code, output, "", around.files⟩

/-- A session that only complains. -/
def refused (around : Surroundings) (message : String) : Session :=
  ⟨unusable, "", error around ++ " " ++ message ++ "\n", around.files⟩

/-- The catalogs of the command line, or else those of the settings. -/
def catalogPaths (named : List String) (settings : Settings) : List String :=
  if named.isEmpty then settings.run.catalogs else named

def loadOptions (target : Option String) (settings : Settings) : LoadOptions :=
  ⟨settings.substitutions, target <|> settings.run.target, settings.probe.process⟩

def settingsOf (around : Surroundings) (named : Option String) : Except SessionFault Settings :=
  (Settings.find around.files around.ofUser named).mapError .settings

def catalogsOf (around : Surroundings) (options : LoadOptions) (paths : List String) :
    Except SessionFault (List (String × Catalog)) :=
  (Catalog.loadAll around.files options paths).mapError .catalogs

def write (around : Surroundings) (path text : String) : Except SessionFault FileTree :=
  (around.files.write path (Text.Utf8.bytes text)).mapError fun fault =>
    .unwritable path fault.message

/-- The ids to be skipped are those of the settings and those of the command line. -/
def auditOf (filter : Filter) (request : RunRequest) (settings : Settings) : Audit :=
  { Audit.everything with filter }.skipping (settings.run.skipped ++ request.skipped)

/-- This gives the report of an audit, in a file where one is named. -/
def deliver (around : Surroundings) (request : RunRequest) (results : AuditResults) :
    Except SessionFault Session := do
  let report := Report.rendered request.form request.options around.colored around.moment results
  let code := exitCode results request.failOnWarn
  match request.output with
  | none => return printed around code report
  | some path =>
      return ⟨code, "",
        success around ++ " Report written to: " ++ cyan around path ++ "\n",
        ← write around path report⟩

def noCatalog : String :=
  "No catalog given. Use --catalog or set run.catalogs in the configuration."

/-- This runs checks and gives their report. -/
def run (around : Surroundings) (named : Option String) (request : RunRequest) :
    Except SessionFault Session := do
  let settings ← settingsOf around named
  match catalogPaths request.catalogs settings with
  | [] => return refused around noCatalog
  | paths =>
      match Filter.make? request.groups request.checks request.onlyScored request.onlyUnscored with
      | .error message => return refused around message
      | .ok filter =>
          let catalogs ← catalogsOf around (loadOptions request.target settings) paths
          let probe := Probe.script around.files settings.probe.shell
          deliver around request
            ((auditOf filter request settings).run probe (catalogs.map Prod.snd))

/-- The line about a catalog, and a line for each problem with it. -/
def catalogLines (around : Surroundings) (path : String) (catalog : Catalog) : String :=
  painted around "2" path ++ " " ++ cyan around catalog.id ++ " " ++ catalog.text ++ " (" ++
    yellow around catalog.target ++ "): " ++ Integer.naturalText catalog.groups.length ++
    " groups, " ++ Integer.naturalText catalog.checks.length ++ " checks\n" ++
    Text.joined "" ((Lint.ofCatalog catalog).map fun problem =>
      "  " ++ painted around "31" "•" ++ " " ++ Lint.line problem ++ "\n")

/-- This tells what is wrong with catalogs. -/
def validate (around : Surroundings) (named : Option String) (request : ValidateRequest) :
    Except SessionFault Session := do
  let settings ← settingsOf around named
  match catalogPaths request.catalogs settings with
  | [] => return refused around "No catalog given."
  | paths =>
      let catalogs ← catalogsOf around (loadOptions request.target settings) paths
      let lines := Text.joined "" (catalogs.map fun (path, catalog) =>
        catalogLines around path catalog)
      let problems := Integer.total <|
        catalogs.map fun (_, catalog) => (Lint.ofCatalog catalog).length
      return if problems = 0 then
        printed around 0 (lines ++ "\n" ++ success around ++ " Catalogs are valid\n")
      else
        printed around 1 (lines ++ "\n" ++ error around ++ " " ++
          Integer.naturalText problems ++ " problem(s) found\n")

/-- What to do once settings are there. -/
def nextSteps (around : Surroundings) : String :=
  success around ++ " Created " ++ cyan around Settings.fileName ++ "\n" ++
    "\nNext steps:\n" ++
    "  1. Review the " ++ yellow around "[substitutions]" ++ " paths in " ++
      cyan around Settings.fileName ++ "\n" ++
    "  2. Run " ++ cyan around "benchlens validate --catalog <PATH>" ++
      " to check your catalogs\n" ++
    "  3. Run " ++ cyan around "benchlens run --catalog <PATH>" ++ " to audit this host\n"

/-- This writes settings to begin with; settings that are there stay, unless this is forced. -/
def init (around : Surroundings) (force : Bool) : Except SessionFault Session := do
  if around.files.holds Settings.fileName && !force then
    throw (.settings (.alreadyThere Settings.fileName))
  let files ← write around Settings.fileName Settings.starter.written
  return ⟨0, nextSteps around, "", files⟩

/-- This writes a page about the program into a directory. The page is given: a library renders it
from the command line. -/
def manual (around : Surroundings) (page directory : String) : Except SessionFault Session := do
  let path := Catalog.extended directory "benchlens.1"
  let files ← write around path page
  return ⟨0, "Man page generated: " ++ path ++ "\n", "", files⟩

/-- This carries out what a command line asks for. The page about the program is empty unless one is
given. -/
def ofCommandLine (around : Surroundings) (line : CommandLine) (page : String := "") :
    Except SessionFault Session :=
  match line.request with
  | .run request => run around line.settings request
  | .validate request => validate around line.settings request
  | .init force => init around force
  | .manual directory => manual around page directory

end Session

end HostAudit
