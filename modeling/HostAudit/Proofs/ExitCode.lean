import HostAudit.Proofs.DecisionTable
import HostAudit.Proofs.RunContents
import HostAudit.Session

/-
This file proves that the exit code of a run tells what its checks came to, and that it does not
depend on how or where the report is given.
-/

namespace HostAudit

/-- An exit code tells what checks came to: it is 1 if one of them failed, 2 if none of them did but
one warned and warnings count, and otherwise 0. -/
structure Session.Tells (failOnWarn : Bool) (checks : List CheckResult) (code : Nat) : Prop where
  failed : code = 1 ↔ ∃ check ∈ checks, check.state = .fail
  warned : code = 2 ↔ (∀ check ∈ checks, check.state ≠ .fail) ∧
    (∃ check ∈ checks, check.state = .warn) ∧ failOnWarn = true
  others : code = 0 ∨ code = 1 ∨ code = 2

/-- The exit code of results whose counters are right tells what their checks came to. -/
theorem AuditResults.Tallied.tells {results : AuditResults} (tallied : results.Tallied)
    (failOnWarn : Bool) :
    Session.Tells failOnWarn results.checks (Session.exitCode results failOnWarn) := by
  have fails := tallied.hasFailures_iff
  have warns := tallied.hasWarnings_iff
  by_cases failed : results.hasFailures = true
  · have some := fails.mp failed
    have code : Session.exitCode results failOnWarn = 1 := by rw [Session.exitCode, if_pos failed]
    refine ⟨by simp [code, some], ?_, by simp [code]⟩
    obtain ⟨check, member, state⟩ := some
    rw [code]
    exact iff_of_false (by decide) fun none => none.1 check member state
  · have none : ∀ check ∈ results.checks, check.state ≠ .fail := by
      simpa [failed] using fails
    have code : Session.exitCode results failOnWarn =
        if failOnWarn && results.hasWarnings then 2 else 0 := by
      rw [Session.exitCode, if_neg failed]
    refine ⟨?failed, ?warned, ?others⟩
    case failed =>
      rw [code, ← fails]
      refine iff_of_false ?_ failed
      split <;> decide
    case warned =>
      rw [code, ← warns, iff_true_intro none, true_and]
      cases failOnWarn <;> cases results.hasWarnings <;> simp
    case others =>
      rw [code]
      split <;> simp

namespace Check

variable {check : Check} {probe : Probe}

/-- Only a check that is not marked as skipped or manual can fail. -/
theorem mark_of_fails (fails : (check.run probe).state = .fail) :
    check.mark ≠ some .skip ∧ check.mark ≠ some .manual := by
  refine ⟨fun skip => ?_, fun manual => ?_⟩
  · have informs : (check.run probe).state = .info := informs_iff.mpr skip
    simp [fails] at informs
  · have warns : (check.run probe).state = .warn :=
      (warns_iff (scored_of_fails fails)).mpr (.inl manual)
    simp [fails] at warns

end Check

namespace Audit

variable {audit : Audit} {probe : Probe} {catalogs : List Catalog} {result : CheckResult}

/-- A result tells of a check that the audit selects, which is scored and neither skipped nor
manual. -/
structure Examines (audit : Audit) (probe : Probe) (group : Group) (check : Check)
    (result : CheckResult) : Prop where
  tells : audit.Tells probe group check result
  selected : audit.filter.Selects group check
  scored : check.scored = true
  taken : audit.skips group check = false
  mark : check.mark ≠ some .skip ∧ check.mark ≠ some .manual

/-- A result has the state that its check came to. -/
theorem result_state (probe : Probe) (check : Check) :
    (Audit.result probe check).state = (check.run probe).state := rfl

/-- A result that failed is that of a check which the audit selects and which could fail. -/
theorem examines_of_fails (member : result ∈ (audit.run probe catalogs).checks)
    (fails : result.state = .fail) :
    ∃ catalog ∈ catalogs, ∃ group ∈ catalog.groups, ∃ check ∈ group.checks,
      audit.Examines probe group check result := by
  obtain ⟨catalog, given, group, inside, check, selected, rfl⟩ := mem_run_checks.mp member
  obtain ⟨belongs, selects⟩ := List.mem_filter.mp selected
  rw [result_state] at fails
  have scored := Check.scored_of_fails fails
  have mark := Check.mark_of_fails fails
  rw [prepare_eq] at scored mark
  have taken : audit.skips group check = false := by
    by_contra skips
    simp [markOf, skips] at mark
  rw [markOf, taken] at mark
  exact ⟨catalog, given, group, inside, check, belongs, audit.tells_result probe group check,
    of_decide_eq_true selects, scored, taken, mark⟩

end Audit

namespace Session

/-- What a request leads to when it can be carried out. -/
structure Plan where
  settings : Settings
  filter : Filter
  catalogs : List (String × Catalog)

/-- A request leads to a plan: there are settings, the request names catalogs and no conflicting
filter, and the catalogs can be read. -/
structure Plans (around : Surroundings) (named : Option String) (request : RunRequest)
    (plan : Plan) : Prop where
  settings : settingsOf around named = .ok plan.settings
  paths : catalogPaths request.catalogs plan.settings ≠ []
  filter : Filter.make? request.groups request.checks request.onlyScored request.onlyUnscored =
    .ok plan.filter
  catalogs : catalogsOf around (loadOptions request.target plan.settings)
    (catalogPaths request.catalogs plan.settings) = .ok plan.catalogs

namespace Plan

def audit (plan : Plan) (request : RunRequest) : Audit :=
  auditOf plan.filter request plan.settings

def probe (plan : Plan) (around : Surroundings) : Probe :=
  Probe.script around.files plan.settings.probe.shell

def results (plan : Plan) (around : Surroundings) (request : RunRequest) : AuditResults :=
  (plan.audit request).run (plan.probe around) (plan.catalogs.map Prod.snd)

end Plan

variable {around : Surroundings} {named : Option String} {request : RunRequest}
  {plan : Plan} {session : Session}

/-- A request leads to one plan at most. -/
theorem Plans.unique (plans : Plans around named request plan) {other : Plan}
    (others : Plans around named request other) : other = plan := by
  obtain ⟨settings, filter, catalogs⟩ := plan
  obtain ⟨otherSettings, otherFilter, otherCatalogs⟩ := other
  obtain rfl : otherSettings = settings := by
    simpa [plans.settings] using others.settings.symm
  obtain rfl : otherFilter = filter := by simpa [plans.filter] using others.filter.symm
  obtain rfl : otherCatalogs = catalogs := by simpa [plans.catalogs] using others.catalogs.symm
  rfl

/-- How the report is given has no part in the plan. -/
theorem Plans.of_form (plans : Plans around named request plan) (form : Report.Form)
    (options : Report.Options) (output : Option String) :
    Plans around named { request with form, options, output } plan :=
  ⟨plans.settings, plans.paths, plans.filter, plans.catalogs⟩

/-- Running a request delivers the results of its plan. -/
theorem Plans.run_eq (plans : Plans around named request plan) :
    Session.run around named request = deliver around request (plan.results around request) := by
  have paths := plans.paths
  have catalogs := plans.catalogs
  rw [Session.run, plans.settings]
  simp only [bind, Except.bind]
  cases given : catalogPaths request.catalogs plan.settings with
  | nil => exact absurd given paths
  | cons path rest =>
      rw [given] at catalogs
      simp only [plans.filter, catalogs]
      rfl

/-- However a report is delivered, its exit code is that of the results. -/
theorem code_of_deliver {results : AuditResults}
    (delivered : deliver around request results = .ok session) :
    session.code = exitCode results request.failOnWarn := by
  rw [deliver] at delivered
  split at delivered
  · rw [pure_eq_ok] at delivered
    rw [← delivered]
    rfl
  · rw [bind_eq_ok] at delivered
    obtain ⟨files, -, made⟩ := delivered
    rw [pure_eq_ok] at made
    rw [← made]

/-- The exit code of a run tells what the checks of its report came to, whatever the audit and the
probe are. A check that failed is scored, neither skipped nor manual, and selected by the filter.
The same request gives the same code in any form, with any options, and wherever its report goes. -/
theorem exit_code_tells_checks (plans : Plans around named request plan)
    (ran : Session.run around named request = .ok session) :
    (∀ audit probe catalogs delivered,
      deliver around request (Audit.run audit probe catalogs) = .ok delivered →
        Tells request.failOnWarn (audit.run probe catalogs).checks delivered.code) ∧
    (∀ (audit : Audit) probe catalogs, ∀ result ∈ (audit.run probe catalogs).checks,
      result.state = .fail →
        ∃ catalog ∈ catalogs, ∃ group ∈ catalog.groups, ∃ check ∈ group.checks,
          audit.Examines probe group check result) ∧
    Tells request.failOnWarn (plan.results around request).checks session.code ∧
    ∀ form options output other,
      Session.run around named { request with form, options, output } = .ok other →
        other.code = session.code := by
  have told (request : RunRequest) (audit : Audit) (probe : Probe) (catalogs : List Catalog)
      (delivered : Session)
      (given : deliver around request (audit.run probe catalogs) = .ok delivered) :
      Tells request.failOnWarn (audit.run probe catalogs).checks delivered.code := by
    rw [code_of_deliver given]
    exact (audit.run_built probe catalogs).tallied.tells request.failOnWarn
  have given := ran
  rw [plans.run_eq] at given
  refine ⟨told request, ?failing, told request _ _ _ session given, ?form⟩
  case failing =>
    exact fun audit probe catalogs result member fails => Audit.examines_of_fails member fails
  case form =>
    intro form options output other again
    rw [(plans.of_form form options output).run_eq] at again
    rw [code_of_deliver given, code_of_deliver again]
    rfl

/-- A check that is scored and has no tests in its test set. -/
def untestedText : String :=
  "groups:\n- checks:\n  - scored: true\n    tests:\n      bin_op: or\n"

def untestedCheck : Check := { Check.empty with tests := some ⟨[], .any⟩, scored := true }

def untestedCatalog : Catalog := ⟨"", "", "", "", [⟨"", "", "", [untestedCheck]⟩]⟩

/-- A directory with nothing but that catalog. -/
def untestedFiles : FileTree :=
  ⟨.directory [("node.yaml", .file (Text.Utf8.bytes untestedText))], []⟩

def untestedHost : Surroundings := ⟨untestedFiles, none, false, ""⟩

def untestedRequest : RunRequest :=
  ⟨["node.yaml"], none, [], [""], [], true, false, .json, none, ⟨true, false, false, false⟩, true⟩

def untestedPlan : Plan :=
  ⟨.standard, ⟨[], [""], true, false, .inl rfl⟩, [("node.yaml", untestedCatalog)]⟩

/-- The catalog is found in its place. -/
theorem untested_place : untestedFiles.place "node.yaml" = .ok ["node.yaml"] := by
  have parts : FileTree.parts "node.yaml" = ["node.yaml"] := by decide +kernel
  simp [FileTree.place, FileTree.follow, FileTree.start, FileTree.isAbsolute, parts, untestedFiles,
    FileNode.at?]

/-- There are no settings on that host. -/
theorem untested_settings : untestedFiles.place ".benchlens.toml" = .error .missing := by
  have parts : FileTree.parts ".benchlens.toml" = [".benchlens.toml"] := by decide +kernel
  simp [FileTree.place, FileTree.follow, FileTree.start, FileTree.isAbsolute, parts, untestedFiles,
    FileNode.at?, List.lookup_cons]

/-- The text of the catalog is read as the catalog. -/
theorem untested_read (options : LoadOptions) (plain : options.substitutions = [])
    (any : options.target = none) : Catalog.read options untestedText = .ok untestedCatalog := by
  have filled : Placeholder.fill [] untestedText = untestedText := by cbv
  have parsed : Catalog.ofFilled? untestedText = some untestedCatalog := by decide +kernel
  have complete (process : Option String) :
      untestedCatalog.withEnvironmentProbes process = untestedCatalog := by
    cases process <;> rfl
  simp [Catalog.read, plain, any, filled, parsed, complete]

/-- The request leads to the plan with that catalog. -/
theorem untested_plans : Plans untestedHost none untestedRequest untestedPlan := by
  refine ⟨?settings, by decide, by decide, ?catalogs⟩
  case settings =>
    simp [settingsOf, Settings.find, untestedHost, FileTree.holds, FileTree.node?,
      Settings.fileName, untested_settings]
    rfl
  case catalogs =>
    have found : Catalog.discover untestedFiles "node.yaml" = .ok ["node.yaml"] := by
      simp [Catalog.discover, FileTree.node?, untested_place]
      rfl
    have bytes : Text.Utf8.text? (Text.Utf8.bytes untestedText) = some untestedText := by
      decide +kernel
    have text : untestedFiles.text "node.yaml" = .ok untestedText := by
      simp only [FileTree.text, FileTree.bytes, untested_place, bind_eq_ok]
      exact ⟨_, ⟨_, rfl, rfl⟩, by rw [bytes]⟩
    have loaded (options : LoadOptions) (plain : options.substitutions = [])
        (any : options.target = none) :
        Catalog.load untestedFiles options "node.yaml" = .ok untestedCatalog := by
      simp only [Catalog.load, text, untested_read options plain any]
    simp [catalogsOf, Catalog.loadAll, Catalog.loadPath, catalogPaths, untestedRequest,
      untestedHost, found, loaded (loadOptions none Settings.standard) rfl rfl, untestedPlan]

theorem exit_code_tells_checks_untested :
    Plans untestedHost none untestedRequest untestedPlan ∧
    ∃ session, Session.run untestedHost none untestedRequest = .ok session ∧ session.code = 1 ∧
      ∃ result ∈ (untestedPlan.results untestedHost untestedRequest).checks,
        result.reason = "No tests defined" := by
  have plans := untested_plans
  obtain ⟨session, ran⟩ : ∃ session, Session.run untestedHost none untestedRequest = .ok session :=
    ⟨_, plans.run_eq⟩
  obtain ⟨-, -, told, -⟩ := exit_code_tells_checks plans ran
  have member : Audit.result (untestedPlan.probe untestedHost) untestedCheck ∈
      (untestedPlan.results untestedHost untestedRequest).checks := by
    refine Audit.mem_run_checks.mpr ⟨untestedCatalog, by simp [untestedPlan], _, .head _,
      untestedCheck, by decide +kernel, ?_⟩
    rfl
  exact ⟨plans, session, ran, told.failed.mpr ⟨_, member, rfl⟩, _, member, rfl⟩

end Session

end HostAudit
