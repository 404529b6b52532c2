import HostAudit.Proofs.Counters
import HostAudit.Proofs.Pieces
import HostAudit.Report.Terminal
import Mathlib.Data.List.Forall2

/-
This file proves that the terminal report agrees with the results. A sheet says what a report shows,
line by line. It takes nothing from the counters: whether there is advice, and all its numbers, come
from the checks alone. The text of a sheet is written out in words of its own, with numbers in
decimal digits. Without colors the terminal report is this text.
-/

namespace HostAudit.Report

/-- What is shown of a check: a line, and rows of output. -/
structure Entry where
  state : State
  id : String
  text : String
  rows : List String

/-- A line for a group, and what is shown of its checks. -/
structure Section where
  id : String
  text : String
  entries : List Entry

/-- What to do about a check, or why it could not be tested. -/
inductive Advice where
  | remedy (id remediation : String)
  | untested (id reason : String)

/-- What is shown of a catalog. Advice and numbers may be left out. -/
structure Page where
  id : String
  text : String
  target : String
  sections : List Section
  advice : Option (List Advice)
  numbers : Option (State → Nat)

/-- What a whole report shows. -/
structure Sheet where
  pages : List Page
  totals : Option (State → Nat)

section Written

/-- The word for a state at the beginning of a line. -/
def word : State → String
  | .pass => "PASS"
  | .fail => "FAIL"
  | .warn => "WARN"
  | .info => "INFO"

def headline (state : State) (id text : String) : String :=
  "[" ++ word state ++ "] " ++ id ++ " " ++ text ++ "\n"

def Entry.written (entry : Entry) : String :=
  headline entry.state entry.id entry.text ++
    String.join (entry.rows.map fun row => "\t " ++ row ++ "\n")

def Section.written (part : Section) : String :=
  headline .info part.id part.text ++ String.join (part.entries.map Entry.written)

def Advice.written : Advice → String
  | remedy id remediation => id ++ " " ++ remediation ++ "\n"
  | untested id reason => id ++ " audit test did not run: " ++ reason ++ "\n"

def writtenAdvice (target : String) (advice : List Advice) : String :=
  "== Remediations " ++ target ++ " ==\n" ++ String.join (advice.map Advice.written) ++ "\n"

/-- The number of checks in a state, in decimal digits. -/
def numberLine (count : Nat) (state : State) : String :=
  toString count ++ " checks " ++ word state ++ "\n"

def writtenNumbers (title : String) (numbers : State → Nat) : String :=
  "== Summary " ++ title ++ " ==\n" ++
    numberLine (numbers .pass) .pass ++ numberLine (numbers .fail) .fail ++
    numberLine (numbers .warn) .warn ++ numberLine (numbers .info) .info ++ "\n"

def Page.written (page : Page) : String :=
  headline .info page.id page.text ++ String.join (page.sections.map Section.written) ++ "\n" ++
    (page.advice.map (writtenAdvice page.target)).getD "" ++
    (page.numbers.map (writtenNumbers page.target)).getD ""

def Sheet.written (sheet : Sheet) : String :=
  String.join (sheet.pages.map Page.written) ++
    (sheet.totals.map (writtenNumbers "total")).getD ""

end Written

def Page.entries (page : Page) : List Entry := page.sections.flatMap Section.entries

def Sheet.entries (sheet : Sheet) : List Entry := sheet.pages.flatMap Page.entries

/-- The number of the lines for checks that name a state. -/
def linesOf (entries : List Entry) (state : State) : Nat :=
  entries.countP fun entry => entry.state = state

/-- The check failed on an output that is to be shown. -/
abbrev ShowsOutput (options : Options) (check : CheckResult) : Prop :=
  options.includeOutput = true ∧ check.state = .fail ∧ check.actual ≠ ""

abbrev NeedsAdvice (check : CheckResult) : Prop := check.state = .fail ∨ check.state = .warn

/-- The check warned and tells why, and it was not to be made by hand. -/
abbrev TellsReason (check : CheckResult) : Prop :=
  check.state = .warn ∧ check.reason ≠ "" ∧ check.mark ≠ some .manual

def Entry.of (options : Options) (check : CheckResult) : Entry where
  state := check.state
  id := check.id
  text := check.text
  rows := if ShowsOutput options check then
    (check.actual.toList.splitOn '\n').map String.ofList else []

def Advice.of (check : CheckResult) : Advice :=
  if TellsReason check then .untested check.id check.reason else .remedy check.id check.remediation

def Section.of (options : Options) (group : GroupResult) : Section :=
  ⟨group.id, group.text, group.checks.map (Entry.of options)⟩

/-- The advice on checks, if any of them needs it. -/
def adviceOn (checks : List CheckResult) : Option (List Advice) :=
  if ∃ check ∈ checks, NeedsAdvice check then
    some ((checks.filter fun check => NeedsAdvice check).map Advice.of)
  else none

def Page.of (options : Options) (report : CatalogReport) : Page where
  id := report.id
  text := report.text
  target := report.target
  sections := report.groups.map (Section.of options)
  advice := if options.noRemediations then none else adviceOn report.checks
  numbers := if options.noSummary then none
    else some (linesOf (report.checks.map (Entry.of options)))

def Sheet.of (options : Options) (results : AuditResults) : Sheet where
  pages := results.reports.map (Page.of options)
  totals := if options.noTotals then none
    else some (linesOf (results.checks.map (Entry.of options)))

section Lines

/-- Lines that say the same of each item are the same when they are joined. -/
theorem joined_lines {A B : Type} {line : A → String} {of : A → B} {written : B → String}
    {items : List A} (same : ∀ item ∈ items, line item = written (of item)) :
    Text.joined "" (items.map line) = String.join ((items.map of).map written) := by
  rw [Text.joined_empty, List.map_map]
  exact congrArg String.join (List.map_congr_left same)

variable (options : Options)

/-- The states are named as the report writes them. -/
theorem name_eq_word (state : State) : state.name = word state := by cases state <;> rfl

/-- A headline is written without colors as it stands in the report. -/
theorem stateLine_eq (state : State) (id text : String) :
    stateLine false state (id ++ " " ++ text) = headline state id text := by
  rw [stateLine, painted, if_neg Bool.false_ne_true, name_eq_word, headline]
  simp only [String.append_assoc, String.reduceAppend]

/-- Without colors a title is written as it is. -/
theorem titleLine_eq (color : Color) (kind title : String) :
    painted false color (kind ++ title ++ " ==") ++ "\n" = kind ++ title ++ " ==\n" := by
  rw [painted, if_neg Bool.false_ne_true]
  simp only [String.append_assoc, String.reduceAppend]

/-- A counter is written as its number and what it counts. -/
theorem countLine_eq (count : Nat) (state : State) :
    countLine count state = numberLine count state := by
  rw [countLine, numberLine, name_eq_word]
  rfl

/-- Rows are shown of the output that a check failed on, and of no other. -/
theorem outputRows_eq (check : CheckResult) :
    outputRows options check =
      String.join ((Entry.of options check).rows.map fun row => "\t " ++ row ++ "\n") := by
  have shown : (options.includeOutput && check.state == .fail && !check.actual.isEmpty) = true ↔
      ShowsOutput options check := by
    simp [ShowsOutput, and_assoc]
  rw [outputRows, Entry.of]
  by_cases shows : ShowsOutput options check
  · rw [if_pos (shown.mpr shows), if_pos shows, Text.joined_empty, Text.pieces,
      Text.splitAt_eq_splitOn]
  · rw [if_neg (mt shown.mp shows), if_neg shows]
    rfl

/-- The lines of a check are what its entry says. -/
theorem checkLines_eq (check : CheckResult) :
    checkLines options false check = (Entry.of options check).written := by
  rw [checkLines, stateLine_eq, outputRows_eq]
  rfl

/-- The lines of a group are what its section says. -/
theorem groupLines_eq (group : GroupResult) :
    groupLines options false group = (Section.of options group).written := by
  have entries := joined_lines fun check (_ : check ∈ group.checks) => checkLines_eq options check
  rw [groupLines, stateLine_eq, entries]
  rfl

/-- A catalog has its own line, and then the lines of its groups and of their checks. -/
theorem catalogLines_eq (report : CatalogReport) :
    catalogLines options false report =
      headline .info report.id report.text ++
        String.join ((report.groups.map (Section.of options)).map Section.written) ++ "\n" := by
  have sections := joined_lines fun group (_ : group ∈ report.groups) => groupLines_eq options group
  rw [catalogLines, stateLine_eq, sections]

end Lines

section Advising

/-- A check that needs advice is given it. -/
theorem remedy?_of_needs {check : CheckResult} (needs : NeedsAdvice check) :
    remedy? check = some (Advice.of check).written := by
  have told : (!check.reason.isEmpty && !check.isManual) = true ↔
      check.reason ≠ "" ∧ check.mark ≠ some .manual := by
    simp [CheckResult.isManual]
  rw [remedy?, Advice.of]
  rcases needs with failed | warned
  · have silent : ¬TellsReason check := fun tells => absurd (failed.symm.trans tells.1) (by decide)
    rw [if_neg silent, failed]
    rfl
  · by_cases tells : TellsReason check
    · rw [if_pos tells, warned]
      exact if_pos (told.mpr tells.2)
    · rw [if_neg tells, warned]
      exact if_neg fun both => tells ⟨warned, told.mp both⟩

/-- A check that needs no advice is given none. -/
theorem remedy?_of_not_needs {check : CheckResult} (content : ¬NeedsAdvice check) :
    remedy? check = none := by
  rw [remedy?]
  split
  · exact absurd (.inl (by assumption)) content
  · exact absurd (.inr (by assumption)) content
  · rfl

/-- Advice is given on the checks that need it, in their order. -/
theorem filterMap_remedy? (checks : List CheckResult) :
    checks.filterMap remedy? =
      ((checks.filter fun check => NeedsAdvice check).map Advice.of).map Advice.written := by
  induction checks with
  | nil => rfl
  | cons check checks ih =>
      by_cases needs : NeedsAdvice check
      · rw [List.filterMap_cons_some (remedy?_of_needs needs), ih,
          List.filter_cons_of_pos (by simpa using needs)]
        rfl
      · rw [List.filterMap_cons_none (remedy?_of_not_needs needs), ih,
          List.filter_cons_of_neg (by simpa using needs)]

/-- The counters tell whether there is advice. -/
theorem remediations_eq {report : CatalogReport} (counts : report.summary.Counts report.checks) :
    remediations false report =
      ((adviceOn report.checks).map (writtenAdvice report.target)).getD "" := by
  have absent (state : State) :
      report.summary.count state = 0 ↔ ¬∃ check ∈ report.checks, check.state = state := by
    rw [← counts.pos_iff]
    exact Nat.pos_iff_ne_zero.not_left.symm
  have failing : report.summary.fail = 0 ↔ _ := absent .fail
  have warning : report.summary.warn = 0 ↔ _ := absent .warn
  have none : (report.summary.fail = 0 ∧ report.summary.warn = 0) ↔
      ¬∃ check ∈ report.checks, NeedsAdvice check := by
    rw [failing, warning]
    simp only [NeedsAdvice, not_exists, not_and, not_or, ← forall_and]
  rw [remediations, adviceOn]
  by_cases some : ∃ check ∈ report.checks, NeedsAdvice check
  · rw [if_neg (fun both => none.mp both some), if_pos some, filterMap_remedy?, titleLine_eq,
      Text.joined_empty]
    rfl
  · rw [if_pos (none.mpr some), if_neg some]
    rfl

end Advising

/-- The counters are the numbers of lines. -/
theorem summaryBlock_eq (options : Options) {summary : Summary} {checks : List CheckResult}
    (counts : summary.Counts checks) (title : String) :
    summaryBlock false summary title =
      writtenNumbers title (linesOf (checks.map (Entry.of options))) := by
  have numbers : summary.count = linesOf (checks.map (Entry.of options)) := by
    funext state
    rw [counts.each, linesOf, List.countP_map]
    rfl
  rw [← numbers, summaryBlock, titleLine_eq, Text.joined_empty, writtenNumbers]
  simp only [State.all, List.map_cons, List.map_nil, String.join_cons, String.join_nil,
    countLine_eq, String.append_assoc, String.append_empty]

/-- The lines of a catalog are what its page says. -/
theorem catalogBlock_eq (options : Options) {report : CatalogReport} (tallied : report.Tallied) :
    catalogBlock options false report = (Page.of options report).written := by
  rw [catalogBlock, catalogLines_eq, remediations_eq tallied.counters,
    summaryBlock_eq options tallied.counters, Page.written, Page.of]
  cases options.noRemediations <;> cases options.noSummary <;> rfl

/-- The report is what its sheet says. -/
theorem terminal_eq (options : Options) {results : AuditResults} (tallied : results.Tallied) :
    terminal options false results = (Sheet.of options results).written := by
  have pages := joined_lines fun report (member : report ∈ results.reports) =>
    catalogBlock_eq options (tallied.reports report member)
  rw [terminal, pages, summaryBlock_eq options tallied.counters, Sheet.written, Sheet.of]
  cases options.noTotals <;> rfl

/-- A page shows a report: a line for every check in order, with the rows of its output if they are
to be shown, advice if it is not left out and some check needs it, and the numbers of the lines for
checks unless they are left out. -/
structure Page.Shows (options : Options) (report : CatalogReport) (page : Page) : Prop where
  headline : page.id = report.id ∧ page.text = report.text ∧ page.target = report.target
  sections : page.sections = report.groups.map (Section.of options)
  entries : page.entries = report.checks.map (Entry.of options)
  advised : page.advice.isSome ↔
    options.noRemediations = false ∧ ∃ check ∈ report.checks, NeedsAdvice check
  advice : ∀ advice ∈ page.advice,
    advice = (report.checks.filter fun check => NeedsAdvice check).map Advice.of
  numbered : page.numbers.isSome ↔ options.noSummary = false
  numbers : ∀ numbers ∈ page.numbers, numbers = linesOf page.entries

/-- A sheet shows results: a page for every report in order, and the numbers of the lines on all
pages unless they are left out. -/
structure Sheet.Shows (options : Options) (results : AuditResults) (sheet : Sheet) : Prop where
  pages : List.Forall₂ (Page.Shows options) results.reports sheet.pages
  numbered : sheet.totals.isSome ↔ options.noTotals = false
  totals : ∀ numbers ∈ sheet.totals, numbers = linesOf sheet.entries

/-- There is advice exactly if a check needs it. -/
theorem adviceOn_isSome_iff {checks : List CheckResult} :
    (adviceOn checks).isSome ↔ ∃ check ∈ checks, NeedsAdvice check := by
  rw [adviceOn]
  split
  · rename_i some
    exact iff_of_true rfl some
  · rename_i none
    exact iff_of_false Bool.false_ne_true none

/-- The advice is on the checks that need it. -/
theorem eq_of_mem_adviceOn {checks : List CheckResult} {advice : List Advice}
    (given : advice ∈ adviceOn checks) :
    advice = (checks.filter fun check => NeedsAdvice check).map Advice.of := by
  rw [adviceOn] at given
  split at given
  · exact (Option.some.inj given).symm
  · cases given

/-- A page has an entry for each check of the catalog. -/
theorem Page.entries_of (options : Options) (report : CatalogReport) :
    (Page.of options report).entries = report.checks.map (Entry.of options) := by
  rw [Page.entries, Page.of, CatalogReport.checks, List.map_flatMap, List.flatMap_map]
  rfl

/-- A page shows its catalog. -/
theorem Page.shows_of (options : Options) (report : CatalogReport) :
    (Page.of options report).Shows options report where
  headline := ⟨rfl, rfl, rfl⟩
  sections := rfl
  entries := Page.entries_of options report
  advised := by
    rw [Page.of, ← adviceOn_isSome_iff]
    cases options.noRemediations <;> simp
  advice := by
    intro advice given
    exact eq_of_mem_adviceOn (Option.mem_ite_none_left.mp given).2
  numbered := by
    rw [Page.of]
    cases options.noSummary <;> simp
  numbers := by
    intro numbers given
    rw [Page.entries_of]
    exact Option.mem_some.mp (Option.mem_ite_none_left.mp given).2 |>.symm

/-- A sheet has an entry for each check of the run. -/
theorem Sheet.entries_of (options : Options) (results : AuditResults) :
    (Sheet.of options results).entries = results.checks.map (Entry.of options) := by
  rw [Sheet.entries, Sheet.of, AuditResults.checks, List.map_flatMap, List.flatMap_map]
  exact List.flatMap_congr fun report _ => Page.entries_of options report

/-- A sheet shows the results of the run. -/
theorem Sheet.shows_of (options : Options) (results : AuditResults) :
    (Sheet.of options results).Shows options results where
  pages := by
    rw [Sheet.of, List.forall₂_map_right_iff, List.forall₂_same]
    exact fun report _ => Page.shows_of options report
  numbered := by
    rw [Sheet.of]
    cases options.noTotals <;> simp
  totals := by
    intro numbers given
    rw [Sheet.entries_of]
    exact Option.mem_some.mp (Option.mem_ite_none_left.mp given).2 |>.symm

namespace Sheet

def withoutAdvice (sheet : Sheet) : Sheet :=
  { sheet with pages := sheet.pages.map fun page => { page with advice := none } }

def withoutNumbers (sheet : Sheet) : Sheet :=
  { sheet with pages := sheet.pages.map fun page => { page with numbers := none } }

def withoutTotals (sheet : Sheet) : Sheet := { sheet with totals := none }

variable (options : Options) (results : AuditResults)

/-- Without remediations the sheet lacks the advice, and nothing else. -/
theorem of_noRemediations :
    of { options with noRemediations := true } results = (of options results).withoutAdvice := by
  simp only [of, withoutAdvice, List.map_map]
  rfl

/-- Without summaries the sheet lacks the numbers of the pages, and nothing else. -/
theorem of_noSummary :
    of { options with noSummary := true } results = (of options results).withoutNumbers := by
  simp only [of, withoutNumbers, List.map_map]
  rfl

/-- Without totals the sheet lacks the totals, and nothing else. -/
theorem of_noTotals :
    of { options with noTotals := true } results = (of options results).withoutTotals := rfl

end Sheet

/-- The terminal report of results that were built step by step is the text of a sheet that shows
them, whatever the options. Options that leave out advice, numbers or totals take just these from
the sheet. -/
theorem terminal_shows_results {results : AuditResults} (built : results.Built)
    (options : Options) :
    let sheet := Sheet.of options results
    terminal options false results = sheet.written ∧
    sheet.Shows options results ∧
    terminal { options with noRemediations := true } false results = sheet.withoutAdvice.written ∧
    terminal { options with noSummary := true } false results = sheet.withoutNumbers.written ∧
    terminal { options with noTotals := true } false results = sheet.withoutTotals.written := by
  intro sheet
  have text (options : Options) := terminal_eq options built.tallied
  refine ⟨text options, Sheet.shows_of options results, ?advice, ?numbers, ?totals⟩
  case advice => rw [text, Sheet.of_noRemediations]
  case numbers => rw [text, Sheet.of_noSummary]
  case totals => rw [text, Sheet.of_noTotals]

/-- A file with two owners, and a port that could not be tested. -/
def owners : GroupResult :=
  ((GroupResult.start "1.1" "Files").add
    (.ofOutcome { Check.empty with id := "1.1.1", text := "owner", remediation := "chown" }
      ⟨.fail, "", "root\nadmin", "root", []⟩)).add
    (.ofOutcome { Check.empty with id := "1.1.2", text := "port" } (.ofReason .warn "no shell"))

def ownersResults : AuditResults :=
  AuditResults.empty.add ((CatalogReport.start "1" "1.8" "Master" "node").add owners)

/-- The report on two files, with the numbers of a page and of the whole run. -/
theorem terminal_shows_results_owners :
    let options : Options := ⟨true, false, false, false⟩
    let sheet := Sheet.of options ownersResults
    ownersResults.Built ∧ sheet.Shows options ownersResults ∧
    terminal options false ownersResults = sheet.written ∧
    sheet.written =
      "[INFO] 1 Master\n[INFO] 1.1 Files\n[FAIL] 1.1.1 owner\n\t root\n\t admin\n" ++
        "[WARN] 1.1.2 port\n\n== Remediations node ==\n1.1.1 chown\n" ++
        "1.1.2 audit test did not run: no shell\n\n== Summary node ==\n0 checks PASS\n" ++
        "1 checks FAIL\n1 checks WARN\n0 checks INFO\n\n== Summary total ==\n" ++
        "0 checks PASS\n1 checks FAIL\n1 checks WARN\n0 checks INFO\n\n" ∧
    terminal { options with noRemediations := true } false ownersResults =
      sheet.withoutAdvice.written := by
  intro options sheet
  have part : owners.Built := ((GroupResult.Built.start _ _).add _).add _
  have built : ownersResults.Built := .add .empty (.add (.start _ _ _ _) part)
  obtain ⟨text, shows, advice, -⟩ := terminal_shows_results built options
  exact ⟨built, shows, text, by decide +kernel, advice⟩

end HostAudit.Report
