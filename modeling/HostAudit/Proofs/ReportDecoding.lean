import HostAudit.Proofs.JsonRereading
import HostAudit.Proofs.Rereading
import HostAudit.Report.Rendered

/-
This file proves that JSON reports lose nothing. A report is read as its document, and what is
decoded from it are the reports on the catalogs, with all their groups, checks and counters. A field
that was left out says that there is nothing.
-/

namespace HostAudit

/-- The counters are unsigned words of 64 bits. -/
def Summary.InWords (summary : Summary) : Prop := ∀ state, summary.count state < 2 ^ 64

/-- All counters are words. -/
structure CatalogReport.InWords (report : CatalogReport) : Prop where
  groups : ∀ group ∈ report.groups, group.summary.InWords
  summary : report.summary.InWords

/-- All counters are words. -/
structure AuditResults.InWords (results : AuditResults) : Prop where
  reports : ∀ report ∈ results.reports, report.InWords
  totals : results.totals.InWords

namespace Report

open Definition
open Json (Value Legible)
open Readable

section Decoding

def checkResultFields : List String :=
  ["test_number", "test_desc", "audit", "audit_config", "audit_env", "type", "remediation",
    "scored", "status", "actual_value", "expected_result", "reason", "sources_used"]

/-- This reads a mark that is there. -/
def givenMark? (value : Value) : Option (Option Mark) := (markName? value).map some

/-- This reads what a check came to. Missing may be an empty list of sources. -/
def outcome? (members : List (String × Value)) : Option CheckOutcome := do
  let state ← field members "status" stateName? none
  let reason ← field members "reason" text? none
  let actual ← field members "actual_value" text? none
  let expected ← field members "expected_result" text? none
  let sources ← field members "sources_used" (list? sourceName?) (some [])
  pure ⟨state, reason, actual, expected, sources⟩

/-- This reads the result of a check. Missing may be a probe that is empty, and a mark where there
is none. -/
def checkResult? (value : Value) : Option CheckResult := do
  let members ← members? checkResultFields value
  let id ← field members "test_number" text? none
  let text ← field members "test_desc" text? none
  let audit ← field members "audit" text? none
  let auditConfig ← field members "audit_config" text? (some "")
  let auditEnvironment ← field members "audit_env" text? (some "")
  let mark ← field members "type" givenMark? (some none)
  let remediation ← field members "remediation" text? none
  let scored ← field members "scored" bool? none
  let outcome ← outcome? members
  pure ⟨id, text, audit, auditConfig, auditEnvironment, mark, remediation, scored, outcome.state,
    outcome.actual, outcome.expected, outcome.reason, outcome.sources⟩

/-- The names of counters with a common start. -/
def counterFields (start : String) : List String :=
  [start ++ "pass", start ++ "fail", start ++ "warn", start ++ "info"]

/-- This reads the counters among the members of an object. -/
def counters? (start : String) (members : List (String × Value)) : Option Summary := do
  let pass ← field members (start ++ "pass") count? none
  let fail ← field members (start ++ "fail") count? none
  let warn ← field members (start ++ "warn") count? none
  let info ← field members (start ++ "info") count? none
  pure ⟨pass, fail, warn, info⟩

def groupResult? (value : Value) : Option GroupResult := do
  let members ← members? (["section", "desc"] ++ counterFields "" ++ ["results"]) value
  let id ← field members "section" text? none
  let text ← field members "desc" text? none
  let summary ← counters? "" members
  let checks ← field members "results" (list? checkResult?) none
  pure ⟨id, text, summary, checks⟩

def catalogReport? (value : Value) : Option CatalogReport := do
  let members ← members?
    (["id", "version", "text", "node_type", "tests"] ++ counterFields "total_") value
  let id ← field members "id" text? none
  let version ← field members "version" text? none
  let text ← field members "text" text? none
  let target ← field members "node_type" text? none
  let groups ← field members "tests" (list? groupResult?) none
  let summary ← counters? "total_" members
  pure ⟨id, version, text, target, groups, summary⟩

/-- This reads the reports of a document without totals. -/
def reports? (value : Value) : Option (List CatalogReport) := list? catalogReport? value

/-- What a document with totals says. -/
structure Contents where
  version : String
  moment : String
  reports : List CatalogReport
  totals : Summary
deriving DecidableEq, Repr

def contents? (value : Value) : Option Contents := do
  let members ← members? ["version", "generated_at", "controls", "totals"] value
  let version ← field members "version" text? none
  let moment ← field members "generated_at" text? none
  let reports ← field members "controls" reports? none
  let totals ← field members "totals" summary? none
  pure ⟨version, moment, reports, totals⟩

/-- Members under these names, in this order, are read as they are. -/
theorem members?_object (names : List String) {members : List (String × Value)}
    (ordered : (members.map Prod.fst).Sublist names) (distinct : names.Nodup) :
    members? names (Value.object members) = some members := by
  simpa [placed] using shows_json.fields names members ordered distinct

/-- A field is read if it is there. -/
theorem field_eq {A : Type} (members : List (String × Value)) (name : String)
    (read? : Value → Option A) (missing : Option A) :
    field members name read? missing = ((members.lookup name).map read?).getD missing := by
  rw [field]
  cases members.lookup name <;> rfl

@[simp] theorem text?_text (text : String) : text? (Value.text text) = some text := rfl

@[simp] theorem bool?_bool (value : Bool) : bool? (Value.bool value) = some value := rfl

@[simp] theorem count?_nat (value : Nat) : count? (Value.nat value) = some value := rfl

/-- A list is read if each of its items is. -/
theorem list?_map {A : Type} {read? : Value → Option A} {write : A → Value}
    (each : ∀ item, read? (write item) = some item) (items : List A) :
    list? read? (.array (items.map write)) = some items :=
  shows_json.list fun item _ => each item

/-- A state is read by its name. -/
@[simp] theorem stateName?_ofState (state : State) : stateName? (ofState state) = some state := by
  cases state <;> decide

/-- A source is read by its name. -/
theorem sourceName?_ofSource (source : Source) : sourceName? (ofSource source) = some source := by
  cases source <;> decide

/-- The sources are listed unless there are none. -/
theorem lookup_sources (used : List Source) (name : String) :
    (sources used).lookup name =
      if name = "sources_used" ∧ used ≠ [] then some (.array (used.map ofSource)) else none := by
  cases used <;> simp [sources, lookup_singleton]

/-- The sources stand under a single name. -/
theorem names_sources (used : List Source) :
    ((sources used).map Prod.fst).Sublist ["sources_used"] := by
  cases used <;> simp [sources]

/-- Sources that are left out where there are none read as none then. -/
theorem read_sources (used : List Source) :
    ((if used = [] then none else some (Value.array (used.map ofSource))).map
      (list? sourceName?)).getD (some []) = some used := by
  split
  · rename_i empty
    rw [empty]
    rfl
  · exact list?_map sourceName?_ofSource used

/-- Every field of a check's result is read again. -/
theorem checkResult?_ofCheckResult (result : CheckResult) :
    checkResult? (ofCheckResult result) = some result := by
  have present (text : String) : ((if text = "" then none else some (Value.text text)).map
      text?).getD (some "") = some text := shows_json.unlessEmpty text
  have each : ∀ mark ∈ result.mark, givenMark? (id (ofMark mark)) = some (some mark) := by
    intro mark _
    rw [givenMark?, shows_json.markName, Option.map_some]
  have marks : (result.mark.map (givenMark? ∘ ofMark)).getD (some none) = some result.mark :=
    read_whenPresent id result.mark each
  rw [checkResult?, ofCheckResult, members?_object _ ?ordered (by decide)]
  case ordered =>
    simp only [List.map_append]
    exact (((((List.Sublist.refl ["test_number", "test_desc", "audit"]).append
      (names_unlessEmpty "audit_config" _)).append (names_unlessEmpty "audit_env" _)).append
      (names_whenPresent "type" _ _)).append (.refl ["remediation", "scored", "status",
        "actual_value", "expected_result", "reason"])).append (names_sources _)
  simp [field_eq, List.lookup_append, List.lookup_cons, lookup_unlessEmpty, lookup_whenPresent,
    lookup_sources, outcome?, present, marks, read_sources]

/-- A group is read as it was written. -/
theorem groupResult?_ofGroupResult (group : GroupResult) :
    groupResult? (ofGroupResult group) = some group := by
  have checks := list?_map checkResult?_ofCheckResult group.checks
  rw [groupResult?, ofGroupResult, members?_object _ ?ordered (by decide)]
  case ordered => exact .refl (["section", "desc"] ++ counterFields "" ++ ["results"])
  simp [field_eq, counters?, counters, List.lookup_cons, checks]

/-- A report is read as it was written. -/
theorem catalogReport?_ofCatalogReport (report : CatalogReport) :
    catalogReport? (ofCatalogReport report) = some report := by
  have groups := list?_map groupResult?_ofGroupResult report.groups
  rw [catalogReport?, ofCatalogReport, members?_object _ ?ordered (by decide)]
  case ordered =>
    exact .refl (["id", "version", "text", "node_type", "tests"] ++ counterFields "total_")
  simp [field_eq, counters?, counters, List.lookup_cons, groups]

/-- All reports are read as they were written. -/
theorem reports?_controls (results : AuditResults) :
    reports? (controls results) = some results.reports :=
  list?_map catalogReport?_ofCatalogReport results.reports

/-- The counters are read as they were written. -/
theorem summary?_ofSummary (summary : Summary) : summary? (ofSummary summary) = some summary := by
  rw [summary?, ofSummary, members?_object _ ?ordered (by decide)]
  case ordered => exact .refl (counterFields "total_")
  simp [field_eq, counters, List.lookup_cons]

/-- A document with totals is read as it was written. -/
theorem contents?_document {options : Options} (totals : options.noTotals = false)
    (moment : String) (results : AuditResults) :
    contents? (document options moment results) =
      some ⟨version, moment, results.reports, results.totals⟩ := by
  rw [document, totals, if_neg (by decide), contents?, members?_object _ ?ordered (by decide)]
  case ordered => exact .refl ["version", "generated_at", "controls", "totals"]
  simp [field_eq, List.lookup_cons, reports?_controls, summary?_ofSummary]

/-- The reports that a document of either kind holds. -/
def heldReports? (document : Value) : Option (List CatalogReport) :=
  match document with
  | .array items => reports? (.array items)
  | other => (contents? other).map Contents.reports

/-- The reports are read from a document with totals or without. -/
theorem heldReports?_document (options : Options) (moment : String) (results : AuditResults) :
    heldReports? (document options moment results) = some results.reports := by
  cases totals : options.noTotals with
  | true =>
      rw [document, totals, if_pos rfl]
      exact reports?_controls results
  | false =>
      have contents := contents?_document totals moment results
      rw [document, totals, if_neg (by decide)] at contents ⊢
      rw [heldReports?, contents, Option.map_some]
      simp

end Decoding

section Legibility

variable {depth : Nat}

/-- A text that may be left out is legible. -/
theorem legible_unlessEmpty (name text : String) :
    ∀ member ∈ unlessEmpty name text, Legible depth member.2 := by
  rw [unlessEmpty]
  split
  · simp
  · simp [Legible.text]

/-- A value that may be missing is legible if it is legible when it is there. -/
theorem legible_whenPresent {A : Type} {write : A → Value}
    (each : ∀ value, Legible depth (write value)) (name : String) (value : Option A) :
    ∀ member ∈ whenPresent name write value, Legible depth member.2 := by
  cases value with
  | none => simp [whenPresent]
  | some value => simp [whenPresent, each]

/-- A list is legible if its items are. -/
theorem legible_map {A : Type} {write : A → Value} {items : List A}
    (each : ∀ item ∈ items, Legible depth (write item)) :
    Legible (depth + 1) (.array (items.map write)) := by
  refine .array fun value member => ?_
  obtain ⟨item, present, rfl⟩ := List.mem_map.mp member
  exact each item present

/-- The list of sources is legible. -/
theorem legible_sources (used : List Source) :
    ∀ member ∈ sources used, Legible (depth + 1) member.2 := by
  rw [sources]
  split
  · simp
  · simpa using legible_map fun source _ => Legible.text source.name

/-- Counters are legible as long as they are words of the machine. -/
theorem legible_counters {summary : Summary} (words : summary.InWords) (start : String) :
    ∀ member ∈ counters start summary, Legible depth member.2 := by
  have pass : Legible depth (.nat summary.pass) := .nat (words .pass)
  have fail : Legible depth (.nat summary.fail) := .nat (words .fail)
  have warn : Legible depth (.nat summary.warn) := .nat (words .warn)
  have info : Legible depth (.nat summary.info) := .nat (words .info)
  simpa [counters] using ⟨pass, fail, warn, info⟩

/-- A result is legible. -/
theorem legible_checkResult (result : CheckResult) :
    Legible (depth + 2) (ofCheckResult result) := by
  have mark : ∀ mark, Legible (depth + 1) (ofMark mark) := fun mark => .text mark.name
  rw [ofCheckResult]
  refine .object ?_
  simp only [List.forall_mem_append]
  refine ⟨⟨⟨⟨⟨?named, legible_unlessEmpty _ _⟩, legible_unlessEmpty _ _⟩,
    legible_whenPresent mark _ _⟩, ?decided⟩, legible_sources _⟩
  case named => simp [Legible.text]
  case decided => simp [Legible.text, Legible.bool, ofState]

/-- A group is legible if its counters are words of the machine. -/
theorem legible_groupResult {group : GroupResult} (words : group.summary.InWords) :
    Legible (depth + 4) (ofGroupResult group) := by
  have checks : Legible (depth + 3) (.array (group.checks.map ofCheckResult)) :=
    legible_map fun check _ => legible_checkResult check
  rw [ofGroupResult]
  refine .object ?_
  simp only [List.forall_mem_append]
  refine ⟨⟨?named, legible_counters words ""⟩, ?results⟩
  case named => simp [Legible.text]
  case results => simpa using checks

/-- A report is legible if its counters are. -/
theorem legible_catalogReport {report : CatalogReport} (words : report.InWords) :
    Legible (depth + 6) (ofCatalogReport report) := by
  have groups : Legible (depth + 5) (.array (report.groups.map ofGroupResult)) :=
    legible_map fun group member => legible_groupResult (words.groups group member)
  rw [ofCatalogReport]
  refine .object ?_
  simp only [List.forall_mem_append]
  refine ⟨?named, legible_counters words.summary "total_"⟩
  simpa [Legible.text] using groups

/-- A document is legible if the counters in it are. -/
theorem legible_document {results : AuditResults} (words : results.InWords) (options : Options)
    (moment : String) : Legible (depth + 8) (document options moment results) := by
  have reports : ∀ {depth}, Legible (depth + 7) (controls results) :=
    legible_map fun report member => legible_catalogReport (words.reports report member)
  rw [document]
  split
  · exact reports
  · have totals : Legible (depth + 7) (ofSummary results.totals) :=
      .object (legible_counters words.totals "total_")
    refine .object ?_
    simpa [Legible.text] using ⟨reports, totals⟩

end Legibility

/-- The text of a JSON report is read as its document. Without totals it is the list of the reports
alone, and otherwise it gives the reports and the totals under the version and the moment. So two
results whose reports differ have different texts, whichever documents they are written as. -/
theorem json_report_lossless (options : Options) (colored : Bool) (moment : String)
    (results : AuditResults) (words : results.InWords) :
    let text := rendered .json options colored moment results
    Json.read? text = some (document options moment results) ∧
      (options.noTotals = true → ofJson? reports? text = some results.reports) ∧
      (options.noTotals = false → ofJson? contents? text =
        some ⟨version, moment, results.reports, results.totals⟩) ∧
      ∀ options' colored' moment' (results' : AuditResults), results'.InWords →
        rendered .json options' colored' moment' results' = text →
          results'.reports = results.reports := by
  intro text
  have read {options colored moment} {results : AuditResults} (words : results.InWords) :
      Json.read? (rendered .json options colored moment results) =
        some (document options moment results) :=
    Json.read?_pretty (@legible_document 119 results words options moment)
  refine ⟨read words, ?list, ?object, ?different⟩
  case list =>
    intro noTotals
    rw [ofJson?, read words, Option.bind_some, document, noTotals, if_pos rfl]
    exact reports?_controls results
  case object =>
    intro totals
    rw [ofJson?, read words, Option.bind_some]
    exact contents?_document totals moment results
  case different =>
    intro options' colored' moment' results' words' same
    have documents : document options' moment' results' = document options moment results := by
      rw [← Option.some_inj, ← read words', ← read words, same]
    have held := heldReports?_document options' moment' results'
    rw [documents, heldReports?_document] at held
    exact (Option.some.inj held).symm

/-- Results with quotes, control characters and characters beyond ASCII in their texts, with fields
that are left out, and with a report that has no groups. -/
def oddResults : AuditResults :=
  let passed : CheckResult := ⟨"1.1", "say \"no\" \\ or \t\n", "stat -c %a /etc/ü𝕏", "",
    "env", some .manual, "\x00\x1f\x7f", true, .pass, "600", "", "", [.primary, .environment]⟩
  let failed : CheckResult :=
    ⟨"", "", "", "cat /etc/conf", "", none, "", false, .warn, "", "", "]", []⟩
  ⟨[⟨"1", "", "\x7b", "node", [⟨"1.1", "", ⟨1, 0, 1, 0⟩, [passed, failed]⟩], ⟨1, 0, 1, 0⟩⟩,
    ⟨"2", "1.0", "", "", [], .zero⟩], ⟨1, 0, 1, 0⟩, []⟩

/-- The reports are decoded from both modes of the document. What runs note is in neither. -/
theorem json_report_lossless_odd :
    let noted := { oddResults with runs := [("1", 2)] }
    oddResults.InWords ∧
      ofJson? reports? (rendered .json ⟨false, false, false, true⟩ false "now" oddResults) =
        some oddResults.reports ∧
      ofJson? contents? (rendered .json ⟨false, false, false, false⟩ true "now" oddResults) =
        some ⟨"0.4.0", "now", oddResults.reports, ⟨1, 0, 1, 0⟩⟩ ∧
      rendered .json ⟨true, false, false, true⟩ true "then" noted =
        rendered .json ⟨false, false, false, true⟩ false "now" oddResults ∧
      noted.reports = oddResults.reports := by
  intro noted
  have small : Summary.InWords ⟨1, 0, 1, 0⟩ := by
    intro state
    cases state <;> decide
  have zero : Summary.zero.InWords := by
    intro state
    cases state <;> decide
  have words : oddResults.InWords := by
    refine ⟨?_, small⟩
    simp only [oddResults, List.forall_mem_cons]
    refine ⟨⟨?_, small⟩, ⟨?_, zero⟩, ?_⟩
    · simpa using small
    · simp
    · simp
  obtain ⟨-, alone, -, different⟩ :=
    json_report_lossless ⟨false, false, false, true⟩ false "now" oddResults words
  obtain ⟨-, -, contents, -⟩ :=
    json_report_lossless ⟨false, false, false, false⟩ true "now" oddResults words
  have same : rendered .json ⟨true, false, false, true⟩ true "then" noted =
      rendered .json ⟨false, false, false, true⟩ false "now" oddResults := rfl
  have words' : noted.InWords := ⟨words.reports, words.totals⟩
  exact ⟨words, alone rfl, contents rfl, same, different _ _ _ noted words' same⟩

end Report

end HostAudit
