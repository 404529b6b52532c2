import HostAudit.Check

/-
This file describes which probes a check asks, which of their failures count, and what the answers
are. Running a check follows this description, and comes to what its answers come to.
-/

namespace HostAudit.Check

/-- The command whose output a source is. -/
def command (check : Check) : Source → String
  | .primary => check.audit
  | .config => check.auditConfig
  | .environment => check.auditEnvironment

/-- A source is asked for if it is the primary one, or if its command is not blank. -/
def plans (check : Check) (source : Source) : Bool :=
  source = .primary || !Text.isBlankText (check.command source)

/-- The sources to ask for, in order. -/
def planned (check : Check) : List Source := Source.all.filter check.plans

/-- A failure does not count if it is the configuration that is missing, and there is an environment
to ask for. -/
def Excuses (check : Check) (source : Source) (failure : ProbeFailure) : Prop :=
  source = .config ∧ Text.isBlankText check.auditEnvironment = false ∧
    ∃ command output code, failure = .ended command output code ∧
      (code = some 127 ∨ Text.contains "No such file or directory".toList output.toList = true)

/-- A failure counts as something missing by its exit code or by what the command wrote. -/
theorem isNotFound_iff {failure : ProbeFailure} :
    failure.isNotFound = true ↔
      ∃ command output code, failure = .ended command output code ∧
        (code = some 127 ∨
          Text.contains "No such file or directory".toList output.toList = true) := by
  constructor
  · intro missing
    cases failure with
    | notStarted command message => exact absurd missing Bool.false_ne_true
    | ended command output code =>
        rw [ProbeFailure.isNotFound, Bool.or_eq_true, beq_iff_eq] at missing
        exact ⟨command, output, code, rfl, missing⟩
  · rintro ⟨command, output, code, rfl, missing⟩
    rwa [ProbeFailure.isNotFound, Bool.or_eq_true, beq_iff_eq]

instance (check : Check) (source : Source) (failure : ProbeFailure) :
    Decidable (check.Excuses source failure) :=
  decidable_of_iff (source = .config ∧ Text.isBlankText check.auditEnvironment = false ∧
    failure.isNotFound = true) (by rw [Excuses, isNotFound_iff])

/-- The failure of the probe for a source, if it counts. -/
def failureAt? (check : Check) (probe : Probe) (source : Source) : Option ProbeFailure :=
  match probe (check.command source) with
  | .ok _ => none
  | .error failure => if check.Excuses source failure then none else some failure

/-- The output for a source that is asked for: that of its command, even if the command failed. -/
def outputAt? (check : Check) (probe : Probe) (source : Source) : Option String :=
  if check.plans source then
    match probe (check.command source) with
    | .ok output => some output
    | .error failure => failure.output?
  else none

/-- The sources up to the first one whose failure counts. -/
def upToFailure (check : Check) (probe : Probe) (sources : List Source) : List Source :=
  (sources.takeWhile fun source => (check.failureAt? probe source).isNone) ++
    (sources.find? fun source => (check.failureAt? probe source).isSome).toList

/-- The first failure that counts. -/
def failure? (check : Check) (probe : Probe) : Option ProbeFailure :=
  check.planned.findSome? (check.failureAt? probe)

/-- The outputs that a check is judged on if no failure counts. -/
def answers (check : Check) (probe : Probe) : Outputs where
  audit := (check.outputAt? probe .primary).getD ""
  config := check.outputAt? probe .config
  environment := check.outputAt? probe .environment

/-- If none of the first sources fails, the others follow. -/
theorem upToFailure_append_of_none {check : Check} {probe : Probe} {sources : List Source}
    (fine : sources.findSome? (check.failureAt? probe) = none) (rest : List Source) :
    check.upToFailure probe (sources ++ rest) = sources ++ check.upToFailure probe rest := by
  rw [List.findSome?_eq_none_iff] at fine
  have passes : ∀ source ∈ sources, (check.failureAt? probe source).isNone = true := by
    simpa using fine
  have none : sources.find? (fun source => (check.failureAt? probe source).isSome) = none := by
    simpa using fine
  rw [upToFailure, List.takeWhile_append_of_pos passes, List.find?_append, none, List.append_assoc]
  rfl

/-- If no source fails, all are asked for. -/
theorem upToFailure_of_none {check : Check} {probe : Probe} {sources : List Source}
    (fine : sources.findSome? (check.failureAt? probe) = none) :
    check.upToFailure probe sources = sources := by
  simpa [upToFailure] using upToFailure_append_of_none fine []

/-- Nothing is asked for behind a source that fails. -/
theorem upToFailure_cons_of_some {check : Check} {probe : Probe} {source : Source}
    {failure : ProbeFailure} (failed : check.failureAt? probe source = some failure)
    (rest : List Source) : check.upToFailure probe (source :: rest) = [source] := by
  simp [upToFailure, failed]

/-- A failure among the first sources keeps the others from being asked for. -/
theorem upToFailure_append_of_some {check : Check} {probe : Probe} {sources : List Source}
    {failure : ProbeFailure} (failed : sources.findSome? (check.failureAt? probe) = some failure)
    (rest : List Source) :
    check.upToFailure probe (sources ++ rest) = check.upToFailure probe sources := by
  obtain ⟨before, source, after, rfl, failing, fine⟩ := List.findSome?_eq_some_iff.mp failed
  have before := upToFailure_append_of_none (List.findSome?_eq_none_iff.mpr fine)
  rw [List.append_assoc, List.cons_append, before, before, upToFailure_cons_of_some failing,
    upToFailure_cons_of_some failing]

/-- What comes of asking for some sources, if `value` is made of their outputs. -/
def asking {A : Type} (check : Check) (probe : Probe) (sources : List Source) (value : A) :
    Asked A where
  commands := (check.upToFailure probe sources).map check.command
  answer :=
    match sources.findSome? (check.failureAt? probe) with
    | some failure => .error failure
    | none => .ok value

/-- Asking for some sources and then for others is asking for all of them. -/
theorem asking_andThen {A B : Type} (check : Check) (probe : Probe) {first : Asked A}
    {next : A → Asked B} {sources rest : List Source} {value : A} {final : B}
    (now : first = check.asking probe sources value)
    (later : next value = check.asking probe rest final) :
    first.andThen next = check.asking probe (sources ++ rest) final := by
  rw [now]
  cases failed : sources.findSome? (check.failureAt? probe) with
  | some failure =>
      simp [Asked.andThen, asking, failed, upToFailure_append_of_some failed]
  | none =>
      simp [Asked.andThen, asking, failed, later, upToFailure_append_of_none failed,
        upToFailure_of_none failed]

/-- A planned source is asked for with its command. -/
theorem asking_planned {A : Type} {check : Check} {source : Source}
    (planned : check.plans source = true) (probe : Probe) (value : A) :
    check.asking probe ([source].filter check.plans) value =
      ⟨[check.command source],
        match check.failureAt? probe source with
        | some failure => .error failure
        | none => .ok value⟩ := by
  rw [List.filter_cons_of_pos planned, List.filter_nil]
  cases failed : check.failureAt? probe source <;> simp [asking, upToFailure, failed]

/-- A source that is not planned is not asked for. -/
theorem asking_unplanned {A : Type} {check : Check} {source : Source}
    (unplanned : check.plans source = false) (probe : Probe) (value : A) :
    check.asking probe ([source].filter check.plans) value = Asked.pure value := by
  rw [List.filter_cons_of_neg (by simp [unplanned]), List.filter_nil]
  rfl

/-- Sources other than the primary one are asked for unless their command is blank. -/
theorem plans_of_ne_primary {check : Check} {source : Source} (other : source ≠ .primary) :
    check.plans source = !Text.isBlankText (check.command source) := by
  simp [plans, other]

/-- Only the configuration is excused. -/
theorem not_excuses {check : Check} {source : Source} (other : source ≠ .config)
    (failure : ProbeFailure) : ¬ check.Excuses source failure :=
  fun excused => other excused.1

/-- The primary source is asked for in any case. -/
theorem ask_primary (check : Check) (probe : Probe) :
    Asked.ask probe check.audit =
      check.asking probe ([.primary].filter check.plans)
        ((check.outputAt? probe .primary).getD "") := by
  have planned : check.plans .primary = true := rfl
  have counts (failure : ProbeFailure) : ¬ check.Excuses .primary failure :=
    not_excuses (by decide) failure
  rw [asking_planned planned]
  cases audit : probe check.audit <;>
    simp [Asked.ask, failureAt?, outputAt?, planned, command, audit, counts]

/-- An excused failure leaves what the command had written. -/
theorem excused?_eq (check : Check) (failure : ProbeFailure) :
    check.excused? failure =
      if check.Excuses .config failure then some failure.output? else none := by
  have excuses : check.Excuses .config failure ↔
      (failure.isNotFound && check.hasEnvironmentProbe) = true := by
    simp only [Excuses, ← isNotFound_iff, hasEnvironmentProbe, true_and, Bool.and_eq_true,
      Bool.not_eq_true']
    exact and_comm
  rw [excused?]
  by_cases excused : check.Excuses .config failure
  · rw [if_pos excused, if_pos (excuses.mp excused)]
    obtain ⟨-, -, command, output, code, rfl, -⟩ := excused
    rfl
  · rw [if_neg excused, if_neg (mt excuses.mpr excused)]

/-- The configuration is asked for in its turn, and its failure may be excused. -/
theorem ask_config (check : Check) (probe : Probe) :
    (Asked.askUnlessBlank probe check.auditConfig).forgive check.excused? =
      check.asking probe ([.config].filter check.plans) (check.outputAt? probe .config) := by
  have plans : check.plans .config = !Text.isBlankText check.auditConfig :=
    plans_of_ne_primary (by decide)
  cases blank : Text.isBlankText check.auditConfig with
  | true =>
      rw [blank] at plans
      rw [asking_unplanned plans]
      simp [Asked.askUnlessBlank, blank, Asked.pure, Asked.forgive, outputAt?, plans]
  | false =>
      rw [blank] at plans
      rw [asking_planned plans]
      cases config : probe check.auditConfig with
      | ok output =>
          simp [Asked.askUnlessBlank, blank, Asked.ask, Asked.andThen, Asked.pure, Asked.forgive,
            failureAt?, outputAt?, plans, command, config]
      | error failure =>
          by_cases excused : check.Excuses .config failure <;>
            simp [Asked.askUnlessBlank, blank, Asked.ask, Asked.andThen, Asked.forgive,
              failureAt?, outputAt?, plans, command, config, excused?_eq, excused]

/-- The environment is asked for in its turn. -/
theorem ask_environment (check : Check) (probe : Probe) :
    Asked.askUnlessBlank probe check.auditEnvironment =
      check.asking probe ([.environment].filter check.plans)
        (check.outputAt? probe .environment) := by
  have plans : check.plans .environment = !Text.isBlankText check.auditEnvironment :=
    plans_of_ne_primary (by decide)
  have counts (failure : ProbeFailure) : ¬ check.Excuses .environment failure :=
    not_excuses (by decide) failure
  cases blank : Text.isBlankText check.auditEnvironment with
  | true =>
      rw [blank] at plans
      rw [asking_unplanned plans]
      simp [Asked.askUnlessBlank, blank, Asked.pure, outputAt?, plans]
  | false =>
      rw [blank] at plans
      rw [asking_planned plans]
      cases environment : probe check.auditEnvironment <;>
        simp [Asked.askUnlessBlank, blank, Asked.ask, Asked.andThen, Asked.pure, failureAt?,
          outputAt?, plans, command, environment, counts]

/-- The outputs of a check come from asking for its sources in turn. -/
theorem outputs_eq (check : Check) (probe : Probe) :
    check.outputs probe = check.asking probe check.planned (check.answers probe) := by
  have done : Asked.pure (check.answers probe) = check.asking probe [] (check.answers probe) := rfl
  have split : check.planned = [.primary].filter check.plans ++
      ([.config].filter check.plans ++ ([.environment].filter check.plans ++ [])) := by
    simp only [← List.filter_append, List.append_nil]
    rfl
  rw [split]
  exact check.asking_andThen probe (check.ask_primary probe) <|
    check.asking_andThen probe (check.ask_config probe) <|
      check.asking_andThen probe (check.ask_environment probe) done

/-- The planned sources are those that are asked for. -/
theorem mem_planned {check : Check} {source : Source} :
    source ∈ check.planned ↔ check.plans source = true := by
  have every : source ∈ Source.all := by cases source <;> decide
  simp [planned, every]

/-- Sources are asked for in their order. -/
theorem upToFailure_sublist (check : Check) (probe : Probe) (sources : List Source) :
    (check.upToFailure probe sources).Sublist sources := by
  cases failed : sources.findSome? (check.failureAt? probe) with
  | none => simp only [upToFailure_of_none failed, List.Sublist.refl]
  | some failure =>
      obtain ⟨before, source, after, rfl, failing, fine⟩ := List.findSome?_eq_some_iff.mp failed
      rw [upToFailure_append_of_none (List.findSome?_eq_none_iff.mpr fine),
        upToFailure_cons_of_some failing]
      simp

/-- A check that is decided beforehand ends as decided, whatever the probe says. -/
theorem run_of_decided {check : Check} {outcome : CheckOutcome}
    (decided : check.decided? = some outcome) (probe : Probe) : check.run probe = outcome := by
  simp only [run, decided]

/-- The first failure that counts decides a check. -/
theorem run_of_failure {check : Check} {probe : Probe} {failure : ProbeFailure}
    (undecided : check.decided? = none) (failed : check.failure? probe = some failure) :
    check.run probe = check.failing failure.message := by
  rw [failure?] at failed
  simp only [run, undecided, outputs_eq, asking, failed]

/-- Running a check on a host and judging its answers come to the same. -/
theorem run_of_answers {check : Check} {probe : Probe} (fine : check.failure? probe = none) :
    check.run probe = check.evaluate (check.answers probe) := by
  cases decided : check.decided? with
  | some outcome => rw [run_of_decided decided, evaluate, decided, Option.getD_some]
  | none =>
      rw [failure?] at fine
      simp only [run, decided, outputs_eq, asking, fine, evaluate, Option.getD_none]

/-- The commands of a check are those of its sources up to the first failure. -/
theorem commands_of_undecided {check : Check} (undecided : check.decided? = none) (probe : Probe) :
    check.commands probe = (check.upToFailure probe check.planned).map check.command := by
  simp [commands, undecided, outputs_eq, asking]

/-- What the answer for a source may be: there is none if its command is blank, and else it is the
output of the command, or what the command had written when it failed and was excused. -/
inductive Answered (check : Check) (probe : Probe) (source : Source) : Option String → Prop where
  | blank (blank : check.plans source = false) : Answered check probe source none
  | output {output : String} (planned : check.plans source = true)
      (answered : probe (check.command source) = .ok output) :
      Answered check probe source (some output)
  | excused {command output : String} {code : Option Int} (planned : check.plans source = true)
      (failed : probe (check.command source) = .error (.ended command output code))
      (excused : check.Excuses source (.ended command output code)) :
      Answered check probe source (some output)

/-- Without a failure that counts, each source has its answer. -/
theorem outputAt?_answered {check : Check} {probe : Probe} (fine : check.failure? probe = none)
    (source : Source) : check.Answered probe source (check.outputAt? probe source) := by
  cases plans : check.plans source with
  | false =>
      rw [outputAt?, plans, if_neg Bool.false_ne_true]
      exact .blank plans
  | true =>
      have counted := List.findSome?_eq_none_iff.mp fine source (mem_planned.mpr plans)
      rw [failureAt?] at counted
      rw [outputAt?, if_pos plans]
      split at counted
      · exact .output plans (by assumption)
      · split at counted
        · rename_i excused
          obtain ⟨command, output, code, rfl, -⟩ := excused.2.2
          exact .excused plans (by assumption) excused
        · simp at counted

/-- Without a failure that counts, the primary source has an output. -/
theorem answers_audit {check : Check} {probe : Probe} (fine : check.failure? probe = none) :
    probe check.audit = .ok (check.answers probe).audit := by
  have answered := outputAt?_answered fine .primary
  rw [answers]
  cases given : check.outputAt? probe .primary with
  | none =>
      rw [given] at answered
      cases answered with
      | blank blank => exact absurd blank (by simp [plans])
  | some output =>
      rw [given] at answered
      cases answered with
      | output _ answered => exact answered
      | excused _ _ excused => exact absurd excused.1 (by simp)

/-- A check that its definition decides asks for nothing. Any other asks for its sources in order up
to the first failure that counts. It comes to what its answers come to if no failure counts, and
else it does not pass, and the first failure that counts is the reason. -/
theorem run_follows_protocol (check : Check) (probe : Probe) :
    (∀ outcome, check.decided? = some outcome →
      check.commands probe = [] ∧ check.run probe = outcome) ∧
    (check.decided? = none →
      check.commands probe = (check.upToFailure probe check.planned).map check.command ∧
      (check.upToFailure probe check.planned).Sublist Source.all) ∧
    (check.failure? probe = none →
      check.run probe = check.evaluate (check.answers probe) ∧
      probe check.audit = .ok (check.answers probe).audit ∧
      check.Answered probe .config (check.answers probe).config ∧
      check.Answered probe .environment (check.answers probe).environment) ∧
    (check.decided? = none → ∀ failure, check.failure? probe = some failure →
      check.run probe = ⟨if check.scored then .fail else .warn, failure.message, "", "", []⟩) := by
  refine ⟨?decided, ?asked, ?answered, ?failed⟩
  case decided =>
    intro outcome decided
    exact ⟨by simp [commands, decided], run_of_decided decided probe⟩
  case asked =>
    intro undecided
    refine ⟨commands_of_undecided undecided probe, ?_⟩
    exact (check.upToFailure_sublist probe check.planned).trans List.filter_sublist
  case answered =>
    intro fine
    exact ⟨run_of_answers fine, answers_audit fine, outputAt?_answered fine .config,
      outputAt?_answered fine .environment⟩
  case failed =>
    intro undecided failure failed
    exact run_of_failure undecided failed

/-- A check of a database that may have no configuration file. -/
def database : Check :=
  { Check.empty with
    audit := "ps"
    auditConfig := "cat etcd.conf"
    auditEnvironment := "env"
    tests := some ⟨[⟨"--auto-tls", "", "ETCD_AUTO_TLS", true, some ⟨.equal, "false"⟩⟩], .all⟩
    scored := true }

/-- A host where the database has no configuration file. -/
def databaseHost : Probe :=
  .recorded [("ps", .ok "etcd"), ("env", .ok "ETCD_AUTO_TLS=false\n"),
    ("cat etcd.conf", .error (.ended "cat etcd.conf" "No such file or directory" (some 1)))]

/-- Skipping asks for nothing, and a missing configuration is excused by the environment only. -/
theorem run_follows_protocol_database :
    ({ database with mark := some .skip } : Check).commands databaseHost = [] ∧
    database.commands databaseHost = ["ps", "cat etcd.conf", "env"] ∧
    database.run databaseHost =
      database.evaluate ⟨"etcd", some "No such file or directory", some "ETCD_AUTO_TLS=false\n"⟩ ∧
    ({ database with auditEnvironment := "" } : Check).run databaseHost =
      ⟨.fail, (ProbeFailure.ended "cat etcd.conf" "No such file or directory" (some 1)).message,
        "", "", []⟩ := by
  refine ⟨?_, ?_, ?_, ?_⟩
  · exact ((run_follows_protocol _ databaseHost).1 _ rfl).1
  · exact ((run_follows_protocol database databaseHost).2.1 (by decide)).1
  · exact ((run_follows_protocol database databaseHost).2.2.1 (by decide)).1
  · exact (run_follows_protocol { database with auditEnvironment := "" } databaseHost).2.2.2
      (by decide) _ (by decide)

end HostAudit.Check
