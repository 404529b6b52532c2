import HostAudit.Catalog.Reader
import HostAudit.Proofs.Placeholders

/-
This file says which checks of a catalog get a probe for the environment when the catalog is read,
and of which process: the one that is named, or else that of the only program among the placeholders
of the text. Nothing else in the definitions changes.
-/

namespace HostAudit

namespace Placeholder

variable {values : Substitutions} {text key : String}

/-- The key stands for a program that the text has a placeholder for. -/
structure AsksProgram (values : Substitutions) (text key : String) : Prop where
  held : key ∈ values.map Prod.fst
  ending : "bin".toList <:+ key.toList
  occurs : ∃ parts, FallsInto text.toList parts ∧ .placeholder key.toList ∈ parts

/-- Names that end in the word stand for programs. -/
theorem namesProgram_iff : namesProgram key = true ↔ "bin".toList <:+ key.toList := by
  rw [namesProgram, Option.isSome_iff_exists, ← List.reverse_prefix]
  simp only [Text.after?_eq_some_iff]
  exact exists_congr fun rest => eq_comm

/-- The names that stand for programs, and were used, are those that a text asks a program for. -/
theorem mem_programNames_iff :
    key ∈ (applied values text).filter namesProgram ↔ AsksProgram values text key := by
  rw [List.mem_filter, mem_applied_iff, namesProgram_iff]
  constructor
  · rintro ⟨⟨held, occurs⟩, ending⟩
    exact ⟨held, ending, _, fallsInto_chunks _, occurs⟩
  · rintro ⟨held, ending, parts, falls, occurs⟩
    obtain rfl := fallsInto_iff.mp falls
    exact ⟨⟨held, occurs⟩, ending⟩

/-- A program that is asked for has a value. -/
theorem AsksProgram.exists_value (asks : AsksProgram values text key) :
    ∃ value, values.lookup key = some value := by
  rw [← Option.isSome_iff_exists, Option.isSome_iff_ne_none, ne_eq,
    Substitutions.lookup_eq_none_iff, not_not]
  exact asks.held

end Placeholder

namespace Catalog

open Placeholder (AsksProgram)

variable {options : LoadOptions} {text : String}

/-- The process whose environment is asked for. -/
inductive ProcessOf (options : LoadOptions) (text : String) : Option String → Prop where
  | named {process : String} (given : options.process = some process) :
      ProcessOf options text (some process)
  | only {key value : String} (unnamed : options.process = none)
      (asks : AsksProgram options.substitutions text key)
      (single : ∀ other, AsksProgram options.substitutions text other → other = key)
      (held : options.substitutions.lookup key = some value) : ProcessOf options text (some value)
  | unknown (unnamed : options.process = none)
      (unclear : ¬ ∃! key, AsksProgram options.substitutions text key) :
      ProcessOf options text none

/-- There is one process at most whose environment is asked for. -/
theorem ProcessOf.unique {first second : Option String} (one : ProcessOf options text first)
    (other : ProcessOf options text second) : first = second := by
  cases one with
  | named given =>
      cases other with
      | named again => rw [← given, again]
      | only unnamed => rw [unnamed] at given; cases given
      | unknown unnamed => rw [unnamed] at given; cases given
  | only unnamed asks single held =>
      cases other with
      | named given => rw [unnamed] at given; cases given
      | only _ again _ value => rw [← held, ← value, single _ again]
      | unknown _ unclear => exact absurd ⟨_, asks, single⟩ unclear
  | unknown unnamed unclear =>
      cases other with
      | named given => rw [unnamed] at given; cases given
      | only _ asks single => exact absurd ⟨_, asks, single⟩ unclear
      | unknown => rfl

/-- The process that reading works out is the one whose environment is to be asked for. -/
theorem processOf_process? (distinct : (options.substitutions.map Prod.fst).Nodup) (text : String) :
    ProcessOf options text (process? options text) := by
  rw [process?]
  cases unnamed : options.process with
  | some process => exact .named unnamed
  | none =>
      have different : ((Placeholder.applied options.substitutions text).filter
          Placeholder.namesProgram).Nodup := (distinct.filter _).filter _
      have asked (key : String) : key ∈ (Placeholder.applied options.substitutions text).filter
          Placeholder.namesProgram ↔ AsksProgram options.substitutions text key :=
        Placeholder.mem_programNames_iff
      rw [Option.orElse_eq_orElse, Option.orElse_eq_or, Option.none_or, Placeholder.programs]
      generalize (Placeholder.applied options.substitutions text).filter
        Placeholder.namesProgram = names at different asked
      match names with
      | [] =>
          refine .unknown unnamed ?_
          rintro ⟨key, asks, -⟩
          cases (asked key).mpr asks
      | [key] =>
          obtain ⟨value, held⟩ := ((asked key).mp (List.mem_singleton_self key)).exists_value
          simp only [List.filterMap_cons, List.filterMap_nil, held]
          exact .only unnamed ((asked key).mp (List.mem_singleton_self key))
            (fun other asks => List.mem_singleton.mp ((asked other).mpr asks)) held
      | first :: second :: others =>
          have firstAsks := (asked first).mp List.mem_cons_self
          have secondAsks := (asked second).mp (List.mem_cons_of_mem _ List.mem_cons_self)
          obtain ⟨value, held⟩ := firstAsks.exists_value
          obtain ⟨another, alsoHeld⟩ := secondAsks.exists_value
          simp only [List.filterMap_cons, held, alsoHeld]
          refine .unknown unnamed ?_
          rintro ⟨key, -, single⟩
          have same : first = second :=
            (single first firstAsks).trans (single second secondAsks).symm
          exact (List.nodup_cons.mp different).1 (same ▸ List.mem_cons_self)

end Catalog

/-- The check asks for variables and allows a probe for them, but has none. -/
structure Check.LacksProbe (check : Check) : Prop where
  blank : ∀ c ∈ check.auditEnvironment.toList, Text.isBlank c = true
  allowed : check.noEnvironmentProbe = false
  asks : ∃ item ∈ check.items, item.environment ≠ ""

/-- The first check lacks a probe, and the second has that of the process; or else they are the
same. -/
structure Check.Provided (process : Option String) (before after : Check) : Prop where
  kept : ¬ before.LacksProbe ∨ process = none → after = before
  given : ∀ name, process = some name → before.LacksProbe →
    after = { before with auditEnvironment := environmentProbe name }

structure Group.Provided (process : Option String) (before after : Group) : Prop where
  same : after = { before with checks := after.checks }
  checks : List.Forall₂ (Check.Provided process) before.checks after.checks

structure Catalog.Provided (process : Option String) (before after : Catalog) : Prop where
  same : after = { before with groups := after.groups }
  groups : List.Forall₂ (Group.Provided process) before.groups after.groups

section Checks

variable {name : String} {before after check : Check}

/-- The command for an environment is not blank. -/
theorem mem_environmentProbe (name : String) : 'c' ∈ (environmentProbe name).toList := by
  delta environmentProbe
  rw [String.toList_append, String.toList_append, String.toList_ofList]
  exact List.mem_cons_self

namespace Check

/-- A check needs a probe exactly if it lacks one. -/
theorem needsEnvironmentProbe_iff : check.needsEnvironmentProbe = true ↔ check.LacksProbe := by
  simp only [needsEnvironmentProbe, hasEnvironmentProbe, usesEnvironment, Text.isBlankText,
    Bool.and_eq_true, Bool.not_eq_true', Bool.not_eq_false', List.all_eq_true, List.any_eq_true,
    String.isEmpty_eq_false_iff]
  constructor
  · rintro ⟨⟨allowed, blank⟩, asks⟩
    exact ⟨blank, allowed, asks⟩
  · rintro ⟨blank, allowed, asks⟩
    exact ⟨⟨allowed, blank⟩, asks⟩

/-- A check that lacks a probe gets that of the process. -/
theorem withEnvironmentProbe_of_lacks (lacks : check.LacksProbe) (name : String) :
    check.withEnvironmentProbe name = { check with auditEnvironment := environmentProbe name } :=
  if_pos (needsEnvironmentProbe_iff.mpr lacks)

/-- A check that lacks none stays as it is. -/
theorem withEnvironmentProbe_of_not_lacks (provided : ¬ check.LacksProbe) (name : String) :
    check.withEnvironmentProbe name = check :=
  if_neg (mt needsEnvironmentProbe_iff.mp provided)

/-- Nothing but the probe changes in a check. -/
theorem provided_withEnvironmentProbe (name : String) (check : Check) :
    check.Provided (some name) (check.withEnvironmentProbe name) where
  kept kept := withEnvironmentProbe_of_not_lacks (kept.resolve_right nofun) name
  given _ same lacks := Option.some.inj same ▸ withEnvironmentProbe_of_lacks lacks name

/-- Without a process nothing changes in a check. -/
theorem provided_none (check : Check) : check.Provided none check :=
  ⟨fun _ => rfl, nofun⟩

/-- After the step no check lacks a probe. -/
theorem not_lacksProbe_withEnvironmentProbe (name : String) (check : Check) :
    ¬ (check.withEnvironmentProbe name).LacksProbe := by
  by_cases lacks : check.LacksProbe
  · rw [withEnvironmentProbe_of_lacks lacks]
    intro again
    exact absurd (again.blank 'c' (mem_environmentProbe name)) (by decide)
  · rwa [withEnvironmentProbe_of_not_lacks lacks]

/-- A check that uses variables, allows a probe and lacks none has one. -/
theorem hasEnvironmentProbe_of_not_lacks (provided : ¬ check.LacksProbe)
    (uses : check.usesEnvironment = true) (allowed : check.noEnvironmentProbe = false) :
    check.hasEnvironmentProbe = true := by
  rw [← needsEnvironmentProbe_iff, needsEnvironmentProbe, uses, allowed] at provided
  simpa using provided

end Check

end Checks

section Catalogs

variable {name : String} {catalog : Catalog}

/-- Nothing but the probes of its checks changes in a group. -/
theorem Group.provided_withEnvironmentProbes (name : String) (group : Group) :
    group.Provided (some name) (group.withEnvironmentProbes name) where
  same := rfl
  checks := by
    rw [withEnvironmentProbes, List.forall₂_map_right_iff, List.forall₂_same]
    exact fun check _ => check.provided_withEnvironmentProbe name

/-- Without a process nothing changes in a group. -/
theorem Group.provided_none (group : Group) : group.Provided none group :=
  ⟨rfl, List.forall₂_same.mpr fun check _ => check.provided_none⟩

namespace Catalog

/-- Nothing but the probes of its checks changes in a catalog. -/
theorem provided_withEnvironmentProbes (process : Option String) (catalog : Catalog) :
    catalog.Provided process (catalog.withEnvironmentProbes process) := by
  cases process with
  | none => exact ⟨rfl, List.forall₂_same.mpr fun group _ => group.provided_none⟩
  | some name =>
      refine ⟨rfl, ?_⟩
      rw [withEnvironmentProbes, List.forall₂_map_right_iff, List.forall₂_same]
      exact fun group _ => group.provided_withEnvironmentProbes name

/-- The checks of a catalog get their probes one by one. -/
theorem checks_withEnvironmentProbes (name : String) (catalog : Catalog) :
    (catalog.withEnvironmentProbes (some name)).checks =
      catalog.checks.map (Check.withEnvironmentProbe name) := by
  simp [checks, withEnvironmentProbes, List.flatMap_map, List.map_flatMap,
    Group.withEnvironmentProbes]

/-- A check that was given a probe lacks none. -/
theorem not_lacksProbe_of_mem {check : Check}
    (among : check ∈ (catalog.withEnvironmentProbes (some name)).checks) :
    ¬ check.LacksProbe := by
  rw [checks_withEnvironmentProbes] at among
  obtain ⟨before, -, rfl⟩ := List.mem_map.mp among
  exact before.not_lacksProbe_withEnvironmentProbe name

/-- A catalog whose checks lack no probe stays as it is. -/
theorem withEnvironmentProbes_of_not_lacks (provided : ∀ check ∈ catalog.checks, ¬ check.LacksProbe)
    (name : String) : catalog.withEnvironmentProbes (some name) = catalog := by
  have groups : catalog.groups.map (Group.withEnvironmentProbes name) = catalog.groups := by
    refine (List.map_congr_left fun group among => ?_).trans (List.map_id _)
    have checks : group.checks.map (Check.withEnvironmentProbe name) = group.checks := by
      refine (List.map_congr_left fun check inside => ?_).trans (List.map_id _)
      have whole := provided check (List.mem_flatMap.mpr ⟨group, among, inside⟩)
      exact check.withEnvironmentProbe_of_not_lacks whole name
    rw [Group.withEnvironmentProbes, checks]
    rfl
  rw [withEnvironmentProbes, groups]

end Catalog

end Catalogs

namespace Catalog

/-- Reading a catalog gives the definitions in its text, with the probe of the process in the checks
that lack one. So with a process all checks have a probe that use variables and allow it, and
giving probes again changes nothing. -/
theorem probes_given_where_lacking {options : LoadOptions} {text : String} {catalog : Catalog}
    (distinct : (options.substitutions.map Prod.fst).Nodup)
    (reading : read options text = .ok catalog) :
    ∃ process parsed, (∀ other, ProcessOf options text other ↔ other = process) ∧
      ofFilled? (Placeholder.fill options.substitutions text) = some parsed ∧
      parsed.Provided process catalog ∧
      (process.isSome = true → ∀ check ∈ catalog.checks, check.usesEnvironment = true →
        check.noEnvironmentProbe = false → check.hasEnvironmentProbe = true) ∧
      catalog.withEnvironmentProbes process = catalog := by
  rw [read] at reading
  split at reading
  · cases reading
  · rename_i parsed found
    split at reading
    · cases reading
    · obtain rfl := Except.ok.inj reading
      have asked := processOf_process? distinct text
      generalize process? options text = process at asked ⊢
      refine ⟨process, parsed, fun other => ⟨fun given => given.unique asked, ?_⟩, found,
        provided_withEnvironmentProbes process parsed, ?has, ?again⟩
      · rintro rfl
        exact asked
      case has =>
        intro given check among uses allowed
        obtain ⟨name, rfl⟩ := Option.isSome_iff_exists.mp given
        exact check.hasEnvironmentProbe_of_not_lacks (not_lacksProbe_of_mem among) uses allowed
      case again =>
        cases process with
        | none => rfl
        | some name =>
            exact withEnvironmentProbes_of_not_lacks (fun check => not_lacksProbe_of_mem) name

/-- A catalog with a check that lacks a probe, and one that has one. -/
def variablesText : String :=
  "groups:\n- checks:\n  - audit: ps $kubeletbin\n    tests: &t\n      test_items:\n" ++
    "      - env: TLS\n  - audit_env: env\n    tests: *t\n"

def variablesCatalog (probe : String) : Catalog :=
  let check (audit probe : String) : Check :=
    { Check.empty with
      audit := audit
      auditEnvironment := probe
      tests := some ⟨[⟨"", "", "TLS", true, none⟩], .all⟩ }
  ⟨"", "", "", "", [⟨"", "", "", [check "ps kubelet" probe, check "" "env"]⟩]⟩

def variablesOptions : LoadOptions :=
  ⟨[("kubeletbin", "kubelet"), ("proxybin", "kube-proxy")], none, none⟩

theorem probes_given_where_lacking_variables :
    (variablesOptions.substitutions.map Prod.fst).Nodup ∧
    read variablesOptions variablesText = .ok (variablesCatalog (environmentProbe "kubelet")) ∧
    ∃ process, ProcessOf variablesOptions variablesText process ∧
      (variablesCatalog "").Provided process (variablesCatalog (environmentProbe "kubelet")) := by
  have distinct : (variablesOptions.substitutions.map Prod.fst).Nodup := by decide
  have found : ofFilled? (Placeholder.fill variablesOptions.substitutions variablesText) =
      some (variablesCatalog "") := by decide +kernel
  have process : process? variablesOptions variablesText = some "kubelet" := by decide +kernel
  have reading : read variablesOptions variablesText =
      .ok (variablesCatalog (environmentProbe "kubelet")) := by
    rw [read, found, process]
    rfl
  obtain ⟨process, parsed, processOf, again, provided, -⟩ :=
    probes_given_where_lacking distinct reading
  obtain rfl := Option.some.inj (found.symm.trans again)
  exact ⟨distinct, reading, process, (processOf process).mpr rfl, provided⟩

end Catalog

end HostAudit
