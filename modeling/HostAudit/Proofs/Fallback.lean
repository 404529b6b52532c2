import HostAudit.Check
import HostAudit.Proofs.Evidence

/-
This file describes how a test item falls back from one source to the next, and proves that
resolving an item does so.
-/

namespace HostAudit

/-- The sources among `sources` that apply to an item, with their outputs. -/
def Outputs.among (outputs : Outputs) (item : TestItem) (sources : List Source) :
    List (Source × String) :=
  sources.filterMap fun source => (outputs.of? item source).map (source, ·)

/-- The sources that apply to an item, in the order in which they are tried. -/
def Outputs.applicable (outputs : Outputs) (item : TestItem) : List (Source × String) :=
  outputs.among item Source.all

namespace Outputs

/-- A source that does not apply is passed over. -/
theorem among_cons_of_none {outputs : Outputs} {item : TestItem} {source : Source}
    (skipped : outputs.of? item source = none) (sources : List Source) :
    outputs.among item (source :: sources) = outputs.among item sources := by
  simp [among, skipped]

/-- A source that applies comes with its output. -/
theorem among_cons_of_some {outputs : Outputs} {item : TestItem} {source : Source}
    {output : String} (applies : outputs.of? item source = some output) (sources : List Source) :
    outputs.among item (source :: sources) = (source, output) :: outputs.among item sources := by
  simp [among, applies]

/-- A source applies to an item exactly if it gives it an output. -/
theorem mem_applicable {outputs : Outputs} {item : TestItem} {source : Source} {output : String} :
    (source, output) ∈ outputs.applicable item ↔ outputs.of? item source = some output := by
  have every : source ∈ Source.all := by cases source <;> decide
  simp only [applicable, among, List.mem_filterMap, Option.map_eq_some_iff, Prod.mk.injEq]
  constructor
  · rintro ⟨_, -, _, applies, rfl, rfl⟩
    exact applies
  · intro applies
    exact ⟨source, every, output, applies, rfl, rfl⟩

/-- The primary output applies to every item. -/
theorem applicable_ne_nil (outputs : Outputs) (item : TestItem) : outputs.applicable item ≠ [] :=
  List.ne_nil_of_mem (mem_applicable.mpr (rfl : outputs.of? item .primary = some outputs.audit))

/-- The sources that apply are those with an output, in order. -/
theorem among_keys (outputs : Outputs) (item : TestItem) (sources : List Source) :
    (outputs.among item sources).map Prod.fst =
      sources.filter fun source => (outputs.of? item source).isSome := by
  induction sources with
  | nil => rfl
  | cons source sources ih =>
      cases applies : outputs.of? item source <;> simpa [among, applies] using ih

/-- Each source is tried once at most. -/
theorem applicable_nodup (outputs : Outputs) (item : TestItem) :
    ((outputs.applicable item).map Prod.fst).Nodup := by
  rw [applicable, among_keys]
  exact List.Pairwise.filter _ (by decide)

end Outputs

namespace TestItem

variable {item : TestItem} {multiple : Bool} {first rest : List (Source × String)}
  {resolved : TestOutcome × Source}

/-- An item is decided on the first of some outputs that settles it, or else on the last one. -/
inductive DecidedOn (item : TestItem) (multiple : Bool) :
    List (Source × String) → TestOutcome × Source → Prop where
  | settled {source : Source} {output : String} {rest : List (Source × String)}
      {outcome : TestOutcome} (answered : item.evaluate source multiple output = .ok outcome)
      (found : outcome.found = true) :
      DecidedOn item multiple ((source, output) :: rest) (outcome, source)
  | last {source : Source} {output : String} {outcome : TestOutcome}
      (answered : item.evaluate source multiple output = .ok outcome) :
      DecidedOn item multiple [(source, output)] (outcome, source)
  | later {source : Source} {output : String} {rest : List (Source × String)}
      {outcome : TestOutcome} {resolved : TestOutcome × Source}
      (answered : item.evaluate source multiple output = .ok outcome)
      (missed : outcome.found = false) (decided : DecidedOn item multiple rest resolved) :
      DecidedOn item multiple ((source, output) :: rest) resolved

theorem not_decidedOn_nil : ¬ item.DecidedOn multiple [] resolved := nofun

/-- The first output decides if it is found there or is the last, and otherwise those behind it
decide. -/
theorem decidedOn_cons {source : Source} {output : String} :
    item.DecidedOn multiple ((source, output) :: rest) resolved ↔
      ∃ outcome, item.evaluate source multiple output = .ok outcome ∧
        ((outcome.found = true ∨ rest = []) ∧ (outcome, source) = resolved ∨
          outcome.found = false ∧ item.DecidedOn multiple rest resolved) := by
  constructor
  · intro decided
    cases decided with
    | settled answered found => exact ⟨_, answered, .inl ⟨.inl found, rfl⟩⟩
    | last answered => exact ⟨_, answered, .inl ⟨.inr rfl, rfl⟩⟩
    | later answered missed decided => exact ⟨_, answered, .inr ⟨missed, decided⟩⟩
  · rintro ⟨outcome, answered, ⟨found | rfl, rfl⟩ | ⟨missed, decided⟩⟩
    · exact .settled answered found
    · exact .last answered
    · exact .later answered missed decided

/-- The output of a source settles an item. -/
def SettledBy (item : TestItem) (multiple : Bool) (tried : Source × String) : Prop :=
  item.Settles tried.1 (texts multiple tried.2)

instance (item : TestItem) (multiple : Bool) (tried : Source × String) :
    Decidable (item.SettledBy multiple tried) := inferInstanceAs (Decidable (item.Settles _ _))

/-- Testing an item on the output of a source succeeds and does not settle the item. -/
def PassedOver (item : TestItem) (multiple : Bool) (tried : Source × String) : Prop :=
  ∃ outcome, item.evaluate tried.1 multiple tried.2 = .ok outcome ∧ outcome.found = false

/-- An output that is passed over does not settle the item. -/
theorem PassedOver.not_settledBy {tried : Source × String}
    (passed : item.PassedOver multiple tried) : ¬ item.SettledBy multiple tried := by
  obtain ⟨outcome, answered, missed⟩ := passed
  rw [SettledBy, ← (evaluate_finding answered).found, missed]
  simp

/-- The recorded source is one of those tried, and those before it were passed over. -/
theorem DecidedOn.split (decided : item.DecidedOn multiple rest resolved) :
    ∃ before output after, rest = before ++ (resolved.2, output) :: after ∧
      item.evaluate resolved.2 multiple output = .ok resolved.1 ∧
      (∀ tried ∈ before, item.PassedOver multiple tried) ∧
      (resolved.1.found = true ∨ after = []) := by
  induction decided with
  | @settled source output rest outcome answered found =>
      exact ⟨[], output, rest, rfl, answered, by simp, .inl found⟩
  | @last source output outcome answered =>
      exact ⟨[], output, [], rfl, answered, by simp, .inr rfl⟩
  | @later source output rest outcome resolved answered missed decided ih =>
      obtain ⟨before, chosen, after, split, tested, passed, stop⟩ := ih
      refine ⟨(source, output) :: before, chosen, after, by rw [split]; rfl, tested, ?_, stop⟩
      exact List.forall_mem_cons.mpr ⟨⟨outcome, answered, missed⟩, passed⟩

/-- An item is decided on the output of one of the sources. -/
theorem DecidedOn.mem (decided : item.DecidedOn multiple rest resolved) :
    resolved.2 ∈ rest.map Prod.fst := by
  obtain ⟨before, output, after, rfl, -⟩ := decided.split
  simp

/-- Outputs behind others are looked at only if all of those are passed over. -/
theorem decidedOn_append (more : rest ≠ []) :
    item.DecidedOn multiple (first ++ rest) resolved ↔
      item.DecidedOn multiple first resolved ∧ resolved.1.found = true ∨
      (∀ tried ∈ first, item.PassedOver multiple tried) ∧
        item.DecidedOn multiple rest resolved := by
  induction first with
  | nil => simp [not_decidedOn_nil]
  | cons tried first ih =>
      obtain ⟨source, output⟩ := tried
      simp only [List.cons_append, decidedOn_cons, ih, List.append_eq_nil_iff, more, and_false,
        or_false, List.forall_mem_cons, PassedOver]
      constructor
      · rintro ⟨outcome, answered, ⟨found, rfl⟩ | ⟨missed, ⟨decided, found⟩ | ⟨passed, decided⟩⟩⟩
        · exact .inl ⟨⟨outcome, answered, .inl ⟨.inl found, rfl⟩⟩, found⟩
        · exact .inl ⟨⟨outcome, answered, .inr ⟨missed, decided⟩⟩, found⟩
        · exact .inr ⟨⟨⟨outcome, answered, missed⟩, passed⟩, decided⟩
      · rintro (⟨⟨outcome, answered, ⟨-, rfl⟩ | ⟨missed, decided⟩⟩, found⟩ |
          ⟨⟨⟨outcome, answered, missed⟩, passed⟩, decided⟩)
        · exact ⟨outcome, answered, .inl ⟨found, rfl⟩⟩
        · exact ⟨outcome, answered, .inr ⟨missed, .inl ⟨decided, found⟩⟩⟩
        · exact ⟨outcome, answered, .inr ⟨missed, .inr ⟨passed, decided⟩⟩⟩

/-- The locator counts as found exactly when one of the outputs settles the item. -/
theorem DecidedOn.found_iff (decided : item.DecidedOn multiple first resolved) :
    resolved.1.found = true ↔ ∃ tried ∈ first, item.SettledBy multiple tried := by
  obtain ⟨before, output, after, rfl, answered, passed, stop⟩ := decided.split
  have found := (evaluate_finding answered).found
  constructor
  · intro settled
    exact ⟨(resolved.2, output), by simp, found.mp settled⟩
  · rintro ⟨tried, member, settles⟩
    rcases stop with settled | rfl
    · exact settled
    rcases List.mem_append.mp member with earlier | last
    · exact absurd settles (passed tried earlier).not_settledBy
    · rw [List.mem_singleton.mp last] at settles
      exact found.mpr settles

/-- If one of the first outputs settles an item then the others do not count. -/
theorem decidedOn_append_of_settled (settled : ∃ tried ∈ first, item.SettledBy multiple tried) :
    item.DecidedOn multiple (first ++ rest) resolved ↔ item.DecidedOn multiple first resolved := by
  by_cases more : rest = []
  · rw [more, List.append_nil]
  · rw [decidedOn_append more]
    constructor
    · rintro (⟨decided, -⟩ | ⟨passed, -⟩)
      · exact decided
      · obtain ⟨tried, member, settles⟩ := settled
        exact absurd settles (passed tried member).not_settledBy
    · exact fun decided => .inl ⟨decided, decided.found_iff.mpr settled⟩

/-- The recorded source is one of the first exactly when there are no others or one of the first
settles the item. -/
theorem DecidedOn.mem_first_iff (distinct : ((first ++ rest).map Prod.fst).Nodup)
    (decided : item.DecidedOn multiple (first ++ rest) resolved) :
    resolved.2 ∈ first.map Prod.fst ↔
      rest = [] ∨ ∃ tried ∈ first, item.SettledBy multiple tried := by
  constructor
  · intro early
    by_cases more : rest = []
    · exact .inl more
    rcases (decidedOn_append more).mp decided with ⟨decided, found⟩ | ⟨-, late⟩
    · exact .inr (decided.found_iff.mp found)
    · rw [List.map_append, List.nodup_append] at distinct
      exact absurd rfl (distinct.2.2 _ early _ late.mem)
  · rintro (rfl | settled)
    · simpa using decided.mem
    · exact ((decidedOn_append_of_settled settled).mp decided).mem

/-- The evidence for an item that was decided on a source. If the item asks for presence, its
locator is found in each text of the source, with a value that it accepts. If it asks for absence,
its locator is in no text of any source that applies. -/
def Witnessed (item : TestItem) (multiple : Bool) (outputs : Outputs) (source : Source) : Prop :=
  if item.present then
    ∃ output, outputs.of? item source = some output ∧
      ∀ text ∈ texts multiple output, ∃ value ∈ item.value? source text, item.Accepts source value
  else
    ∀ source output, outputs.of? item source = some output →
      ∀ text ∈ texts multiple output, item.Misses source text

end TestItem

namespace Check

variable {check : Check} {outputs : Outputs} {item : TestItem} {resolved : TestOutcome × Source}

/-- Going through sources decides an item on those that apply, or keeps what there was if none
does. -/
theorem resolveFrom_eq_ok {initial : TestOutcome × Source} {sources : List Source} :
    check.resolveFrom outputs item initial sources = .ok resolved ↔
      outputs.among item sources = [] ∧ initial = resolved ∨
      item.DecidedOn check.multipleValues (outputs.among item sources) resolved := by
  induction sources generalizing initial with
  | nil => simp [resolveFrom, Outputs.among, TestItem.not_decidedOn_nil]
  | cons source sources ih =>
      cases applies : outputs.of? item source with
      | none => simp only [resolveFrom, applies, Outputs.among_cons_of_none applies, ih]
      | some output =>
          simp only [resolveFrom, applies, Outputs.among_cons_of_some applies, bind_eq_ok,
            TestItem.decidedOn_cons, reduceCtorEq, false_and, false_or]
          apply exists_congr
          intro outcome
          apply and_congr_right
          intro answered
          cases found : outcome.found with
          | true => simp
          | false => simp [ih]

/-- Resolving an item decides it on the sources that apply to it, in their order. -/
theorem resolve_eq_ok :
    check.resolve outputs item = .ok resolved ↔
      item.DecidedOn check.multipleValues (outputs.applicable item) resolved := by
  rw [resolve, resolveFrom_eq_ok, Outputs.applicable]
  simp [show outputs.among item Source.all ≠ [] from outputs.applicable_ne_nil item]

/-- The source that is recorded for an item applies to it. An item that asks for absence shows no
output. -/
theorem resolve_actual (answered : check.resolve outputs item = .ok resolved) :
    ∃ output, outputs.of? item resolved.2 = some output ∧
      resolved.1.actual = if item.present then TestItem.trimmedOutput output else "" := by
  obtain ⟨before, output, after, split, tested, -⟩ := (resolve_eq_ok.mp answered).split
  refine ⟨output, Outputs.mem_applicable.mp (split ▸ by simp), ?_⟩
  exact TestItem.evaluate_actual tested

/-- An item is matched exactly when it is witnessed on the source that it was decided on. -/
theorem resolve_matched (answered : check.resolve outputs item = .ok resolved) :
    resolved.1.matched = true ↔
      item.Witnessed check.multipleValues outputs resolved.2 := by
  obtain ⟨before, output, after, split, tested, passed, stop⟩ :=
    (resolve_eq_ok.mp answered).split
  have finding := TestItem.evaluate_finding tested
  have applies : outputs.of? item resolved.2 = some output :=
    Outputs.mem_applicable.mp (split ▸ by simp)
  rw [finding.matched, TestItem.Witnessed]
  cases present : item.present with
  | true =>
      rw [if_pos rfl]
      simp only [TestItem.Holds, present, if_true]
      constructor
      · intro all
        exact ⟨output, applies, all⟩
      · rintro ⟨other, same, all⟩
        rw [applies, Option.some.injEq] at same
        rwa [same]
  | false =>
      rw [if_neg (by simp)]
      simp only [TestItem.holds_of_absent present]
      constructor
      · intro missing source other reached text member
        -- Nothing has settled the item, so the recorded source is the last one that applies.
        have missed : resolved.1.found ≠ true := by
          rw [Ne, finding.found, TestItem.Settles, present, if_neg (by simp)]
          simpa [TestItem.holds_of_absent present] using missing
        have ends := stop.resolve_left missed
        have inside := Outputs.mem_applicable.mpr reached
        rw [split, ends, List.mem_append, List.mem_singleton] at inside
        rcases inside with earlier | last
        · exact TestItem.misses_of_not_settles present (passed _ earlier).not_settledBy text member
        · obtain ⟨rfl, rfl⟩ := Prod.mk.inj last
          exact missing text member
      · intro everywhere
        exact everywhere resolved.2 output applies

end Check

end HostAudit
