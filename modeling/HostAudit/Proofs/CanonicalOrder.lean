import HostAudit.Proofs.ReportOrder
import HostAudit.Proofs.WholeDoubles
import Mathlib.Data.List.Nodup
import Mathlib.Order.Defs.Unbundled

/-
This file proves that the order of reports is a total order of their ids, so that reports with
different ids are sorted into the same list however they came, and that whole numbers are put in
increasing order, before the ids that are no number.
-/

namespace HostAudit

namespace CatalogReport

/-- The number that an id spells between blanks, or infinity if it spells none. -/
def idNumber (id : String) : Double :=
  (Decimal.readDouble? (Text.trim id.toList)).getD (.infinity false)

/-- The order of ids: by their numbers, and by their texts where these are the same. -/
def InOrder (first second : String) : Prop :=
  (idNumber first).Before (idNumber second) ∨ idNumber first = idNumber second ∧ first ≤ second

/-- Reports are in order exactly if their ids are. -/
theorem precedes_iff_inOrder (first second : CatalogReport) :
    first.precedes second = true ↔ InOrder first.id second.id := by
  rw [precedes_iff, ← Double.before_iff, Double.orderKey_inj]
  rfl

/-- A report with an id, and without results. -/
def blank (id : String) : CatalogReport := start id "" "" ""

/-- The order of ids is that of reports that have nothing but an id. -/
theorem inOrder_iff {first second : String} :
    InOrder first second ↔ (blank first).precedes (blank second) = true :=
  (precedes_iff_inOrder (blank first) (blank second)).symm

instance : IsLinearOrder String InOrder where
  refl id := .inr ⟨rfl, String.le_refl id⟩
  trans first second third left right := by
    rw [inOrder_iff] at left right ⊢
    exact precedes_trans _ _ _ left right
  antisymm first second left right := by
    simp only [InOrder, Double.before_iff, ← Double.orderKey_inj] at left right
    rcases left with before | ⟨same, left⟩
    · omega
    · rcases right with after | ⟨-, right⟩
      · omega
      · exact String.le_antisymm left right
  total first second := by
    rw [inOrder_iff, inOrder_iff, ← Bool.or_eq_true]
    exact precedes_total _ _

section Numbers

variable {id : String} {number : Int}

/-- An id that is no number goes behind all numbers. -/
theorem idNumber_of_unreadable (unreadable : Decimal.readDouble? (Text.trim id.toList) = none) :
    idNumber id = .infinity false := by
  rw [idNumber, unreadable, Option.getD_none]

/-- The digits of a number have no blanks around them. -/
theorem trim_text (number : Int) :
    Text.trim (Integer.text number).toList = Integer.chars number := by
  have solid : ∀ c ∈ Integer.chars number, Text.isBlank c = false := by
    intro c member
    rcases Integer.mem_chars member with rfl | digit
    · decide
    · exact Integer.isBlank_of_isDigit digit
  rw [Integer.text, String.toList_ofList]
  apply Text.trim_of_solid
  · exact fun c first => solid c (List.mem_of_mem_head? first)
  · exact fun c last => solid c (List.mem_of_getLast? last)

/-- The id of a small whole number stands for this number. -/
theorem idNumber_text (bounded : number.natAbs ≤ 2 ^ 53) :
    (idNumber (Integer.text number)).StandsFor number := by
  obtain ⟨x, read, stands⟩ := Decimal.readDouble?_chars bounded
  rw [idNumber, trim_text, read, Option.getD_some]
  exact stands

/-- Whole numbers are in their own order. -/
theorem le_of_inOrder_text {lower upper : Int} (one : lower.natAbs ≤ 2 ^ 53)
    (other : upper.natAbs ≤ 2 ^ 53)
    (order : InOrder (Integer.text lower) (Integer.text upper)) : lower ≤ upper := by
  have left := idNumber_text one
  have right := idNumber_text other
  rcases order with before | ⟨same, -⟩
  · exact Int.le_of_lt ((left.before_iff right).mp before)
  · rw [same] at left
    exact Int.le_of_eq (left.unique right)

/-- An id that is no number does not stand before one that is a whole number. -/
theorem readable_of_inOrder_text (bounded : number.natAbs ≤ 2 ^ 53)
    (order : InOrder id (Integer.text number)) :
    (Decimal.readDouble? (Text.trim id.toList)).isSome = true := by
  apply Option.isSome_iff_ne_none.mpr
  intro unreadable
  have stands := idNumber_text bounded
  have before := Double.before_iff.mp stands.before_infinity
  rw [← idNumber_of_unreadable unreadable] at before
  rw [InOrder, Double.before_iff, ← Double.orderKey_inj] at order
  omega

end Numbers

end CatalogReport

namespace AuditResults

open CatalogReport (InOrder)

/-- Sorted reports are in the order of their ids. -/
theorem sort_inOrder (results : AuditResults) :
    results.sort.reports.Pairwise fun first second => InOrder first.id second.id :=
  results.sort_pairwise.imp fun order => (CatalogReport.precedes_iff_inOrder _ _).mp order

/-- Sorting again changes nothing. -/
theorem sort_sort (results : AuditResults) : results.sort.sort = results.sort := by
  have sorted := List.mergeSort_of_pairwise results.sort_pairwise
  rw [sort, sorted]

/-- Reports with different ids are sorted into the same list however they came. -/
theorem sort_reports_of_perm {results others : AuditResults}
    (same : others.reports.Perm results.reports)
    (different : (results.reports.map (·.id)).Nodup) :
    others.sort.reports = results.sort.reports := by
  have sorted : others.sort.reports.Perm results.sort.reports :=
    others.sort_perm.trans (same.trans results.sort_perm.symm)
  apply List.Perm.eq_of_pairwise _ others.sort_inOrder results.sort_inOrder sorted
  intro first second member also left right
  have one : first ∈ results.reports := same.mem_iff.mp (others.sort_perm.mem_iff.mp member)
  have other : second ∈ results.reports := results.sort_perm.mem_iff.mp also
  exact List.inj_on_of_nodup_map different one other (antisymm (r := InOrder) left right)

/-- What stands before a whole number is a number as well, and no whole number above it. -/
theorem sort_wholeNumbers (results : AuditResults) :
    results.sort.reports.Pairwise fun first second =>
      ∀ number : Int, number.natAbs ≤ 2 ^ 53 → second.id = Integer.text number →
        (Decimal.readDouble? (Text.trim first.id.toList)).isSome = true ∧
          ∀ other : Int, other.natAbs ≤ 2 ^ 53 → first.id = Integer.text other →
            other ≤ number := by
  apply results.sort_inOrder.imp
  intro first second order number bounded spelled
  rw [spelled] at order
  constructor
  · exact CatalogReport.readable_of_inOrder_text bounded order
  · intro other small written
    rw [written] at order
    exact CatalogReport.le_of_inOrder_text small bounded order

/-- The order of reports is one of their ids, and reports of the same id stay in turn. Nothing but
the order is changed, and sorting once more changes nothing. The order of ids is total, so that
reports with different ids end in the same list however they came. Whole numbers are put in
increasing order, before the ids that are no number. -/
theorem sorting_is_canonical (results : AuditResults) :
    IsLinearOrder String InOrder ∧
      results.sort.reports.Perm results.reports ∧
      (results.sort.reports.Pairwise fun first second => InOrder first.id second.id) ∧
      (∀ id, results.sort.reports.filter (·.id = id) = results.reports.filter (·.id = id)) ∧
      results.sort.sort = results.sort ∧
      results.sort.totals = results.totals ∧ results.sort.runs = results.runs ∧
      (∀ others : AuditResults, others.reports.Perm results.reports →
        (results.reports.map (·.id)).Nodup → others.sort.reports = results.sort.reports) ∧
      results.sort.reports.Pairwise fun first second =>
        ∀ number : Int, number.natAbs ≤ 2 ^ 53 → second.id = Integer.text number →
          (Decimal.readDouble? (Text.trim first.id.toList)).isSome = true ∧
            ∀ other : Int, other.natAbs ≤ 2 ^ 53 → first.id = Integer.text other →
              other ≤ number :=
  ⟨inferInstance, results.sort_perm, results.sort_inOrder, results.sort_stable, results.sort_sort,
    rfl, rfl, fun _ => sort_reports_of_perm, results.sort_wholeNumbers⟩

theorem sorting_is_canonical_mixed :
    let results (ids : List String) := AuditResults.ofReports (ids.map CatalogReport.blank)
    (results ["10", "etcd", "-2"]).sort.reports = (results ["etcd", "-2", "10"]).sort.reports ∧
      ("-2" = Integer.text (-2) ∧ "10" = Integer.text 10 ∧ (-2 : Int) ≤ 10) ∧
      (Decimal.readDouble? (Text.trim "-2".toList)).isSome = true := by
  intro results
  let ordered := results ["-2", "10", "etcd"]
  have sorted : ordered.sort.reports = ordered.reports :=
    List.mergeSort_of_pairwise (by decide +kernel)
  obtain ⟨-, -, -, -, -, -, -, same, numbers⟩ := sorting_is_canonical ordered
  have one := same (results ["10", "etcd", "-2"]) (by decide +kernel) (by decide +kernel)
  have other := same (results ["etcd", "-2", "10"]) (by decide +kernel) (by decide +kernel)
  have whole : "10" = Integer.text 10 := by decide +kernel
  have negative : "-2" = Integer.text (-2) := by decide +kernel
  rw [sorted] at numbers
  have before := List.rel_of_pairwise_cons numbers List.mem_cons_self
  obtain ⟨readable, below⟩ := before 10 (by decide) whole
  exact ⟨one.trans other.symm, ⟨negative, whole, below (-2) (by decide) negative⟩, readable⟩

end AuditResults

end HostAudit
