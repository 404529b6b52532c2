import HostAudit.Report
import Mathlib.Data.List.Basic

/-
This file proves that reports are put in a total order, which depends on their ids alone, and that
reports with the same id stay in the order in which they came.
-/

namespace HostAudit

namespace CatalogReport

variable {first second : CatalogReport}

/-- A report goes before another by its place, or by its id where the places are the same. -/
theorem precedes_iff :
    first.precedes second = true ↔
      first.place.orderKey < second.place.orderKey ∨
        first.place.orderKey = second.place.orderKey ∧ first.id ≤ second.id := by
  rw [precedes]
  split
  · rename_i same
    simp [same]
  · rename_i different
    simp [different]

/-- The place of a report depends on its id. -/
theorem place_of_id (same : first.id = second.id) : first.place = second.place := by
  rw [place, place, same]

/-- Nothing but the ids decides. -/
theorem precedes_congr {other another : CatalogReport} (left : first.id = other.id)
    (right : second.id = another.id) : first.precedes second = other.precedes another := by
  rw [Bool.eq_iff_iff, precedes_iff, precedes_iff, place_of_id left, place_of_id right, left, right]

/-- Reports of the same id go before each other. -/
theorem precedes_of_id (same : first.id = second.id) : first.precedes second = true := by
  rw [precedes_iff, place_of_id same, same]
  exact .inr ⟨rfl, String.le_refl second.id⟩

/-- The order of reports is transitive. -/
theorem precedes_trans (first second third : CatalogReport)
    (left : first.precedes second = true) (right : second.precedes third = true) :
    first.precedes third = true := by
  rw [precedes_iff] at left right ⊢
  rcases left with before | ⟨same, ids⟩
  · have later : second.place.orderKey ≤ third.place.orderKey := by omega
    exact .inl (Int.lt_of_lt_of_le before later)
  · rw [same]
    exact right.imp_right fun ⟨again, others⟩ => ⟨again, String.le_trans ids others⟩

/-- Of two reports, one goes before the other. -/
theorem precedes_total (first second : CatalogReport) :
    (first.precedes second || second.precedes first) = true := by
  rw [Bool.or_eq_true, precedes_iff, precedes_iff]
  rcases Int.lt_trichotomy first.place.orderKey second.place.orderKey with before | same | after
  · exact .inl (.inl before)
  · rcases String.le_total first.id second.id with ids | ids
    · exact .inl (.inr ⟨same, ids⟩)
    · exact .inr (.inr ⟨same.symm, ids⟩)
  · exact .inr (.inl after)

end CatalogReport

namespace AuditResults

/-- Sorting is merge sort, which keeps reports of the same id in their order. -/
theorem sort_reports (results : AuditResults) :
    results.sort.reports = results.reports.mergeSort CatalogReport.precedes := rfl

/-- Sorting drops no report and adds none. -/
theorem sort_perm (results : AuditResults) : results.sort.reports.Perm results.reports := by
  rw [sort_reports]
  exact List.mergeSort_perm _ _

/-- After sorting, each report goes before those behind it. -/
theorem sort_pairwise (results : AuditResults) :
    results.sort.reports.Pairwise fun first second => first.precedes second = true := by
  rw [sort_reports]
  exact List.pairwise_mergeSort CatalogReport.precedes_trans
    CatalogReport.precedes_total results.reports

/-- Reports with the same id stay in the order in which they came. -/
theorem sort_stable (results : AuditResults) (id : String) :
    results.sort.reports.filter (·.id = id) = results.reports.filter (·.id = id) := by
  have same : (results.sort.reports.filter (·.id = id)).length =
      (results.reports.filter (·.id = id)).length := (results.sort_perm.filter _).length_eq
  have sorted : (results.reports.filter (·.id = id)).Pairwise
      fun first second => first.precedes second = true := by
    refine List.pairwise_of_forall_mem_list fun first before second after => ?_
    simp only [List.mem_filter, decide_eq_true_eq] at before after
    exact CatalogReport.precedes_of_id (before.2.trans after.2.symm)
  rw [sort_reports] at same ⊢
  have kept := List.sublist_mergeSort CatalogReport.precedes_trans
    CatalogReport.precedes_total sorted List.filter_sublist
  have inside := kept.filter (·.id = id)
  simp only [List.filter_filter, Bool.and_self] at inside
  exact (inside.eq_of_length same.symm).symm

end AuditResults

/-- Reports of catalogs are put in the same order whatever they report. -/
theorem Catalog.exists_order (catalogs : List Catalog) :
    ∃ ordered : List Catalog, ordered.Perm catalogs ∧
      ∀ report : Catalog → CatalogReport, (∀ catalog, (report catalog).id = catalog.id) →
        (catalogs.map report).mergeSort CatalogReport.precedes = ordered.map report := by
  let blank (catalog : Catalog) := CatalogReport.start catalog.id "" "" ""
  refine ⟨catalogs.mergeSort fun first second => (blank first).precedes (blank second),
    List.mergeSort_perm _ _, ?_⟩
  intro report keeps
  have agrees (first second : Catalog) : (blank first).precedes (blank second) =
      (report first).precedes (report second) :=
    CatalogReport.precedes_congr (keeps first).symm (keeps second).symm
  exact (List.map_mergeSort fun first _ second _ => agrees first second).symm

end HostAudit
