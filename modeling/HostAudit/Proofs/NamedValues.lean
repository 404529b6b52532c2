import HostAudit.Catalog.Placeholder
import HostAudit.Settings.Reader
import Mathlib.Data.String.Basic

/-
This file says how values are held under names: what is put under a name is what is found there, and
the names stay in order, so that settings hold one value for a name.
-/

namespace HostAudit

namespace Substitutions

variable {values : Substitutions} {name : String}

/-- The first entry counts if it has the name, or else the others. -/
theorem lookup_cons (key held name : String) (rest : Substitutions) :
    List.lookup name ((key, held) :: rest) =
      if name = key then some held else rest.lookup name := by
  rw [List.lookup_cons]
  by_cases same : name = key
  · rw [if_pos same, beq_iff_eq.mpr same]
  · rw [if_neg same, beq_eq_false_iff_ne.mpr same]

/-- What was put under a name is found there, and other names are as before. -/
theorem lookup_insert (values : Substitutions) (key value name : String) :
    (values.insert key value).lookup name =
      if name = key then some value else values.lookup name := by
  induction values with
  | nil => exact lookup_cons key value name []
  | cons entry rest ih =>
      obtain ⟨other, held⟩ := entry
      rw [insert]
      split
      · exact lookup_cons key value name _
      · split
        · rename_i same
          rw [same, lookup_cons, lookup_cons]
          split <;> rfl
        · rename_i different
          rw [lookup_cons, lookup_cons, ih]
          split
          · rename_i found
            rw [if_neg (found ▸ Ne.symm different)]
          · rfl

/-- Nothing is found under a name exactly if it is not among the names. -/
theorem lookup_eq_none_iff : values.lookup name = none ↔ name ∉ values.map Prod.fst := by
  rw [List.lookup_eq_none_iff, List.mem_map, not_exists]
  refine forall_congr' fun entry => ?_
  rw [not_and]
  exact imp_congr_right fun _ => by rw [bne_iff_ne, ne_comm]

/-- A key that is not kept makes no difference to those that are. -/
theorem filter_insert {keep : String → Bool} {key : String} (dropped : keep key = false)
    (value : String) :
    ((values.insert key value).map Prod.fst).filter keep = (values.map Prod.fst).filter keep := by
  have gone (rest : Substitutions) :
      (((key, value) :: rest).map Prod.fst).filter keep = (rest.map Prod.fst).filter keep :=
    List.filter_cons_of_neg (by simp [dropped])
  induction values with
  | nil => exact gone []
  | cons entry rest ih =>
      rw [insert]
      split
      · exact gone _
      · split
        · rename_i same
          rw [gone, List.map_cons, ← same, List.filter_cons_of_neg (by simp [dropped])]
        · rw [List.map_cons, List.map_cons, List.filter_cons, List.filter_cons, ih]

/-- The names are in order, so no two are the same. -/
def Sorted (values : Substitutions) : Prop := (values.map Prod.fst).Pairwise (· < ·)

/-- Names that are in order are distinct. -/
theorem Sorted.nodup (sorted : values.Sorted) : (values.map Prod.fst).Nodup :=
  List.Pairwise.imp ne_of_lt sorted

/-- Putting a value under a name adds no other name. -/
theorem mem_names_insert {key value name : String}
    (among : name ∈ (values.insert key value).map Prod.fst) :
    name = key ∨ name ∈ values.map Prod.fst := by
  induction values with
  | nil => exact .inl (List.mem_singleton.mp among)
  | cons entry rest ih =>
      rw [insert] at among
      split at among
      · exact List.mem_cons.mp among
      · split at among
        · exact (List.mem_cons.mp among).imp_right (List.mem_cons_of_mem _)
        · rcases List.mem_cons.mp among with rfl | among
          · exact .inr List.mem_cons_self
          · exact (ih among).imp_right (List.mem_cons_of_mem _)

/-- The names stay in order. -/
theorem Sorted.insert (sorted : values.Sorted) (key value : String) :
    (values.insert key value).Sorted := by
  induction values with
  | nil => exact List.pairwise_singleton _ _
  | cons entry rest ih =>
      obtain ⟨first, others⟩ := List.pairwise_cons.mp sorted
      rw [Substitutions.insert]
      split
      · rename_i before
        refine List.pairwise_cons.mpr ⟨fun name among => ?_, sorted⟩
        rcases List.mem_cons.mp among with rfl | among
        · exact before
        · exact before.trans (first name among)
      · split
        · rename_i same
          exact List.pairwise_cons.mpr ⟨same ▸ first, others⟩
        · rename_i notBefore different
          refine List.pairwise_cons.mpr ⟨fun name among => ?_, ih others⟩
          rcases mem_names_insert among with rfl | among
          · exact lt_of_le_of_ne (not_lt.mp notBefore) (Ne.symm different)
          · exact first name among

end Substitutions

/-- Settings that are read hold their values in the order of the names, one for each name. -/
theorem Settings.sorted_of_read? {text : String} {settings : Settings}
    (read : read? text = some settings) : settings.substitutions.Sorted := by
  have sorted {value : Toml.Value} {values : Substitutions}
      (given : substitutions? value = some values) : values.Sorted := by
    simp only [substitutions?, Option.bind_eq_bind, Option.pure_def, Option.bind_eq_some_iff,
      Option.some.injEq] at given
    obtain ⟨-, -, texts, -, rfl⟩ := given
    exact List.foldlRecOn texts _ List.Pairwise.nil fun values sorted entry _ =>
      sorted.insert entry.1 entry.2
  obtain ⟨members, -, parsed⟩ := Option.bind_eq_some_iff.mp read
  simp only [ofMembers?, Option.bind_eq_bind, Option.pure_def, Option.bind_eq_some_iff,
    Option.some.injEq] at parsed
  obtain ⟨-, -, values, given, -, -, rfl⟩ := parsed
  rw [field] at given
  split at given
  · exact sorted given
  · obtain rfl := Option.some.inj given
    exact List.Pairwise.nil

end HostAudit
