import HostAudit.Proofs.Pieces
import HostAudit.Proofs.Verdict
import Mathlib.Data.List.Forall2

/-
This file says how outcomes combine. Outcomes can be combined in parts, one after another, and the
outcomes of the parts combined again. Whether the combination matches does not depend on the order
of the outcomes, and it still matches if more of them do.
-/

namespace HostAudit

namespace Combinator

variable {combinator : Combinator} {first second : List TestOutcome}

/-- The known combinators have a word that joins conditions. -/
theorem exists_joiner (known : combinator = all ∨ combinator = any) :
    ∃ joiner, combinator.joiner = .ok joiner := by
  rcases known with rfl | rfl
  · exact ⟨_, rfl⟩
  · exact ⟨_, rfl⟩

/-- The outcomes of two parts together hold if all the outcomes do. -/
theorem holds_parts (combinator : Combinator) (joiner : String) (first second : List TestOutcome) :
    combinator.holds [combinator.combined joiner first, combinator.combined joiner second] =
      combinator.holds (first ++ second) := by
  cases combinator with
  | any => simp [holds, combined]
  | all | unrecognized => simp [holds, combined]

/-- Combining two parts and then the results is combining all at once. -/
theorem combined_append (joiner : String) (nonempty : first ≠ []) (more : second ≠ []) :
    combinator.combined joiner (first ++ second) =
      combinator.combined joiner
        [combinator.combined joiner first, combinator.combined joiner second] := by
  have words : Text.joined joiner ((first ++ second).map (·.expected)) =
      Text.joined joiner (first.map (·.expected)) ++ joiner ++
        Text.joined joiner (second.map (·.expected)) := by
    rw [List.map_append]
    exact Text.joined_append joiner (by simpa using nonempty) (by simpa using more)
  obtain ⟨outcome, others, rfl⟩ := List.exists_cons_of_ne_nil nonempty
  rw [combined, words, ← holds_parts combinator joiner]
  rfl

/-- It does not matter in which order outcomes are combined. -/
theorem holds_perm (combinator : Combinator) (reordered : first.Perm second) :
    combinator.holds first = combinator.holds second := by
  cases combinator with
  | any => exact reordered.any_eq
  | all | unrecognized => exact reordered.all_eq

/-- If more outcomes match, the combination still matches. -/
theorem holds_mono
    (kept : List.Forall₂ (fun before after => before.matched = true → after.matched = true)
      first second) (holds : combinator.holds first = true) : combinator.holds second = true := by
  induction kept with
  | nil => exact holds
  | cons one _ ih =>
      cases combinator with
      | any =>
          simp only [Combinator.holds, List.any_cons, Bool.or_eq_true] at holds ih ⊢
          exact holds.imp one ih
      | all | unrecognized =>
          simp only [Combinator.holds, List.all_cons, Bool.and_eq_true] at holds ih ⊢
          exact ⟨one holds.1, ih holds.2⟩

/-- Outcomes combine if it is known how. Two lists of outcomes, neither of them empty, combine to
the same outcome one after the other as their own outcomes do. The order of the outcomes does not
matter to whether they match, and if more of them match, the combination does not stop matching. A
combinator that is not known by its name is an error that tells the name. -/
theorem combining_is_associative (combinator : Combinator) :
    (combinator = all ∨ combinator = any →
      (∀ outcomes, ∃ outcome, combinator.combine outcomes = .ok outcome) ∧
      (∀ first second one other, first ≠ [] → second ≠ [] →
        combinator.combine first = .ok one → combinator.combine second = .ok other →
        combinator.combine (first ++ second) = combinator.combine [one, other]) ∧
      (∀ first second one other, first.Perm second →
        combinator.combine first = .ok one → combinator.combine second = .ok other →
        one.matched = other.matched) ∧
      ∀ first second one other,
        List.Forall₂ (fun before after => before.matched = true → after.matched = true)
          first second →
        combinator.combine first = .ok one → combinator.combine second = .ok other →
        one.matched = true → other.matched = true) ∧
    ∀ name, combinator = unrecognized name → ∀ outcomes,
      combinator.combine outcomes = .error (.unknownCombinator name) ∧
      (EvaluationError.unknownCombinator name).message =
        "unknown binary operator for tests " ++ name := by
  constructor
  · intro known
    obtain ⟨joiner, joins⟩ := exists_joiner known
    have combines := combine_of_joiner joins
    simp only [combines, Except.ok.injEq]
    refine ⟨fun outcomes => ⟨_, rfl⟩, ?parts, ?order, ?more⟩
    case parts =>
      rintro first second _ _ nonempty more rfl rfl
      exact combined_append joiner nonempty more
    case order =>
      rintro first second _ _ reordered rfl rfl
      exact combinator.holds_perm reordered
    case more =>
      rintro first second _ _ kept rfl rfl
      exact holds_mono kept
  · rintro name rfl outcomes
    exact ⟨rfl, rfl⟩

/-- One condition fails on the first output, and two hold. -/
theorem combining_is_associative_tls :
    let off : TestOutcome := ⟨false, true, "--tls=0", "'--tls' is equal to '1'"⟩
    let on : TestOutcome := ⟨true, true, "--tls=1", "'--tls' is equal to '1'"⟩
    let absent : TestOutcome := ⟨true, false, "", "'--insecure' is not present"⟩
    let both : TestOutcome :=
      ⟨true, true, "--tls=1", "'--tls' is equal to '1' OR '--insecure' is not present"⟩
    any.combine [off] = .ok off ∧ any.combine [on, absent] = .ok both ∧
    any.combine ([off] ++ [on, absent]) = any.combine [off, both] ∧
    any.combine [off, on, absent] = .ok ⟨true, true, "--tls=0",
      "'--tls' is equal to '1' OR '--tls' is equal to '1' OR '--insecure' is not present"⟩ ∧
    [off, on].Perm [on, off] ∧
    (∀ one other, any.combine [off, on] = .ok one → any.combine [on, off] = .ok other →
      one.matched = other.matched) ∧
    (∀ one other, any.combine [off, absent] = .ok one → any.combine [on, absent] = .ok other →
      one.matched = true → other.matched = true) ∧
    (unrecognized "xor").combine [] = .error (.unknownCombinator "xor") := by
  intro off on absent both
  obtain ⟨-, parts, order, more⟩ := (combining_is_associative any).1 (.inr rfl)
  obtain ⟨fails, -⟩ := (combining_is_associative (unrecognized "xor")).2 "xor" rfl []
  have one : any.combine [off] = .ok off := by decide
  have other : any.combine [on, absent] = .ok both := by decide
  have reordered : [off, on].Perm [on, off] := by decide
  have kept : List.Forall₂ (fun before after => before.matched = true → after.matched = true)
      [off, absent] [on, absent] := .cons nofun (.cons id .nil)
  exact ⟨one, other, parts _ _ _ _ (by simp) (by simp) one other, by decide, reordered,
    fun _ _ => order _ _ _ _ reordered, fun _ _ => more _ _ _ _ kept, fails⟩

end Combinator

end HostAudit
