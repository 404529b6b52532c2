import HostAudit.Text.Pieces
import Mathlib.Data.List.Infix

/-
This file tells where a part occurs in a text for the first time, also in a text that is put
together of pieces.
-/

namespace HostAudit.Text

variable {part text before after : List Char}

/-- Nothing stands before every text. -/
theorem after?_nil (text : List Char) : after? [] text = some text := by
  cases text <;> rfl

/-- Reading a part that lacks a character stops at this character at the latest. -/
theorem after?_append_cons {c : Char} (absent : c ∉ part) (line rest : List Char) :
    after? part (line ++ c :: rest) = (after? part line).map (· ++ c :: rest) := by
  induction part generalizing line with
  | nil => simp [after?_nil]
  | cons p part ih =>
      obtain ⟨different, absent⟩ := List.ne_and_not_mem_of_not_mem_cons absent
      cases line with
      | nil => simp [after?, Ne.symm different]
      | cons x line =>
          rw [List.cons_append, after?, after?, ih absent]
          split <;> rfl

/-- A part does not occur across a character that it lacks. -/
theorem breakOn_append_cons {c : Char} (absent : c ∉ part) (line rest : List Char) :
    breakOn part (line ++ c :: rest) =
      match breakOn part line with
      | some (before, after) => some (before, after ++ c :: rest)
      | none => (breakOn part rest).map fun (before, after) => (line ++ c :: before, after) := by
  induction line with
  | nil =>
      cases part with
      | nil => rfl
      | cons p part =>
          have different : p ≠ c := fun same => absent (by simp [same])
          simp [breakOn, after?, different]
  | cons x line ih =>
      rw [List.cons_append, breakOn, breakOn, ← List.cons_append, after?_append_cons absent, ih]
      cases after? part (x :: line) with
      | some after => rfl
      | none =>
          rw [Option.map_none]
          cases breakOn part line with
          | some divided => rfl
          | none => cases breakOn part rest <;> rfl

/-- A key and the separator behind it are read from another key only if the keys are the same. -/
theorem after?_keyed {c : Char} {key other : List Char} (absent : c ∉ key) (plain : c ∉ other)
    (value : List Char) :
    after? (key ++ [c]) (other ++ c :: value) = if key = other then some value else none := by
  induction key generalizing other with
  | nil =>
      cases other with
      | nil => simp [after?]
      | cons x other => simp [after?, (List.ne_and_not_mem_of_not_mem_cons plain).1]
  | cons x key ih =>
      obtain ⟨different, absent⟩ := List.ne_and_not_mem_of_not_mem_cons absent
      cases other with
      | nil => simp [after?, Ne.symm different]
      | cons y other =>
          obtain ⟨-, plain⟩ := List.ne_and_not_mem_of_not_mem_cons plain
          rw [List.cons_append, List.cons_append, after?, ih absent plain]
          by_cases same : x = y <;> simp [same]

/-- A key and the separator behind it occur first at the end of another key, or else in its
value. -/
theorem breakOn_keyed {c : Char} {key other : List Char} (absent : c ∉ key) (plain : c ∉ other)
    (value : List Char) :
    (breakOn (key ++ [c]) (other ++ c :: value)).map Prod.snd =
      if key <:+ other then some value else (breakOn (key ++ [c]) value).map Prod.snd := by
  induction other with
  | nil =>
      have keyed := after?_keyed absent plain value
      rw [List.nil_append] at keyed ⊢
      rw [breakOn, keyed]
      by_cases empty : key = []
      · simp [empty]
      · simp [empty, Function.comp_def]
  | cons x other ih =>
      have keyed := after?_keyed absent plain value
      rw [List.cons_append] at keyed ⊢
      rw [breakOn, keyed]
      by_cases same : key = x :: other
      · simp [same]
      · have later := ih (List.ne_and_not_mem_of_not_mem_cons plain).2
        simpa [same, List.suffix_cons_iff, Function.comp_def] using later

/-- A part that occurs is found. -/
theorem breakOn_isSome_of_append (before part after : List Char) :
    (breakOn part (before ++ part ++ after)).isSome = true := by
  induction before with
  | nil =>
      cases given : part ++ after with
      | nil =>
          obtain ⟨rfl, rfl⟩ := List.append_eq_nil_iff.mp given
          rfl
      | cons c rest =>
          rw [List.nil_append, given, breakOn, after?_eq_some_iff.mpr given.symm]
          rfl
  | cons c before ih =>
      rw [List.cons_append, List.cons_append, breakOn]
      split
      · rfl
      · rwa [Option.isSome_map]

/-- What is not found does not occur. -/
theorem breakOn_eq_none_iff : breakOn part text = none ↔ ¬ part <:+: text := by
  constructor
  · rintro missing ⟨before, after, rfl⟩
    have found := breakOn_isSome_of_append before part after
    rw [missing] at found
    cases found
  · intro absent
    rw [Option.eq_none_iff_forall_ne_some]
    rintro ⟨before, after⟩ found
    exact absent ⟨before, after, (breakOn_eq_some found).symm⟩

/-- No occurrence of a part begins before the one at which a text is cut. -/
theorem breakOn_first (found : breakOn part text = some (before, after)) (front back : List Char)
    (occurs : text = front ++ part ++ back) : before.length ≤ front.length := by
  induction text generalizing before after front with
  | nil =>
      obtain ⟨rfl, -⟩ : before = [] ∧ _ := by
        simpa using (breakOn_eq_some found).symm
      simp
  | cons c rest ih =>
      rw [breakOn] at found
      split at found
      · obtain ⟨rfl, -⟩ := Prod.mk.inj (Option.some.inj found)
        simp
      · rename_i later
        obtain ⟨⟨first, second⟩, inner, same⟩ := Option.map_eq_some_iff.mp found
        obtain ⟨rfl, rfl⟩ := Prod.mk.inj same
        cases front with
        | nil =>
            rw [occurs] at later
            rw [List.nil_append, after?_eq_some_iff.mpr rfl] at later
            cases later
        | cons d front =>
            obtain ⟨-, occurs⟩ := List.cons.inj occurs
            exact Nat.succ_le_succ (ih inner front occurs)

/-- A text is cut at the first occurrence of a part. -/
theorem breakOn_eq_some_iff :
    breakOn part text = some (before, after) ↔ text = before ++ part ++ after ∧
      ∀ front back, text = front ++ part ++ back → before.length ≤ front.length := by
  constructor
  · exact fun found => ⟨breakOn_eq_some found, breakOn_first found⟩
  · rintro ⟨rfl, first⟩
    obtain ⟨⟨front, back⟩, found⟩ := Option.isSome_iff_exists.mp
      (breakOn_isSome_of_append before part after)
    have cut := breakOn_eq_some found
    have length : before.length = front.length :=
      Nat.le_antisymm (first front back cut) (breakOn_first found before after rfl)
    rw [List.append_assoc, List.append_assoc] at cut
    obtain ⟨rfl, tail⟩ := List.append_inj cut length
    rw [found, List.append_cancel_left tail]

/-- A part that does not end in one of the characters at the end of a text does not reach them. -/
theorem breakOn_append_of_last {tail : List Char} (nonempty : part ≠ [])
    (solid : ∀ c ∈ part.getLast?, c ∉ tail) :
    breakOn part (text ++ tail) =
      (breakOn part text).map fun (before, after) => (before, after ++ tail) := by
  cases found : breakOn part text with
  | some cut =>
      obtain ⟨before, after⟩ := cut
      obtain ⟨split, first⟩ := breakOn_eq_some_iff.mp found
      refine breakOn_eq_some_iff.mpr ⟨by simp [split], fun front back occurs => ?_⟩
      rcases List.append_eq_append_iff.mp occurs with
        ⟨more, reaches, -⟩ | ⟨more, inside, -⟩
      · have length := congrArg List.length (reaches.trans (congrArg (· ++ more) split))
        simp only [List.length_append] at length
        omega
      · exact first front more inside
  | none =>
      have absent := breakOn_eq_none_iff.mp found
      refine breakOn_eq_none_iff.mpr ?_
      rintro ⟨front, back, occurs⟩
      rcases List.append_eq_append_iff.mp occurs.symm with
        ⟨more, reaches, ends⟩ | ⟨more, inside, -⟩
      · cases given : more.getLast? with
        | none =>
            rw [List.getLast?_eq_none_iff.mp given, List.append_nil] at reaches
            exact absent ⟨front, [], by simp [reaches]⟩
        | some c =>
            have last : c ∈ part.getLast? := by
              have same := congrArg List.getLast? reaches
              rwa [List.getLast?_append_of_ne_nil _ nonempty, List.getLast?_append, given,
                Option.some_or] at same
            exact solid c last (ends ▸ List.mem_append_left _ (List.mem_of_getLast? given))
      · exact absent ⟨front, more, inside.symm⟩

/-- This is `breakOn_eq_some_iff` on strings. -/
theorem breakOn_toList_iff {part text before after : String} :
    breakOn part.toList text.toList = some (before.toList, after.toList) ↔
      text = before ++ part ++ after ∧
        ∀ front back, text = front ++ part ++ back → before.length ≤ front.length := by
  simp only [breakOn_eq_some_iff, ← String.toList_inj, String.toList_append, ← String.length_toList]
  apply and_congr_right
  intro _
  constructor
  · exact fun first front back occurs => first front.toList back.toList occurs
  · intro first front back occurs
    simpa using first (String.ofList front) (String.ofList back) (by simpa using occurs)

end HostAudit.Text
