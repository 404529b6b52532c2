import HostAudit.Lookup
import HostAudit.Proofs.Occurrence

/-
This file tells which value is read of a flag that is written with an equals sign and a value. The
separators at the start of the value get lost, so exactly the values without them are read as they
were written, but for a value that is the flag itself.
-/

namespace HostAudit.Lookup

/-- The characters that may stand between a flag and its value. -/
def isSeparator (c : Char) : Bool := c == '=' || c == ':'

section Separators

variable {separators text : List Char}

/-- No separator is left at the start. -/
theorem head?_dropSeparators (afterColon : Bool) (text : List Char) :
    ∀ c ∈ (dropSeparators afterColon text).head?, isSeparator c = false := by
  induction text generalizing afterColon with
  | nil => simp [dropSeparators]
  | cons c rest ih =>
      rw [dropSeparators.eq_def]
      split
      · rename_i same
        obtain ⟨-, rfl⟩ := List.cons.inj same
        exact ih false
      · rename_i same
        obtain ⟨-, rfl⟩ := List.cons.inj same
        exact ih true
      · rename_i same
        obtain ⟨rfl, rfl⟩ := List.cons.inj same
        cases afterColon with
        | true => exact ih true
        | false => simp [isSeparator]
      · rename_i noEquals noColon _
        have kept : isSeparator c = false := by
          have notEquals : c ≠ '=' := fun same => noEquals rest (by rw [same])
          have notColon : c ≠ ':' := fun same => noColon rest (by rw [same])
          simp [isSeparator, notEquals, notColon]
        simpa using kept

/-- Of separators that are dropped, only the last one tells whether spaces go as well. -/
theorem dropSeparators_append (all : ∀ c ∈ separators, isSeparator c = true) (afterColon : Bool)
    (rest : List Char) :
    dropSeparators afterColon (separators ++ rest) =
      dropSeparators (separators.foldl (fun _ c => c == ':') afterColon) rest := by
  induction separators generalizing afterColon with
  | nil => rfl
  | cons c separators ih =>
      obtain ⟨first, others⟩ := List.forall_mem_cons.mp all
      have either : c = '=' ∨ c = ':' := by simpa [isSeparator] using first
      rcases either with rfl | rfl
      · exact ih others false
      · exact ih others true

/-- A text that begins with neither a separator nor a blank is left as it is. -/
theorem dropSeparators_of_solid (afterColon : Bool)
    (solid : ∀ c ∈ text.head?, isSeparator c = false ∧ Text.isBlank c = false) :
    dropSeparators afterColon text = text := by
  cases text with
  | nil => rfl
  | cons c rest =>
      obtain ⟨separated, blank⟩ := solid c rfl
      rw [dropSeparators.eq_def]
      split
      · rename_i same
        obtain ⟨rfl, -⟩ := List.cons.inj same
        simp [isSeparator] at separated
      · rename_i same
        obtain ⟨rfl, -⟩ := List.cons.inj same
        simp [isSeparator] at separated
      · rename_i same
        obtain ⟨rfl, -⟩ := List.cons.inj same
        exact absurd blank (by decide)
      · rfl

end Separators

section Values

variable {flag value rest : List Char}

/-- What is read of a written value and of the text behind it. -/
def remainder (value rest : List Char) : List Char :=
  (dropSeparators false (value ++ rest)).takeWhile (!Text.isBlank ·)

/-- A value without blanks is taken as a whole. -/
theorem takeWhile_whole (whole : ∀ c ∈ value, Text.isBlank c = false)
    (ended : ∀ c ∈ rest.head?, Text.isBlank c = true) :
    (value ++ rest).takeWhile (!Text.isBlank ·) = value := by
  have stops : rest.takeWhile (!Text.isBlank ·) = [] := by
    cases rest with
    | nil => rfl
    | cons c rest => simp [ended c rfl]
  rw [List.takeWhile_append_of_pos (by simpa using whole), stops, List.append_nil]

/-- The separators at the start of a value get lost. -/
theorem remainder_separated {separators : List Char} (all : ∀ c ∈ separators, isSeparator c = true)
    (written : value ≠ []) (start : ∀ c ∈ value.head?, isSeparator c = false)
    (whole : ∀ c ∈ value, Text.isBlank c = false)
    (ended : ∀ c ∈ rest.head?, Text.isBlank c = true) :
    remainder (separators ++ value) rest = value := by
  have solid : ∀ c ∈ (value ++ rest).head?, isSeparator c = false ∧ Text.isBlank c = false := by
    intro c first
    rw [List.head?_append_of_ne_nil _ written] at first
    exact ⟨start c first, whole c (List.mem_of_mem_head? first)⟩
  rw [remainder, List.append_assoc, dropSeparators_append all, dropSeparators_of_solid _ solid,
    takeWhile_whole whole ended]

/-- A value that does not begin with a separator is what remains of it. -/
theorem remainder_of_start (written : value ≠ []) (start : ∀ c ∈ value.head?, isSeparator c = false)
    (whole : ∀ c ∈ value, Text.isBlank c = false)
    (ended : ∀ c ∈ rest.head?, Text.isBlank c = true) : remainder value rest = value :=
  remainder_separated (List.forall_mem_nil _) written start whole ended

/-- What remains of a value does not begin with a separator. -/
theorem head?_remainder (value rest : List Char) :
    ∀ c ∈ (remainder value rest).head?, isSeparator c = false := by
  intro c first
  apply head?_dropSeparators false (value ++ rest)
  rw [remainder, List.head?_takeWhile] at first
  exact (Option.mem_filter_iff.mp first).1

/-- What is read behind an equals sign is what remains of the value, or else what a bare flag
gives. -/
theorem flagValue_written (flag value rest : List Char) :
    flagValue flag ('=' :: (value ++ rest)) =
      if remainder value rest ≠ [] then remainder value rest
      else if (Text.after? ['-', '-'] flag).isSome then ['t', 'r', 'u', 'e'] else flag := by
  have same : dropSeparators false ('=' :: (value ++ rest)) =
      dropSeparators false (value ++ rest) := rfl
  rw [flagValue, same]
  change (if !(remainder value rest).isEmpty then remainder value rest else _) = _
  cases remainder value rest <;> rfl

/-- A written value is read as it is exactly if it does not begin with a separator, or if it is the
flag itself and is read as nothing. -/
theorem flagValue_eq_iff (written : value ≠ []) (whole : ∀ c ∈ value, Text.isBlank c = false)
    (ended : ∀ c ∈ rest.head?, Text.isBlank c = true) :
    flagValue flag ('=' :: (value ++ rest)) = value ↔
      (∀ c ∈ value.head?, isSeparator c = false) ∨ value = flag ∧ remainder value rest = [] := by
  rw [flagValue_written]
  constructor
  · intro same
    by_cases empty : remainder value rest = []
    · rw [if_neg (not_not.mpr empty)] at same
      split at same
      · subst same
        exact .inl (by simp [isSeparator])
      · exact .inr ⟨same.symm, empty⟩
    · rw [if_pos empty] at same
      rw [← same]
      exact .inl (head?_remainder value rest)
  · rintro (start | ⟨rfl, empty⟩)
    · rw [remainder_of_start written start whole ended, if_pos written]
    · rw [if_neg (not_not.mpr empty)]
      -- The value begins with a separator, or else something of it would be read.
      have start : ¬ ∀ c ∈ value.head?, isSeparator c = false := fun start =>
        written ((remainder_of_start written start whole ended).symm.trans empty)
      have bare : (Text.after? ['-', '-'] value).isSome = false := by
        cases given : Text.after? ['-', '-'] value with
        | none => rfl
        | some tail =>
            rw [Text.after?_eq_some_iff.mp given] at start
            exact absurd (by simp [isSeparator]) start
      simp [bare]

end Values

/-- A flag that is first written with a value is found. Its value is read as it was written exactly
if the flag is not too large to look for and the value does not begin with a separator; a value that
is the flag itself may begin with one if nothing is read of it. Else the separators at the start of
the value get lost. -/
theorem find_flag_written (front flag value rest : String) (named : flag ≠ "")
    (written : value ≠ "") (whole : ∀ c ∈ value.toList, Text.isBlank c = false)
    (ended : ∀ c ∈ rest.toList.head?, Text.isBlank c = true)
    (first : ∀ before after, front ++ flag ++ "=" ++ value ++ rest = before ++ flag ++ after →
      front.length ≤ before.length) :
    (Lookup.flag.find (front ++ flag ++ "=" ++ value ++ rest) flag = .ok (some value) ↔
      fits flagRoom flag = true ∧
        ((∀ c ∈ value.toList.head?, isSeparator c = false) ∨
          value = flag ∧ remainder value.toList rest.toList = [])) ∧
    ∀ separators left, value = separators ++ left →
      (∀ c ∈ separators.toList, isSeparator c = true) → left ≠ "" →
      (∀ c ∈ left.toList.head?, isSeparator c = false) →
        Lookup.flag.find (front ++ flag ++ "=" ++ value ++ rest) flag =
          if fits flagRoom flag then .ok (some left) else .error (.oversized flag) := by
  have nonempty {text : String} (some : text ≠ "") : text.toList ≠ [] := by simpa using some
  have cut : Text.breakOn flag.toList (front ++ flag ++ "=" ++ value ++ rest).toList =
      some (front.toList, ("=" ++ value ++ rest).toList) :=
    Text.breakOn_toList_iff.mpr ⟨by simp [String.append_assoc], first⟩
  have found : Lookup.flag.find (front ++ flag ++ "=" ++ value ++ rest) flag =
      if fits flagRoom flag then
        .ok (some (String.ofList (flagValue flag.toList ('=' :: (value.toList ++ rest.toList)))))
      else .error (.oversized flag) := by
    have value : flag? (front ++ flag ++ "=" ++ value ++ rest).toList flag.toList =
        some (flagValue flag.toList ('=' :: (value.toList ++ rest.toList))) := by
      rw [flag?, cut]
      simp [named]
    rw [find, value]
    rfl
  refine ⟨?exact, ?lost⟩
  case exact =>
    rw [← String.toList_inj, ← flagValue_eq_iff (nonempty written) whole ended, found]
    split
    · rename_i fitting
      simp [fitting, ← String.toList_inj]
    · rename_i large
      simp [large]
  case lost =>
    rintro separators left rfl all nonblank start
    have solid : ∀ c ∈ left.toList, Text.isBlank c = false :=
      fun c inside => whole c (by simp [inside])
    have kept := remainder_separated all (nonempty nonblank) start solid ended
    rw [found, flagValue_written, String.toList_append, kept, if_pos (nonempty nonblank),
      String.ofList_toList]

theorem find_flag_written_kubelet :
    Lookup.flag.find ("kubelet --v=2 " ++ "--port" ++ "=" ++ "10=50:a" ++ " --tls") "--port" =
        .ok (some "10=50:a") ∧
      Lookup.flag.find ("" ++ "--at" ++ "=" ++ "::1" ++ "\n") "--at" = .ok (some "1") := by
  have cut : Text.breakOn "--port".toList
      ("kubelet --v=2 " ++ "--port" ++ "=" ++ "10=50:a" ++ " --tls").toList =
        some ("kubelet --v=2 ".toList, "=10=50:a --tls".toList) := by decide
  obtain ⟨exact, -⟩ := find_flag_written "kubelet --v=2 " "--port" "10=50:a" " --tls"
    (by decide) (by decide) (by simp [Text.isBlank]) (by simp [Text.isBlank])
    (Text.breakOn_toList_iff.mp cut).2
  obtain ⟨-, lost⟩ := find_flag_written "" "--at" "::1" "\n"
    (by decide) (by decide) (by simp [Text.isBlank]) (by simp [Text.isBlank]) (by simp)
  exact ⟨exact.mpr ⟨by decide, .inl (by simp [isSeparator])⟩,
    lost "::" "1" rfl (by simp [isSeparator]) (by decide) (by simp [isSeparator])⟩

/-- The colon before a port gets lost, and a value that is a colon only gives way to the next
word. -/
theorem leading_colon_lost :
    (∀ before after, "apiserver " ++ "--listen" ++ "=" ++ ":6443" ++ " --v=2" =
      before ++ "--listen" ++ after → "apiserver ".length ≤ before.length) ∧
    Lookup.flag.find ("apiserver " ++ "--listen" ++ "=" ++ ":6443" ++ " --v=2") "--listen" =
      .ok (some "6443") ∧
    Lookup.flag.find ("apiserver " ++ "--listen" ++ "=" ++ ":" ++ " --v=2") "--listen" =
      .ok (some "--v=2") := by
  have cut : Text.breakOn "--listen".toList
      ("apiserver " ++ "--listen" ++ "=" ++ ":6443" ++ " --v=2").toList =
        some ("apiserver ".toList, "=:6443 --v=2".toList) := by decide
  exact ⟨(Text.breakOn_toList_iff.mp cut).2, rfl, rfl⟩

end HostAudit.Lookup
