/-
This file opens computations that give an answer or an error, one step after another and member by
member along a list.
-/

namespace HostAudit

variable {E A B : Type}

@[simp] theorem pure_eq_ok {value answer : A} :
    (pure value : Except E A) = .ok answer ↔ value = answer := by
  simp [pure, Except.pure]

@[simp] theorem pure_ne_error {value : A} {error : E} :
    (pure value : Except E A) ≠ .error error := by
  simp [pure, Except.pure]

/-- A computation succeeds exactly if both of its parts do. -/
@[simp] theorem bind_eq_ok {first : Except E A} {next : A → Except E B} {answer : B} :
    (first >>= next) = .ok answer ↔ ∃ value, first = .ok value ∧ next value = .ok answer := by
  cases first with
  | error error => simp [bind, Except.bind]
  | ok value => simp [bind, Except.bind]

/-- A computation fails with its first part, or with the second after the first has succeeded. -/
@[simp] theorem bind_eq_error {first : Except E A} {next : A → Except E B} {error : E} :
    (first >>= next) = .error error ↔
      first = .error error ∨ ∃ value, first = .ok value ∧ next value = .error error := by
  cases first with
  | error other => simp [bind, Except.bind]
  | ok value => simp [bind, Except.bind]

@[simp] theorem map_eq_ok {answer : Except E A} {adapt : A → B} {value : B} :
    answer.map adapt = .ok value ↔ ∃ given, answer = .ok given ∧ adapt given = value := by
  cases answer with
  | error error => simp [Except.map]
  | ok given => simp [Except.map]

@[simp] theorem mapError_eq_ok {F : Type} {answer : Except E A} {adapt : E → F} {value : A} :
    answer.mapError adapt = .ok value ↔ answer = .ok value := by
  cases answer with
  | error cause => exact ⟨nofun, nofun⟩
  | ok given => exact ⟨fun same => congrArg _ (Except.ok.inj same),
      fun same => congrArg _ (Except.ok.inj same)⟩

@[simp] theorem mapError_eq_error {F : Type} {answer : Except E A} {adapt : E → F} {error : F} :
    answer.mapError adapt = .error error ↔
      ∃ cause, answer = .error cause ∧ adapt cause = error := by
  cases answer with
  | error cause =>
      have adapted : (Except.error cause : Except E A).mapError adapt = .error (adapt cause) := rfl
      simp [adapted]
  | ok given => exact ⟨nofun, nofun⟩

/-- A list has an answer when each of its members has one. -/
theorem mapM_eq_ok {step : A → Except E B} {items : List A} {answers : List B} :
    items.mapM step = .ok answers ↔
      ∃ pairs : List (A × B), pairs.map Prod.fst = items ∧ pairs.map Prod.snd = answers ∧
        ∀ pair ∈ pairs, step pair.1 = .ok pair.2 := by
  induction items generalizing answers with
  | nil => simp
  | cons item items ih =>
      simp only [List.mapM_cons, bind_eq_ok, pure_eq_ok, ih]
      constructor
      · rintro ⟨answer, first, _, ⟨pairs, rfl, rfl, given⟩, rfl⟩
        exact ⟨(item, answer) :: pairs, rfl, rfl, List.forall_mem_cons.mpr ⟨first, given⟩⟩
      · rintro ⟨pairs, keys, rfl, given⟩
        obtain ⟨pair, pairs, rfl, rfl, rfl⟩ := List.map_eq_cons_iff.mp keys
        obtain ⟨first, given⟩ := List.forall_mem_cons.mp given
        exact ⟨pair.2, first, _, ⟨pairs, rfl, rfl, given⟩, rfl⟩

/-- The error of a list is that of its first member without an answer. -/
theorem mapM_eq_error {step : A → Except E B} {items : List A} {error : E} :
    items.mapM step = .error error ↔
      ∃ pairs : List (A × B), ∃ item after, items = pairs.map Prod.fst ++ item :: after ∧
        (∀ pair ∈ pairs, step pair.1 = .ok pair.2) ∧ step item = .error error := by
  induction items with
  | nil => simp
  | cons item items ih =>
      simp only [List.mapM_cons, bind_eq_error, ih, pure_ne_error, and_false, exists_false,
        or_false]
      constructor
      · rintro (failed | ⟨answer, first, pairs, failing, after, rfl, given, failed⟩)
        · exact ⟨[], item, items, rfl, by simp, failed⟩
        · exact ⟨(item, answer) :: pairs, failing, after, rfl,
            List.forall_mem_cons.mpr ⟨first, given⟩, failed⟩
      · rintro ⟨pairs, failing, after, split, given, failed⟩
        cases pairs with
        | nil =>
            obtain ⟨rfl, rfl⟩ := List.cons.inj split
            exact .inl failed
        | cons pair pairs =>
            obtain ⟨rfl, rfl⟩ := List.cons.inj split
            obtain ⟨first, given⟩ := List.forall_mem_cons.mp given
            exact .inr ⟨pair.2, first, pairs, failing, after, rfl, given, failed⟩

/-- What is made of every answer can be made of all answers at the end. -/
theorem mapM_map {C : Type} (step : A → Except E B) (finish : B → C) (items : List A) :
    items.mapM (fun item => (step item).map finish) = (items.mapM step).map (List.map finish) := by
  induction items with
  | nil => rfl
  | cons item items ih =>
      simp only [List.mapM_cons, ih]
      cases step item with
      | error error => rfl
      | ok answer => cases items.mapM step <;> rfl

end HostAudit
