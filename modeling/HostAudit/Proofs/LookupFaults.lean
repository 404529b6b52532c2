import HostAudit.Proofs.Evidence

/-
This file tells which locators cannot be looked for. A flag and a variable can be looked for in any
text, unless the pattern for them is too large. A path can be looked for exactly if it can be read.
So a test item fails on every output of a source or on none.
-/

namespace HostAudit

namespace Lookup

variable {lookup : Lookup} {text locator : String} {fault : Fault}

/-- What is found is given up exactly if the pattern for the locator is too large. -/
theorem ifFits_eq_error {rest : Nat} {found : Option (List Char)} :
    ifFits rest locator found = .error fault ↔
      fits rest locator = false ∧ fault = .oversized locator := by
  rw [ifFits]
  split
  · rename_i small
    simp [small]
  · rename_i large
    simp [large, eq_comm]

/-- A flag cannot be looked for where its name stands in the text and is too long for a pattern. -/
theorem find_flag_eq_error :
    flag.find text locator = .error fault ↔ (flag? text.toList locator.toList).isSome = true ∧
      fits flagRoom locator = false ∧ fault = .oversized locator := by
  rw [find]
  cases found : flag? text.toList locator.toList with
  | none => simp
  | some value => simp [ifFits_eq_error]

/-- A variable cannot be looked for if its name is too long for a pattern, whatever the text. -/
theorem find_environment_eq_error :
    environment.find text locator = .error fault ↔ text ≠ "" ∧ locator ≠ "" ∧
      fits environmentRoom locator = false ∧ fault = .oversized locator := by
  rw [find]
  split
  · rename_i blank
    simp only [Bool.or_eq_true, String.isEmpty_iff] at blank
    refine iff_of_false nofun fun ⟨filled, named, _⟩ => blank.elim filled named
  · rename_i given
    simp only [Bool.or_eq_true, String.isEmpty_iff, not_or] at given
    simp [given, ifFits_eq_error]

/-- It does not count what is looked through: a text that is no document is no fault. -/
theorem find_path_eq_error {format : Format} :
    (path format).find text locator = .error fault ↔
      ∃ malformed, Path.Template.read? locator = .error malformed ∧
        fault = .malformedPath malformed := by
  rw [find]
  cases read : Path.Template.read? locator with
  | error malformed =>
      change Except.error (Fault.malformedPath malformed) = .error fault ↔ _
      simp [eq_comm]
  | ok template =>
      change Except.ok _ = Except.error fault ↔ _
      simp

/-- A pattern can be made of a locator that is looked for by a pattern. -/
def Compiles (lookup : Lookup) (locator : String) : Prop :=
  match lookup with
  | flag => fits flagRoom locator = true
  | environment => fits environmentRoom locator = true
  | path _ => True

/-- A locator is a path that cannot be read, which is a fault of its own. -/
def Malformed (lookup : Lookup) (locator : String) (fault : Fault) : Prop :=
  ∃ format malformed, lookup = path format ∧ Path.Template.read? locator = .error malformed ∧
    fault = .malformedPath malformed

/-- With a pattern, the only fault of a locator is a path that cannot be read. -/
theorem find_eq_error (compiles : lookup.Compiles locator) :
    lookup.find text locator = .error fault ↔ lookup.Malformed locator fault := by
  cases lookup with
  | flag =>
      simp only [Compiles] at compiles
      simp [find_flag_eq_error, compiles, Malformed]
  | environment =>
      simp only [Compiles] at compiles
      simp [find_environment_eq_error, compiles, Malformed]
  | path format => simp [find_path_eq_error, Malformed]

end Lookup

/-- A name of so many letters. -/
def nameOf (letters : Nat) : String := String.ofList (List.replicate letters 'V')

/-- A name that has letters is not empty. -/
theorem nameOf_ne_empty {letters : Nat} (some : letters ≠ 0) : nameOf letters ≠ "" := by
  intro empty
  have length : (nameOf letters).length = letters := by
    rw [nameOf, String.length_ofList, List.length_replicate]
  rw [empty] at length
  exact some length.symm

/-- A name fits a pattern if there is room for its letters. -/
theorem fits_nameOf (rest letters : Nat) :
    Lookup.fits rest (nameOf letters) = decide (letters + rest ≤ Pattern.weightLimit) := by
  have size : Integer.total (List.replicate letters 1) = letters := by
    induction letters with
    | zero => rfl
    | succ letters ih => rw [List.replicate_succ, Integer.total_cons, ih, Nat.add_comm]
  rw [Lookup.fits, nameOf, String.toList_ofList, List.map_replicate,
    show Char.utf8Size 'V' = 1 from rfl, size]

namespace TestItem

variable {item : TestItem} {source : Source} {fault : Lookup.Fault}

/-- A pattern can be made of the locator of an item for a source, if it is looked for by one. -/
def Compiles (item : TestItem) (source : Source) : Prop :=
  (item.lookup source).Compiles (item.locator source)

/-- Testing a text fails exactly if the locator cannot be looked for in it. -/
theorem evaluateLine_eq_error {text : String} :
    item.evaluateLine source text = .error fault ↔
      (item.lookup source).find text (item.locator source) = .error fault := by
  rw [evaluateLine, bind_eq_error]
  simp

/-- The first text decides whether testing an item on texts fails: any other text would fail as
well. -/
theorem evaluateLines_eq_error {initial : TestOutcome} {texts : List String}
    (compiles : item.Compiles source) (nonempty : texts ≠ []) :
    item.evaluateLines source initial texts = .error fault ↔
      (item.lookup source).Malformed (item.locator source) fault := by
  induction texts generalizing initial with
  | nil => exact absurd rfl nonempty
  | cons text rest ih =>
      rw [evaluateLines, bind_eq_error, evaluateLine_eq_error, Lookup.find_eq_error compiles]
      refine or_iff_left_of_imp ?_
      rintro ⟨outcome, -, failed⟩
      split at failed
      · cases rest with
        | nil => exact absurd failed pure_ne_error
        | cons next others => exact (ih (by simp)).mp failed
      · exact absurd failed pure_ne_error

/-- Testing an output fails exactly if the locator is a path that cannot be read. -/
theorem evaluate_eq_error {multiple : Bool} {output : String} (compiles : item.Compiles source) :
    item.evaluate source multiple output = .error fault ↔
      (item.lookup source).Malformed (item.locator source) fault := by
  rw [evaluate, bind_eq_error]
  simp only [pure_ne_error, and_false, exists_false, or_false]
  exact evaluateLines_eq_error compiles (texts_ne_nil multiple output)

/-- Paths are looked for in configurations only. -/
theorem malformed_iff :
    (item.lookup source).Malformed (item.locator source) fault ↔
      source = .config ∧ item.path ≠ "" ∧ ∃ malformed,
        Path.Template.read? item.path = .error malformed ∧ fault = .malformedPath malformed := by
  cases source with
  | primary => simp [lookup, Lookup.Malformed]
  | environment => simp [lookup, Lookup.Malformed]
  | config =>
      by_cases pathless : item.path = ""
      · simp [lookup, pathless, Lookup.Malformed]
      · simp [lookup, locator, pathless, Lookup.Malformed]

/-- If patterns can be made of locators then looking for a locator fails exactly if it is a path
that cannot be read, whatever the text is. Hence a test item fails exactly on configurations, and
only for such a path: the output does not count, nor whether it is tested line by line. -/
theorem malformed_path_alone_fails :
    (∀ (lookup : Lookup) (locator : String), lookup.Compiles locator → ∀ text fault,
      lookup.find text locator = .error fault ↔
        ∃ format malformed, lookup = .path format ∧
          Path.Template.read? locator = .error malformed ∧ fault = .malformedPath malformed) ∧
    ∀ (item : TestItem) (source : Source), item.Compiles source → ∀ multiple output fault,
      item.evaluate source multiple output = .error fault ↔
        source = .config ∧ item.path ≠ "" ∧ ∃ malformed,
          Path.Template.read? item.path = .error malformed ∧ fault = .malformedPath malformed := by
  refine ⟨?lookups, ?items⟩
  case lookups =>
    intro lookup locator compiles text fault
    exact Lookup.find_eq_error compiles
  case items =>
    intro item source compiles multiple output fault
    rw [evaluate_eq_error compiles, malformed_iff]

/-- An item whose path cannot be read. -/
def misspelt : TestItem := ⟨"--tls", "{.tls[first]}", "TLS", true, none⟩

/-- The path of this item cannot be read, so it fails on the configuration and nowhere else. -/
theorem malformed_path_alone_fails_misspelt :
    (∀ multiple output, misspelt.evaluate .config multiple output =
      .error (.malformedPath ⟨"{.tls[first]}", .invalidIndex "first"⟩)) ∧
    ∀ source ≠ .config, ∀ multiple output fault,
      misspelt.evaluate source multiple output ≠ .error fault := by
  have read : Path.Template.read? misspelt.path =
      .error ⟨"{.tls[first]}", .invalidIndex "first"⟩ := rfl
  obtain ⟨-, fails⟩ := malformed_path_alone_fails
  refine ⟨fun multiple output => ?_, fun source elsewhere multiple output fault failed => ?_⟩
  · exact (fails misspelt .config trivial multiple output _).mpr
      ⟨rfl, by decide, _, read, rfl⟩
  · have compiles : misspelt.Compiles source := by
      cases source with
      | primary => exact (by decide : Lookup.fits Lookup.flagRoom "--tls" = true)
      | config => exact absurd rfl elsewhere
      | environment => exact (by decide : Lookup.fits Lookup.environmentRoom "TLS" = true)
    exact elsewhere ((fails misspelt source compiles multiple output fault).mp failed).1

end TestItem

end HostAudit
