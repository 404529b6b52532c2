import HostAudit.Proofs.FlagValues

/-
This file describes how a text is matched against the pattern that a flag is looked for with, which
is `(flag)(=|: *)*([^\s]*) *`. A match begins as early as it can. Of the ways to match from there,
the preferred one counts: the first choice before the second one, and to go on before to stop. What
the groups of the pattern take is what looking for a flag takes.
-/

namespace HostAudit.Lookup

/-- No separator is dropped before another character. -/
theorem dropSeparators_of_other {c : Char} {afterColon : Bool} (noEquals : c ≠ '=')
    (noColon : c ≠ ':') (noSpace : afterColon = true → c ≠ ' ') (text : List Char) :
    dropSeparators afterColon (c :: text) = c :: text := by
  rw [dropSeparators.eq_def]
  split <;> simp_all

/-- Behind a colon, spaces are dropped. -/
theorem dropSeparators_true (text : List Char) :
    dropSeparators true text = dropSeparators false (text.dropWhile (· == ' ')) := by
  induction text with
  | nil => rfl
  | cons c text ih =>
      by_cases space : c = ' '
      · subst space
        exact ih
      · have kept : (c :: text).dropWhile (· == ' ') = c :: text := by simp [space]
        rw [kept, dropSeparators.eq_def, dropSeparators.eq_def]
        split <;> simp_all

/-- A pattern, in which the first of two choices is preferred, and to repeat is preferred to an end
of the repetition. -/
inductive Expression where
  | empty
  | one (accepts : Char → Bool)
  | seq (first second : Expression)
  | alt (preferred other : Expression)
  | many (body : Expression)

namespace Expression

/-- What a pattern takes off a text, and what it leaves of it. -/
abbrev Way := List Char × List Char

/-- The ways to take a step at most so many times. Each time, the step has to take something. -/
def repeated (step : List Char → List Way) : Nat → List Char → List Way
  | 0, text => [([], text)]
  | count + 1, text =>
      (((step text).filter (!·.1.isEmpty)).flatMap fun (taken, rest) =>
        (repeated step count rest).map fun (more, left) => (taken ++ more, left)) ++ [([], text)]

/-- The ways in which a pattern matches at the start of a text, the preferred ones first. -/
def ways : Expression → List Char → List Way
  | empty, text => [([], text)]
  | one _, [] => []
  | one accepts, c :: rest => if accepts c then [([c], rest)] else []
  | seq first second, text =>
      (first.ways text).flatMap fun (taken, rest) =>
        (second.ways rest).map fun (more, left) => (taken ++ more, left)
  | alt preferred other, text => preferred.ways text ++ other.ways text
  | many body, text => repeated body.ways text.length text

/-- The ways in which patterns match one after another, with what each of them takes. -/
def groups : List Expression → List Char → List (List (List Char) × List Char)
  | [], text => [([], text)]
  | part :: others, text =>
      (part.ways text).flatMap fun (taken, rest) =>
        (groups others rest).map fun (more, left) => (taken :: more, left)

/-- The text before the first match, what the patterns take there, and what is left. -/
def firstMatch (parts : List Expression) : List Char →
    Option (List Char × List (List Char) × List Char)
  | [] => (groups parts []).head?.map ([], ·)
  | c :: rest =>
      match (groups parts (c :: rest)).head? with
      | some found => some ([], found)
      | none => (firstMatch parts rest).map fun (before, found) => (c :: before, found)

/-- The pattern of a text that stands for itself, whatever characters it has. -/
def literal : List Char → Expression
  | [] => empty
  | c :: rest => seq (one (· == c)) (literal rest)

/-- The pattern `=|: *`. -/
def separator : Expression := alt (one (· == '=')) (seq (one (· == ':')) (many (one (· == ' '))))

/-- The groups of the pattern that a flag is looked for with, and the spaces at its end. -/
def ofFlag (flag : List Char) : List Expression :=
  [literal flag, many separator, many (one (!Text.isBlank ·)), many (one (· == ' '))]

section Preferred

variable {A B : Type} {text taken rest : List Char}

/-- What is preferred goes on in its own preferred way. -/
theorem head?_flatMap {first : List A} {next : A → List B} {a : A} {b : B}
    (preferred : first.head? = some a) (goes : (next a).head? = some b) :
    (first.flatMap next).head? = some b := by
  obtain ⟨others, rfl⟩ := List.head?_eq_some_iff.mp preferred
  rw [List.flatMap_cons, List.head?_append, goes, Option.some_or]

/-- A step that takes something is repeated. -/
theorem head?_repeated {step : List Char → List Way} {count : Nat} {more left : List Char}
    (preferred : (step text).head? = some (taken, rest)) (proper : taken ≠ [])
    (goes : (repeated step count rest).head? = some (more, left)) :
    (repeated step (count + 1) text).head? = some (taken ++ more, left) := by
  obtain ⟨others, steps⟩ := List.head?_eq_some_iff.mp preferred
  have kept : ((step text).filter (!·.1.isEmpty)).head? = some (taken, rest) := by
    simp [steps, proper]
  have further : ((repeated step count rest).map fun (more, left) => (taken ++ more, left)).head? =
      some (taken ++ more, left) := by
    simp [goes]
  rw [repeated, List.head?_append, head?_flatMap kept further, Option.some_or]

/-- A step that cannot be taken is not repeated. -/
theorem repeated_of_stuck {step : List Char → List Way} (stuck : step text = []) (count : Nat) :
    repeated step count text = [([], text)] := by
  cases count with
  | zero => rfl
  | succ count => simp [repeated, stuck]

/-- A word matches in one way where it stands, and in none elsewhere. -/
theorem ways_literal (word : List Char) :
    (literal word).ways text = ((Text.after? word text).map (word, ·)).toList := by
  induction word generalizing text with
  | nil => simp [literal, ways, Text.after?_nil]
  | cons c word ih =>
      cases text with
      | nil => rfl
      | cons d text =>
          by_cases same : c = d
          · cases found : Text.after? word text <;>
              simp [literal, ways, Text.after?, ih, same, found]
          · simp [literal, ways, Text.after?, same, Ne.symm same]

/-- Repeating one character takes all that are accepted, as far as they go. -/
theorem head?_repeated_one {accepts : Char → Bool} {count : Nat} (enough : text.length ≤ count) :
    (repeated (one accepts).ways count text).head? =
      some (text.takeWhile accepts, text.dropWhile accepts) := by
  induction text generalizing count with
  | nil => rw [repeated_of_stuck rfl]; rfl
  | cons c text ih =>
      obtain ⟨count, rfl⟩ := Nat.exists_eq_succ_of_ne_zero (Nat.ne_zero_of_lt enough)
      by_cases accepted : accepts c = true
      · have first : ((one accepts).ways (c :: text)).head? = some ([c], text) := by
          simp [ways, accepted]
        rw [head?_repeated first (by simp) (ih (Nat.le_of_succ_le_succ enough))]
        simp [accepted]
      · rw [repeated_of_stuck (by simp [ways, accepted])]
        simp [accepted]

/-- Repeating one of some characters takes as many as there are. -/
theorem head?_ways_many_one {accepts : Char → Bool} :
    ((many (one accepts)).ways text).head? =
      some (text.takeWhile accepts, text.dropWhile accepts) :=
  head?_repeated_one (Nat.le_refl _)

/-- A colon is preferred with all spaces behind it. -/
theorem head?_ways_colon (text : List Char) :
    (separator.ways (':' :: text)).head? =
      some (':' :: text.takeWhile (· == ' '), text.dropWhile (· == ' ')) := by
  have spaces : (repeated (one (· == ' ')).ways text.length text).head? =
      some (text.takeWhile (· == ' '), text.dropWhile (· == ' ')) :=
    head?_repeated_one (Nat.le_refl _)
  simp [separator, ways, spaces]

/-- Before another character there is no separator. -/
theorem ways_separator_of_other {c : Char} (noEquals : c ≠ '=') (noColon : c ≠ ':')
    (text : List Char) : separator.ways (c :: text) = [] := by
  simp [separator, ways, noEquals, noColon]

/-- Repeating separators leaves what is left if separators are dropped. -/
theorem head?_repeated_separator {count : Nat} (enough : text.length ≤ count) :
    ∃ taken, (repeated separator.ways count text).head? =
        some (taken, dropSeparators false text) ∧
      text = taken ++ dropSeparators false text := by
  induction count generalizing text with
  | zero =>
      obtain rfl := List.length_eq_zero_iff.mp (Nat.le_zero.mp enough)
      exact ⟨[], rfl, rfl⟩
  | succ count ih =>
      cases text with
      | nil => exact ⟨[], rfl, rfl⟩
      | cons c text =>
          have shorter := Nat.le_of_succ_le_succ enough
          by_cases equals : c = '='
          · subst equals
            obtain ⟨taken, goes, split⟩ := ih shorter
            have first : (separator.ways ('=' :: text)).head? = some (['='], text) := rfl
            exact ⟨'=' :: taken, head?_repeated first (by simp) goes, congrArg ('=' :: ·) split⟩
          by_cases colon : c = ':'
          · subst colon
            have less := (List.dropWhile_suffix (· == ' ')).length_le.trans shorter
            obtain ⟨taken, goes, split⟩ := ih less
            have left : dropSeparators false (':' :: text) =
                dropSeparators false (text.dropWhile (· == ' ')) := dropSeparators_true text
            rw [left]
            refine ⟨_, head?_repeated (head?_ways_colon text) (by simp) goes, ?_⟩
            rw [List.append_assoc, ← split, List.cons_append, List.takeWhile_append_dropWhile]
          · have kept : dropSeparators false (c :: text) = c :: text :=
              dropSeparators_of_other equals colon (by simp) text
            rw [kept]
            refine ⟨[], ?_, rfl⟩
            rw [repeated_of_stuck (ways_separator_of_other equals colon text)]
            rfl

/-- The preferred separators are those that are dropped, up to where dropping stops. -/
theorem head?_ways_separators (stops : dropSeparators false (taken ++ rest) = rest) :
    ((many separator).ways (taken ++ rest)).head? = some (taken, rest) := by
  obtain ⟨same, separated, split⟩ := head?_repeated_separator (Nat.le_refl (taken ++ rest).length)
  rw [stops] at separated split
  rw [ways, separated, List.append_cancel_right split]

/-- The preferred groups are that of the first part and those of the others behind it. -/
theorem head?_groups_cons {part : Expression} {others : List Expression}
    {more : List (List Char)} {left : List Char}
    (preferred : (part.ways text).head? = some (taken, rest))
    (goes : (groups others rest).head? = some (more, left)) :
    (groups (part :: others) text).head? = some (taken :: more, left) :=
  head?_flatMap preferred (by simp [goes])

end Preferred

section Flags

variable {flag text before taken rest : List Char}

/-- What the groups take where a flag begins. -/
theorem head?_groups (begins : Text.after? flag text = some (taken ++ rest))
    (stops : dropSeparators false (taken ++ rest) = rest) :
    (groups (ofFlag flag) text).head? =
      some ([flag, taken, rest.takeWhile (!Text.isBlank ·),
          (rest.dropWhile (!Text.isBlank ·)).takeWhile (· == ' ')],
        (rest.dropWhile (!Text.isBlank ·)).dropWhile (· == ' ')) := by
  have named : ((literal flag).ways text).head? = some (flag, taken ++ rest) := by
    simp [ways_literal, begins]
  apply head?_groups_cons named
  apply head?_groups_cons (head?_ways_separators stops)
  apply head?_groups_cons head?_ways_many_one
  exact head?_groups_cons head?_ways_many_one rfl

/-- Where the flag does not stand, its pattern does not match. -/
theorem groups_eq_nil (elsewhere : Text.after? flag text = none) :
    groups (ofFlag flag) text = [] := by
  rw [ofFlag, groups, ways_literal, elsewhere]
  rfl

/-- The first match begins at the first occurrence of the flag, and it takes the separators and the
value behind the flag. -/
theorem firstMatch_ofFlag (cut : Text.breakOn flag text = some (before, taken ++ rest))
    (stops : dropSeparators false (taken ++ rest) = rest) :
    firstMatch (ofFlag flag) text =
      some (before, [flag, taken, rest.takeWhile (!Text.isBlank ·),
          (rest.dropWhile (!Text.isBlank ·)).takeWhile (· == ' ')],
        (rest.dropWhile (!Text.isBlank ·)).dropWhile (· == ' ')) := by
  induction text generalizing before with
  | nil =>
      rw [Text.breakOn] at cut
      split at cut
      · rename_i empty
        obtain ⟨rfl, ends⟩ := Prod.mk.inj (Option.some.inj cut)
        have begins : Text.after? flag [] = some (taken ++ rest) := by
          rw [empty, ← ends, Text.after?_nil]
        rw [firstMatch, head?_groups begins stops, Option.map_some]
      · cases cut
  | cons c text ih =>
      rw [Text.breakOn] at cut
      split at cut
      · rename_i after begins
        obtain ⟨rfl, rfl⟩ := Prod.mk.inj (Option.some.inj cut)
        rw [firstMatch, head?_groups begins stops]
      · rename_i elsewhere
        obtain ⟨⟨front, behind⟩, inner, same⟩ := Option.map_eq_some_iff.mp cut
        obtain ⟨rfl, rfl⟩ := Prod.mk.inj same
        rw [firstMatch, groups_eq_nil elsewhere, ih inner]
        rfl

end Flags

end Expression

end HostAudit.Lookup
