import HostAudit.Proofs.Pieces
import HostAudit.Proofs.QuotedTexts
import HostAudit.Toml.Reader

/-
This file says how a document of sections is read. A stretch of it leads from what has been read
before to what has been read after, and stretches follow each other.
-/

namespace HostAudit.Toml

section Names

variable {chars rest : List Char} {name : String}

/-- There is no space to be passed over before another character. -/
theorem skipSpace_eq_self (begins : ∀ c ∈ chars.head?, isSpace c = false) :
    skipSpace chars = chars := by
  cases chars with
  | nil => rfl
  | cons c rest => exact List.dropWhile_cons_of_neg (by simp [begins c rfl])

/-- The character begins a name. -/
def beginsName (c : Char) : Bool := isBare c || c == '"' || c == '\''

/-- A name does not begin with a space. -/
theorem isSpace_of_beginsName {c : Char} (begins : beginsName c = true) : isSpace c = false := by
  have noSpace : c ≠ ' ' ∧ c ≠ '\t' := by
    constructor <;> rintro rfl <;> exact absurd begins (by decide)
  simp [isSpace, noSpace]

/-- The text spells a name, where no more of a name follows. -/
structure Names (chars : List Char) (name : String) : Prop where
  begins : ∃ c more, chars = c :: more ∧ beginsName c = true
  reads : ∀ rest, (∀ c ∈ rest.head?, isBare c = false) →
    takeName? (chars ++ rest) = some (name, rest)
  plain : '\r' ∉ chars

/-- A bare name stands for itself. -/
theorem names_of_bare (filled : name.toList ≠ []) (allBare : name.toList.all isBare = true) :
    Names name.toList name := by
  have bare := List.all_eq_true.mp allBare
  obtain ⟨first, more, same⟩ := List.exists_cons_of_ne_nil filled
  have firstBare : isBare first = true := bare first (same ▸ List.mem_cons_self)
  have begins : beginsName first = true := by simp [beginsName, firstBare]
  refine ⟨⟨first, more, same, begins⟩, fun rest stops => ?_, fun member => ?_⟩
  · obtain ⟨taken, dropped⟩ := Text.span_append isBare bare stops
    unfold takeName?
    split
    · rename_i begins
      rw [same, List.cons_append] at begins
      exact absurd ((List.cons.inj begins).1 ▸ firstBare) (by decide)
    · rename_i begins
      rw [same, List.cons_append] at begins
      exact absurd ((List.cons.inj begins).1 ▸ firstBare) (by decide)
    · simp only [taken, dropped]
      rw [if_neg (by simpa using filled), String.ofList_toList]
  · exact absurd (bare '\r' member) (by decide)

/-- A name in quotes stands for the name. -/
theorem names_quotedAs (name : String) :
    Names (quotedAs (.ofName name.toList) name.toList) name := by
  obtain ⟨more, begins⟩ := quotedAs_begins (.ofName name.toList) name.toList
  refine ⟨?_, fun rest _ => ?_, fun member => ?_⟩
  · rcases begins with begins | begins
    · exact ⟨_, more, begins, by decide⟩
    · exact ⟨_, more, begins, by decide⟩
  · have read := takeQuotedLine?_ofName name.toList rest
    rcases begins with begins | begins <;> rw [begins] at read ⊢ <;>
      rw [List.cons_append, takeName?, ← List.cons_append, read] <;>
      simp only [Option.map_some, String.ofList_toList]
  · have plain := plain_quotedAs (Quoting.suits_ofName name.toList).2 '\r' member
    exact absurd plain (by decide)

/-- A written name is read back, and the spaces behind it are passed over. -/
theorem takeKey?_of_names (named : Names chars name) (stops : ∀ c ∈ rest.head?, isBare c = false)
    (noDot : (skipSpace rest).head? ≠ some '.') :
    takeKey? (chars ++ rest) = some (⟨[], name⟩, skipSpace rest) := by
  have begins : ∀ c ∈ (chars ++ rest).head?, isSpace c = false := by
    obtain ⟨c, more, rfl, kind⟩ := named.begins
    rintro _ ⟨rfl⟩
    exact isSpace_of_beginsName kind
  have parts : takeParts? (nestingLimit - 1) (chars ++ rest) = some ([name], skipSpace rest) := by
    change takeParts? (78 + 1) (chars ++ rest) = _
    rw [takeParts?, skipSpace_eq_self begins, named.reads rest stops]
    simp only [Option.bind_eq_bind, Option.bind_some]
    split
    · rename_i dot
      exact absurd (by rw [dot]; rfl) noDot
    · rfl
  rw [takeKey?, parts]
  rfl

end Names

section Values

variable {chars rest : List Char} {text : String} {value : Value}

/-- A quoted text is read back as a value. -/
theorem takeValue?_quoted (text : String) (noDouble : ∀ c ∈ rest.head?, c ≠ '"')
    (noSingle : ∀ c ∈ rest.head?, c ≠ '\'') (fuel depth : Nat) :
    takeValue? (fuel + 1) depth (quoted text.toList ++ rest) = some (.text text, rest) := by
  have read := takeQuoted?_quotedAs (Quoting.suits_ofText text.toList) noDouble noSingle
  obtain ⟨more, begins⟩ := quotedAs_begins (.ofText text.toList) text.toList
  unfold quoted
  rcases begins with begins | begins <;> rw [begins] at read ⊢ <;>
    rw [List.cons_append, takeValue?, ← List.cons_append, read] <;>
    simp only [Option.map_some, String.ofList_toList]

/-- The text spells a value, up to the end of a line. -/
structure Spelled (chars : List Char) (value : Value) : Prop where
  begins : ∀ c ∈ chars.head?, isSpace c = false
  reads : ∀ {fuel} rest, chars.length < fuel →
    takeValue? fuel (nestingLimit - 1) (chars ++ '\n' :: rest) = some (value, '\n' :: rest)
  plain : '\r' ∉ chars

/-- A quoted text holds no carriage return: it is written as an escape. -/
theorem noReturn_quoted (text : String) : '\r' ∉ quoted text.toList := fun member =>
  absurd (plain_quotedAs (Quoting.suits_ofText text.toList) '\r' member) (by decide)

/-- A quoted text spells its value, whatever follows. -/
theorem spelled_quoted (text : String) : Spelled (quoted text.toList) (.text text) where
  begins := by
    obtain ⟨more, begins⟩ := quotedAs_begins (.ofText text.toList) text.toList
    unfold quoted
    rcases begins with begins | begins <;> rw [begins] <;> rintro _ ⟨rfl⟩ <;> decide
  reads := by
    intro fuel rest enough
    obtain ⟨fuel, rfl⟩ := Nat.exists_eq_add_one_of_ne_zero (Nat.ne_zero_of_lt enough)
    exact takeValue?_quoted text (by simp) (by simp) fuel _
  plain := noReturn_quoted text

end Values

namespace Members

variable {members : Members} {name : String} {change : Option Entry → Option Entry}

/-- A name that is new is put at the end. -/
theorem update?_new (fresh : name ∉ members.map Prod.fst) :
    members.update? name change =
      (change none).map fun entry => members ++ [(name, entry)] := by
  induction members with
  | nil => rfl
  | cons entry rest ih =>
      rw [List.map_cons, List.mem_cons, not_or] at fresh
      rw [update?, if_neg (Ne.symm fresh.1), ih fresh.2, Option.map_map]
      rfl

/-- The member that was put in last is changed in its place. -/
theorem update?_last (fresh : name ∉ members.map Prod.fst) (entry : Entry) :
    (members ++ [(name, entry)]).update? name change =
      (change (some entry)).map fun entry => members ++ [(name, entry)] := by
  induction members with
  | nil => exact if_pos rfl
  | cons other rest ih =>
      rw [List.map_cons, List.mem_cons, not_or] at fresh
      rw [List.cons_append, update?, if_neg (Ne.symm fresh.1), ih fresh.2, Option.map_map]
      rfl

end Members

/-- A section: its title, and what its names stand for. -/
abbrev Part := String × List (String × Value)

def entries (fields : List (String × Value)) : Members :=
  fields.map fun field => (field.1, .value field.2)

def sections (parts : List Part) : Members :=
  parts.map fun part => (part.1, .table .heading (entries part.2))

/-- The entries of fields have the names of the fields. -/
theorem names_entries (fields : List (String × Value)) :
    (entries fields).map Prod.fst = fields.map Prod.fst := by
  simp [entries, Function.comp_def]

/-- The sections of a document have the titles of its parts. -/
theorem names_sections (parts : List Part) :
    (sections parts).map Prod.fst = parts.map Prod.fst := by
  simp [sections, Function.comp_def]

/-- Fields are the members of the table that they were entered in. -/
theorem membersValue_entries (fields : List (String × Value)) :
    membersValue (entries fields) = fields := by
  induction fields with
  | nil => rw [entries, List.map_nil, membersValue]
  | cons field fields ih =>
      rw [entries] at ih ⊢
      rw [List.map_cons, membersValue, Entry.toValue, ih]

/-- Parts are the members of the document that their sections make. -/
theorem membersValue_sections (parts : List Part) :
    membersValue (sections parts) = parts.map fun part => (part.1, .table part.2) := by
  induction parts with
  | nil => rw [sections, List.map_nil, List.map_nil, membersValue]
  | cons part parts ih =>
      rw [sections] at ih ⊢
      rw [List.map_cons, membersValue, Entry.toValue, membersValue_entries, ih, List.map_cons]

namespace Draft

/-- What has been read when the last section is still open. -/
def inPart (earlier : List Part) (title : String) (fields : List (String × Value)) : Draft :=
  ⟨sections (earlier ++ [(title, fields)]), [title]⟩

/-- Reading the text takes one draft to the other. No step is taken without a character. -/
def Leads (draft : Draft) (text : List Char) (next : Draft) : Prop :=
  '\r' ∉ text ∧ ∃ steps ≤ text.length, ∀ fuel rest,
    draft.run? (fuel + steps) (text ++ rest) = next.run? fuel rest

variable {draft next last : Draft} {text more : List Char}

/-- Nothing leads nowhere else. -/
theorem Leads.refl (draft : Draft) : draft.Leads [] draft :=
  ⟨List.not_mem_nil, 0, Nat.le_refl 0, fun _ _ => rfl⟩

/-- Stretches of a document are put together. -/
theorem Leads.trans (first : draft.Leads text next) (second : next.Leads more last) :
    draft.Leads (text ++ more) last := by
  obtain ⟨plain, steps, few, reads⟩ := first
  obtain ⟨plain', steps', few', reads'⟩ := second
  refine ⟨by simp [plain, plain'], steps' + steps, ?_, fun fuel rest => ?_⟩
  · rw [List.length_append]
    omega
  · rw [List.append_assoc, ← Nat.add_assoc, reads, reads']

/-- Where there is no carriage return, breaks stay as they are. -/
theorem unifyBreaks_eq_self (plain : '\r' ∉ text) : unifyBreaks text = text := by
  fun_induction unifyBreaks text with
  | case1 rest ih => simp at plain
  | case2 c rest other ih =>
      rw [List.mem_cons, not_or] at plain
      rw [ih plain.2]
  | case3 => rfl

/-- A text that leads to the end of a document is read. -/
theorem Leads.read? (leads : empty.Leads text draft) (noMark : '\ufeff' ∉ text.head?) :
    Toml.read? (String.ofList text) = some (membersValue draft.root) := by
  obtain ⟨plain, steps, few, reads⟩ := leads
  have unmarked : dropMark text = text := by
    unfold dropMark
    split
    · exact absurd rfl noMark
    · rfl
  -- Steps that were not needed are left over, and the end of the text takes one.
  have ended := reads (text.length - steps + 1) []
  rw [List.append_nil, Nat.add_right_comm, Nat.sub_add_cancel few] at ended
  simp only [Toml.read?, String.toList_ofList, unmarked, unifyBreaks_eq_self plain, ended]
  rfl

/-- An empty line changes nothing. -/
theorem leads_break (draft : Draft) : draft.Leads ['\n'] draft :=
  ⟨by decide, 1, Nat.le_refl 1, fun _ _ => rfl⟩

variable {earlier : List Part} {title name : String} {fields : List (String × Value)}
  {chars written : List Char} {value : Value}

/-- A part that is added gives one more section. -/
theorem sections_append (parts : List Part) (part : Part) :
    sections (parts ++ [part]) = sections parts ++ [(part.1, .table .heading (entries part.2))] :=
  List.map_append

/-- A heading with a new title opens an empty section. -/
theorem open?_new (fresh : title ∉ earlier.map Prod.fst) :
    Members.open? [] title (sections earlier) = some (sections (earlier ++ [(title, [])])) := by
  rw [Members.open?, Members.descend?, Members.update?_new (by rwa [names_sections]),
    sections_append]
  rfl

/-- A field with a new name is added to the last section. -/
theorem assignAt?_new (new : title ∉ earlier.map Prod.fst) (fresh : name ∉ fields.map Prod.fst)
    (value : Value) :
    Members.assignAt? [title] [] name value (sections (earlier ++ [(title, fields)])) =
      some (sections (earlier ++ [(title, fields ++ [(name, value)])])) := by
  have set : (entries fields).set? name value = some (entries (fields ++ [(name, value)])) := by
    rw [Members.set?, Members.update?_new (by rwa [names_entries])]
    simp [entries]
  rw [Members.assignAt?, Members.descend?, sections_append,
    Members.update?_last (by rwa [names_sections]), sections_append]
  simp [Members.descend?, Members.assign?, set]

/-- A heading is read back as the title of the section that it opens. -/
theorem heading?_of_names (named : Names chars title) (draft : Draft) (rest : List Char) :
    draft.heading? ('[' :: (chars ++ ']' :: '\n' :: rest)) =
      (draft.root.open? [] title).map fun root => (⟨root, [title]⟩, rest) := by
  obtain ⟨first, more, same, kind⟩ := named.begins
  -- A second bracket would begin an element of a list.
  have single : ∀ after, chars ++ ']' :: '\n' :: rest ≠ '[' :: after := by
    rw [same]
    rintro after alike
    obtain rfl := (List.cons.inj alike).1
    exact absurd kind (by decide)
  have key : takeKey? (chars ++ ']' :: '\n' :: rest) = some (⟨[], title⟩, ']' :: '\n' :: rest) :=
    takeKey?_of_names named (by simp; decide) (by simp [skipSpace, isSpace])
  unfold heading?
  split
  · rename_i alike
    exact absurd (List.cons.inj alike).2 (single _)
  · rename_i alike
    obtain rfl := (List.cons.inj alike).2
    rw [key, Option.map_eq_bind]
    rfl
  · rename_i other
    exact absurd rfl (other _)

/-- A heading with a new title opens a section. -/
theorem leads_heading (named : Names chars title) (fresh : title ∉ earlier.map Prod.fst)
    (table : List String) :
    Leads ⟨sections earlier, table⟩ ('[' :: chars ++ [']', '\n']) (inPart earlier title []) := by
  refine ⟨by simp [named.plain], 1, by simp, fun fuel rest => ?_⟩
  have opened := heading?_of_names named ⟨sections earlier, table⟩ rest
  rw [open?_new fresh] at opened
  have text : '[' :: chars ++ [']', '\n'] ++ rest = '[' :: (chars ++ ']' :: '\n' :: rest) := by simp
  rw [text, run?]
  change (heading? _ _).bind _ = _
  rw [opened]
  rfl

/-- A written field is read back as a name and its value. -/
theorem assignment?_of_names (named : Names chars name) (spelled : Spelled written value)
    (draft : Draft) (rest : List Char) :
    draft.assignment? (chars ++ ' ' :: '=' :: ' ' :: (written ++ '\n' :: rest)) =
      (draft.root.assignAt? draft.table [] name value).map fun root =>
        ({ draft with root }, rest) := by
  let after := written ++ '\n' :: rest
  have key : takeKey? (chars ++ ' ' :: '=' :: ' ' :: after) =
      some (⟨[], name⟩, '=' :: ' ' :: after) :=
    takeKey?_of_names named (by simp; decide) (by simp [skipSpace, isSpace])
  have space : skipSpace (' ' :: after) = after := by
    refine (List.dropWhile_cons_of_pos rfl).trans (skipSpace_eq_self ?_)
    cases same : written with
    | nil => simp [after, same, isSpace]
    | cons c more => simpa [after, same] using spelled.begins
  have read : takeValue? (2 * after.length + 2) (nestingLimit - 1) after =
      some (value, '\n' :: rest) := by
    refine spelled.reads rest ?_
    simp only [after, List.length_append]
    omega
  have equals : Text.after? ['='] ('=' :: ' ' :: after) = some (' ' :: after) := rfl
  rw [assignment?, key, Option.map_eq_bind]
  simp only [Option.bind_eq_bind, Option.bind_some, equals, space, read]
  rfl

/-- A statement that begins with a name gives a value to it. -/
theorem run?_of_beginsName {c : Char} (begins : beginsName c = true) (draft : Draft) (fuel : Nat)
    (text : List Char) :
    draft.run? (fuel + 1) (c :: text) =
      (draft.assignment? (c :: text)).bind fun (next, rest) => next.run? fuel rest := by
  have other : c ≠ '\n' ∧ c ≠ '#' ∧ c ≠ '[' := by
    refine ⟨?_, ?_, ?_⟩ <;> rintro rfl <;> exact absurd begins (by decide)
  have noSpace : skipSpace (c :: text) = c :: text :=
    skipSpace_eq_self fun _ first => Option.some.inj first ▸ isSpace_of_beginsName begins
  rw [run?, noSpace]
  split
  · contradiction
  · rename_i same
    exact absurd (List.cons.inj same).1 other.1
  · rename_i same
    exact absurd (List.cons.inj same).1 other.2.1
  · rename_i same
    exact absurd (List.cons.inj same).1 other.2.2
  · rfl

/-- A line of a section gives a value to a new name. -/
theorem leads_line (named : Names chars name) (spelled : Spelled written value)
    (fresh : name ∉ fields.map Prod.fst) (new : title ∉ earlier.map Prod.fst) :
    (inPart earlier title fields).Leads (chars ++ [' ', '=', ' '] ++ written ++ ['\n'])
      (inPart earlier title (fields ++ [(name, value)])) := by
  refine ⟨by simp [named.plain, spelled.plain], 1, by simp; omega, fun fuel rest => ?_⟩
  have assigned := assignment?_of_names named spelled (inPart earlier title fields) rest
  rw [inPart, assignAt?_new new fresh] at assigned
  have text : chars ++ [' ', '=', ' '] ++ written ++ ['\n'] ++ rest =
      chars ++ ' ' :: '=' :: ' ' :: (written ++ '\n' :: rest) := by simp
  obtain ⟨first, more, rfl, begins⟩ := named.begins
  rw [text, inPart, List.cons_append, run?_of_beginsName begins, ← List.cons_append, assigned]
  rfl

end Draft

end HostAudit.Toml
