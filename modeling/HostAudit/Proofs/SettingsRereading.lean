import HostAudit.Proofs.DocumentSections
import HostAudit.Proofs.NamedValues
import HostAudit.Settings.Writer

/-
This file proves that settings are read as they were written. Each section of the text leads a
reader on by the fields that were written there, and what has no value leaves no line.
-/

namespace HostAudit

namespace Substitutions

variable {values rest : Substitutions} {name : String}

/-- A name that comes behind all others is put at the end. -/
theorem insert_last (last : ∀ held ∈ values.map Prod.fst, held < name) (value : String) :
    values.insert name value = values ++ [(name, value)] := by
  induction values with
  | nil => rfl
  | cons entry values ih =>
      obtain ⟨first, others⟩ := List.forall_mem_cons.mp last
      rw [insert, if_neg (not_lt_of_gt first), if_neg (ne_of_gt first), ih others]
      rfl

/-- Values that are in order are put one after the other. -/
theorem foldl_insert (sorted : Sorted (values ++ rest)) :
    rest.foldl (fun values entry => insert entry.1 entry.2 values) values = values ++ rest := by
  induction rest generalizing values with
  | nil => exact (List.append_nil values).symm
  | cons entry rest ih =>
      have last : ∀ held ∈ values.map Prod.fst, held < entry.1 := fun held among => by
        rw [Sorted, List.map_append, List.pairwise_append] at sorted
        exact sorted.2.2 held among entry.1 List.mem_cons_self
      rw [List.append_cons] at sorted
      rw [List.foldl_cons, insert_last last, ih sorted, List.append_assoc]
      rfl

end Substitutions

namespace Settings

open Toml (Value Names Spelled Part)
open Toml.Draft (inPart Leads)

/-- A name is written as the bare name, or between quotes. -/
theorem names_nameChars (name : String) : Names (nameChars name) name := by
  unfold nameChars
  dsimp only
  split
  · rename_i bare
    simp only [Bool.and_eq_true, Bool.not_eq_true', List.isEmpty_eq_false_iff] at bare
    exact Toml.names_of_bare bare.1 bare.2
  · exact Toml.names_quotedAs name

section Lists

variable {rest : List Char}

/-- A text between quotes does not begin with a gap. -/
theorem dropGaps?_quoted (text : String) (rest : List Char) :
    Toml.dropGaps? false (quotedChars text ++ rest) = some (quotedChars text ++ rest) := by
  obtain ⟨more, begins⟩ := Toml.quotedAs_begins (.ofText text.toList) text.toList
  unfold quotedChars Toml.quoted
  rcases begins with begins | begins <;> rw [begins] <;> rfl

/-- A text between quotes does not begin as the end of a list. -/
theorem quotedChars_ne (text : String) (after more : List Char) :
    quotedChars text ++ after ≠ ']' :: more := by
  obtain ⟨body, begins⟩ := Toml.quotedAs_begins (.ofText text.toList) text.toList
  unfold quotedChars Toml.quoted
  rcases begins with begins | begins <;> rw [begins] <;> simp

/-- An item before a comma is taken, and others follow. -/
theorem takeItems?_comma {given after : List Char} {text : String}
    (reached : Toml.dropGaps? false given = some (quotedChars text ++ ',' :: after))
    (fuel depth : Nat) :
    Toml.takeItems? (fuel + 2) depth given =
      (Toml.takeItems? (fuel + 1) depth after).map fun (items, rest) =>
        (.text text :: items, rest) := by
  have read : Toml.takeValue? (fuel + 1) depth (quotedChars text ++ ',' :: after) =
      some (.text text, ',' :: after) :=
    Toml.takeValue?_quoted text (by simp) (by simp) fuel depth
  have comma : Toml.dropGaps? false (',' :: after) = some (',' :: after) := rfl
  rw [Toml.takeItems?, Option.map_eq_bind]
  simp only [reached, Option.bind_eq_bind, Option.bind_some]
  split
  · rename_i same
    exact absurd same (quotedChars_ne text _ _)
  · simp only [read, Option.bind_some, comma]
    rfl

/-- An item before the end of a list is the last one. -/
theorem takeItems?_last {given : List Char} {text : String}
    (reached : Toml.dropGaps? false given = some (quotedChars text ++ ']' :: rest))
    (fuel depth : Nat) :
    Toml.takeItems? (fuel + 2) depth given = some ([.text text], rest) := by
  have read : Toml.takeValue? (fuel + 1) depth (quotedChars text ++ ']' :: rest) =
      some (.text text, ']' :: rest) :=
    Toml.takeValue?_quoted text (by simp) (by simp) fuel depth
  have bracket : Toml.dropGaps? false (']' :: rest) = some (']' :: rest) := rfl
  rw [Toml.takeItems?]
  simp only [reached, Option.bind_eq_bind, Option.bind_some]
  split
  · rename_i same
    exact absurd same (quotedChars_ne text _ _)
  · simp only [read, Option.bind_some, bracket]
    rfl

/-- Items on lines of their own are read as they were written. -/
theorem takeItems?_lines (texts : List String) {fuel : Nat} (enough : texts.length < fuel)
    (depth : Nat) (rest : List Char) :
    Toml.takeItems? fuel depth ('\n' :: texts.flatMap itemLine ++ ']' :: rest) =
      some (texts.map .text, rest) := by
  obtain ⟨fuel, rfl⟩ := Nat.exists_eq_add_one_of_ne_zero (Nat.ne_zero_of_lt enough)
  induction texts generalizing fuel with
  | nil => rfl
  | cons text texts ih =>
      have less : texts.length < fuel := Nat.lt_of_succ_lt_succ enough
      obtain ⟨fuel, rfl⟩ := Nat.exists_eq_add_one_of_ne_zero (Nat.ne_zero_of_lt less)
      let after := '\n' :: texts.flatMap itemLine ++ ']' :: rest
      have lines : '\n' :: (text :: texts).flatMap itemLine ++ ']' :: rest =
          '\n' :: ' ' :: ' ' :: ' ' :: ' ' :: (quotedChars text ++ ',' :: after) := by
        simp [itemLine, after]
      have reached : Toml.dropGaps? false
          ('\n' :: ' ' :: ' ' :: ' ' :: ' ' :: (quotedChars text ++ ',' :: after)) =
          some (quotedChars text ++ ',' :: after) := dropGaps?_quoted text (',' :: after)
      rw [lines, takeItems?_comma reached, ih fuel less]
      rfl

/-- Each item takes a line. -/
theorem length_le_lines (texts : List String) :
    texts.length ≤ (texts.flatMap itemLine).length := by
  induction texts with
  | nil => exact Nat.le_refl 0
  | cons text texts ih =>
      simp only [List.flatMap_cons, List.length_append, List.length_cons, itemLine]
      omega

/-- There are no carriage returns in the line of an item. -/
theorem noReturn_itemLine (text : String) : '\r' ∉ itemLine text := by
  simp [itemLine, quotedChars, Toml.noReturn_quoted]

/-- What stands between the brackets of a list. -/
theorem exists_items (texts : List String) :
    ∃ items, listChars texts = '[' :: items ∧ '\r' ∉ items ∧
      ∀ fuel depth rest, items.length < fuel →
        Toml.takeItems? fuel depth (items ++ rest) = some (texts.map .text, rest) := by
  match texts with
  | [] =>
      refine ⟨[']'], rfl, by decide, fun fuel depth rest enough => ?_⟩
      obtain ⟨fuel, rfl⟩ := Nat.exists_eq_add_one_of_ne_zero (Nat.ne_zero_of_lt enough)
      rfl
  | [text] =>
      refine ⟨quotedChars text ++ [']'], rfl, by simp [quotedChars, Toml.noReturn_quoted],
        fun fuel depth rest enough => ?_⟩
      have two : 2 ≤ fuel := by
        rw [List.length_append] at enough
        exact Nat.lt_of_le_of_lt (Nat.le_add_left 1 _) enough
      obtain ⟨fuel, rfl⟩ := Nat.exists_eq_add_of_le' two
      rw [List.append_assoc]
      exact takeItems?_last (dropGaps?_quoted text _) fuel depth
  | first :: second :: texts =>
      refine ⟨'\n' :: (first :: second :: texts).flatMap itemLine ++ [']'], rfl,
        by simp [noReturn_itemLine], fun fuel depth rest enough => ?_⟩
      have short := length_le_lines (first :: second :: texts)
      rw [List.append_assoc]
      refine takeItems?_lines _ ?_ depth rest
      simp only [List.cons_append, List.length_cons, List.length_append] at enough short ⊢
      omega

/-- A list is read as it was written, on one line or on several. -/
theorem spelled_listChars (texts : List String) :
    Spelled (listChars texts) (.array (texts.map .text)) := by
  obtain ⟨items, same, plain, reads⟩ := exists_items texts
  rw [same]
  refine ⟨by simp [Toml.isSpace], fun {fuel} rest enough => ?_, by simp [plain]⟩
  obtain ⟨fuel, rfl⟩ := Nat.exists_eq_add_one_of_ne_zero (Nat.ne_zero_of_lt enough)
  have read := reads fuel 78 ('\n' :: rest) (Nat.lt_of_succ_lt_succ enough)
  change Toml.takeValue? (fuel + 1) (78 + 1) ('[' :: (items ++ '\n' :: rest)) = _
  rw [Toml.takeValue?, read]
  rfl

end Lists

section Sections

variable {earlier : List Part} {title : String} {fields : List (String × Value)}

/-- A line puts a field into its section, if the name is new there. -/
theorem leads_line (name : String) {written : List Char} {value : Value}
    (spelled : Spelled written value) (fresh : name ∉ fields.map Prod.fst)
    (new : title ∉ earlier.map Prod.fst) :
    (inPart earlier title fields).Leads (line name written)
      (inPart earlier title (fields ++ [(name, value)])) :=
  Toml.Draft.leads_line (names_nameChars name) spelled fresh new

/-- The field that a text gives, if there is one. -/
def optionalField (name : String) (value : Option String) : List (String × Value) :=
  (value.map fun text => (name, .text text)).toList

/-- A line that may be left out puts a field into its section, or nothing. -/
theorem leads_optionalLine (name : String) (value : Option String)
    (fresh : name ∉ fields.map Prod.fst) (new : title ∉ earlier.map Prod.fst) :
    (inPart earlier title fields).Leads (optionalLine name value)
      (inPart earlier title (fields ++ optionalField name value)) := by
  cases value with
  | none =>
      rw [optionalField, Option.map_none, Option.toList_none, List.append_nil]
      exact Leads.refl _
  | some text => exact leads_line name (Toml.spelled_quoted text) fresh new

def textFields (values : Substitutions) : List (String × Value) :=
  values.map fun entry => (entry.1, .text entry.2)

/-- Lines of texts put a field each into their section, if their names are distinct. -/
theorem leads_texts (values : Substitutions)
    (distinct : (fields.map Prod.fst ++ values.map Prod.fst).Nodup)
    (new : title ∉ earlier.map Prod.fst) :
    (inPart earlier title fields).Leads
      (values.flatMap fun entry => line entry.1 (quotedChars entry.2))
      (inPart earlier title (fields ++ textFields values)) := by
  induction values generalizing fields with
  | nil =>
      rw [textFields, List.map_nil, List.append_nil]
      exact Leads.refl _
  | cons entry values ih =>
      obtain ⟨name, text⟩ := entry
      rw [List.map_cons, List.append_cons] at distinct
      have fresh : name ∉ fields.map Prod.fst := by
        have first := (List.nodup_append.mp distinct).1
        rw [List.nodup_append] at first
        exact fun member => first.2.2 name member name List.mem_cons_self rfl
      have further := @ih (fields ++ [(name, .text text)]) (by simpa using distinct)
      rw [List.append_assoc] at further
      exact (leads_line name (Toml.spelled_quoted text) fresh new).trans further

/-- A heading opens a section, if its title is new. -/
theorem leads_heading (earlier : List Part) (title : String)
    (bare : title.toList.all Toml.isBare = true) (filled : title.toList ≠ [])
    (new : title ∉ earlier.map Prod.fst) (table : List String) :
    Leads ⟨Toml.sections earlier, table⟩ (heading title) (inPart earlier title []) :=
  Toml.Draft.leads_heading (Toml.names_of_bare filled bare) new table

/-- A section ends where the heading of the next one stands after an empty line. -/
theorem leads_next (next : String) (bare : next.toList.all Toml.isBare = true)
    (filled : next.toList ≠ []) (new : next ∉ (earlier ++ [(title, fields)]).map Prod.fst) :
    (inPart earlier title fields).Leads ('\n' :: heading next)
      (inPart (earlier ++ [(title, fields)]) next []) :=
  (Toml.Draft.leads_break _).trans (leads_heading _ next bare filled new [title])

/-- The fields that the lines of a section give. -/
def probeFields (probe : ProbeSettings) : List (String × Value) :=
  ("shell", .text probe.shell) :: optionalField "env_process" probe.process

def runFields (run : RunSettings) : List (String × Value) :=
  ("skip", .array (run.skipped.map .text)) ::
    (optionalField "target" run.target ++ [("catalogs", .array (run.catalogs.map .text))])

/-- The lines of the probe's settings give its fields. -/
theorem leads_probe (probe : ProbeSettings) (new : title ∉ earlier.map Prod.fst) :
    (inPart earlier title []).Leads
      (line "shell" (quotedChars probe.shell) ++ optionalLine "env_process" probe.process)
      (inPart earlier title (probeFields probe)) :=
  (leads_line "shell" (Toml.spelled_quoted probe.shell) (by simp) new).trans
    (leads_optionalLine "env_process" probe.process (by simp) new)

/-- The lines of the run's settings give its fields. -/
theorem leads_run (run : RunSettings) (new : title ∉ earlier.map Prod.fst) :
    (inPart earlier title []).Leads
      (line "skip" (listChars run.skipped) ++ (optionalLine "target" run.target ++
        line "catalogs" (listChars run.catalogs)))
      (inPart earlier title (runFields run)) := by
  have skip : (inPart earlier title []).Leads (line "skip" (listChars run.skipped))
      (inPart earlier title [("skip", .array (run.skipped.map .text))]) :=
    leads_line "skip" (spelled_listChars run.skipped) (by simp) new
  exact skip.trans ((leads_optionalLine "target" run.target (by simp) new).trans
    (leads_line "catalogs" (spelled_listChars run.catalogs)
      (by cases run.target <;> simp [optionalField]) new))

end Sections

/-- The sections that settings are written as. -/
def parts (settings : Settings) : List Part :=
  [("probe", probeFields settings.probe), ("substitutions", textFields settings.substitutions),
    ("run", runFields settings.run)]

/-- All that is written of settings leads to their sections. -/
theorem leads_chars (settings : Settings)
    (distinct : (settings.substitutions.map Prod.fst).Nodup) :
    Toml.Draft.empty.Leads settings.chars ⟨Toml.sections settings.parts, ["run"]⟩ := by
  have opened : Toml.Draft.empty.Leads (heading "probe") (inPart [] "probe" []) :=
    leads_heading [] "probe" (by decide) (by decide) (by simp) []
  have probe := opened.trans (leads_probe settings.probe (by simp))
  have toTexts := probe.trans (leads_next "substitutions" (by decide) (by decide) (by simp))
  have texts := toTexts.trans
    (leads_texts settings.substitutions (by simpa using distinct) (by simp))
  have toRun := texts.trans (leads_next "run" (by decide) (by decide) (by simp))
  have run := toRun.trans (leads_run settings.run (by simp))
  -- The stretches are those that were written, grouped in another way.
  simp only [List.append_assoc] at run
  rw [chars]
  simp only [List.append_assoc]
  exact run

/-- A list of texts is read from its array. -/
theorem texts?_array (texts : List String) : texts? (.array (texts.map .text)) = some texts := by
  induction texts with
  | nil => rfl
  | cons text texts ih =>
      rw [texts?] at ih ⊢
      rw [List.map_cons, List.mapM_cons, ih]
      rfl

/-- The probe's settings are read from their fields. -/
theorem probe?_fields (probe : ProbeSettings) :
    probe? (.table (probeFields probe)) = some probe := by
  obtain ⟨shell, process⟩ := probe
  cases process <;> rfl

/-- Fields of texts are read as they are. -/
theorem mapM_textFields (values : Substitutions) :
    (textFields values).mapM (fun field => (text? field.2).map fun text => (field.1, text)) =
      some values := by
  induction values with
  | nil => rfl
  | cons entry values ih =>
      rw [textFields] at ih ⊢
      rw [List.map_cons, List.mapM_cons, ih]
      rfl

/-- Substitutions whose names are in order are read from their fields. -/
theorem substitutions?_fields {values : Substitutions} (sorted : values.Sorted) :
    substitutions? (.table (textFields values)) = some values := by
  change Option.bind ((textFields values).mapM fun field =>
    (text? field.2).map fun text => (field.1, text)) _ = _
  rw [mapM_textFields]
  exact congrArg some (Substitutions.foldl_insert sorted)

/-- The run's settings are read from their fields. -/
theorem run?_fields (run : RunSettings) : run? (.table (runFields run)) = some run := by
  obtain ⟨skipped, target, catalogs⟩ := run
  cases target
  all_goals
    change (texts? (.array (skipped.map .text))).bind _ = _
    rw [texts?_array, Option.bind_some]
    change (texts? (.array (catalogs.map .text))).bind _ = _
    rw [texts?_array]
    rfl

/-- Settings are read from their sections. -/
theorem ofMembers?_parts (settings : Settings) (sorted : settings.substitutions.Sorted) :
    ofMembers? (settings.parts.map fun part => (part.1, .table part.2)) = some settings := by
  -- Every section is found under its title.
  change (probe? (.table (probeFields settings.probe))).bind _ = _
  rw [probe?_fields, Option.bind_some]
  change (substitutions? (.table (textFields settings.substitutions))).bind _ = _
  rw [substitutions?_fields sorted, Option.bind_some]
  change (run? (.table (runFields settings.run))).bind _ = _
  rw [run?_fields]
  rfl

/-- Settings are read as they were written, whatever their texts hold; an absent process or target
stays absent. The values are in the order of their names, which is how all settings hold them that
were read. -/
theorem written_settings_are_read (settings : Settings) :
    (settings.substitutions.Sorted → read? settings.written = some settings) ∧
    ∀ text, read? text = some settings → settings.substitutions.Sorted := by
  refine ⟨fun sorted => ?_, fun text => sorted_of_read?⟩
  have noMark : '\ufeff' ∉ settings.chars.head? := by
    change '\ufeff' ∉ some '['
    decide
  rw [read?, written, (leads_chars settings sorted.nodup).read? noMark,
    Toml.membersValue_sections]
  exact ofMembers?_parts settings sorted

/-- Names and values with all that has to be escaped, and texts that are empty or absent. -/
theorem written_settings_are_read_escaped :
    let values : Substitutions :=
      [("", ""), ("a\nb", "\"\"\"\n'''\\"), ("c'\"", "\x00\x7f\r\n"), ("d.e", " 'f' "), ("é", "\t")]
    let settings : Settings := ⟨⟨"/bin/sh \"é\"", none⟩, values, ⟨["1.1", "\\"], some "", ["g"]⟩⟩
    values.Sorted ∧ read? settings.written = some settings := by
  intro values settings
  have sorted : values.Sorted := by
    change List.Pairwise _ _
    decide +kernel
  exact ⟨sorted, (written_settings_are_read settings).1 sorted⟩

end Settings

end HostAudit
