import HostAudit.Lookup
import HostAudit.Proofs.Occurrence
import Mathlib.Data.List.DropRight
import Mathlib.Data.List.Nodup

/-
This file tells what looking for a variable finds in the environment of a process, which is written
with one variable a line. The first line decides in which the name stands before an equals sign, be
it the end of another name or a part of a value. So the value of the variable itself is found
exactly if no other variable comes first that tells something else.
-/

namespace HostAudit

/-- The name of a variable holds neither an equals sign nor a line break. -/
structure VariableName where
  text : String
  nonempty : text ≠ ""
  plain : '=' ∉ text.toList ∧ '\n' ∉ text.toList
deriving DecidableEq

/-- A variable has a value without line breaks. -/
structure Variable where
  name : VariableName
  value : String
  plain : '\n' ∉ value.toList
deriving DecidableEq

/-- An environment has at most one variable of a name. -/
structure Environment where
  entries : List Variable
  distinct : (entries.map Variable.name).Nodup

namespace VariableName

def chars (name : VariableName) : List Char := name.text.toList

theorem equals_not_mem (name : VariableName) : '=' ∉ name.chars := name.plain.1

theorem break_not_mem (name : VariableName) : '\n' ∉ name.chars := name.plain.2

/-- What follows the first mention of a name in a text, up to the end of its line. -/
def tail? (name : VariableName) (text : List Char) : Option (List Char) :=
  (Text.breakOn (name.chars ++ ['=']) text).map fun cut => cut.2.takeWhile (· ≠ '\n')

/-- A text without line breaks belongs to the line that it begins. -/
theorem takeWhile_unbroken {text : List Char} (unbroken : '\n' ∉ text) (rest : List Char) :
    (text ++ rest).takeWhile (· ≠ '\n') = text ++ rest.takeWhile (· ≠ '\n') := by
  apply List.takeWhile_append_of_pos
  intro c inside
  have different : c ≠ '\n' := fun same => unbroken (same ▸ inside)
  simpa using different

end VariableName

namespace Variable

variable {name : VariableName}

/-- The line of a variable. -/
def line (entry : Variable) : List Char := entry.name.chars ++ '=' :: entry.value.toList

/-- The value that a text shows. Carriage returns at the end of a line do not belong to it, and an
empty value is none. -/
def shown? (text : List Char) : Option String :=
  let value := Text.dropTrailing (· == '\r') text
  if value.isEmpty then none else some (String.ofList value)

def value? (entry : Variable) : Option String := shown? entry.value.toList

/-- The line of a variable mentions a name if the name stands before an equals sign in it: at the
end of the name of the variable, or in its value. -/
def Mentions (entry : Variable) (name : VariableName) : Prop :=
  name.chars <:+ entry.name.chars ∨ name.chars ++ ['='] <:+: entry.value.toList

instance (entry : Variable) (name : VariableName) : Decidable (entry.Mentions name) :=
  inferInstanceAs (Decidable (_ ∨ _))

/-- What follows the first mention of a name in the line of a variable. -/
def behind? (entry : Variable) (name : VariableName) : Option (List Char) :=
  if name.chars <:+ entry.name.chars then some entry.value.toList
  else (Text.breakOn (name.chars ++ ['=']) entry.value.toList).map Prod.snd

/-- What the line of a variable tells of a name. -/
def told? (entry : Variable) (name : VariableName) : Option String :=
  (entry.behind? name).bind shown?

/-- A value without carriage returns is shown as it is, unless it is empty. -/
theorem value?_of_plain {entry : Variable} (plain : '\r' ∉ entry.value.toList) :
    entry.value? = if entry.value = "" then none else some entry.value := by
  have kept : Text.dropTrailing (· == '\r') entry.value.toList = entry.value.toList := by
    refine List.rdropWhile_eq_self_iff.mpr fun nonempty last => plain ?_
    rw [← beq_iff_eq.mp last]
    exact List.getLast_mem nonempty
  simp [value?, shown?, kept]

/-- The line of a variable is a single line. -/
theorem break_not_mem_line (entry : Variable) : '\n' ∉ entry.line := by
  simp [line, entry.name.break_not_mem, entry.plain]

/-- The line of a variable mentions its own name. -/
theorem mentions_own (entry : Variable) : entry.Mentions entry.name := .inl List.suffix_rfl

/-- The line of a variable tells its value of its own name. -/
theorem told?_own (entry : Variable) : entry.told? entry.name = entry.value? := by
  simp [told?, behind?, value?]

/-- Nothing is behind a name exactly if the line does not mention it. -/
theorem behind?_eq_none_iff {entry : Variable} :
    entry.behind? name = none ↔ ¬ entry.Mentions name := by
  by_cases ends : name.chars <:+ entry.name.chars
  · simp [behind?, Mentions, ends]
  · simp [behind?, Mentions, ends, Text.breakOn_eq_none_iff]

/-- The first mention in a line is found. -/
theorem breakOn_line (entry : Variable) (name : VariableName) :
    (Text.breakOn (name.chars ++ ['=']) entry.line).map Prod.snd = entry.behind? name :=
  Text.breakOn_keyed name.equals_not_mem entry.name.equals_not_mem entry.value.toList

/-- What is behind a mention is on the same line. -/
theorem break_not_mem_behind {entry : Variable} {cut : List Char × List Char}
    (found : Text.breakOn (name.chars ++ ['=']) entry.line = some cut) : '\n' ∉ cut.2 := by
  intro inside
  apply entry.break_not_mem_line
  rw [Text.breakOn_eq_some found]
  simp [inside]

/-- What follows a mention in a line is all that is behind it. -/
theorem tail?_line (entry : Variable) (name : VariableName) :
    name.tail? entry.line = entry.behind? name := by
  rw [VariableName.tail?, ← breakOn_line]
  cases found : Text.breakOn (name.chars ++ ['=']) entry.line with
  | none => rfl
  | some cut =>
      have whole := VariableName.takeWhile_unbroken (break_not_mem_behind found) []
      rw [List.append_nil, List.takeWhile_nil, List.append_nil] at whole
      rw [Option.map_some, Option.map_some, whole]

/-- A mention in a line is read to the end of this line, and only without one the lines behind it
count. -/
theorem tail?_line_append (entry : Variable) (name : VariableName) (rest : List Char) :
    name.tail? (entry.line ++ '\n' :: rest) = (entry.behind? name).or (name.tail? rest) := by
  have absent : '\n' ∉ name.chars ++ ['='] := by simp [name.break_not_mem]
  rw [VariableName.tail?, Text.breakOn_append_cons absent, ← breakOn_line]
  cases found : Text.breakOn (name.chars ++ ['=']) entry.line with
  | none =>
      rw [VariableName.tail?]
      cases Text.breakOn (name.chars ++ ['=']) rest <;> rfl
  | some cut =>
      have ended := VariableName.takeWhile_unbroken (break_not_mem_behind found) ('\n' :: rest)
      rw [List.takeWhile_cons_of_neg (by simp), List.append_nil] at ended
      simp only [Option.map_some, ended, Option.some_or]

end Variable

namespace Environment

variable {name : VariableName}

/-- Lines are written one after another. The last one has a line break at its end if it is
closed. -/
def lines (closed : Bool) : List Variable → List Char
  | [] => []
  | [entry] => entry.line ++ (if closed then ['\n'] else [])
  | entry :: rest => entry.line ++ '\n' :: lines closed rest

def text (environment : Environment) (closed : Bool) : String :=
  String.ofList (lines closed environment.entries)

/-- The value of the variable of a name, if it has one. -/
def value? (environment : Environment) (name : VariableName) : Option String :=
  (environment.entries.find? (·.name = name)).bind Variable.value?

/-- The first variable whose line mentions a name. -/
def mention? (environment : Environment) (name : VariableName) : Option Variable :=
  environment.entries.find? (·.Mentions name)

/-- A name can be looked for unless it is too large. In an empty environment there is no need to
look for it. -/
def Searchable (environment : Environment) (name : VariableName) : Prop :=
  environment.entries = [] ∨ Lookup.fits Lookup.environmentRoom name.text = true

instance (environment : Environment) (name : VariableName) :
    Decidable (environment.Searchable name) := inferInstanceAs (Decidable (_ ∨ _))

/-- The first line that mentions a name is read. -/
theorem tail?_lines (closed : Bool) (entries : List Variable) (name : VariableName) :
    name.tail? (lines closed entries) = entries.findSome? (·.behind? name) := by
  have empty : name.tail? [] = none := by simp [VariableName.tail?, Text.breakOn]
  induction entries with
  | nil => exact empty
  | cons entry rest ih =>
      cases rest with
      | nil =>
          cases closed with
          | false => simp [lines, Variable.tail?_line]
          | true => simp [lines, Variable.tail?_line_append, empty]
      | cons next others =>
          rw [lines, Variable.tail?_line_append, ih]
          · cases behind : entry.behind? name <;> simp [behind]
          · simp

/-- The first line that mentions a name tells of it. -/
theorem findSome?_behind? (entries : List Variable) (name : VariableName) :
    (entries.findSome? (·.behind? name)).bind Variable.shown? =
      (entries.find? (·.Mentions name)).bind (·.told? name) := by
  induction entries with
  | nil => rfl
  | cons entry rest ih =>
      by_cases mentions : entry.Mentions name
      · obtain ⟨tail, behind⟩ := Option.ne_none_iff_exists'.mp
          (mt Variable.behind?_eq_none_iff.mp (not_not.mpr mentions))
        simp [mentions, behind, Variable.told?]
      · have behind := Variable.behind?_eq_none_iff.mpr mentions
        simpa [mentions, behind] using ih

/-- The value that is found is what the first mention shows. -/
theorem environment?_eq (name : VariableName) (text : List Char) :
    (Lookup.environment? text name.chars).map String.ofList =
      (name.tail? text).bind Variable.shown? := by
  have nonempty : name.chars ≠ [] := by simpa [VariableName.chars] using name.nonempty
  rw [Lookup.environment?, if_neg (by simpa using nonempty), VariableName.tail?]
  cases Text.breakOn (name.chars ++ ['=']) text with
  | none => rfl
  | some cut =>
      simp only [Option.map_some, Option.bind_some, Variable.shown?, Option.filter_some]
      split <;> simp_all

/-- Only an environment without variables is written as nothing. -/
theorem text_eq_empty {environment : Environment} {closed : Bool} :
    environment.text closed = "" ↔ environment.entries = [] := by
  rw [text, ← String.toList_inj, String.toList_ofList]
  cases environment.entries with
  | nil => simp [lines]
  | cons entry rest => cases rest <;> simp [lines, Variable.line]

/-- Looking for a name finds what the first line tells that mentions it. -/
theorem find_text (environment : Environment) (closed : Bool) (name : VariableName) :
    Lookup.environment.find (environment.text closed) name.text =
      if environment.Searchable name then
        .ok ((environment.mention? name).bind (·.told? name))
      else .error (.oversized name.text) := by
  have found : (Lookup.environment? (environment.text closed).toList name.text.toList).map
      String.ofList = (environment.mention? name).bind (·.told? name) := by
    rw [text, String.toList_ofList, ← VariableName.chars, environment?_eq, tail?_lines,
      findSome?_behind?, mention?]
  by_cases empty : environment.entries = []
  · have nothing : environment.mention? name = none := by simp [mention?, empty]
    simp [Lookup.find, text_eq_empty.mpr empty, nothing, Searchable, empty]
  · have written : environment.text closed ≠ "" := mt text_eq_empty.mp empty
    simp [Lookup.find, written, name.nonempty, Lookup.ifFits, found, Searchable, empty]

section Own

variable {environment : Environment} {entry : Variable}

/-- The variable of a name is the only one. -/
theorem value?_of_mem (member : entry ∈ environment.entries) :
    environment.value? entry.name = entry.value? := by
  cases found : environment.entries.find? (·.name = entry.name) with
  | none => simpa using List.find?_eq_none.mp found entry member
  | some other =>
      have named : other.name = entry.name := by simpa using List.find?_some found
      have same : other = entry :=
        List.inj_on_of_nodup_map environment.distinct (List.mem_of_find?_eq_some found) member named
      rw [value?, found, Option.bind_some, same]

/-- There is no value for a name that no variable has. -/
theorem value?_of_unnamed (unnamed : ∀ entry ∈ environment.entries, entry.name ≠ name) :
    environment.value? name = none := by
  have absent : environment.entries.find? (·.name = name) = none := by
    simpa [List.find?_eq_none] using unnamed
  rw [value?, absent, Option.bind_none]

/-- The value of a name is told by the first mention, unless another variable comes first that tells
something else. -/
theorem told_eq_value?_iff :
    (environment.mention? name).bind (·.told? name) = environment.value? name ↔
      ∀ entry ∈ environment.mention? name,
        entry.name ≠ name → entry.told? name = environment.value? name := by
  cases first : environment.mention? name with
  | none =>
      have unnamed : ∀ entry ∈ environment.entries, entry.name ≠ name := by
        rintro entry member rfl
        have unmentioned := List.find?_eq_none.mp first entry member
        simp [entry.mentions_own] at unmentioned
      simp [value?_of_unnamed unnamed]
  | some entry =>
      have member : entry ∈ environment.entries := List.mem_of_find?_eq_some first
      simp only [Option.bind_some, Option.mem_some_iff, forall_eq']
      constructor
      · exact fun told _ => told
      · intro other
        by_cases own : entry.name = name
        · rw [← own, entry.told?_own, value?_of_mem member]
        · exact other own

end Own

/-- The environments have the same variables, perhaps in another order. -/
def Reorders (others environment : Environment) : Prop := others.entries.Perm environment.entries

namespace Reorders

variable {others environment : Environment}

/-- The order of variables makes no difference to whether a name can be looked for. -/
theorem searchable_iff (reorders : others.Reorders environment) :
    others.Searchable name ↔ environment.Searchable name := by
  rw [Searchable, Searchable, ← List.length_eq_zero_iff, reorders.length_eq,
    List.length_eq_zero_iff]

/-- The order of variables makes no difference to the value of a name. -/
theorem value?_eq (reorders : others.Reorders environment) (name : VariableName) :
    others.value? name = environment.value? name := by
  by_cases named : ∃ entry ∈ others.entries, entry.name = name
  · obtain ⟨entry, member, rfl⟩ := named
    rw [value?_of_mem member, value?_of_mem (reorders.mem_iff.mp member)]
  · have unnamed : ∀ entry ∈ others.entries, entry.name ≠ name :=
      fun entry member same => named ⟨entry, member, same⟩
    rw [value?_of_unnamed unnamed, value?_of_unnamed]
    exact fun entry member => unnamed entry (reorders.mem_iff.mpr member)

/-- Any variable may come first. -/
theorem exists_first {entry : Variable} (member : entry ∈ environment.entries) :
    ∃ others : Environment, others.Reorders environment ∧ others.entries.head? = some entry := by
  obtain ⟨before, after, split⟩ := List.append_of_mem member
  have moved : (entry :: (before ++ after)).Perm environment.entries := by
    rw [split]
    exact List.perm_middle.symm
  have distinct := (moved.map Variable.name).nodup_iff.mpr environment.distinct
  exact ⟨⟨entry :: (before ++ after), distinct⟩, moved, rfl⟩

end Reorders

/-- Looking for a name finds what the first line tells in which the name stands before an equals
sign. This is the value of the variable of this name, as it is written, exactly if the name can be
looked for and no other variable comes first that tells something else. It is so for every order of
the variables exactly if no other variable tells something else. -/
theorem find_variable (environment : Environment) (closed : Bool) (name : VariableName) :
    Lookup.environment.find (environment.text closed) name.text =
        (if environment.Searchable name then
          .ok ((environment.mention? name).bind (·.told? name))
        else .error (.oversized name.text)) ∧
      (Lookup.environment.find (environment.text closed) name.text =
          .ok (environment.value? name) ↔
        environment.Searchable name ∧ ∀ entry ∈ environment.mention? name,
          entry.name ≠ name → entry.told? name = environment.value? name) ∧
      ((∀ others : Environment, others.Reorders environment →
          Lookup.environment.find (others.text closed) name.text =
            .ok (environment.value? name)) ↔
        environment.Searchable name ∧ ∀ entry ∈ environment.entries, entry.Mentions name →
          entry.name ≠ name → entry.told? name = environment.value? name) ∧
      ∀ entry ∈ environment.entries, '\r' ∉ entry.value.toList →
        environment.value? entry.name = if entry.value = "" then none else some entry.value := by
  have own (any : Environment) : Lookup.environment.find (any.text closed) name.text =
      .ok (any.value? name) ↔ any.Searchable name ∧ ∀ entry ∈ any.mention? name,
        entry.name ≠ name → entry.told? name = any.value? name := by
    rw [find_text, ← told_eq_value?_iff]
    by_cases searchable : any.Searchable name <;> simp [searchable]
  refine ⟨find_text environment closed name, own environment, ⟨?told, ?same⟩, ?written⟩
  case told =>
    intro every
    have searchable := ((own environment).mp (every environment (.refl _))).1
    refine ⟨searchable, fun entry member mentions other => ?_⟩
    obtain ⟨others, reorders, first⟩ := Reorders.exists_first member
    have mentioned : others.mention? name = some entry := by
      obtain ⟨rest, given⟩ := List.head?_eq_some_iff.mp first
      simp [mention?, given, mentions]
    have told := every others reorders
    rw [← reorders.value?_eq] at told ⊢
    exact ((own others).mp told).2 entry mentioned other
  case same =>
    rintro ⟨searchable, same⟩ others reorders
    rw [← reorders.value?_eq] at same ⊢
    refine (own others).mpr ⟨reorders.searchable_iff.mpr searchable, fun entry first => ?_⟩
    have member := reorders.mem_iff.mp (List.mem_of_find?_eq_some first)
    exact same entry member (by simpa using List.find?_some first)
  case written =>
    intro entry member plain
    rw [value?_of_mem member, Variable.value?_of_plain plain]

/-- An environment in which one name ends in another. -/
def java : Environment where
  entries :=
    [⟨⟨"JAVA_HOME", by decide, by decide⟩, "/opt/java", by decide⟩,
      ⟨⟨"HOME", by decide, by decide⟩, "/root", by decide⟩]
  distinct := by decide

/-- The value of another variable is found, whose name ends in the name that is looked for. In
another order of the variables it is not. -/
theorem other_variable_found :
    java.text false = "JAVA_HOME=/opt/java\nHOME=/root" ∧
    java.value? ⟨"HOME", by decide, by decide⟩ = some "/root" ∧
    Lookup.environment.find (java.text false) "HOME" = .ok (some "/opt/java") ∧
    Lookup.environment.find ((⟨java.entries.reverse, by decide⟩ : Environment).text false) "HOME" =
      .ok (some "/root") :=
  ⟨by decide, by decide, rfl, rfl⟩

end Environment

end HostAudit
