import HostAudit.Definition.Reader
import HostAudit.Definition.Writer
import HostAudit.Json.Writer
import Mathlib.Data.List.DropRight

/-
This file proves that definitions survive being written and read again, as JSON values and as nodes
of YAML documents. What is read is plain: blanks around names are gone, and a name that an operator
or a combinator bears leads back to it. What is plain is read back from what is written of it.
-/

namespace HostAudit

namespace Text

/-- Dropping at the end is that of the library. -/
theorem dropTrailing_eq (drop : Char → Bool) (text : List Char) :
    dropTrailing drop text = text.rdropWhile drop := rfl

/-- Trimming again changes nothing. -/
theorem trim_trim (text : List Char) : trim (trim text) = trim text := by
  have leading : (trim text).dropWhile isBlank = trim text := by
    -- The first character left is the first one that is no blank.
    have start : trim text <+: text.dropWhile isBlank := List.rdropWhile_prefix isBlank _
    rw [List.dropWhile_eq_self_iff]
    intro nonempty
    rw [start.getElem nonempty]
    exact List.dropWhile_get_zero_not isBlank text _
  rw [trim, leading, trim, dropTrailing_eq, dropTrailing_eq, List.rdropWhile_idempotent]

/-- A text that is trimmed stays as it is. -/
@[simp] theorem trimmed_trimmed (text : String) : trimmed (trimmed text) = trimmed text := by
  simp [trimmed, trim_trim]

end Text

/-- A plain operator has a name without blanks around it, and is the operator of this name. -/
structure Operator.Plain (operator : Operator) : Prop where
  trimmed : Text.trimmed operator.name = operator.name
  named : ofName operator.name = operator

/-- A plain combinator is the combinator of its name. -/
def Combinator.Plain (combinator : Combinator) : Prop := ofName combinator.name = combinator

/-- What an item requires of a value has a plain operator with a name. -/
def TestItem.Plain (item : TestItem) : Prop :=
  ∀ requirement ∈ item.requirement, requirement.operator.Plain ∧ requirement.operator.name ≠ ""

structure TestSet.Plain (set : TestSet) : Prop where
  items : ∀ item ∈ set.items, item.Plain
  combinator : set.combinator.Plain

def Check.Plain (check : Check) : Prop := ∀ tests ∈ check.tests, tests.Plain

def Group.Plain (group : Group) : Prop := ∀ check ∈ group.checks, check.Plain

def Catalog.Plain (catalog : Catalog) : Prop := ∀ group ∈ catalog.groups, group.Plain

/-- The operator of a trimmed name is plain. -/
theorem Operator.plain_ofName {name : String} (trimmed : Text.trimmed name = name) :
    (ofName name).Plain := by
  refine ⟨?_, ?_⟩ <;> rw [name_ofName]
  exact trimmed

/-- The combinator of any name is plain. -/
theorem Combinator.plain_ofName (name : String) : (ofName name).Plain := by
  rw [Plain]
  generalize given : ofName name = combinator
  rw [ofName] at given
  split at given
  · subst given
    decide
  · subst given
    decide
  · subst given
    decide
  · subst given
    simp only [Combinator.name, ofName, Text.trimmed_trimmed]

namespace Definition

open Json (Value)
open Readable

section Members

variable {S : Type} {put : Value → S} {members : List (String × Value)} {name : String}

/-- Names are told to be distinct exactly if they are. -/
theorem areDistinct_iff {names : List String} : areDistinct names = true ↔ names.Nodup := by
  induction names with
  | nil => simp [areDistinct]
  | cons name names ih => simp [areDistinct, ih]

/-- Members whose names are among the known ones, and in their order, are all known. -/
theorem known?_of_sublist {names : List String} {members : List (String × S)}
    (ordered : (members.map Prod.fst).Sublist names) (distinct : names.Nodup) :
    known? names members = some members := by
  have all : members.filter (fun member => names.contains member.1) = members := by
    refine List.filter_eq_self.mpr fun member inside => ?_
    simpa using ordered.subset (List.mem_map_of_mem inside)
  rw [known?, all, if_pos (areDistinct_iff.mpr (distinct.sublist ordered))]

/-- Members whose values are put before a reader. -/
def placed (put : Value → S) (members : List (String × Value)) : List (String × S) :=
  members.map fun member => (member.1, put member.2)

/-- A member is found among those before a reader as it was. -/
theorem lookup_placed (put : Value → S) (members : List (String × Value)) (name : String) :
    (placed put members).lookup name =
      (members.lookup name).map put := by
  induction members with
  | nil => rfl
  | cons member rest ih =>
      rw [placed, List.map_cons, List.lookup_cons, List.lookup_cons, ← placed, ih]
      split <;> rfl

/-- A field of members before a reader is read from the value itself. -/
theorem field_placed {A : Type} (read? : S → Option A) (missing : Option A) :
    field (placed put members) name read? missing =
      ((members.lookup name).map fun value => read? (put value)).getD missing := by
  rw [field, lookup_placed]
  cases members.lookup name <;> rfl

/-- What is left out when it is missing reads as missing then. -/
theorem read_whenPresent {A : Type} {read? : S → Option (Option A)} {write : A → Value}
    (put : Value → S) (value : Option A)
    (each : ∀ held ∈ value, read? (put (write held)) = some (some held)) :
    (value.map ((fun value => read? (put value)) ∘ write)).getD (some none) = some value := by
  cases value with
  | none => rfl
  | some held => simp [each held rfl]

/-- A single member is found under its name. -/
theorem lookup_singleton (name other : String) (value : Value) :
    [(name, value)].lookup other = if other = name then some value else none := by
  rw [List.lookup_cons]
  by_cases same : other = name
  · simp [same]
  · simp [same, beq_eq_false_iff_ne.mpr same]

/-- A text that may be left out is found exactly if it is not empty. -/
theorem lookup_unlessEmpty (name text other : String) :
    (unlessEmpty name text).lookup other =
      if other = name ∧ text ≠ "" then some (.text text) else none := by
  by_cases empty : text = ""
  · simp [unlessEmpty, empty]
  · simp [unlessEmpty, empty, lookup_singleton]

/-- A text that may be left out stands under its own name. -/
theorem names_unlessEmpty (name text : String) :
    ((unlessEmpty name text).map Prod.fst).Sublist [name] := by
  rw [unlessEmpty]
  split <;> simp

/-- A value that may be missing stands under its own name. -/
theorem names_whenPresent {A : Type} (name : String) (write : A → Value) (value : Option A) :
    ((whenPresent name write value).map Prod.fst).Sublist [name] := by
  cases value <;> simp [whenPresent]

/-- A value that may be missing is found exactly if it is there. -/
theorem lookup_whenPresent {A : Type} (name : String) (write : A → Value) (value : Option A)
    (other : String) : (whenPresent name write value).lookup other =
      if other = name then value.map write else none := by
  cases value with
  | none => simp [whenPresent]
  | some value => simp [whenPresent, lookup_singleton]

/-- All that is read has the property. -/
def Gives {A : Type} (read? : S → Option A) (P : A → Prop) : Prop :=
  ∀ value, ∀ result ∈ read? value, P result

/-- What is read from a field has the property, and so has what stands for a missing one. -/
theorem Gives.field {A : Type} {read? : S → Option A} {P : A → Prop} {fields : List (String × S)}
    {missing : Option A} {result : A} (gives : Gives read? P)
    (read : field fields name read? missing = some result)
    (unread : ∀ result ∈ missing, P result) : P result := by
  rw [Definition.field] at read
  split at read
  · exact gives _ _ read
  · exact unread _ read

/-- What is read from many values has the property. -/
theorem Gives.mapM {A : Type} {read? : S → Option A} {P : A → Prop} (gives : Gives read? P) :
    Gives (List.mapM read?) fun items => ∀ item ∈ items, P item := by
  intro written
  induction written with
  | nil => simp
  | cons value rest ih =>
      intro items read
      simp only [List.mapM_cons, Option.bind_eq_bind, Option.pure_def, Option.mem_def,
        Option.bind_eq_some_iff, Option.some.injEq] at read
      obtain ⟨first, first_read, others, others_read, rfl⟩ := read
      exact List.forall_mem_cons.mpr ⟨gives value first first_read, ih others others_read⟩

end Members

variable {S : Type} [Readable S] {put : Value → S} {members : List (String × Value)} {name : String}

/-- Values are put before a reader so that it sees their texts, truth values, items and members. -/
structure Shows {S : Type} [Readable S] (put : Value → S) : Prop where
  text (text : String) : text? (put (.text text)) = some text
  scalar (text : String) : scalar? (put (.text text)) = some text
  choice (text : String) : choice? (put (.text text)) = some text
  bool (value : Bool) : bool? (put (.bool value)) = some value
  items (items : List Value) : items? (put (.array items)) = some (items.map put)
  members (names : List String) (members : List (String × Value)) :
    members? names (put (.object members)) = known? names (placed put members)
  textThere (text : String) : optional? (put (.text text)) = some (some (put (.text text)))
  itemsThere (items : List Value) :
    optional? (put (.array items)) = some (some (put (.array items)))
  membersThere (members : List (String × Value)) :
    optional? (put (.object members)) = some (some (put (.object members)))

namespace Shows

variable (shows : Shows put)
include shows

/-- Members that are written under known names and in their order are read so. -/
theorem fields (names : List String) (members : List (String × Value))
    (ordered : (members.map Prod.fst).Sublist names) (distinct : names.Nodup) :
    members? names (put (.object members)) = some (placed put members) := by
  rw [shows.members]
  refine known?_of_sublist ?_ distinct
  simpa [placed, Function.comp_def] using ordered

/-- A text is read as a scalar, too. -/
theorem scalarOrEmpty (text : String) : scalarOrEmpty? (put (.text text)) = some text := by
  simp [scalarOrEmpty?, shows.textThere, shows.scalar]

/-- A list is read again if each of its items is. -/
theorem list {A : Type} {read? : S → Option A} {write : A → Value} {items : List A}
    (each : ∀ item ∈ items, read? (put (write item)) = some item) :
    list? read? (put (.array (items.map write))) = some items := by
  have read : items.mapM (read? ∘ put ∘ write) = some items := by
    induction items with
    | nil => rfl
    | cons item items ih =>
        obtain ⟨first, others⟩ := List.forall_mem_cons.mp each
        simp [first, ih others]
  simp [list?, shows.itemsThere, shows.items, read]

/-- A text that is left out when it is empty reads as the empty text then. -/
theorem unlessEmpty (text : String) :
    ((if text = "" then none else some (Value.text text)).map fun value =>
      text? (put value)).getD (some "") = some text := by
  split
  · rename_i empty
    rw [empty]
    rfl
  · simp [shows.text]

/-- An object that is there is read. -/
theorem ifPresent {A : Type} {read? : S → Option A} {members : List (String × Value)} {value : A}
    (read : read? (put (.object members)) = some value) :
    ifPresent? read? (put (.object members)) = some (some value) := by
  simp [ifPresent?, shows.membersThere, read]

/-- A plain operator is read again. -/
theorem operator {operator : Operator} (plain : operator.Plain) :
    operator? (put (ofOperator operator)) = some operator := by
  simp [operator?, ofOperator, shows.text, plain.trimmed, plain.named]

/-- A requirement with a plain operator is read again. -/
theorem requirement {requirement : Requirement} (plain : requirement.operator.Plain) :
    requirement? (put (ofRequirement requirement)) = some requirement := by
  rw [requirement?, ofRequirement, shows.fields _ _ ?ordered (by decide)]
  case ordered => exact .refl ["op", "value"]
  simp [field_placed, List.lookup_cons, shows.operator plain, shows.scalarOrEmpty]

/-- The requirement of an item is read again if its operator has a name. -/
theorem itemRequirement {requirement : Requirement} (plain : requirement.operator.Plain)
    (named : requirement.operator.name ≠ "") :
    itemRequirement? (put (ofRequirement requirement)) = some (some requirement) := by
  rw [itemRequirement?, ofRequirement, shows.membersThere]
  simp only [Option.pure_def, Option.bind_eq_bind, Option.bind_some]
  rw [shows.fields _ _ ?ordered (by decide)]
  case ordered => exact .refl ["op", "value"]
  simp [field_placed, List.lookup_cons, ofOperator, shows.scalarOrEmpty, plain.trimmed,
    plain.named, named]

/-- A plain item is read again. -/
theorem testItem {item : TestItem} (plain : item.Plain) :
    testItem? (put (ofTestItem item)) = some item := by
  have compare := read_whenPresent put item.requirement fun requirement held =>
    shows.itemRequirement (plain requirement held).1 (plain requirement held).2
  rw [testItem?, ofTestItem, shows.fields _ _ ?ordered (by decide)]
  case ordered =>
    simp only [List.map_append]
    exact ((((List.Sublist.refl ["flag"]).append (names_unlessEmpty "path" _)).append
      (names_unlessEmpty "env" _)).append (.refl ["set"])).append (names_whenPresent "compare" _ _)
  simp [field_placed, List.lookup_append, List.lookup_cons, lookup_unlessEmpty,
    lookup_whenPresent, shows.text, shows.bool, shows.unlessEmpty, compare]

/-- A plain combinator is read again. -/
theorem combinator {combinator : Combinator} (plain : combinator.Plain) :
    combinator? (put (ofCombinator combinator)) = some combinator := by
  have named : Combinator.ofName combinator.name = combinator := plain
  simp [combinator?, ifPresent?, ofCombinator, shows.textThere, shows.text, named]

/-- A plain set is read again. -/
theorem testSet {set : TestSet} (plain : set.Plain) :
    testSet? (put (ofTestSet set)) = some set := by
  have items := shows.list fun item member => shows.testItem (plain.items item member)
  rw [testSet?, ofTestSet, shows.fields _ _ ?ordered (by decide)]
  case ordered => exact .refl ["test_items", "bin_op"]
  simp [field_placed, List.lookup_cons, items, shows.combinator plain.combinator]

/-- A mark is read again. -/
theorem mark (mark : Mark) : mark? (put (ofMark mark)) = some (some mark) := by
  simp only [mark?, ifPresent?, ofMark, shows.textThere, shows.text, Option.bind_eq_bind,
    Option.bind_some, Option.map_some]
  cases mark <;> decide

/-- The name of a mark is read again. -/
theorem markName (mark : Mark) : markName? (put (ofMark mark)) = some mark := by
  simp only [markName?, ofMark, shows.choice, Option.bind_some]
  cases mark <;> decide

/-- A plain check is read again. -/
theorem check {check : Check} (plain : check.Plain) :
    check? (put (ofCheck check)) = some check := by
  have marks := read_whenPresent put check.mark fun mark _ => shows.mark mark
  have sets : ∀ tests ∈ check.tests, ifPresent? testSet? (put (ofTestSet tests)) =
      some (some tests) := fun tests held => shows.ifPresent (shows.testSet (plain tests held))
  have tests := read_whenPresent put check.tests sets
  rw [check?, ofCheck, shows.fields _ _ ?ordered (by decide)]
  case ordered =>
    simp only [List.map_append]
    exact (((((List.Sublist.refl ["id", "text", "audit"]).append
      (names_unlessEmpty "audit_config" _)).append (names_unlessEmpty "audit_env" _)).append
      (names_whenPresent "type" _ _)).append (names_whenPresent "tests" _ _)).append
      (.refl ["remediation", "scored", "use_multiple_values", "disable_env_testing"])
  simp [field_placed, List.lookup_append, List.lookup_cons, lookup_unlessEmpty,
    lookup_whenPresent, shows.text, shows.bool, shows.scalarOrEmpty, shows.unlessEmpty, marks,
    tests]

/-- A plain group is read again. -/
theorem group {group : Group} (plain : group.Plain) :
    group? (put (ofGroup group)) = some group := by
  have checks := shows.list fun check member => shows.check (plain check member)
  rw [group?, ofGroup, shows.fields _ _ ?ordered (by decide)]
  case ordered => exact .refl ["id", "text", "type", "checks"]
  simp [field_placed, List.lookup_cons, shows.text, shows.scalarOrEmpty, checks]

/-- A plain catalog is read again. -/
theorem catalog {catalog : Catalog} (plain : catalog.Plain) :
    catalog? (put (ofCatalog catalog)) = some catalog := by
  have groups := shows.list fun group member => shows.group (plain group member)
  rw [catalog?, ofCatalog, shows.fields _ _ ?ordered (by decide)]
  case ordered => exact .refl ["id", "version", "text", "type", "groups"]
  simp [field_placed, List.lookup_cons, shows.text, shows.scalarOrEmpty, groups]

end Shows

namespace Gives

variable {A : Type} {read? : S → Option A} {P : A → Prop}

/-- What is read if it is there has the property then. -/
theorem ifPresent (gives : Gives read? P) :
    Gives (ifPresent? read?) fun held => ∀ result ∈ held, P result := by
  intro value held read
  simp only [ifPresent?, Option.bind_eq_bind, Option.mem_def, Option.bind_eq_some_iff] at read
  obtain ⟨none | there, -, read⟩ := read
  · cases read
    simp
  · obtain ⟨result, result_read, rfl⟩ := Option.map_eq_some_iff.mp read
    simpa using gives there result result_read

/-- All items of a list have the property. -/
theorem list (gives : Gives read? P) :
    Gives (list? read?) fun items => ∀ item ∈ items, P item := by
  intro value items read
  simp only [list?, Option.bind_eq_bind, Option.mem_def, Option.bind_eq_some_iff] at read
  obtain ⟨none | there, -, read⟩ := read
  · cases read
    simp
  · obtain ⟨written, -, items_read⟩ := Option.bind_eq_some_iff.mp read
    exact gives.mapM written items items_read

/-- Operators that are read are plain. -/
theorem operator : Gives (operator? (S := S)) Operator.Plain := by
  intro value operator read
  obtain ⟨name, -, rfl⟩ := Option.map_eq_some_iff.mp read
  exact Operator.plain_ofName (Text.trimmed_trimmed name)

/-- Requirements that are read have plain operators. -/
theorem requirement :
    Gives (requirement? (S := S)) fun requirement => requirement.operator.Plain := by
  intro value requirement read
  simp only [requirement?, Option.bind_eq_bind, Option.pure_def, Option.mem_def,
    Option.bind_eq_some_iff, Option.some.injEq] at read
  obtain ⟨fields, -, operator, read, value, -, rfl⟩ := read
  exact Gives.operator.field read (by simp)

/-- The requirement of an item that is read has a plain operator with a name. -/
theorem itemRequirement : Gives (itemRequirement? (S := S)) fun requirement? =>
    ∀ requirement ∈ requirement?, requirement.operator.Plain ∧ requirement.operator.name ≠ "" := by
  intro value requirement read
  simp only [itemRequirement?, Option.bind_eq_bind, Option.pure_def, Option.mem_def,
    Option.bind_eq_some_iff] at read
  obtain ⟨none | there, -, read⟩ := read
  · cases read
    simp
  · simp only [Option.bind_eq_some_iff, Option.some.injEq] at read
    obtain ⟨fields, -, name, -, value, -, rfl⟩ := read
    split
    · simp
    · rename_i named
      simpa [Operator.name_ofName, Operator.plain_ofName] using named

/-- Items that are read are plain. -/
theorem testItem : Gives (testItem? (S := S)) TestItem.Plain := by
  intro value item read
  simp only [testItem?, Option.bind_eq_bind, Option.pure_def, Option.mem_def,
    Option.bind_eq_some_iff, Option.some.injEq] at read
  obtain ⟨fields, -, flag, -, path, -, environment, -, present, -, requirement, read, rfl⟩ := read
  exact itemRequirement.field read (by simp)

/-- Combinators that are read are plain. -/
theorem combinator : Gives (combinator? (S := S)) Combinator.Plain := by
  intro value combinator read
  obtain ⟨none | name, -, rfl⟩ := Option.map_eq_some_iff.mp read
  · rfl
  · exact Combinator.plain_ofName name

/-- Sets that are read are plain. -/
theorem testSet : Gives (testSet? (S := S)) TestSet.Plain := by
  intro value set read
  simp only [testSet?, Option.bind_eq_bind, Option.pure_def, Option.mem_def,
    Option.bind_eq_some_iff, Option.some.injEq] at read
  obtain ⟨fields, -, items, items_read, combinator, combinator_read, rfl⟩ := read
  exact ⟨testItem.list.field items_read (by simp), Gives.combinator.field combinator_read (by
    simp only [Option.mem_def, Option.some.injEq, forall_eq']; rfl)⟩

/-- Checks that are read are plain. -/
theorem check : Gives (check? (S := S)) Check.Plain := by
  intro value check read
  simp only [check?, Option.bind_eq_bind, Option.pure_def, Option.mem_def,
    Option.bind_eq_some_iff, Option.some.injEq] at read
  obtain ⟨fields, -, id, -, text, -, audit, -, auditConfig, -, auditEnvironment, -, mark, -, tests,
    read, remediation, -, scored, -, multipleValues, -, noEnvironmentProbe, -, rfl⟩ := read
  exact testSet.ifPresent.field read (by simp)

/-- Groups that are read are plain. -/
theorem group : Gives (group? (S := S)) Group.Plain := by
  intro value group read
  simp only [group?, Option.bind_eq_bind, Option.pure_def, Option.mem_def,
    Option.bind_eq_some_iff, Option.some.injEq] at read
  obtain ⟨fields, -, id, -, text, -, kind, -, checks, read, rfl⟩ := read
  exact check.list.field read (by simp)

/-- Catalogs that are read are plain. -/
theorem catalog : Gives (catalog? (S := S)) Catalog.Plain := by
  intro value catalog read
  simp only [catalog?, Option.bind_eq_bind, Option.pure_def, Option.mem_def,
    Option.bind_eq_some_iff, Option.some.injEq] at read
  obtain ⟨fields, -, id, -, version, -, text, -, target, -, groups, read, rfl⟩ := read
  exact group.list.field read (by simp)

end Gives

/-- A JSON value is read as it is. -/
theorem shows_json : Shows (S := Value) id where
  text _ := rfl
  scalar _ := rfl
  choice _ := rfl
  bool _ := rfl
  items items := by simp [items?]
  members names members := by simp [members?, placed]
  textThere _ := rfl
  itemsThere _ := rfl
  membersThere _ := rfl

mutual

/-- The node of a value. Texts are quoted. -/
def nodeOf : Value → Yaml.Node
  | .null => .scalar ⟨none, none⟩ .plain "null"
  | .bool value => .scalar ⟨none, none⟩ .plain (boolText value)
  | .number value => .scalar ⟨none, none⟩ .plain (String.ofList value.chars)
  | .text value => .scalar ⟨none, none⟩ .doubleQuoted value
  | .array items => .sequence ⟨none, none⟩ (nodesOf items)
  | .object members => .mapping ⟨none, none⟩ (pairsOf members)

def nodesOf : List Value → List Yaml.Node
  | [] => []
  | item :: rest => nodeOf item :: nodesOf rest

def pairsOf : List (String × Value) → List (Yaml.Node × Yaml.Node)
  | [] => []
  | (name, value) :: rest =>
      (.scalar ⟨none, none⟩ .doubleQuoted name, nodeOf value) :: pairsOf rest

end

/-- The place in a document where a value stands as its node. -/
def placeOf (document : Yaml.Document) (value : Value) : Place := ⟨document, some (nodeOf value)⟩

/-- A list has a node for each item. -/
theorem nodesOf_eq (items : List Value) : nodesOf items = items.map nodeOf := by
  induction items with
  | nil => rfl
  | cons item rest ih => rw [nodesOf, ih, List.map_cons]

/-- A mapping has a pair for each member, with its name as the key. -/
theorem mapM_pairsOf (document : Yaml.Document) (members : List (String × Value)) :
    ((pairsOf members).mapM fun (key, value) =>
      (Place.keyText? document key).map fun name => (name, Place.mk document (some value))) =
        some (placed (placeOf document) members) := by
  induction members with
  | nil => rfl
  | cons member rest ih =>
      rw [pairsOf, List.mapM_cons, ih]
      rfl

/-- A value is read from its node in any YAML document. -/
theorem shows_yaml (document : Yaml.Document) : Shows (placeOf document) where
  text _ := rfl
  scalar _ := rfl
  choice _ := rfl
  bool value := by cases value <;> rfl
  items items := by
    change some ((nodesOf items).map fun item => Place.mk document (some item)) = _
    rw [nodesOf_eq, List.map_map]
    rfl
  members names members := by
    change Option.bind ((pairsOf members).mapM _) (known? names) = _
    rw [mapM_pairsOf, Option.bind_some]
    rfl
  textThere _ := rfl
  itemsThere _ := rfl
  membersThere _ := rfl

/-- What is read from a value of any kind is read again from what is written of it, as a JSON value
and as a node of any YAML document. -/
def Survives {A : Type} (read? : ∀ {S : Type} [Readable S], S → Option A) (write : A → Value) :
    Prop :=
  ∀ {S : Type} [Readable S] (value : S), ∀ definition ∈ read? value,
    read? (write definition) = some definition ∧
      ∀ document, read? (placeOf document (write definition)) = some definition

/-- What is plain once it was read survives, in JSON and in YAML. -/
theorem survives_of_shows {A : Type} {read? : ∀ {S : Type} [Readable S], S → Option A}
    {write : A → Value} {P : A → Prop} (gives : ∀ {S : Type} [Readable S], Gives (read? (S := S)) P)
    (reread : ∀ {S : Type} [Readable S] {put : Value → S}, Shows put →
      ∀ {definition}, P definition → read? (put (write definition)) = some definition) :
    Survives read? write := by
  intro S _ value definition read
  have plain := gives value definition read
  exact ⟨reread shows_json plain, fun document => reread (shows_yaml document) plain⟩

/-- Catalogs and all that they are made of survive being written and read again. -/
theorem definitions_survive_writing :
    Survives check? ofCheck ∧ Survives testItem? ofTestItem ∧ Survives testSet? ofTestSet ∧
      Survives requirement? ofRequirement ∧ Survives combinator? ofCombinator ∧
      Survives operator? ofOperator ∧ Survives markName? ofMark ∧ Survives group? ofGroup ∧
      Survives catalog? ofCatalog := by
  refine ⟨?check, ?testItem, ?testSet, ?requirement, ?combinator, ?operator, ?mark, ?group,
    ?catalog⟩
  case check => exact survives_of_shows Gives.check Shows.check
  case testItem => exact survives_of_shows Gives.testItem Shows.testItem
  case testSet => exact survives_of_shows Gives.testSet Shows.testSet
  case requirement => exact survives_of_shows Gives.requirement Shows.requirement
  case combinator => exact survives_of_shows Gives.combinator Shows.combinator
  case operator => exact survives_of_shows Gives.operator Shows.operator
  case mark =>
    intro S _ value mark _
    exact ⟨shows_json.markName mark, fun document => (shows_yaml document).markName mark⟩
  case group => exact survives_of_shows Gives.group Shows.group
  case catalog => exact survives_of_shows Gives.catalog Shows.catalog

/-- A check with a number as its id, a blank mark, no list of items and a padded name. -/
def padded : Value :=
  .object [("id", .number (.integer 4)), ("type", .text "  "), ("audit", .text " ps "),
    ("tests", .object [("test_items", .null), ("bin_op", .text " xor ")])]

/-- The name of this combinator loses its blanks once, and is kept from then on. -/
theorem definitions_survive_writing_padded :
    ∃ check, check? padded = some check ∧ check? (ofCheck check) = some check ∧
      check.tests = some ⟨[], .unrecognized "xor"⟩ := by
  let check : Check :=
    ⟨"4", "", " ps ", "", "", none, some ⟨[], .unrecognized "xor"⟩, "", false, false, false⟩
  have read : check? padded = some check := by decide
  exact ⟨check, read, (definitions_survive_writing.1 padded check read).1, rfl⟩

end Definition

end HostAudit
