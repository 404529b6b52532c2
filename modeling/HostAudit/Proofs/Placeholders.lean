import HostAudit.Proofs.NamedValues
import Mathlib.Data.List.Forall2
import Mathlib.Data.List.Infix

/-
This file says how the placeholders of a text are filled. A text falls into characters and
placeholders in one way only, where a placeholder has the longest name behind its dollar; each
placeholder whose name has a value gives way to it, and all else stays as it is.
-/

namespace HostAudit

namespace Placeholder

variable {name other text : List Char} {values : Substitutions}

/-- A letter from A to Z in either case, or an underscore. -/
def IsLetter (c : Char) : Prop := 'A' ≤ c ∧ c ≤ 'Z' ∨ 'a' ≤ c ∧ c ≤ 'z' ∨ c = '_'

/-- A name begins with a letter or an underscore, and digits from 0 to 9 may follow as well. -/
def IsName (name : List Char) : Prop :=
  ∃ first rest, name = first :: rest ∧ IsLetter first ∧
    ∀ c ∈ rest, IsLetter c ∨ '0' ≤ c ∧ c ≤ '9'

/-- The longest name that a text begins with. -/
structure LongestName (name text : List Char) : Prop where
  isName : IsName name
  begins : name <+: text
  longest : ∀ other, IsName other → other <+: text → other.length ≤ name.length

/-- The chunks of a text. A dollar before a name is no character of the text, but begins a
placeholder with the longest name there. -/
inductive FallsInto : List Char → List Chunk → Prop where
  | nil : FallsInto [] []
  | character {c : Char} {text : List Char} {chunks : List Chunk}
      (plain : c = '$' → ∀ name, IsName name → ¬ name <+: text) (others : FallsInto text chunks) :
      FallsInto (c :: text) (.character c :: chunks)
  | placeholder {name text : List Char} {chunks : List Chunk}
      (longest : LongestName name (name ++ text)) (others : FallsInto text chunks) :
      FallsInto ('$' :: (name ++ text)) (.placeholder name :: chunks)

/-- What stands for a chunk in the filled text. -/
inductive Replaced (values : Substitutions) : Chunk → List Char → Prop where
  | character (c : Char) : Replaced values (.character c) [c]
  | known {name : List Char} {value : String}
      (held : values.lookup (String.ofList name) = some value) :
      Replaced values (.placeholder name) value.toList
  | unknown {name : List Char} (missing : String.ofList name ∉ values.map Prod.fst) :
      Replaced values (.placeholder name) ('$' :: name)

section Names

/-- Names start with the letters and the underscore. -/
theorem startsName_iff {c : Char} : startsName c = true ↔ IsLetter c := by
  have upper : c.isUpper = true ↔ 'A' ≤ c ∧ c ≤ 'Z' := decide_eq_true_iff
  have lower : c.isLower = true ↔ 'a' ≤ c ∧ c ≤ 'z' := by
    change (decide ('a' ≤ c) && decide (c ≤ 'z')) = true ↔ _
    rw [Bool.and_eq_true, decide_eq_true_iff, decide_eq_true_iff]
  change ((c.isUpper || c.isLower) || c == '_') = true ↔ _
  rw [Bool.or_eq_true, Bool.or_eq_true, upper, lower, beq_iff_eq, or_assoc, IsLetter]

/-- Names go on with letters, digits and the underscore. -/
theorem continuesName_iff {c : Char} :
    continuesName c = true ↔ IsLetter c ∨ '0' ≤ c ∧ c ≤ '9' := by
  have digit : c.isDigit = true ↔ '0' ≤ c ∧ c ≤ '9' := by simp [Char.isDigit, Char.le_def]
  rw [← startsName_iff, ← digit, startsName, continuesName, Char.isAlphanum]
  simp only [Bool.or_eq_true]
  exact or_right_comm

/-- All characters of a name may go on a name. -/
theorem IsName.continues (isName : IsName name) : ∀ c ∈ name, continuesName c = true := by
  obtain ⟨first, rest, rfl, starts, continues⟩ := isName
  exact List.forall_mem_cons.mpr
    ⟨continuesName_iff.mpr (.inl starts), fun c among => continuesName_iff.mpr (continues c among)⟩

/-- A text begins with one longest name at most. -/
theorem LongestName.unique (one : LongestName name text) (another : LongestName other text) :
    name = other := by
  have shorter := one.longest other another.isName another.begins
  have longer := another.longest name one.isName one.begins
  exact (List.prefix_of_prefix_length_le one.begins another.begins longer).eq_of_length
    (Nat.le_antisymm longer shorter)

/-- A text that begins like a name begins with a name, which goes on as long as it can. -/
theorem longestName_takeWhile {c : Char} (starts : startsName c = true) (rest : List Char) :
    LongestName ((c :: rest).takeWhile continuesName) (c :: rest) := by
  have letter := startsName_iff.mp starts
  have whole : (c :: rest).takeWhile continuesName = c :: rest.takeWhile continuesName :=
    List.takeWhile_cons_of_pos (continuesName_iff.mpr (.inl letter))
  have continues : ∀ d ∈ rest.takeWhile continuesName, IsLetter d ∨ '0' ≤ d ∧ d ≤ '9' :=
    fun d among => continuesName_iff.mp (List.all_eq_true.mp List.all_takeWhile d among)
  refine ⟨⟨c, _, whole, letter, continues⟩, List.takeWhile_prefix _,
    fun other isName begins => ?_⟩
  obtain ⟨behind, split⟩ := begins
  rw [← split, List.takeWhile_append_of_pos isName.continues, List.length_append]
  exact Nat.le_add_right _ _

/-- No name is found exactly if the text begins with none. -/
theorem name?_eq_none_iff : name? text = none ↔ ∀ name, IsName name → ¬ name <+: text := by
  cases text with
  | nil =>
      refine iff_of_true rfl fun name isName begins => ?_
      obtain ⟨first, rest, rfl, -⟩ := isName
      exact absurd (List.prefix_nil.mp begins) (List.cons_ne_nil _ _)
  | cons c rest =>
      by_cases starts : startsName c = true
      · refine iff_of_false (by simp [name?, starts]) fun none => ?_
        have longest := longestName_takeWhile starts rest
        exact none _ longest.isName longest.begins
      · refine iff_of_true (by simp [name?, starts]) fun name isName begins => ?_
        obtain ⟨first, others, rfl, begun, -⟩ := isName
        obtain ⟨rfl, -⟩ := List.cons_prefix_cons.mp begins
        exact starts (startsName_iff.mpr begun)

/-- The name that is found is the longest one. -/
theorem name?_eq_some_iff : name? text = some name ↔ LongestName name text := by
  have longest (some : (name? text).isSome = true) : ∃ name, name? text = .some name ∧
      LongestName name text := by
    cases text with
    | nil => cases some
    | cons c rest =>
        by_cases starts : startsName c = true
        · exact ⟨_, by simp [name?, starts], longestName_takeWhile starts rest⟩
        · simp [name?, starts] at some
  constructor
  · intro read
    obtain ⟨same, again, longest⟩ := longest (Option.isSome_of_eq_some read)
    rwa [Option.some.inj (read.symm.trans again)]
  · intro given
    obtain ⟨same, read, longest⟩ := longest (by
      by_contra none
      exact name?_eq_none_iff.mp (Option.not_isSome_iff_eq_none.mp none) name given.isName
        given.begins)
    rw [read, longest.unique given]

end Names

section Chunks

/-- A character that begins no placeholder is a chunk of its own. -/
theorem chunks_of_plain {c : Char} (plain : c = '$' → ∀ name, IsName name → ¬ name <+: text) :
    chunks (c :: text) = .character c :: chunks text := by
  rw [chunks]
  split
  · rename_i dollar
    rw [name?_eq_none_iff.mpr (plain dollar)]
  · rfl

/-- A dollar and the longest name behind it are one placeholder. -/
theorem chunks_of_longestName (longest : LongestName name (name ++ text)) :
    chunks ('$' :: (name ++ text)) = .placeholder name :: chunks text := by
  rw [chunks, if_pos rfl, name?_eq_some_iff.mpr longest]
  simp

/-- A text is cut as it falls into chunks. -/
theorem fallsInto_chunks (text : List Char) : FallsInto text (chunks text) := by
  induction text using chunks.induct with
  | case1 =>
      rw [chunks]
      exact .nil
  | case2 rest name read ih =>
      have longest := name?_eq_some_iff.mp read
      obtain ⟨behind, rfl⟩ := longest.begins
      rw [List.drop_left] at ih
      rw [chunks_of_longestName longest]
      exact .placeholder longest ih
  | case3 rest read ih =>
      have plain := name?_eq_none_iff.mp read
      rw [chunks_of_plain fun _ => plain]
      exact .character (fun _ => plain) ih
  | case4 c rest different ih =>
      rw [chunks_of_plain fun dollar => absurd dollar different]
      exact .character (fun dollar => absurd dollar different) ih

/-- A text falls into its chunks and no others. -/
theorem fallsInto_iff {parts : List Chunk} : FallsInto text parts ↔ parts = chunks text := by
  constructor
  · intro falls
    induction falls with
    | nil => rw [chunks]
    | character plain others ih => rw [chunks_of_plain plain, ih]
    | placeholder longest others ih => rw [chunks_of_longestName longest, ih]
  · rintro rfl
    exact fallsInto_chunks text

/-- The chunks are together the text again. -/
theorem FallsInto.written {parts : List Chunk} (falls : FallsInto text parts) :
    parts.flatMap Chunk.chars = text := by
  induction falls with
  | nil => rfl
  | character plain others ih => rw [List.flatMap_cons, ih]; rfl
  | placeholder longest others ih => rw [List.flatMap_cons, ih]; rfl

end Chunks

section Filling

variable {values others : Substitutions} {text : String}

/-- A chunk is filled with what stands for it. -/
theorem replaced_filled (values : Substitutions) (chunk : Chunk) :
    Replaced values chunk (chunk.filled values) := by
  cases chunk with
  | character c => exact .character c
  | placeholder name =>
      rw [Chunk.filled]
      cases held : values.lookup (String.ofList name) with
      | some value => exact .known held
      | none => exact .unknown (Substitutions.lookup_eq_none_iff.mp held)

/-- What stands for a placeholder is a matter of the value of its name. -/
theorem Replaced.congr {piece : List Char} (replaced : Replaced values (.placeholder name) piece)
    (same : values.lookup (String.ofList name) = others.lookup (String.ofList name)) :
    Replaced others (.placeholder name) piece := by
  cases replaced with
  | known held => exact .known (same ▸ held)
  | unknown missing =>
      have none := Substitutions.lookup_eq_none_iff.mpr missing
      exact .unknown (Substitutions.lookup_eq_none_iff.mp (same ▸ none))

/-- Filling is a matter of the values of the names that occur. -/
theorem fill_congr (same : ∀ name, .placeholder name ∈ chunks text.toList →
      values.lookup (String.ofList name) = others.lookup (String.ofList name)) :
    fill values text = fill others text := by
  refine congrArg String.ofList (List.flatMap_congr fun chunk among => ?_)
  cases chunk with
  | character c => rfl
  | placeholder name => simp only [Chunk.filled, same name among]

/-- A text stays as it is if each of its placeholders is given itself or nothing. -/
theorem fill_eq_self (kept : ∀ name, .placeholder name ∈ chunks text.toList →
      ∀ value, values.lookup (String.ofList name) = some value → value.toList = '$' :: name) :
    fill values text = text := by
  have written : (chunks text.toList).flatMap (Chunk.filled values) = text.toList := by
    refine (List.flatMap_congr fun chunk among => ?_).trans (fallsInto_chunks text.toList).written
    cases chunk with
    | character c => rfl
    | placeholder name =>
        rw [Chunk.filled, Chunk.chars]
        cases held : values.lookup (String.ofList name) with
        | none => rfl
        | some value => exact kept name among value held
  rw [fill, written, String.ofList_toList]

/-- A name is among those of the chunks exactly if it has a placeholder there. -/
theorem mem_names_iff {parts : List Chunk} {name : String} :
    name ∈ parts.filterMap Chunk.name? ↔ .placeholder name.toList ∈ parts := by
  rw [List.mem_filterMap]
  constructor
  · rintro ⟨chunk, among, named⟩
    cases chunk with
    | character c => cases named
    | placeholder characters =>
        obtain rfl := Option.some.inj named
        rwa [String.toList_ofList]
  · exact fun among => ⟨_, among, by rw [Chunk.name?, String.ofList_toList]⟩

/-- The values that are applied are those whose names have a placeholder in the text. -/
theorem mem_applied_iff {name : String} :
    name ∈ applied values text ↔
      name ∈ values.map Prod.fst ∧ .placeholder name.toList ∈ chunks text.toList := by
  rw [applied, List.mem_filter, List.contains_iff_mem, mem_names_iff]

/-- A value under a name that does not occur is not used. -/
theorem applied_insert {key : String} (absent : .placeholder key.toList ∉ chunks text.toList)
    (value : String) : applied (values.insert key value) text = applied values text := by
  refine Substitutions.filter_insert ?_ value
  rwa [Bool.eq_false_iff, ne_eq, List.contains_iff_mem, mem_names_iff]

/-- All chunks are filled with what stands for them. -/
theorem forall₂_replaced (values : Substitutions) (parts : List Chunk) :
    List.Forall₂ (Replaced values) parts (parts.map (Chunk.filled values)) := by
  rw [List.forall₂_map_right_iff, List.forall₂_same]
  exact fun chunk _ => replaced_filled values chunk

end Filling

/-- A text falls into characters and placeholders in one way, and the filled text is what stands for
them one after another. The values that were used are those of the names that occur. A key that is
only the beginning of a name does nothing to it, keys that do not occur do nothing at all, and
values that are placeholders of their own names leave the text as it is. -/
theorem fill_replaces_whole_names (values : Substitutions) (text : String) :
    ∃ parts, (∀ others, FallsInto text.toList others ↔ others = parts) ∧
      parts.flatMap Chunk.chars = text.toList ∧
      (∃ pieces, List.Forall₂ (Replaced values) parts pieces ∧
        (fill values text).toList = pieces.flatten) ∧
      (∀ name, name ∈ applied values text ↔
        name ∈ values.map Prod.fst ∧ .placeholder name.toList ∈ parts) ∧
      (applied values text).Sublist (values.map Prod.fst) ∧
      (∀ name key value piece, .placeholder name ∈ parts → key.toList <+: name →
        key.toList ≠ name →
        (Replaced (values.insert key value) (.placeholder name) piece ↔
          Replaced values (.placeholder name) piece)) ∧
      (∀ key value, .placeholder key.toList ∉ parts →
        fill (values.insert key value) text = fill values text ∧
          applied (values.insert key value) text = applied values text) ∧
      ∀ keys : List String, fill (keys.map fun key => (key, "$" ++ key)) text = text := by
  have lookup_other {key : String} {name : List Char} (different : key.toList ≠ name)
      (value : String) : (values.insert key value).lookup (String.ofList name) =
        values.lookup (String.ofList name) := by
    rw [Substitutions.lookup_insert, if_neg]
    rintro rfl
    exact different String.toList_ofList
  refine ⟨chunks text.toList, fun others => fallsInto_iff, (fallsInto_chunks _).written, ?pieces,
    fun name => mem_applied_iff, List.filter_sublist, ?begun, ?absent, ?kept⟩
  case pieces =>
    refine ⟨_, forall₂_replaced values _, ?_⟩
    rw [fill, String.toList_ofList, List.flatMap_def]
  case begun =>
    intro name key value piece _ _ different
    have same := lookup_other different value
    exact ⟨fun replaced => replaced.congr same, fun replaced => replaced.congr same.symm⟩
  case absent =>
    intro key value absent
    refine ⟨fill_congr fun name among => lookup_other ?_ value, applied_insert absent value⟩
    rintro rfl
    exact absent among
  case kept =>
    intro keys
    refine fill_eq_self fun name _ value held => ?_
    obtain ⟨before, after, split, -⟩ := List.lookup_eq_some_iff.mp held
    obtain ⟨key, -, same⟩ := List.mem_map.mp (split ▸ List.mem_append_right before
      List.mem_cons_self)
    obtain ⟨rfl, rfl⟩ := Prod.mk.inj same
    simp

example : fill [("kube", "$kubelet"), ("kubelet", "k$")] "$kube $kubelet $kubelets $$kube $1" =
    "$kubelet k$ $kubelets $$kubelet $1" := by decide +kernel

end Placeholder

end HostAudit
