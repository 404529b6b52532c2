import HostAudit.Catalog.Discovery
import HostAudit.Proofs.Pieces
import Mathlib.Data.List.Lex
import Mathlib.Data.Prod.Lex
import Mathlib.Data.String.Basic

/-
This file says how paths are made of names: what the components of a path are, in which order paths
stand, and where a path leads that has more names at its end.
-/

namespace HostAudit

/-- A name that an entry of a directory can have. -/
def IsFileName (name : String) : Prop :=
  name ≠ "" ∧ name ≠ "." ∧ name ≠ ".." ∧ '/' ∉ name.toList

instance : DecidablePred IsFileName := fun name =>
  inferInstanceAs (Decidable (name ≠ "" ∧ name ≠ "." ∧ name ≠ ".." ∧ '/' ∉ name.toList))

namespace FileNode

/-- A node as a file system holds it: the entries of every directory have names of their own. -/
inductive Proper : FileNode → Prop
  | file (bytes : List UInt8) : Proper (.file bytes)
  | link (target : String) : Proper (.link target)
  | directory {entries : List (String × FileNode)} (named : ∀ entry ∈ entries, IsFileName entry.1)
      (distinct : (entries.map Prod.fst).Nodup) (each : ∀ entry ∈ entries, Proper entry.2) :
      Proper (.directory entries)

/-- Names lead on from where other names have led. -/
theorem at?_append (first second : List String) (node : FileNode) :
    node.at? (first ++ second) = (node.at? first).bind (at? second) := by
  induction first generalizing node with
  | nil => rfl
  | cons name rest ih =>
      cases node with
      | directory entries =>
          simp only [List.cons_append, at?]
          cases entries.lookup name with
          | none => rfl
          | some inner => exact ih inner
      | file bytes => rfl
      | link target => rfl

/-- Names lead on from directories only. -/
theorem exists_entry {name : String} {rest : List String} {node reached : FileNode}
    (leads : node.at? (name :: rest) = some reached) :
    ∃ entries inner, node = .directory entries ∧ entries.lookup name = some inner ∧
      inner.at? rest = some reached := by
  cases node with
  | directory entries =>
      obtain ⟨inner, found, further⟩ := Option.bind_eq_some_iff.mp leads
      exact ⟨entries, inner, rfl, found, further⟩
  | file bytes => cases leads
  | link target => cases leads

/-- What is found under a name is an entry with this name. -/
theorem mem_of_lookup {name : String} {entries : List (String × FileNode)} {node : FileNode}
    (found : entries.lookup name = some node) : (name, node) ∈ entries := by
  obtain ⟨before, after, rfl, -⟩ := List.lookup_eq_some_iff.mp found
  simp

/-- What is reached in a proper tree is proper. -/
theorem Proper.at? {names : List String} {node reached : FileNode} (proper : node.Proper)
    (leads : node.at? names = some reached) : reached.Proper := by
  induction names generalizing node with
  | nil =>
      obtain rfl := Option.some.inj leads
      exact proper
  | cons name rest ih =>
      obtain ⟨entries, inner, rfl, found, further⟩ := exists_entry leads
      cases proper with
      | directory named distinct each => exact ih (each _ (mem_of_lookup found)) further

end FileNode

namespace FileTree

open Text (pieces)

section Components

/-- The root, the directory itself, the directory above, or a name. -/
inductive Component where
  | root
  | current
  | parent
  | name (text : String)
deriving DecidableEq, Repr

/-- Names come last, and in the order of their characters. -/
def Component.key : Component → Nat ×ₗ String
  | root => toLex (0, "")
  | current => toLex (1, "")
  | parent => toLex (2, "")
  | name text => toLex (3, text)

/-- What a part of a path stands for. Empty parts and single dots stand for nothing. -/
def component? (part : String) : Option Component :=
  if part = "" ∨ part = "." then none
  else if part = ".." then some .parent
  else some (.name part)

/-- The components of a path. A single dot counts only where a path begins with it. -/
def components (path : String) : List Component :=
  (if isAbsolute path then [.root]
    else if (pieces '/' path).head? = some "." then [.current] else []) ++
    (pieces '/' path).filterMap component?

/-- One path stands before another when its components do, compared one by one. -/
def PathBefore (first second : String) : Prop :=
  (components first).map Component.key < (components second).map Component.key

/-- Paths that follow one another are different. -/
theorem PathBefore.ne {first second : String} (before : PathBefore first second) :
    first ≠ second := by
  rintro rfl
  exact lt_irrefl _ before

end Components

section Extending

variable {path name : String}

/-- A name is one more piece. It takes the place of the empty piece behind a slash at the end. -/
theorem pieces_extended (path : String) (whole : '/' ∉ name.toList) :
    ∃ front, front ≠ [] ∧ pieces '/' (Catalog.extended path name) = front ++ [name] ∧
      pieces '/' path = front ++ if path.toList.getLast? = some '/' then [""] else [] := by
  have last : Text.splitAt '/' name.toList = [name.toList] := Text.splitAt_of_not_mem whole
  by_cases slash : path.toList.getLast? = some '/'
  · obtain ⟨start, written⟩ := List.getLast?_eq_some_iff.mp slash
    refine ⟨(Text.splitAt '/' start).map String.ofList, by simp [Text.splitAt_ne_nil], ?_, ?_⟩
    · rw [Catalog.extended, if_pos slash, pieces, String.toList_append, written, List.append_assoc,
        List.singleton_append, Text.splitAt_append_cons, last]
      simp
    · rw [if_pos slash, pieces, written, Text.splitAt_append_cons]
      simp [Text.splitAt]
  · refine ⟨pieces '/' path, by simp [pieces, Text.splitAt_ne_nil], ?_, by simp [slash]⟩
    have separator : "/".toList = ['/'] := by decide
    rw [Catalog.extended, if_neg slash, pieces, String.toList_append, String.toList_append,
      List.append_assoc, separator, List.singleton_append, Text.splitAt_append_cons, last,
      List.map_append]
    simp [pieces]

/-- A path with a name behind it is not empty. -/
theorem extended_ne_empty (filled : name ≠ "") : Catalog.extended path name ≠ "" := by
  rw [Catalog.extended]
  split <;> simp [filled]

/-- A name behind a path does not change where the path begins. -/
theorem isAbsolute_extended (filled : path ≠ "") :
    isAbsolute (Catalog.extended path name) = isAbsolute path := by
  obtain ⟨c, rest, written⟩ : ∃ c rest, path.toList = c :: rest :=
    List.exists_cons_of_ne_nil (by simpa using filled)
  rw [Catalog.extended, isAbsolute, isAbsolute]
  split <;> simp [written]

/-- A name behind a path is one more component. -/
theorem components_extended (filled : path ≠ "") (isName : IsFileName name) :
    components (Catalog.extended path name) = components path ++ [.name name] := by
  obtain ⟨nonempty, noDot, noDots, whole⟩ := isName
  obtain ⟨front, some, extended, original⟩ := pieces_extended path whole
  obtain ⟨piece, rest, rfl⟩ := List.exists_cons_of_ne_nil some
  have named : component? name = Option.some (.name name) := by
    rw [component?, if_neg (by simp [nonempty, noDot]), if_neg noDots]
  have empty : (if path.toList.getLast? = Option.some '/' then [""] else []).filterMap component? =
      [] := by
    split <;> simp [component?]
  rw [components, components, isAbsolute_extended filled, extended, original, List.filterMap_append,
    List.filterMap_append, empty, List.append_nil, List.append_assoc]
  simp [named]

/-- Names behind a path are as many more components. -/
theorem components_foldl {names : List String} (filled : path ≠ "")
    (areNames : ∀ name ∈ names, IsFileName name) :
    components (names.foldl Catalog.extended path) = components path ++ names.map .name := by
  induction names generalizing path with
  | nil => simp
  | cons name rest ih =>
      obtain ⟨isName, others⟩ := List.forall_mem_cons.mp areNames
      rw [List.foldl_cons, ih (extended_ne_empty isName.1) others,
        components_extended filled isName]
      simp

/-- Paths below the same path stand in the order of the names that follow it. -/
theorem pathBefore_foldl {first second : List String} (filled : path ≠ "")
    (areNames : ∀ name ∈ first, IsFileName name) (areNames' : ∀ name ∈ second, IsFileName name)
    (less : first < second) :
    PathBefore (first.foldl Catalog.extended path) (second.foldl Catalog.extended path) := by
  have keys : (first.map Component.name).map Component.key <
      (second.map Component.name).map Component.key := by
    rw [List.map_map, List.map_map]
    refine List.map_lt (fun name other before => ?_) less
    exact Prod.Lex.toLex_lt_toLex.mpr (.inr ⟨rfl, before⟩)
  rw [PathBefore, components_foldl filled areNames, components_foldl filled areNames',
    List.map_append, List.map_append]
  exact List.append_left_lt keys

end Extending

section Following

variable {tree : FileTree} {links left : Nat} {place reached : List String}
  {walked names : List String}

/-- How a walk along the parts of a path goes: from a number of links that it may pass and a place,
to the number that it has left and the place that it reaches. -/
inductive Goes (tree : FileTree) : Nat → List String → List String → Nat → List String → Prop
  | stay {links : Nat} {place : List String} : Goes tree links place [] links place
  | dot {links left : Nat} {place rest reached : List String} {entries : List (String × FileNode)}
      (here : tree.root.at? place = some (.directory entries))
      (further : Goes tree links place rest left reached) :
      Goes tree links place ("." :: rest) left reached
  | up {links left : Nat} {place rest reached : List String} {entries : List (String × FileNode)}
      (here : tree.root.at? place = some (.directory entries))
      (further : Goes tree links place.dropLast rest left reached) :
      Goes tree links place (".." :: rest) left reached
  | link {links left : Nat} {place rest reached : List String} {entries : List (String × FileNode)}
      {name target : String} (here : tree.root.at? place = some (.directory entries))
      (noDot : name ≠ ".") (noDots : name ≠ "..")
      (found : entries.lookup name = some (.link target))
      (further : Goes tree links (if isAbsolute target then [] else place) (parts target ++ rest)
        left reached) :
      Goes tree (links + 1) place (name :: rest) left reached
  | enter {links left : Nat} {place rest reached : List String}
      {entries : List (String × FileNode)} {name : String} {node : FileNode}
      (here : tree.root.at? place = some (.directory entries))
      (noDot : name ≠ ".") (noDots : name ≠ "..") (found : entries.lookup name = some node)
      (noLink : ∀ target, node ≠ .link target)
      (further : Goes tree links (place ++ [name]) rest left reached) :
      Goes tree links place (name :: rest) left reached

/-- A walk that ended somewhere went there step by step. -/
theorem exists_goes (went : tree.follow links place walked = .ok reached) :
    ∃ left, Goes tree links place walked left reached := by
  fun_induction FileTree.follow tree links place walked with
  | case1 links place =>
      obtain rfl := Except.ok.inj went
      exact ⟨links, .stay⟩
  | case2 links place rest entries here ih =>
      obtain ⟨left, further⟩ := ih went
      exact ⟨left, .dot here further⟩
  | case3 links place rest entries here _ ih =>
      obtain ⟨left, further⟩ := ih went
      exact ⟨left, .up here further⟩
  | case4 => cases went
  | case5 => cases went
  | case6 place name rest entries here noDot noDots target found links ih =>
      obtain ⟨left, further⟩ := ih went
      exact ⟨left, .link here noDot noDots found further⟩
  | case7 links place name rest entries here noDot noDots node noLink found ih =>
      obtain ⟨left, further⟩ := ih went
      exact ⟨left, .enter here noDot noDots found noLink further⟩
  | case8 => cases went
  | case9 => cases went

/-- A walk goes on from the place that its first parts reach. -/
theorem Goes.follow_append (goes : Goes tree links place walked left reached)
    (further : List String) :
    tree.follow links place (walked ++ further) = tree.follow left reached further := by
  induction goes with
  | stay => rfl
  | dot here _ ih => rw [List.cons_append, follow, here]; simpa using ih
  | up here _ ih => rw [List.cons_append, follow, here]; simpa using ih
  | link here noDot noDots found _ ih =>
      rw [List.cons_append, follow, here]
      simpa [noDot, noDots, found] using ih
  | @enter links left place rest reached entries name node here noDot noDots found noLink _ ih =>
      rw [List.cons_append, follow, here]
      cases node with
      | link target => exact absurd rfl (noLink target)
      | file bytes => simpa [noDot, noDots, found] using ih
      | directory entries => simpa [noDot, noDots, found] using ih

/-- A dot at the end leads nowhere else. -/
theorem Goes.of_append_dot (goes : Goes tree links place (walked ++ ["."]) left reached) :
    Goes tree links place walked left reached := by
  generalize same : walked ++ ["."] = parts at goes
  induction goes generalizing walked with
  | stay => simp at same
  | dot here further ih =>
      cases walked with
      | nil =>
          obtain rfl : [] = _ := (List.cons.inj same).2
          exact further
      | cons part walked =>
          obtain ⟨rfl, behind⟩ := List.cons.inj same
          exact .dot here (ih behind)
  | up here further ih =>
      cases walked with
      | nil => exact absurd (List.cons.inj same).1 (by decide)
      | cons part walked =>
          obtain ⟨rfl, behind⟩ := List.cons.inj same
          exact .up here (ih behind)
  | link here noDot noDots found further ih =>
      cases walked with
      | nil => exact absurd (List.cons.inj same).1.symm noDot
      | cons part walked =>
          obtain ⟨rfl, behind⟩ := List.cons.inj same
          refine .link here noDot noDots found (ih ?_)
          rw [List.append_assoc]
          exact congrArg _ behind
  | enter here noDot noDots found noLink further ih =>
      cases walked with
      | nil => exact absurd (List.cons.inj same).1.symm noDot
      | cons part walked =>
          obtain ⟨rfl, behind⟩ := List.cons.inj same
          exact .enter here noDot noDots found noLink (ih behind)

end Following

section Places

variable {tree : FileTree} {path name : String}

/-- A path with a name behind it does not end in a slash. -/
theorem getLast?_extended (path : String) (isName : IsFileName name) :
    (Catalog.extended path name).toList.getLast? ≠ some '/' := by
  obtain ⟨start, c, written⟩ : ∃ start c, name.toList = start ++ [c] :=
    (List.eq_nil_or_concat' name.toList).resolve_left (by simpa using isName.1)
  obtain ⟨before, ends⟩ : ∃ before, (Catalog.extended path name).toList = before ++ [c] := by
    rw [Catalog.extended]
    split
    · exact ⟨path.toList ++ start, by simp [written]⟩
    · exact ⟨path.toList ++ '/' :: start, by simp [written]⟩
  rw [ends, List.getLast?_concat]
  intro slash
  obtain rfl := Option.some.inj slash
  exact isName.2.2.2 (by simp [written])

/-- The parts of a path with a name behind it are those of the path and the name. -/
theorem exists_parts (path : String) (isName : IsFileName name) :
    ∃ front, parts (Catalog.extended path name) = front ++ [name] ∧
      (parts path = front ∨ parts path = front ++ ["."]) := by
  obtain ⟨front, -, extended, original⟩ := pieces_extended path isName.2.2.2
  have kept : [name].filter (· != "") = [name] := by simp [isName.1]
  refine ⟨front.filter (· != ""), ?_, ?_⟩
  · rw [parts, if_neg (getLast?_extended path isName), extended, List.filter_append, kept]
  · rw [parts, original]
    by_cases slash : path.toList.getLast? = some '/'
    · rw [if_pos slash, if_pos slash]
      exact .inr (by simp)
    · rw [if_neg slash, if_neg slash]
      exact .inl (by simp)

/-- A path that leads somewhere is not empty. -/
theorem ne_empty_of_place {place : List String} (reached : tree.place path = .ok place) :
    path ≠ "" := by
  rintro rfl
  cases reached

/-- A path with one more name leads into the directory that the path leads to. -/
theorem place_extended {place : List String} {entries : List (String × FileNode)} {node : FileNode}
    (reached : tree.place path = .ok place)
    (here : tree.root.at? place = some (.directory entries)) (isName : IsFileName name)
    (found : entries.lookup name = some node) (noLink : ∀ target, node ≠ .link target) :
    tree.place (Catalog.extended path name) = .ok (place ++ [name]) := by
  have filled := ne_empty_of_place reached
  obtain ⟨front, extended, original⟩ := exists_parts path isName
  have start : tree.start (Catalog.extended path name) = tree.start path := by
    rw [FileTree.start, FileTree.start, isAbsolute_extended filled]
  rw [FileTree.place, if_neg filled] at reached
  obtain ⟨left, goes⟩ := exists_goes reached
  have front : Goes tree linkLimit (tree.start path) front left place := by
    rcases original with same | dotted
    · rwa [same] at goes
    · rw [dotted] at goes
      exact goes.of_append_dot
  have entered : Goes tree left place [name] left (place ++ [name]) :=
    .enter here isName.2.1 isName.2.2.1 found noLink .stay
  rw [FileTree.place, if_neg (extended_ne_empty isName.1), extended, start, front.follow_append]
  simpa [follow] using entered.follow_append []

/-- A file below a directory is reached by the path of the directory and the names between. -/
theorem place_foldl {names place : List String} {node : FileNode} {bytes : List UInt8}
    (reached : tree.place path = .ok place) (here : tree.root.at? place = some node)
    (proper : node.Proper) (leads : node.at? names = some (.file bytes)) :
    tree.place (names.foldl Catalog.extended path) = .ok (place ++ names) := by
  induction names generalizing path place node with
  | nil => rwa [List.append_nil]
  | cons name rest ih =>
      obtain ⟨entries, inner, rfl, found, further⟩ := FileNode.exists_entry leads
      cases proper with
      | directory named distinct each =>
          have member := FileNode.mem_of_lookup found
          have noLink : ∀ target, inner ≠ .link target := by
            rintro target rfl
            cases rest <;> cases further
          have entered := place_extended reached here (named _ member) found noLink
          have inside : tree.root.at? (place ++ [name]) = some inner := by
            rw [FileNode.at?_append, here]
            simp [FileNode.at?, found]
          rw [List.foldl_cons, ih entered inside (each _ member) further, List.append_assoc,
            List.singleton_append]

/-- Names put to a path lead from where it leads to the file below. -/
theorem node?_foldl {names : List String} {node : FileNode} {bytes : List UInt8}
    (reached : tree.node? path = some node) (proper : node.Proper)
    (leads : node.at? names = some (.file bytes)) :
    tree.node? (names.foldl Catalog.extended path) = some (.file bytes) := by
  rw [node?] at reached
  split at reached
  · rename_i place found
    rw [node?, place_foldl found reached proper leads]
    dsimp only
    rw [FileNode.at?_append, reached, Option.bind_some, leads]
  · cases reached

/-- What a path leads to in a proper tree is proper. -/
theorem proper_of_node? {node : FileNode} (proper : tree.root.Proper)
    (reached : tree.node? path = some node) : node.Proper := by
  rw [FileTree.node?] at reached
  split at reached
  · exact proper.at? reached
  · cases reached

/-- A path that is not empty has parts. -/
theorem parts_ne_nil (filled : path ≠ "") : parts path ≠ [] := by
  intro none
  rw [parts] at none
  by_cases slash : path.toList.getLast? = some '/'
  · simp [slash] at none
  · rw [if_neg slash] at none
    -- If all pieces are empty, the path is made of slashes only.
    obtain ⟨start, c, written⟩ : ∃ start c, path.toList = start ++ [c] :=
      (List.eq_nil_or_concat' path.toList).resolve_left (by simpa using filled)
    have member : c ∈ Text.join ['/'] (Text.splitAt '/' path.toList) := by
      rw [Text.join_splitAt, written]
      simp
    rcases Text.mem_join member with same | ⟨piece, inside, within⟩
    · rw [List.mem_singleton] at same
      simp [written, same] at slash
    · have kept : String.ofList piece ∈ (pieces '/' path).filter (· != "") := by
        refine List.mem_filter.mpr ⟨List.mem_map_of_mem inside, ?_⟩
        simpa using List.ne_nil_of_mem within
      rw [none] at kept
      cases kept

/-- A walk does not end at a link, unless it begins there and has nowhere to go. -/
theorem Goes.noLink {links left : Nat} {place walked reached : List String}
    (goes : Goes tree links place walked left reached)
    (start : walked ≠ [] ∨ ∀ target, tree.root.at? place ≠ some (.link target)) (target : String) :
    tree.root.at? reached ≠ some (.link target) := by
  induction goes with
  | stay => exact start.resolve_left (by simp) target
  | dot here further ih => exact ih (.inr (by simp [here]))
  | @up _ _ place _ _ _ here further ih =>
      refine ih (.inr fun target linked => ?_)
      rcases List.eq_nil_or_concat' place with rfl | ⟨above, name, rfl⟩
      · rw [List.dropLast_nil, here] at linked
        cases linked
      · rw [FileNode.at?_append] at here
        rw [List.dropLast_concat] at linked
        rw [linked] at here
        cases here
  | @link _ _ _ _ _ _ _ target' here noDot noDots found further ih =>
      by_cases empty : target' = ""
      · subst empty
        exact ih (.inr (by simp [isAbsolute, here]))
      · exact ih (.inl (by simp [parts_ne_nil empty]))
  | @enter _ _ _ _ _ _ name node here noDot noDots found noLink further ih =>
      refine ih (.inr fun target linked => ?_)
      rw [FileNode.at?_append, here] at linked
      simp only [Option.bind_some, FileNode.at?, found] at linked
      exact noLink target (Option.some.inj linked)

/-- Paths lead through links, not to them. -/
theorem node?_ne_link (target : String) : tree.node? path ≠ some (.link target) := by
  rw [node?]
  split
  · rename_i place reached
    have filled := ne_empty_of_place reached
    rw [FileTree.place, if_neg filled] at reached
    obtain ⟨left, goes⟩ := exists_goes reached
    exact goes.noLink (.inl (parts_ne_nil filled)) target
  · simp

end Places

end FileTree

end HostAudit
