import HostAudit.Proofs.FilePaths

/-
This file proves that catalogs are found where they are: every file below a directory whose name is
that of a catalog, once each and in the order of the paths, and nothing else.
-/

namespace HostAudit.Catalog

open FileTree (PathBefore)

/-- The name has something before a dot, and the extension behind it. -/
def HasExtension (extension name : String) : Prop :=
  '.' ∉ extension.toList ∧ ∃ stem, stem ≠ "" ∧ name = stem ++ "." ++ extension

def NamesCatalog (name : String) : Prop :=
  (HasExtension "yaml" name ∨ HasExtension "yml" name) ∧ name ≠ "config.yaml"

/-- The names lead to a file, and the last of them is that of a catalog. -/
def LeadsToCatalog (node : FileNode) (names : List String) : Prop :=
  ∃ before name bytes, names = before ++ [name] ∧ NamesCatalog name ∧
    node.at? names = some (.file bytes)

/-- The part behind the last dot of a name is its extension. -/
theorem hasEnding_iff {extension name : String} (noDot : '.' ∉ extension.toList) :
    hasEnding ("." ++ extension) name = true ↔ HasExtension extension name := by
  have dot : ".".toList = ['.'] := by decide
  simp only [hasEnding, Bool.and_eq_true, bne_iff_ne, List.isSuffixOf_iff_suffix]
  constructor
  · rintro ⟨longer, stem, written⟩
    refine ⟨noDot, String.ofList stem, ?_, ?_⟩
    · intro empty
      obtain rfl : stem = [] := by simpa using empty
      exact longer (String.toList_inj.mp written)
    · rw [← String.toList_inj, ← written]
      simp
  · rintro ⟨-, stem, filled, rfl⟩
    refine ⟨fun same => ?_, stem.toList, by simp⟩
    have lengths := congrArg (List.length ∘ String.toList) same
    simp [filled] at lengths

/-- Names of catalogs are told by their extension, and settings are none. -/
theorem isCatalogName_iff {name : String} : isCatalogName name = true ↔ NamesCatalog name := by
  have yaml := @hasEnding_iff "yaml" name (by decide)
  have yml := @hasEnding_iff "yml" name (by decide)
  rw [isCatalogName, Bool.and_eq_true, Bool.or_eq_true, bne_iff_ne, NamesCatalog]
  exact and_congr_left' (or_congr yaml yml)

/-- The catalogs at an entry and below it, by the names that lead to them. -/
def found (entry : String × FileNode) : List (List String) :=
  (if entry.2.isFile && isCatalogName entry.1 then [[entry.1]] else []) ++
    (below entry.2).map (entry.1 :: ·)

/-- What is found below a directory is found in its entries. -/
theorem belowEntries_eq (entries : List (String × FileNode)) :
    belowEntries entries = entries.map fun entry => (entry.1, found entry) := by
  induction entries with
  | nil => rw [belowEntries, List.map_nil]
  | cons entry rest ih => rw [belowEntries, ih, List.map_cons, found]

/-- An entry gives its own name if it is a catalog, and what lies below it. -/
theorem mem_found_iff {entry : String × FileNode} {names : List String} :
    names ∈ found entry ↔
      (names = [entry.1] ∧ NamesCatalog entry.1 ∧ ∃ bytes, entry.2 = .file bytes) ∨
      ∃ rest ∈ below entry.2, names = entry.1 :: rest := by
  have isFile : entry.2.isFile = true ↔ ∃ bytes, entry.2 = .file bytes := by
    cases entry.2 <;> simp [FileNode.isFile]
  rw [found, List.mem_append, List.mem_map]
  refine or_congr ?_ (exists_congr fun rest => and_congr_right fun _ => eq_comm)
  rw [List.mem_ite_nil_right, Bool.and_eq_true, isFile, isCatalogName_iff, List.mem_singleton]
  tauto

/-- What lies below a directory lies in one of its entries. -/
theorem mem_below_directory_iff {entries : List (String × FileNode)} {names : List String} :
    names ∈ below (.directory entries) ↔ ∃ entry ∈ entries, names ∈ found entry := by
  rw [below, belowEntries_eq, List.mem_flatMap]
  simp only [(List.mergeSort_perm _ byName).mem_iff, List.mem_map]
  constructor
  · rintro ⟨_, ⟨entry, member, rfl⟩, inside⟩
    exact ⟨entry, member, inside⟩
  · rintro ⟨entry, member, inside⟩
    exact ⟨_, ⟨entry, member, rfl⟩, inside⟩

/-- With distinct names, an entry is found by its name. -/
theorem lookup_eq_some_iff {entries : List (String × FileNode)}
    (distinct : (entries.map Prod.fst).Nodup) {name : String} {node : FileNode} :
    entries.lookup name = some node ↔ (name, node) ∈ entries := by
  refine ⟨FileNode.mem_of_lookup, fun member => ?_⟩
  obtain ⟨before, after, rfl⟩ := List.append_of_mem member
  refine List.lookup_eq_some_iff.mpr ⟨before, after, rfl, fun entry earlier => ?_⟩
  rw [bne_iff_ne]
  rintro rfl
  rw [List.map_append, List.map_cons, List.nodup_append] at distinct
  exact distinct.2.2 _ (List.mem_map_of_mem earlier) _ List.mem_cons_self rfl

/-- Names lead from a directory to a catalog through one of its entries. -/
theorem leadsToCatalog_directory_iff {entries : List (String × FileNode)}
    (distinct : (entries.map Prod.fst).Nodup) {names : List String} :
    LeadsToCatalog (.directory entries) names ↔ ∃ entry ∈ entries,
      (names = [entry.1] ∧ NamesCatalog entry.1 ∧ ∃ bytes, entry.2 = .file bytes) ∨
      ∃ rest, LeadsToCatalog entry.2 rest ∧ names = entry.1 :: rest := by
  constructor
  · rintro ⟨before, name, bytes, rfl, named, leads⟩
    cases before with
    | nil =>
        obtain ⟨_, node, same, member, further⟩ := FileNode.exists_entry leads
        obtain rfl := FileNode.directory.inj same
        exact ⟨(name, node), FileNode.mem_of_lookup member,
          .inl ⟨rfl, named, bytes, Option.some.inj further⟩⟩
    | cons first before =>
        obtain ⟨_, node, same, member, further⟩ := FileNode.exists_entry leads
        obtain rfl := FileNode.directory.inj same
        exact ⟨(first, node), FileNode.mem_of_lookup member,
          .inr ⟨_, ⟨before, name, bytes, rfl, named, further⟩, rfl⟩⟩
  · rintro ⟨⟨first, node⟩, member, ⟨rfl, named, bytes, rfl⟩ | ⟨rest, catalog, rfl⟩⟩
    · refine ⟨[], first, bytes, rfl, named, ?_⟩
      rw [FileNode.at?, (lookup_eq_some_iff distinct).mpr member]
      rfl
    · obtain ⟨before, name, bytes, rfl, named, leads⟩ := catalog
      refine ⟨first :: before, name, bytes, rfl, named, ?_⟩
      rw [FileNode.at?, (lookup_eq_some_iff distinct).mpr member]
      exact leads

/-- There is nothing below what is no directory. -/
theorem not_leadsToCatalog_of_not_directory {node : FileNode} {names : List String}
    (noDirectory : ∀ entries, node ≠ .directory entries) : ¬LeadsToCatalog node names := by
  rintro ⟨before, name, bytes, rfl, -, leads⟩
  cases before with
  | nil =>
      obtain ⟨entries, _, same, -⟩ := FileNode.exists_entry leads
      exact noDirectory entries same
  | cons first before =>
      obtain ⟨entries, _, same, -⟩ := FileNode.exists_entry leads
      exact noDirectory entries same

/-- What is found below a node are the names that lead to a catalog from there. -/
theorem mem_below_iff {node : FileNode} (proper : node.Proper) {names : List String} :
    names ∈ below node ↔ LeadsToCatalog node names := by
  induction proper generalizing names with
  | file bytes =>
      rw [below]
      exact iff_of_false List.not_mem_nil (not_leadsToCatalog_of_not_directory nofun)
      nofun
  | link target =>
      rw [below]
      exact iff_of_false List.not_mem_nil (not_leadsToCatalog_of_not_directory nofun)
      nofun
  | @directory entries named distinct each ih =>
      rw [mem_below_directory_iff, leadsToCatalog_directory_iff distinct]
      refine exists_congr fun entry => and_congr_right fun member => ?_
      rw [mem_found_iff]
      refine or_congr_right (exists_congr fun rest => and_congr_left fun _ => ?_)
      exact ih entry member

/-- Entries in the order of their names are in strict order. -/
theorem byName_pairwise {entries : List (String × List (List String))}
    (distinct : (entries.map Prod.fst).Nodup) :
    (entries.mergeSort byName).Pairwise fun first second => first.1 < second.1 := by
  have sorted : (entries.mergeSort byName).Pairwise fun first second =>
      byName first second = true :=
    List.pairwise_mergeSort
      (fun _ _ _ one two => by
        simp only [byName, decide_eq_true_eq] at one two ⊢
        exact le_trans one two)
      (fun first second => by simpa [byName] using le_total first.1 second.1) entries
  have names := (List.mergeSort_perm entries byName).map Prod.fst
  have apart : (entries.mergeSort byName).Pairwise fun first second => first.1 ≠ second.1 :=
    List.pairwise_map.mp (names.nodup_iff.mpr distinct)
  refine sorted.imp₂ ?_ apart
  intro first second before differs
  exact lt_of_le_of_ne (by simpa [byName] using before) differs

/-- What an entry gives is in order if all below it is. -/
theorem pairwise_found {entry : String × FileNode}
    (sorted : (below entry.2).Pairwise (· < ·)) : (found entry).Pairwise (· < ·) := by
  have deeper : ((below entry.2).map (entry.1 :: ·)).Pairwise (· < ·) :=
    List.pairwise_map.mpr (sorted.imp fun less => List.cons_lt_cons_iff.mpr (.inr ⟨rfl, less⟩))
  rw [found]
  by_cases file : entry.2.isFile
  · have none : below entry.2 = [] := by
      cases same : entry.2 with
      | file bytes => rw [below]; nofun
      | link target => rw [same] at file; cases file
      | directory entries => rw [same] at file; cases file
    rw [none]
    split <;> simp
  · rw [if_neg (by simp [file]), List.nil_append]
    exact deeper

/-- All that an entry gives begins with its name. -/
theorem begins_of_mem_found {entry : String × FileNode} {names : List String}
    (member : names ∈ found entry) : ∃ rest, names = entry.1 :: rest := by
  rcases mem_found_iff.mp member with ⟨same, -⟩ | ⟨rest, -, same⟩
  · exact ⟨[], same⟩
  · exact ⟨rest, same⟩

/-- What is found stands in the order of the names. Entries are visited by name, and all that is
found below one of them begins with its name. -/
theorem pairwise_below {node : FileNode} (proper : node.Proper) :
    (below node).Pairwise (· < ·) := by
  induction proper with
  | file bytes => rw [below]; exact .nil; nofun
  | link target => rw [below]; exact .nil; nofun
  | @directory entries named distinct each ih =>
      rw [below, belowEntries_eq, List.pairwise_flatMap]
      refine ⟨fun visited member => ?_, ?_⟩
      · obtain ⟨entry, inside, rfl⟩ := List.mem_map.mp ((List.mergeSort_perm _ _).mem_iff.mp member)
        exact pairwise_found (ih entry inside)
      · have names : ((entries.map fun entry => (entry.1, found entry)).map Prod.fst).Nodup := by
          simpa [List.map_map, Function.comp_def] using distinct
        refine (byName_pairwise names).imp_of_mem ?_
        intro first second among among' less one inside two inside'
        obtain ⟨entry, -, rfl⟩ := List.mem_map.mp ((List.mergeSort_perm _ _).mem_iff.mp among)
        obtain ⟨other, -, rfl⟩ := List.mem_map.mp ((List.mergeSort_perm _ _).mem_iff.mp among')
        obtain ⟨rest, rfl⟩ := begins_of_mem_found inside
        obtain ⟨rest', rfl⟩ := begins_of_mem_found inside'
        exact List.cons_lt_cons_iff.mpr (.inl less)

/-- Names that lead somewhere in a proper tree are names of files. -/
theorem isFileName_of_leads {names : List String} {node reached : FileNode} (proper : node.Proper)
    (leads : node.at? names = some reached) : ∀ name ∈ names, IsFileName name := by
  induction names generalizing node with
  | nil => exact fun _ member => absurd member List.not_mem_nil
  | cons name rest ih =>
      obtain ⟨entries, inner, rfl, found, further⟩ := FileNode.exists_entry leads
      cases proper with
      | directory named distinct each =>
          have member := FileNode.mem_of_lookup found
          exact List.forall_mem_cons.mpr ⟨named _ member, ih (each _ member) further⟩

/-- Names that lead to a catalog in a proper tree are names of files. -/
theorem isFileName_of_mem_below {node : FileNode} (proper : node.Proper) {names : List String}
    (found : names ∈ below node) : ∀ name ∈ names, IsFileName name := by
  obtain ⟨_, _, _, _, _, leads⟩ := (mem_below_iff proper).mp found
  exact isFileName_of_leads proper leads

/-- The paths of what is found stand in order, as the names do. -/
theorem pairwise_paths {path : String} (filled : path ≠ "") {node : FileNode}
    (proper : node.Proper) :
    ((below node).map (·.foldl extended path)).Pairwise PathBefore := by
  refine List.pairwise_map.mpr ((pairwise_below proper).imp_of_mem ?_)
  intro first second found found' less
  exact FileTree.pathBefore_foldl filled (isFileName_of_mem_below proper found)
    (isFileName_of_mem_below proper found') less

/-- Looking into a directory gives the paths of all catalogs below it, unless there are none. -/
theorem discover_directory {tree : FileTree} {path : String} {entries : List (String × FileNode)}
    (here : tree.node? path = some (.directory entries)) :
    discover tree path =
      if below (.directory entries) = [] then .error (.empty path)
      else .ok ((below (.directory entries)).map (·.foldl extended path)) := by
  rw [discover, here]
  dsimp only
  split
  · rename_i none
    rw [if_pos none]
  · rename_i none
    rw [if_neg none]

/-- A path that leads to a file stands for itself, and one that leads nowhere cannot be read. Below
a directory every catalog is found, by a path that leads to it: each once, in the order of the
paths, and nothing else. There is a failure only if there is no catalog. -/
theorem discover_finds_catalogs {tree : FileTree} (proper : tree.root.Proper) (path : String) :
    (∀ bytes, tree.node? path = some (.file bytes) → discover tree path = .ok [path]) ∧
    (tree.node? path = none →
      discover tree path = .error (.unreadable path "no such file or directory")) ∧
    (∀ target, tree.node? path ≠ some (.link target)) ∧
    ∀ entries, tree.node? path = some (.directory entries) →
      (discover tree path = .error (.empty path) ↔
        ¬∃ names, LeadsToCatalog (.directory entries) names) ∧
      ((∃ names, LeadsToCatalog (.directory entries) names) →
        ∃ files, discover tree path = .ok files ∧
          files.Pairwise PathBefore ∧ files.Nodup ∧
          (∀ file, file ∈ files ↔
            ∃ names, LeadsToCatalog (.directory entries) names ∧
              file = names.foldl extended path) ∧
          ∀ file ∈ files, tree.isFile file = true) := by
  refine ⟨?file, ?missing, FileTree.node?_ne_link, ?directory⟩
  case file =>
    intro bytes here
    rw [discover, here]
  case missing =>
    intro none
    rw [discover, none]
  case directory =>
    intro entries here
    have inner := FileTree.proper_of_node? proper here
    have empty : below (.directory entries) = [] ↔
        ¬∃ names, LeadsToCatalog (.directory entries) names := by
      simp only [List.eq_nil_iff_forall_not_mem, mem_below_iff inner, not_exists]
    have found := discover_directory here
    have filled : path ≠ "" := by
      rintro rfl
      cases here
    refine ⟨?_, fun some => ⟨_, by rw [found, if_neg (fun none => empty.mp none some)], ?_⟩⟩
    · rw [← empty, found]
      split <;> simpa
    · have ordered := pairwise_paths filled inner
      refine ⟨ordered, ordered.imp PathBefore.ne, fun file => ?_, fun file member => ?_⟩
      · simp only [List.mem_map, mem_below_iff inner, eq_comm]
      · obtain ⟨names, leads, rfl⟩ := List.mem_map.mp member
        obtain ⟨_, _, bytes, _, _, reached⟩ := (mem_below_iff inner).mp leads
        rw [FileTree.isFile, FileTree.node?_foldl here inner reached]
        rfl

/-- A directory next to a file whose name goes on behind the same letters. -/
def rules : List (String × FileNode) :=
  [("a.yaml", .file []), ("a", .directory [("z.yml", .file [])]), (".yaml", .file []),
    ("config.yaml", .file []), ("b.yaml", .link "a.yaml")]

def rulesTree : FileTree := ⟨.directory [("cfg", .directory rules)], []⟩

theorem proper_rules : rulesTree.root.Proper := by
  have inner : (FileNode.directory [("z.yml", .file [])]).Proper :=
    .directory (by decide) (by decide) (by simpa using .file [])
  have outer : (FileNode.directory rules).Proper := by
    refine .directory (by decide) (by decide) ?_
    simp only [rules, List.forall_mem_cons]
    exact ⟨.file _, inner, .file _, .file _, .link _, by simp⟩
  exact .directory (by decide) (by decide) (by simpa using outer)

theorem node?_rules : rulesTree.node? "cfg" = some (.directory rules) := by
  have parts : FileTree.parts "cfg" = ["cfg"] := by decide +kernel
  simp [FileTree.node?, FileTree.place, FileTree.follow, FileTree.start, FileTree.isAbsolute, parts,
    rulesTree, FileNode.at?]

theorem discover_finds_catalogs_rules :
    rulesTree.root.Proper ∧ rulesTree.node? "cfg" = some (.directory rules) ∧
    ∃ files, discover rulesTree "cfg" = .ok files ∧ files.Pairwise PathBefore ∧
      "cfg/a.yaml" ∈ files ∧ "cfg/a/z.yml" ∈ files := by
  obtain ⟨-, -, -, inside⟩ := discover_finds_catalogs proper_rules "cfg"
  have yaml : LeadsToCatalog (.directory rules) ["a.yaml"] :=
    ⟨[], "a.yaml", [], rfl, ⟨.inl ⟨by decide, "a", by decide, by decide⟩, by decide⟩, rfl⟩
  have yml : LeadsToCatalog (.directory rules) ["a", "z.yml"] :=
    ⟨["a"], "z.yml", [], rfl, ⟨.inr ⟨by decide, "z", by decide, by decide⟩, by decide⟩, rfl⟩
  obtain ⟨files, found, ordered, -, all, -⟩ := (inside rules node?_rules).2 ⟨_, yaml⟩
  exact ⟨proper_rules, node?_rules, files, found, ordered, (all _).mpr ⟨_, yaml, by decide⟩,
    (all _).mpr ⟨_, yml, by decide⟩⟩

end HostAudit.Catalog
