import HostAudit.Yaml.Token.Lexer
import Mathlib.Tactic

/-
This file says what it is for a reader of YAML text to be local: what it reads before two texts go
apart, it reads the same from both.
-/

namespace HostAudit.Yaml

/-- Two texts go apart: what is left of each from there on, the number of characters before that
place that must not be read yet, and by how much the second text is longer so far. -/
structure Fork where
  first : List Char
  second : List Char
  margin : Nat
  shift : Nat
  sees : 4 ≤ margin ∨ first = [] ∧ second = []

variable {fork : Fork} {cursor other : Cursor}

/-- Two cursors stand at the same place before the texts go apart. -/
inductive Twin (fork : Fork) : Cursor → Cursor → Prop where
  | intro (shared : List Char) (index line column : Nat) (before : fork.margin ≤ shared.length) :
      Twin fork ⟨shared ++ fork.first, index, line, column⟩
        ⟨shared ++ fork.second, index + fork.shift, line, column⟩

/-- The cursor has not come too close to the place where the texts go apart. -/
def Before (fork : Fork) (cursor : Cursor) : Prop :=
  fork.margin + fork.first.length ≤ cursor.rest.length

/-- A look at a text sees four characters at most. -/
def Near {A : Type} (look : List Char → A) : Prop := ∀ text, look (text.take 4) = look text

/-- The next character can be seen. -/
theorem near_head? : Near List.head? := by
  intro text
  cases text <;> rfl

/-- What is told from a look is seen as well. -/
theorem Near.comp {A B : Type} {look : List Char → A} (near : Near look) (f : A → B) :
    Near fun text => f (look text) :=
  fun text => congrArg f (near text)

/-- Whether a character is next can be seen. -/
theorem near_head (c : Char) : Near fun text => text.head? = some c :=
  near_head?.comp fun head => head = some c

namespace Twin

theorem column_eq (twin : Twin fork cursor other) : other.column = cursor.column := by
  cases twin
  rfl

theorem line_eq (twin : Twin fork cursor other) : other.line = cursor.line := by
  cases twin
  rfl

theorem index_eq (twin : Twin fork cursor other) : other.index = cursor.index + fork.shift := by
  cases twin
  rfl

/-- A look at one text is the same at the other. -/
theorem look {A : Type} {look : List Char → A} (near : Near look) (twin : Twin fork cursor other) :
    look other.rest = look cursor.rest := by
  obtain ⟨shared, index, line, column, before⟩ := twin
  obtain far | ⟨first, second⟩ := fork.sees
  · rw [← near, ← near (shared ++ fork.first), List.take_append_of_le_length (far.trans before),
      List.take_append_of_le_length (far.trans before)]
  · rw [first, second]

/-- Dropping characters from both texts leads to twins, if it stops in time. -/
theorem drop (twin : Twin fork cursor other) {count : Nat}
    (before : Before fork (cursor.skip count)) (line column : Nat) :
    Twin fork ⟨cursor.rest.drop count, cursor.index + count, line, column⟩
      ⟨other.rest.drop count, other.index + count, line, column⟩ := by
  obtain ⟨shared, index, _, _, _⟩ := twin
  simp only [Before, Cursor.skip, List.length_drop, List.length_append] at before
  have moved : index + fork.shift + count = index + count + fork.shift := by omega
  by_cases within : count ≤ shared.length
  · simp only [List.drop_append_of_le_length within, moved]
    refine .intro (shared.drop count) (index + count) line column ?_
    rw [List.length_drop]
    omega
  · obtain far | ⟨first, second⟩ := fork.sees
    · omega
    · have twin := @Twin.intro fork [] (index + count) line column
        (by simp only [List.length_nil]; omega)
      rw [first, second] at twin
      simpa [first, second, List.drop_eq_nil_of_le (Nat.le_of_not_le within), moved] using twin

/-- Twins stay twins when they pass over characters in time. -/
theorem skip (twin : Twin fork cursor other) {count : Nat}
    (before : Before fork (cursor.skip count)) :
    Twin fork (cursor.skip count) (other.skip count) := by
  have dropped := twin.drop before cursor.line (cursor.column + count)
  simpa only [Cursor.skip, twin.line_eq, twin.column_eq] using dropped

/-- Before texts that do not differ, twins have the same text. -/
theorem texts_eq (twin : Twin fork cursor other) (same : fork.first = fork.second) :
    other.rest = cursor.rest := by
  cases twin
  rw [same]

/-- What is kept in time is the same in both texts. -/
theorem taken_eq (twin : Twin fork cursor other) {keep : Char → Bool}
    (before : Before fork (cursor.skipWhile keep)) :
    other.rest.takeWhile keep = cursor.rest.takeWhile keep := by
  obtain far | ⟨first, second⟩ := fork.sees
  · obtain ⟨shared, index, line, column, _⟩ := twin
    simp only [Before, Cursor.skipWhile, Cursor.takeWhile, Cursor.skip, List.length_drop] at before
    have stops : (shared.takeWhile keep).length ≠ shared.length := by
      intro all
      rw [List.takeWhile_append, if_pos all] at before
      simp only [List.length_append] at before
      omega
    simp only [List.takeWhile_append, if_neg stops]
  · rw [twin.texts_eq (first.trans second.symm)]

/-- Twins stay twins when they pass over characters of a kind in time. -/
theorem skipWhile (twin : Twin fork cursor other) {keep : Char → Bool}
    (before : Before fork (cursor.skipWhile keep)) :
    Twin fork (cursor.skipWhile keep) (other.skipWhile keep) := by
  simpa only [Cursor.skipWhile, Cursor.takeWhile, twin.taken_eq before] using twin.skip before

end Twin

/-- The line break at the start of a text, as it is read, and its number of characters. -/
def breakAt? : List Char → Option (Char × Nat)
  | [] => none
  | c :: rest =>
      if c = '\r' ∧ rest.head? = some '\n' then some ('\n', 2)
      else if isBreak c then some (if c = '\u2028' ∨ c = '\u2029' then c else '\n', 1)
      else none

/-- A line break is one or two characters. -/
theorem takeBreak?_eq (cursor : Cursor) :
    cursor.takeBreak? = (breakAt? cursor.rest).map fun (read, count) =>
      (read, ⟨cursor.rest.drop count, cursor.index + count, cursor.line + 1, 0⟩) := by
  obtain ⟨rest, index, line, column⟩ := cursor
  unfold Cursor.takeBreak?
  split
  · rename_i rest carriage
    cases carriage
    rfl
  · rename_i c rest single equal
    cases equal
    have alone : ¬(c = '\r' ∧ rest.head? = some '\n') := by
      rintro ⟨rfl, feed⟩
      obtain ⟨more, rfl⟩ := List.head?_eq_some_iff.mp feed
      exact single more rfl rfl
    rw [breakAt?, if_neg alone]
    split <;> rfl
  · rename_i empty
    cases empty
    rfl

/-- The next line break can be seen. -/
theorem near_breakAt? : Near breakAt? := by
  intro text
  match text with
  | [] => rfl
  | [_] => rfl
  | _ :: _ :: _ => rfl

/-- A line break makes the rest of the text shorter. -/
theorem takeBreak?_shorter {read : Char} {after : Cursor}
    (read_eq : cursor.takeBreak? = some (read, after)) :
    after.rest.length < cursor.rest.length := by
  rw [takeBreak?_eq] at read_eq
  obtain ⟨⟨_, count⟩, found, same⟩ := Option.map_eq_some_iff.mp read_eq
  cases same
  cases written : cursor.rest with
  | nil => simp [written, breakAt?] at found
  | cons c rest =>
      rw [written, breakAt?] at found
      split at found
      · cases found
        simp only [List.length_drop, List.length_cons]
        omega
      · split at found
        · cases found
          simp
        · cases found

/-- Passing over characters makes no text longer. -/
theorem skip_le (cursor : Cursor) (count : Nat) :
    (cursor.skip count).rest.length ≤ cursor.rest.length := by
  simp [Cursor.skip]

/-- What is read before the texts go apart is read the same from the second. -/
def Tracks {A : Type} (fork : Fork) (read again : Option (A × Cursor)) : Prop :=
  ∀ a after, read = some (a, after) → Before fork after →
    ∃ afterOther, again = some (a, afterOther) ∧ Twin fork after afterOther

/-- What is read leaves no more of the text than there was at the cursor. -/
def Shortens {A : Type} (cursor : Cursor) (read : Option (A × Cursor)) : Prop :=
  ∀ a after, read = some (a, after) → after.rest.length ≤ cursor.rest.length

/-- What shortens a text shortens a longer one. -/
theorem Shortens.trans {A : Type} {start : Cursor} {read : Option (A × Cursor)}
    (shortens : Shortens cursor read) (shorter : cursor.rest.length ≤ start.rest.length) :
    Shortens start read :=
  fun a after read_eq => (shortens a after read_eq).trans shorter

/-- What is done with the result does not matter for what is left. -/
theorem Shortens.map {A B : Type} {read : Option (A × Cursor)} (shortens : Shortens cursor read)
    (f : A → B) : Shortens cursor (read.map fun (a, cursor) => (f a, cursor)) := by
  intro b after read_eq
  obtain ⟨_, found, same⟩ := Option.map_eq_some_iff.mp read_eq
  cases same
  exact shortens _ _ found

theorem Shortens.none {A : Type} : Shortens cursor (.none : Option (A × Cursor)) := by
  rintro _ _ ⟨⟩

/-- Readers one after another leave no more of the text. -/
theorem Shortens.bind {A B : Type} {read : Option (A × Cursor)}
    {next : A × Cursor → Option (B × Cursor)}
    (shortens : Shortens cursor read) (rest : ∀ a middle, Shortens middle (next (a, middle))) :
    Shortens cursor (read.bind next) := by
  intro b after read_eq
  obtain ⟨⟨a, middle⟩, found, last⟩ := Option.bind_eq_some_iff.mp read_eq
  exact (rest a middle b after last).trans (shortens a middle found)

/-- A reader that gives nothing need not be followed. -/
theorem Tracks.none {A : Type} {again : Option (A × Cursor)} : Tracks fork .none again := by
  rintro _ _ ⟨⟩

/-- A result that both texts give is followed if the cursors are twins. -/
theorem Tracks.some {A : Type} {a : A} {after afterOther : Cursor}
    (twin : Before fork after → Twin fork after afterOther) :
    Tracks fork (.some (a, after)) (.some (a, afterOther)) := by
  rintro _ _ ⟨⟩ before
  exact ⟨afterOther, rfl, twin before⟩

/-- What is done with the results does not keep them from being the same. -/
theorem Tracks.map {A B : Type} {read again : Option (A × Cursor)} (tracks : Tracks fork read again)
    (f : A → B) :
    Tracks fork (read.map fun (a, cursor) => (f a, cursor))
      (again.map fun (a, cursor) => (f a, cursor)) := by
  intro b after read_eq before
  obtain ⟨_, found, same⟩ := Option.map_eq_some_iff.mp read_eq
  cases same
  obtain ⟨afterOther, foundOther, twin⟩ := tracks _ _ found before
  exact ⟨afterOther, by rw [foundOther]; rfl, twin⟩

/-- What is not read in time need not be followed. -/
theorem Tracks.inTime {A : Type} {read again : Option (A × Cursor)} (cursor : Cursor)
    (shortens : Shortens cursor read) (tracks : Before fork cursor → Tracks fork read again) :
    Tracks fork read again :=
  fun a after read_eq before =>
    tracks (Nat.le_trans before (shortens a after read_eq)) a after read_eq before

/-- Readers one after another are followed if each of them is. -/
theorem Tracks.bind {A B : Type} {read again : Option (A × Cursor)}
    {next nextAgain : A × Cursor → Option (B × Cursor)} (tracks : Tracks fork read again)
    (shortens : ∀ a middle, Shortens middle (next (a, middle)))
    (rest : ∀ a middle middleOther, read = .some (a, middle) → again = .some (a, middleOther) →
      Twin fork middle middleOther → Tracks fork (next (a, middle)) (nextAgain (a, middleOther))) :
    Tracks fork (read.bind next) (again.bind nextAgain) := by
  intro b after read_eq before
  obtain ⟨⟨a, middle⟩, found, last⟩ := Option.bind_eq_some_iff.mp read_eq
  have near : Before fork middle := Nat.le_trans before (shortens a middle b after last)
  obtain ⟨middleOther, foundOther, twin⟩ := tracks a middle found near
  rw [foundOther]
  exact rest a middle middleOther found foundOther twin b after last before

/-- A cursor that comes later is closer to the parting. -/
theorem Before.of_le {after : Cursor} (before : Before fork after)
    (shorter : after.rest.length ≤ cursor.rest.length) : Before fork cursor :=
  Nat.le_trans before shorter

/-- Passing over a part of the text leaves no more of it than there was, and leads from twins to
twins as long as the texts have not gone apart. -/
structure LocalPass (pass : Cursor → Cursor) : Prop where
  shorter (cursor : Cursor) : (pass cursor).rest.length ≤ cursor.rest.length
  twin {fork : Fork} {cursor other : Cursor} :
    Twin fork cursor other → Before fork (pass cursor) → Twin fork (pass cursor) (pass other)

namespace LocalPass

variable {first second : Cursor → Cursor}

/-- Staying where one is passes over nothing. -/
theorem stay : LocalPass fun cursor => cursor where
  shorter _ := le_rfl
  twin twin _ := twin

/-- Passing over so many characters is local. -/
theorem skip (count : Nat) : LocalPass fun cursor => cursor.skip count where
  shorter cursor := skip_le cursor count
  twin twin := twin.skip

/-- Passing over characters of a kind is local. -/
theorem skipWhile (keep : Char → Bool) : LocalPass fun cursor => cursor.skipWhile keep where
  shorter cursor := skip_le cursor _
  twin twin := twin.skipWhile

/-- Passing over one part and then another is local. -/
theorem trans (one : LocalPass first) (two : LocalPass second) :
    LocalPass fun cursor => second (first cursor) where
  shorter cursor := (two.shorter _).trans (one.shorter cursor)
  twin twin before := two.twin (one.twin twin (before.of_le (two.shorter _))) before

/-- A choice that both texts make in the same way is local. -/
theorem choose {holds : Cursor → Prop} [DecidablePred holds]
    (same : ∀ {fork cursor other}, Twin fork cursor other → holds other = holds cursor)
    (one : LocalPass first) (two : LocalPass second) :
    LocalPass fun cursor => if holds cursor then first cursor else second cursor where
  shorter cursor := by
    split
    · exact one.shorter cursor
    · exact two.shorter cursor
  twin {fork cursor other} twin before := by
    have agree := same twin
    by_cases yes : holds cursor
    · rw [if_pos yes] at before ⊢
      rw [if_pos (agree ▸ yes)]
      exact one.twin twin before
    · rw [if_neg yes] at before ⊢
      rw [if_neg (agree ▸ yes)]
      exact two.twin twin before

end LocalPass

/-- A reader that reads the same as long as the texts have not gone apart, and leaves no more of the
text than there was. -/
structure LocalReader {A : Type} (read : Cursor → Option (A × Cursor)) : Prop where
  shortens (cursor : Cursor) : Shortens cursor (read cursor)
  tracks {fork : Fork} {cursor other : Cursor} :
    Twin fork cursor other → Tracks fork (read cursor) (read other)

namespace LocalReader

variable {A B : Type} {first second : Cursor → Option (A × Cursor)}

/-- A reader that never gives anything is local. -/
theorem none : LocalReader fun _ => (.none : Option (A × Cursor)) where
  shortens _ := .none
  tracks _ := .none

/-- A reader that reads nothing is local. -/
theorem some (a : A) : LocalReader fun cursor => .some (a, cursor) where
  shortens cursor := by
    rintro _ _ ⟨⟩
    exact le_rfl
  tracks twin := .some fun _ => twin

/-- Doing something with the result is local. -/
theorem map (reader : LocalReader first) (f : A → B) :
    LocalReader fun cursor => (first cursor).map fun (a, cursor) => (f a, cursor) where
  shortens cursor := (reader.shortens cursor).map f
  tracks twin := (reader.tracks twin).map f

/-- One local reader after another is local. -/
theorem bind {next : A × Cursor → Option (B × Cursor)} (reader : LocalReader first)
    (rest : ∀ a, LocalReader fun cursor => next (a, cursor)) :
    LocalReader fun cursor => (first cursor).bind next where
  shortens cursor := (reader.shortens cursor).bind fun a => (rest a).shortens
  tracks twin := (reader.tracks twin).bind (fun a => (rest a).shortens)
    fun a _ _ _ _ twin => (rest a).tracks twin

/-- A reader that takes a part of the text first. -/
theorem after {take : Cursor → A × Cursor} {next : A → Cursor → Option (B × Cursor)}
    (taken : LocalReader fun cursor => .some (take cursor)) (rest : ∀ a, LocalReader (next a)) :
    LocalReader fun cursor => next (take cursor).1 (take cursor).2 :=
  @bind A B _ (fun (a, cursor) => next a cursor) taken rest

/-- A reader that passes over a part of the text first. -/
theorem behind {pass : Cursor → Cursor} (reader : LocalReader first) (passes : LocalPass pass) :
    LocalReader fun cursor => first (pass cursor) where
  shortens cursor := (reader.shortens _).trans (passes.shorter cursor)
  tracks twin := .inTime _ (reader.shortens _) fun near => reader.tracks (passes.twin twin near)

/-- Reading behind so many characters is local. -/
theorem skip (reader : LocalReader first) (count : Nat) :
    LocalReader fun cursor => first (cursor.skip count) :=
  reader.behind (.skip count)

/-- Reading behind characters of a kind is local. -/
theorem skipWhile (reader : LocalReader first) (keep : Char → Bool) :
    LocalReader fun cursor => first (cursor.skipWhile keep) :=
  reader.behind (.skipWhile keep)

/-- A reader that depends on what is the same at twins. -/
theorem on {view : Cursor → B} {read : B → Cursor → Option (A × Cursor)}
    (same : ∀ {fork cursor other}, Twin fork cursor other → view other = view cursor)
    (all : ∀ b, LocalReader (read b)) : LocalReader fun cursor => read (view cursor) cursor where
  shortens cursor := (all _).shortens cursor
  tracks twin := by
    rw [same twin]
    exact (all _).tracks twin

/-- A choice between readers is local if both texts make it in the same way. -/
theorem chooseAt {holds : Cursor → Prop} [DecidablePred holds]
    (same : ∀ {fork cursor other}, Twin fork cursor other → holds other = holds cursor)
    (one : LocalReader first) (two : LocalReader second) :
    LocalReader fun cursor => if holds cursor then first cursor else second cursor where
  shortens cursor := by
    split
    · exact one.shortens cursor
    · exact two.shortens cursor
  tracks twin := by
    simp only [same twin]
    split
    · exact one.tracks twin
    · exact two.tracks twin

/-- A choice between readers by what can be seen is local. -/
theorem choose {holds : List Char → Prop} [DecidablePred holds] (near : Near holds)
    (one : LocalReader first) (two : LocalReader second) :
    LocalReader fun cursor => if holds cursor.rest then first cursor else second cursor :=
  chooseAt (fun twin => twin.look near) one two

/-- A reader that tries another one first, which misses at both twins or at none. -/
theorem orElse {next : A × Cursor → Option (B × Cursor)} {otherwise : Cursor → Option (B × Cursor)}
    (reader : LocalReader first)
    (missing : ∀ {fork cursor other}, Twin fork cursor other → first cursor = .none →
      first other = .none)
    (rest : ∀ a, LocalReader fun cursor => next (a, cursor)) (last : LocalReader otherwise) :
    LocalReader fun cursor => (first cursor).elim (otherwise cursor) next where
  shortens cursor := by
    cases found : first cursor with
    | none => exact last.shortens cursor
    | some taken =>
        exact ((rest taken.1).shortens taken.2).trans (reader.shortens cursor _ _ found)
  tracks {fork cursor other} twin := by
    cases found : first cursor with
    | none =>
        rw [missing twin found]
        exact last.tracks twin
    | some taken =>
        refine .inTime taken.2 ((rest taken.1).shortens taken.2) fun before => ?_
        obtain ⟨cursorOther, foundOther, twinNext⟩ := reader.tracks twin _ _ found before
        rw [foundOther]
        exact (rest taken.1).tracks twinNext

/-- A reader that passes over characters, as a look at the next ones says. -/
theorem look {look : List Char → Option (A × Nat)} (near : Near look) :
    LocalReader fun cursor => (look cursor.rest).map fun (a, count) => (a, cursor.skip count) where
  shortens cursor := by
    intro a after read
    obtain ⟨⟨_, count⟩, -, same⟩ := Option.map_eq_some_iff.mp read
    cases same
    exact skip_le cursor count
  tracks {fork cursor other} twin := by
    intro a after read before
    obtain ⟨⟨_, count⟩, found, same⟩ := Option.map_eq_some_iff.mp read
    cases same
    exact ⟨other.skip count, by rw [twin.look near, found]; rfl, twin.skip before⟩

end LocalReader

/-- Taking characters of a kind is local. -/
theorem local_takeWhile (keep : Char → Bool) :
    LocalReader fun cursor => some (cursor.takeWhile keep) where
  shortens cursor := by
    rintro _ _ ⟨⟩
    exact skip_le cursor _
  tracks {fork cursor other} twin := by
    rintro _ _ ⟨⟩ before
    exact ⟨other.skipWhile keep, by rw [← twin.taken_eq before]; rfl, twin.skipWhile before⟩

/-- Taking a line break is local. -/
theorem local_takeBreak? : LocalReader Cursor.takeBreak? where
  shortens cursor _ _ broken := (takeBreak?_shorter broken).le
  tracks {fork cursor other} twin := by
    intro read after read_eq before
    rw [takeBreak?_eq] at read_eq
    obtain ⟨⟨_, count⟩, found, same⟩ := Option.map_eq_some_iff.mp read_eq
    cases same
    refine ⟨_, ?_, twin.drop before (cursor.line + 1) 0⟩
    rw [takeBreak?_eq, twin.look near_breakAt?, found, twin.line_eq]
    rfl

/-- Whether a mark of a document is next can be seen. -/
theorem near_documentMark (column : Nat) :
    Near fun rest => Cursor.atDocumentMark ⟨rest, 0, 0, column⟩ := by
  intro text
  match text with
  | [] => rfl
  | [_] => rfl
  | [_, _] => rfl
  | [_, _, _] => rfl
  | a :: b :: c :: d :: rest =>
      simp only [Cursor.atDocumentMark, List.take_succ_cons, List.take_zero]
      congr 1
      split
      · rename_i dashes
        cases dashes
        rfl
      · rename_i dots
        cases dots
        rfl
      · rename_i dash dot
        split
        · rename_i dashes
          cases dashes
          exact absurd rfl (dash _)
        · rename_i dots
          cases dots
          exact absurd rfl (dot _)
        · rfl

namespace Twin

/-- A mark of a document is next in both texts or in none. -/
theorem atDocumentMark_eq (twin : Twin fork cursor other) :
    other.atDocumentMark = cursor.atDocumentMark := by
  have look := twin.look (near_documentMark cursor.column)
  simpa only [Cursor.atDocumentMark, twin.column_eq] using look

/-- Where there is no line break in one text, there is none in the other. -/
theorem takeBreak?_none (twin : Twin fork cursor other) (none : cursor.takeBreak? = none) :
    other.takeBreak? = .none := by
  rw [takeBreak?_eq, Option.map_eq_none_iff] at none ⊢
  rw [twin.look near_breakAt?, none]

/-- The next character is the same in both texts. -/
theorem rest_cons (twin : Twin fork cursor other) {c : Char} {rest : List Char}
    (written : cursor.rest = c :: rest) : ∃ restOther, other.rest = c :: restOther := by
  have head : other.rest.head? = cursor.rest.head? := twin.look near_head?
  rw [written] at head
  exact List.head?_eq_some_iff.mp head

/-- What is left of the shared text is the same. -/
theorem rest_append (twin : Twin fork cursor other) {shared : List Char}
    (written : cursor.rest = shared ++ fork.first) : other.rest = shared ++ fork.second := by
  cases twin
  rw [List.append_cancel_right written]

/-- A text that is at its end has a twin at its end. -/
theorem rest_nil (twin : Twin fork cursor other) (ended : cursor.rest = []) : other.rest = [] := by
  have head : other.rest.head? = cursor.rest.head? := twin.look near_head?
  rw [ended] at head
  exact List.head?_eq_none_iff.mp head

end Twin

/-- Characters that are passed over in time are the same. -/
theorem Twin.take_eq (twin : Twin fork cursor other) {count : Nat}
    (before : Before fork (cursor.skip count)) :
    other.rest.take count = cursor.rest.take count := by
  obtain ⟨shared, index, line, column, _⟩ := twin
  simp only [Before, Cursor.skip, List.length_drop, List.length_append] at before
  obtain far | ⟨first, second⟩ := fork.sees
  · rw [List.take_append_of_le_length (by omega), List.take_append_of_le_length (by omega)]
  · rw [first, second]

/-- Passing over a character makes the rest shorter. -/
theorem skip_lt {count : Nat} (some : 0 < count) (written : cursor.rest ≠ []) :
    (cursor.skip count).rest.length < cursor.rest.length := by
  have nonempty := List.length_pos_iff.mpr written
  simp only [Cursor.skip, List.length_drop]
  omega

section Loops

variable {S A : Type}

/-- What a turn of a loop comes to: the result, or what is done with the result of the turns that
follow from a state. -/
inductive Turn (S A : Type) where
  | last (a : A)
  | further (state : S) (finish : A → A)

/-- This takes the turns that follow, if there are any. -/
def Turn.follow (rest : S → Cursor → Option (A × Cursor)) :
    Turn S A × Cursor → Option (A × Cursor)
  | (.last a, cursor) => some (a, cursor)
  | (.further state finish, cursor) =>
      (rest state cursor).map fun (a, cursor) => (finish a, cursor)

@[simp] theorem Turn.follow_further (rest : S → Cursor → Option (A × Cursor)) (state : S)
    (cursor : Cursor) : follow rest (.further state id, cursor) = rest state cursor := by
  simp [follow]

/-- A loop takes one local turn after another. A turn that others follow moves on, so that the
length of the text is fuel enough. -/
structure LocalLoop (turn : S → Cursor → Option (Turn S A × Cursor))
    (loop : Nat → S → Cursor → Option (A × Cursor)) : Prop where
  reader (state : S) : LocalReader (turn state)
  moves {state next : S} {finish : A → A} {cursor after : Cursor} :
    turn state cursor = some (.further next finish, after) →
      after.rest.length < cursor.rest.length
  succ {fuel : Nat} (state : S) {cursor : Cursor} : cursor.rest.length ≤ fuel →
    loop (fuel + 1) state cursor = (turn state cursor).bind (Turn.follow (loop fuel))

namespace LocalLoop

variable {turn : S → Cursor → Option (Turn S A × Cursor)}
  {loop : Nat → S → Cursor → Option (A × Cursor)} {fuel fuelOther : Nat}

/-- A loop of turns leaves no more of the text, by induction on its fuel. -/
theorem shortens (loops : LocalLoop turn loop) (enough : cursor.rest.length < fuel) (state : S) :
    Shortens cursor (loop fuel state cursor) := by
  induction fuel generalizing cursor state with
  | zero => omega
  | succ fuel ih =>
      rw [loops.succ state (by omega)]
      intro a after read
      obtain ⟨⟨taken, middle⟩, turn_eq, last⟩ := Option.bind_eq_some_iff.mp read
      have shorter := (loops.reader state).shortens cursor _ _ turn_eq
      cases taken with
      | last result =>
          cases last
          exact shorter
      | further next finish =>
          have moved := loops.moves turn_eq
          exact (((ih (by omega) next).map finish) a after last).trans shorter

/-- A loop moves on if its first turn does. -/
theorem shorter (loops : LocalLoop turn loop) {state : S} {a : A} {after : Cursor}
    (first : ∀ {taken middle}, turn state cursor = some (taken, middle) →
      middle.rest.length < cursor.rest.length)
    (read : loop (cursor.rest.length + 1) state cursor = some (a, after)) :
    after.rest.length < cursor.rest.length := by
  rw [loops.succ state le_rfl] at read
  obtain ⟨⟨taken, middle⟩, turn_eq, last⟩ := Option.bind_eq_some_iff.mp read
  have moved := first turn_eq
  cases taken with
  | last result =>
      cases last
      exact moved
  | further next finish =>
      exact (((loops.shortens moved next).map finish) a after last).trans_lt moved

/-- A loop of turns does the same on both texts, as long as its fuel is enough for each. -/
theorem tracks (loops : LocalLoop turn loop) (twin : Twin fork cursor other)
    (enough : cursor.rest.length < fuel) (enoughOther : other.rest.length < fuelOther)
    (state : S) : Tracks fork (loop fuel state cursor) (loop fuelOther state other) := by
  induction fuel generalizing cursor other fuelOther state with
  | zero => omega
  | succ fuel ih =>
      obtain ⟨fuelOther, rfl⟩ : ∃ more, fuelOther = more + 1 := ⟨fuelOther - 1, by omega⟩
      rw [loops.succ state (by omega), loops.succ state (by omega)]
      intro a after read before
      obtain ⟨⟨taken, middle⟩, turn_eq, last⟩ := Option.bind_eq_some_iff.mp read
      have reads := (loops.reader state).tracks twin _ _ turn_eq
      cases taken with
      | last result =>
          cases last
          obtain ⟨afterOther, turnOther_eq, twinAfter⟩ := reads before
          exact ⟨afterOther, by rw [turnOther_eq]; rfl, twinAfter⟩
      | further next finish =>
          have moved := loops.moves turn_eq
          have near := before.of_le ((loops.shortens (by omega) next).map finish a after last)
          obtain ⟨middleOther, turnOther_eq, twinMiddle⟩ := reads near
          have movedOther := loops.moves turnOther_eq
          rw [turnOther_eq]
          exact (ih twinMiddle (by omega) (by omega) next).map finish a after last before

/-- A loop with fuel for the whole text is a local reader. -/
theorem reads (loops : LocalLoop turn loop) (state : S) :
    LocalReader fun cursor => loop (cursor.rest.length + 1) state cursor where
  shortens _ := loops.shortens (Nat.lt_succ_self _) state
  tracks twin := loops.tracks twin (Nat.lt_succ_self _) (Nat.lt_succ_self _) state

end LocalLoop

end Loops

end HostAudit.Yaml
