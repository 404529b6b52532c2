import HostAudit.Proofs.BlockLocality

/-
This file proves that reading names, tags and directives is local.
-/

namespace HostAudit.Yaml.Lexer

variable {fork : Fork} {cursor other : Cursor}

/-- This passes over a mark and reads the name behind it. -/
def nameBehind (cursor : Cursor) : List Char × Cursor := (cursor.skip 1).takeWhile isName

/-- Reading the name behind a mark is local. -/
theorem local_nameBehind : LocalReader fun cursor => some (nameBehind cursor) :=
  (local_takeWhile isName).skip 1

/-- The text ends here, or with a character that may stand behind a name. -/
def endsName : List Char → Bool
  | [] => true
  | c :: _ => isSpace c || isBreak c || "?:,]\x7d%@\x60".toList.contains c

/-- Whether a name ends can be seen. -/
theorem near_endsName : Near endsName := by
  intro text
  cases text <;> rfl

/-- An anchor has a name with an end behind it. -/
theorem takeName?_eq (cursor : Cursor) : takeName? cursor =
    (some (nameBehind cursor)).bind fun (name, cursor) =>
      if name.isEmpty || !endsName cursor.rest then none
      else some (String.ofList name, cursor) := rfl

/-- Reading the name of an anchor is local. -/
theorem local_takeName? : LocalReader takeName? := by
  rw [funext takeName?_eq]
  exact local_nameBehind.bind fun name =>
    .choose (near_endsName.comp fun ends => (name.isEmpty || !ends) = true) .none (.some _)

/-- What is read from a text leaves an end of it. -/
def Leaves {A : Type} (read : List Char → Option (A × List Char)) : Prop :=
  ∀ ⦃text a rest⦄, read text = some (a, rest) → rest <:+ text

/-- Reading an escaped byte leaves the rest of the text. -/
theorem leaves_escapedByte? : Leaves escapedByte? := by
  intro text byte rest read
  unfold escapedByte? at read
  split at read
  · obtain ⟨_, -, same⟩ := Option.bind_eq_some_iff.mp read
    cases same
    exact ⟨_ :: _ :: [_], rfl⟩
  · cases read

/-- An escaped byte takes characters. -/
theorem escapedByte?_lt {text rest : List Char} {byte : Nat}
    (read : escapedByte? text = some (byte, rest)) : rest.length < text.length := by
  unfold escapedByte? at read
  split at read
  · obtain ⟨_, -, same⟩ := Option.bind_eq_some_iff.mp read
    cases same
    simp only [List.length_cons]
    omega
  · cases read

/-- The bytes that follow the first are read one by one. -/
theorem escapedTail?_succ (count code : Nat) (text : List Char) :
    escapedTail? (count + 1) code text = (escapedByte? text).bind fun (byte, rest) =>
      if byte / 64 ≠ 2 then none else escapedTail? count (code * 64 + byte % 64) rest := by
  refine congrArg (escapedByte? text).bind (funext fun (byte, rest) => ?_)
  dsimp only
  split <;> rfl

/-- Reading the bytes that follow leaves the rest of the text. -/
theorem leaves_escapedTail? (count code : Nat) : Leaves (escapedTail? count code) := by
  induction count generalizing code with
  | zero =>
      intro text a rest read
      cases read
      exact List.suffix_rfl
  | succ count ih =>
      intro text a rest read
      rw [escapedTail?_succ] at read
      obtain ⟨⟨byte, middle⟩, found, read⟩ := Option.bind_eq_some_iff.mp read
      dsimp only at read
      split at read
      · cases read
      · exact (ih _ read).trans (leaves_escapedByte? found)

/-- The number of bytes that follow the first one of a character, and what the first contributes. -/
def leadingByte? (byte : Nat) : Option (Nat × Nat) :=
  if byte < 0x80 then some (0, byte)
  else if byte / 32 = 6 then some (1, byte % 32)
  else if byte / 16 = 14 then some (2, byte % 16)
  else if byte / 8 = 30 then some (3, byte % 8)
  else none

/-- The first byte of a character says how many follow. -/
theorem escapedChar?_eq (text : List Char) : escapedChar? text =
    (escapedByte? text).bind fun (byte, rest) => (leadingByte? byte).bind fun (count, code) =>
      (escapedTail? count code rest).bind fun (code, rest) =>
        if code.isValidChar then some (Char.ofNat code, rest) else none := by
  refine congrArg (escapedByte? text).bind (funext fun (byte, rest) => ?_)
  dsimp only [leadingByte?]
  split_ifs <;> rfl

/-- Reading an escaped character leaves the rest of the text. -/
theorem leaves_escapedChar? : Leaves escapedChar? := by
  intro text c rest read
  rw [escapedChar?_eq] at read
  obtain ⟨⟨byte, middle⟩, found, read⟩ := Option.bind_eq_some_iff.mp read
  obtain ⟨⟨count, code⟩, -, read⟩ := Option.bind_eq_some_iff.mp read
  obtain ⟨⟨code, after⟩, tail, read⟩ := Option.bind_eq_some_iff.mp read
  dsimp only at read
  split at read
  · cases read
    exact (leaves_escapedTail? _ _ tail).trans (leaves_escapedByte? found)
  · cases read

/-- An escaped character takes characters. -/
theorem escapedChar?_lt {text rest : List Char} {c : Char}
    (read : escapedChar? text = some (c, rest)) : rest.length < text.length := by
  rw [escapedChar?_eq] at read
  obtain ⟨⟨byte, middle⟩, found, read⟩ := Option.bind_eq_some_iff.mp read
  obtain ⟨⟨count, code⟩, -, read⟩ := Option.bind_eq_some_iff.mp read
  obtain ⟨⟨code, after⟩, tail, read⟩ := Option.bind_eq_some_iff.mp read
  have first := escapedByte?_lt found
  have second := (leaves_escapedTail? _ _ tail).length_le
  dsimp only at read
  split at read
  · cases read
    omega
  · cases read

/-- The next characters of the text of a tag: an escape, a character that belongs to it, or none. -/
theorem tagText?_cons (angled : Bool) (fuel : Nat) (c : Char) (rest : List Char) :
    tagText? angled (fuel + 1) (c :: rest) =
      if c = '%' then (escapedChar? (c :: rest)).bind fun (read, rest) =>
        (tagText? angled fuel rest).map fun (more, rest) => (read :: more, rest)
      else if isTagChar angled c then
        (tagText? angled fuel rest).map fun (more, rest) => (c :: more, rest)
      else some ([], c :: rest) := by
  by_cases escape : c = '%'
  · subst escape
    rw [tagText?, if_pos rfl]
    refine congrArg (Option.bind _) (funext fun (read, rest) => ?_)
    dsimp only
    cases tagText? angled fuel rest <;> rfl
  · rw [if_neg escape, tagText?]
    exact escape

/-- Reading the text of a tag leaves the rest. -/
theorem leaves_tagText? (angled : Bool) (fuel : Nat) : Leaves (tagText? angled fuel) := by
  induction fuel with
  | zero =>
      intro text a rest read
      cases read
      exact List.suffix_rfl
  | succ fuel ih =>
      intro text a rest read
      cases text with
      | nil =>
          cases read
          exact List.suffix_rfl
      | cons c more =>
          rw [tagText?_cons] at read
          split at read
          · obtain ⟨⟨_, middle⟩, escaped, read⟩ := Option.bind_eq_some_iff.mp read
            obtain ⟨_, found, same⟩ := Option.map_eq_some_iff.mp read
            cases same
            exact (ih found).trans (leaves_escapedChar? escaped)
          · split at read
            · obtain ⟨_, found, same⟩ := Option.map_eq_some_iff.mp read
              cases same
              exact (ih found).trans (List.suffix_cons c more)
            · cases read
              exact List.suffix_rfl

/-- What is read from one text, before it goes apart from another, is read from that as well. -/
def Follows {A : Type} (fork : Fork) (read again : Option (A × List Char)) : Prop :=
  ∀ a rest, read = some (a, rest) → fork.margin + fork.first.length ≤ rest.length →
    ∃ left, rest = left ++ fork.first ∧ again = some (a, left ++ fork.second)

section Follows

variable {shared : List Char}

/-- If two readings follow, so does one after the other. -/
theorem Follows.bind {A B : Type} {read again : Option (A × List Char)}
    {next nextAgain : A × List Char → Option (B × List Char)} (follows : Follows fork read again)
    (leaves : ∀ a, Leaves fun text => next (a, text))
    (rest : ∀ a left, fork.margin ≤ left.length →
      Follows fork (next (a, left ++ fork.first)) (nextAgain (a, left ++ fork.second))) :
    Follows fork (read.bind next) (again.bind nextAgain) := by
  intro b last read_eq before
  obtain ⟨⟨a, middle⟩, found, ended⟩ := Option.bind_eq_some_iff.mp read_eq
  have shorter := (leaves a ended).length_le
  obtain ⟨left, rfl, foundOther⟩ := follows a middle found (by omega)
  rw [foundOther]
  refine rest a left ?_ b last ended before
  rw [List.length_append] at shorter
  omega

/-- What is made of a result follows as the result does. -/
theorem Follows.map {A B : Type} {read again : Option (A × List Char)}
    (follows : Follows fork read again) (f : A → B) :
    Follows fork (read.map fun (a, rest) => (f a, rest))
      (again.map fun (a, rest) => (f a, rest)) := by
  intro b rest read_eq before
  obtain ⟨⟨a, _⟩, found, same⟩ := Option.map_eq_some_iff.mp read_eq
  cases same
  obtain ⟨left, rfl, foundOther⟩ := follows a _ found before
  exact ⟨left, rfl, by rw [foundOther]; rfl⟩

/-- What has been read already is the same for both texts. -/
theorem Follows.some {A : Type} (a : A) (left : List Char) :
    Follows fork (.some (a, left ++ fork.first)) (.some (a, left ++ fork.second)) := by
  rintro _ _ ⟨⟩ -
  exact ⟨left, rfl, rfl⟩

/-- Where nothing is read, nothing is to follow. -/
theorem Follows.none {A : Type} {again : Option (A × List Char)} : Follows fork .none again := by
  rintro _ _ ⟨⟩

/-- An escaped byte is the same in both texts. -/
theorem follows_escapedByte? (far : 4 ≤ fork.margin) (before : fork.margin ≤ shared.length) :
    Follows fork (escapedByte? (shared ++ fork.first)) (escapedByte? (shared ++ fork.second)) := by
  obtain ⟨c, d, e, left, rfl⟩ : ∃ c d e left, shared = c :: d :: e :: left := by
    match shared with
    | [] | [_] | [_, _] => simp at before; omega
    | c :: d :: e :: left => exact ⟨c, d, e, left, rfl⟩
  by_cases escape : c = '%'
  · subst escape
    simp only [List.cons_append, escapedByte?]
    cases Integer.natural? 16 [d, e] with
    | none => exact .none
    | some value => exact .some value left
  · intro a rest read
    have none : escapedByte? (c :: d :: e :: left ++ fork.first) = .none := by
      unfold escapedByte?
      grind
    rw [none] at read
    cases read

/-- The bytes that follow the first are the same in both texts. -/
theorem follows_escapedTail? (far : 4 ≤ fork.margin) (count code : Nat)
    (before : fork.margin ≤ shared.length) :
    Follows fork (escapedTail? count code (shared ++ fork.first))
      (escapedTail? count code (shared ++ fork.second)) := by
  induction count generalizing code shared with
  | zero => exact .some code shared
  | succ count ih =>
      rw [escapedTail?_succ, escapedTail?_succ]
      refine (follows_escapedByte? far before).bind (fun byte text a rest read => ?_)
        fun byte left before => ?_
      · dsimp only at read
        split at read
        · cases read
        · exact leaves_escapedTail? _ _ read
      · dsimp only
        split
        · exact .none
        · exact ih _ before

/-- An escaped character is the same in both texts. -/
theorem follows_escapedChar? (far : 4 ≤ fork.margin) (before : fork.margin ≤ shared.length) :
    Follows fork (escapedChar? (shared ++ fork.first)) (escapedChar? (shared ++ fork.second)) := by
  have last (text : List Char) (code : Nat) (a : Char) (rest : List Char)
      (read : (if code.isValidChar then some (Char.ofNat code, text) else .none) = some (a, rest)) :
      rest = text := by
    split at read
    · cases read
      rfl
    · cases read
  rw [escapedChar?_eq, escapedChar?_eq]
  refine (follows_escapedByte? far before).bind (fun byte text a rest read => ?_)
    fun byte left before => ?_
  · obtain ⟨⟨count, code⟩, -, read⟩ := Option.bind_eq_some_iff.mp read
    obtain ⟨⟨code, after⟩, tail, read⟩ := Option.bind_eq_some_iff.mp read
    rw [last _ _ _ _ read]
    exact leaves_escapedTail? _ _ tail
  · dsimp only
    cases leadingByte? byte with
    | none => exact .none
    | some leading =>
        refine (follows_escapedTail? far leading.1 leading.2 before).bind
          (fun code text a rest read => ?_) fun code left before => ?_
        · rw [last _ _ _ _ read]
        · dsimp only
          split
          · exact .some _ left
          · exact .none

/-- The text of a tag is the same in both texts, with fuel enough for each. -/
theorem follows_tagText? {angled : Bool} {fuel fuelOther : Nat} (far : 4 ≤ fork.margin)
    (before : fork.margin ≤ shared.length) (enough : (shared ++ fork.first).length < fuel)
    (enoughOther : (shared ++ fork.second).length < fuelOther) :
    Follows fork (tagText? angled fuel (shared ++ fork.first))
      (tagText? angled fuelOther (shared ++ fork.second)) := by
  induction fuel generalizing shared fuelOther with
  | zero => omega
  | succ fuel ih =>
      obtain ⟨fuelOther, rfl⟩ : ∃ more, fuelOther = more + 1 := ⟨fuelOther - 1, by omega⟩
      obtain ⟨c, left, rfl⟩ : ∃ c left, shared = c :: left :=
        List.exists_cons_of_ne_nil fun empty => by simp [empty] at before; omega
      have behind (left : List Char) (c : Char) (before : fork.margin ≤ left.length)
          (enough : (left ++ fork.first).length < fuel)
          (enoughOther : (left ++ fork.second).length < fuelOther) :
          Follows fork
            ((tagText? angled fuel (left ++ fork.first)).map fun (more, rest) => (c :: more, rest))
            ((tagText? angled fuelOther (left ++ fork.second)).map fun (more, rest) =>
              (c :: more, rest)) := (ih before enough enoughOther).map (c :: ·)
      have followsChar := follows_escapedChar? far before
      simp only [List.cons_append] at followsChar enough enoughOther ⊢
      rw [tagText?_cons, tagText?_cons]
      split
      · intro text rest read near
        obtain ⟨⟨first, middle⟩, escaped, found⟩ := Option.bind_eq_some_iff.mp read
        obtain ⟨⟨more, _⟩, inner, same⟩ := Option.map_eq_some_iff.mp found
        cases same
        have shorter := (leaves_tagText? _ _ inner).length_le
        obtain ⟨after, rfl, escapedOther⟩ := followsChar _ _ escaped (by omega)
        have less := escapedChar?_lt escaped
        have lessOther := escapedChar?_lt escapedOther
        rw [escapedOther]
        simp only [List.length_append, List.length_cons]
          at less lessOther shorter enough enoughOther
        exact behind after first (by omega) (by rw [List.length_append]; omega)
          (by rw [List.length_append]; omega) _ _ found near
      · split
        · intro text rest read near
          obtain ⟨⟨more, _⟩, inner, same⟩ := Option.map_eq_some_iff.mp read
          cases same
          have shorter := (leaves_tagText? _ _ inner).length_le
          simp only [List.length_append, List.length_cons] at shorter enough enoughOther
          exact behind left c (by omega) (by rw [List.length_append]; omega)
            (by rw [List.length_append]; omega) _ _ read near
        · exact .some [] (c :: left)

end Follows

/-- Reading the text of a tag is local. -/
theorem local_takeTagText? (angled : Bool) : LocalReader (takeTagText? angled) where
  shortens cursor := by
    intro text after read
    obtain ⟨_, -, same⟩ := Option.map_eq_some_iff.mp read
    cases same
    exact skip_le _ _
  tracks {fork cursor other} twin := by
    intro text after read before
    obtain ⟨⟨_, rest⟩, found, same⟩ := Option.map_eq_some_iff.mp read
    cases same
    obtain ⟨count, foundOther, rfl⟩ : ∃ count,
        takeTagText? angled other = some (text, other.skip count) ∧
          cursor.rest.length - rest.length = count := by
      have leaves := leaves_tagText? _ _ found
      obtain far | ⟨first, second⟩ := fork.sees
      · obtain ⟨shared, index, line, column, margin⟩ := twin
        have left_eq : ((shared ++ fork.first).drop
            ((shared ++ fork.first).length - rest.length)) = rest :=
          (List.suffix_iff_eq_drop.mp leaves).symm
        simp only [Before, Cursor.skip, left_eq] at before
        obtain ⟨left, rfl, foundOther⟩ := follows_tagText? far margin (Nat.lt_succ_self _)
          (Nat.lt_succ_self _) _ _ found before
        refine ⟨_, by rw [takeTagText?, foundOther]; rfl, ?_⟩
        simp only [List.length_append]
        omega
      · have same := twin.texts_eq (first.trans second.symm)
        exact ⟨_, by rw [takeTagText?, same, found]; rfl, rfl⟩
    exact ⟨_, foundOther, twin.skip before⟩

/-- A handle is a mark with a name, and may have another mark behind it. -/
theorem takeHandle_eq (cursor : Cursor) : some (takeHandle cursor) =
    (some (nameBehind cursor)).bind fun (name, cursor) =>
      if cursor.rest.head? = some '!' then some ('!' :: name ++ ['!'], cursor.skip 1)
      else some ('!' :: name, cursor) := by
  unfold takeHandle
  dsimp only
  rw [Option.bind_some]
  split
  · rename_i written
    exact (if_pos (congrArg List.head? written)).symm
  · rename_i unmarked
    refine (if_neg fun marked => ?_).symm
    obtain ⟨rest, written⟩ := List.head?_eq_some_iff.mp marked
    exact unmarked rest written

/-- Reading a handle is local. -/
theorem local_takeHandle : LocalReader fun cursor => some (takeHandle cursor) := by
  rw [funext takeHandle_eq]
  exact local_nameBehind.bind fun name =>
    .choose (near_head '!') (.skip (.some ('!' :: name ++ ['!'])) 1) (.some ('!' :: name))

/-- A tag in angles begins here. -/
def opensAngles : List Char → Bool
  | '!' :: '<' :: _ => true
  | _ => false

/-- Whether a tag is in angles can be seen. -/
theorem near_opensAngles : Near opensAngles := by
  intro text
  match text with
  | [] => rfl
  | [_] => rfl
  | c :: d :: rest =>
      simp only [List.take_succ_cons]
      unfold opensAngles
      grind

/-- This reads the rest of a tag in angles, behind its text. -/
def closeAngles? (text : List Char) (cursor : Cursor) :
    Option ((List Char × List Char) × Cursor) :=
  if text ≠ [] ∧ cursor.rest.head? = some '>' then some (([], text), cursor.skip 1) else none

/-- This reads the text of a tag behind its handle. -/
def tagBehind? (handle : List Char) (cursor : Cursor) :
    Option ((List Char × List Char) × Cursor) :=
  (takeTagText? false cursor).bind fun (text, cursor) =>
    if 1 < handle.length && handle.getLast? == some '!' then
      if text.isEmpty then none else some ((handle, text), cursor)
    else if (handle.drop 1 ++ text).isEmpty then some (([], ['!']), cursor)
    else some ((['!'], handle.drop 1 ++ text), cursor)

/-- This reads the handle and the text of a tag. -/
def tagParts? (cursor : Cursor) : Option ((List Char × List Char) × Cursor) :=
  if opensAngles cursor.rest then
    (takeTagText? true (cursor.skip 2)).bind fun (text, cursor) => closeAngles? text cursor
  else tagBehind? (takeHandle cursor).1 (takeHandle cursor).2

/-- The text ends a tag here. -/
def endsTag (flow : Bool) (rest : List Char) : Bool :=
  endsWord rest || (flow && rest.head? == some ',')

/-- Whether a tag ends can be seen. -/
theorem near_endsTag (flow : Bool) : Near (endsTag flow) := by
  intro text
  cases text <;> rfl

/-- A tag has its parts and an end behind them. -/
theorem takeTag?_eq (flow : Bool) (cursor : Cursor) : takeTag? flow cursor =
    (tagParts? cursor).bind fun ((handle, suffix), cursor) =>
      if endsTag flow cursor.rest then
        some (.tag (String.ofList handle) (String.ofList suffix), cursor)
      else none := by
  unfold takeTag? tagParts?
  split
  · rename_i rest written
    rw [if_pos (by rw [written]; rfl)]
    simp only [bind, Option.bind_assoc]
    refine congrArg (Option.bind _) (funext fun (text, cursor) => ?_)
    cases text with
    | nil => rfl
    | cons c text =>
        unfold closeAngles?
        cases written : cursor.rest with
        | nil => rfl
        | cons d rest =>
            by_cases closed : d = '>'
            · subst closed
              rfl
            · simp [closed]
  · rename_i other
    rw [if_neg fun angles => ?_]
    · unfold tagBehind?
      simp only [bind, Option.bind_assoc]
      split
      · refine congrArg (Option.bind _) (funext fun (text, cursor) => ?_)
        cases text <;> rfl
      · refine congrArg (Option.bind _) (funext fun (text, cursor) => ?_)
        dsimp only
        split <;> rfl
    · unfold opensAngles at angles
      split at angles
      · rename_i written
        exact other _ written
      · cases angles

/-- Closing the angles of a tag is local. -/
theorem local_closeAngles? (text : List Char) : LocalReader (closeAngles? text) :=
  .choose (near_head?.comp fun head => text ≠ [] ∧ head = some '>') (.skip (.some ([], text)) 1)
    .none

/-- Reading the text behind a handle is local. -/
theorem local_tagBehind? (handle : List Char) : LocalReader (tagBehind? handle) := by
  refine (local_takeTagText? false).bind fun text => ?_
  dsimp only
  split_ifs
  · exact .none
  · exact .some (handle, text)
  · exact .some ([], ['!'])
  · exact .some (['!'], handle.drop 1 ++ text)

/-- Reading the parts of a tag is local. -/
theorem local_tagParts? : LocalReader tagParts? :=
  .choose (near_opensAngles.comp fun opens => opens = true)
    (((local_takeTagText? true).bind local_closeAngles?).skip 2)
    (.after local_takeHandle local_tagBehind?)

/-- Reading a tag is local. -/
theorem local_takeTag? (flow : Bool) : LocalReader (takeTag? flow) := by
  rw [funext (takeTag?_eq flow)]
  exact local_tagParts?.bind fun (handle, suffix) =>
    .choose ((near_endsTag flow).comp fun ends => ends = true)
      (.some (Token.tag (String.ofList handle) (String.ofList suffix))) .none

/-- A version has nine digits at most. -/
theorem version?_eq (cursor : Cursor) : version? cursor =
    (some (cursor.takeWhile Integer.isDigit)).bind fun (digits, cursor) =>
      if 9 < digits.length then none
      else (Integer.natural? 10 digits).map fun value => (value, cursor) := rfl

/-- Reading a version is local. -/
theorem local_version? : LocalReader version? := by
  rw [funext version?_eq]
  refine (local_takeWhile Integer.isDigit).bind fun digits => ?_
  dsimp only
  split_ifs
  · exact .none
  · cases Integer.natural? 10 digits with
    | none => exact .none
    | some value => exact .some value

/-- Whether a word ends can be seen. -/
theorem near_endsWord : Near endsWord := by
  intro text
  cases text <;> rfl

/-- Reading the second part of a version is local. -/
theorem local_minorVersion? (major : Nat) : LocalReader (minorVersion? major) :=
  .choose (near_head '.') ((local_version?.map (Token.version major)).skip 1) .none

/-- Reading the meaning of a handle is local. -/
theorem local_handleMeaning? (handle : List Char) : LocalReader (handleMeaning? handle) := by
  have meaning (text : List Char) : LocalReader fun cursor =>
      if text.isEmpty || !endsWord cursor.rest then none
      else some (Token.tagDirective (String.ofList handle) (String.ofList text), cursor) :=
    .choose (near_endsWord.comp fun ends => (text.isEmpty || !ends) = true) .none (.some _)
  exact .choose
    (near_head?.comp fun head => (mayBeDeclared handle && head.any isSpace) = true)
    (((local_takeTagText? true).bind meaning).skipWhile isSpace) .none

/-- Reading what a directive says is local. -/
theorem local_directive? (name : String) : LocalReader (directive? name) := by
  unfold directive?
  split
  · exact (local_version?.bind local_minorVersion?).skipWhile isSpace
  · exact LocalReader.skipWhile (.choose (near_head '!')
      (.after local_takeHandle local_handleMeaning?) .none) isSpace
  · exact .none

/-- A directive is a name, what it says, and the rest of its line. -/
theorem takeDirective?_eq (cursor : Cursor) : takeDirective? cursor =
    (some (nameBehind cursor)).bind fun (name, cursor) =>
      if endsWord cursor.rest then
        (directive? (String.ofList name) cursor).bind fun (token, cursor) =>
          cursor.finishLine?.map fun cursor => (token, cursor)
      else none := rfl

/-- Reading a directive is local. -/
theorem local_takeDirective? : LocalReader takeDirective? := by
  rw [funext takeDirective?_eq]
  exact local_nameBehind.bind fun name =>
    .choose (near_endsWord.comp fun ends => ends = true)
      ((local_directive? _).bind local_finishLine?) .none

end HostAudit.Yaml.Lexer
