import HostAudit.Proofs.SelectedNodes

/-
This file says which part of an array an index or a slice selects. Their places can be worked out
with words of 64 bits, and never lie outside the array: lengths are taken to be words of 64 bits, on
a machine with shorter ones a bound may be cut off. Slices that meet are one slice, and an index
selects what a slice of one item does.
-/

namespace HostAudit

open Json (Value)

namespace Path

section Places

variable {A : Type} {items : List A}

/-- The place at which a slice begins in an array of so many items. -/
def begins (size : Nat) (first : Option Int) : Int := first.elim 0 (bounded size)

/-- The place before which a slice ends in an array of so many items. -/
def ends (size : Nat) (last : Option Int) : Int := last.elim size (bounded size)

/-- A bound is moved into the array. -/
theorem bounded_inside (size : Nat) (bound : Int) :
    0 ≤ bounded size bound ∧ bounded size bound ≤ size := by
  unfold bounded
  split_ifs <;> omega

/-- A slice begins inside the array. -/
theorem begins_inside (size : Nat) (first : Option Int) :
    0 ≤ begins size first ∧ begins size first ≤ size := by
  cases first with
  | none => exact ⟨le_refl 0, Int.natCast_nonneg size⟩
  | some bound => exact bounded_inside size bound

/-- A slice ends inside the array. -/
theorem ends_inside (size : Nat) (last : Option Int) :
    0 ≤ ends size last ∧ ends size last ≤ size := by
  cases last with
  | none => exact ⟨Int.natCast_nonneg size, le_refl _⟩
  | some bound => exact bounded_inside size bound

/-- The place at which the code lets a slice begin is the clamped bound. -/
theorem clamp_eq_begins (size : Nat) (first : Option Int) :
    (((first.map (clamp · size)).getD 0 : Nat) : Int) = begins size first := by
  cases first with
  | none => rfl
  | some bound => exact clamp_eq bound size

/-- The place before which the code lets a slice end is the clamped bound. -/
theorem clamp_eq_ends (size : Nat) (last : Option Int) :
    (((last.map (clamp · size)).getD size : Nat) : Int) = ends size last := by
  cases last with
  | none => rfl
  | some bound => exact clamp_eq bound size

/-- A slice is a run of items, which is empty if its places cross. -/
theorem sliced_eq (first last : Option Int) (items : List A) :
    sliced first last items =
      (items.drop (begins items.length first).toNat).take
        (ends items.length last - begins items.length first).toNat := by
  rw [sliced, ← clamp_eq_begins, ← clamp_eq_ends, List.drop_take, Int.toNat_natCast,
    Int.toNat_sub]

/-- Runs of a list that meet are one run. -/
theorem drop_take_append {start middle stop : Nat} (lower : start ≤ middle)
    (upper : middle ≤ stop) :
    (items.take middle).drop start ++ (items.take stop).drop middle =
      (items.take stop).drop start := by
  have before : items.take middle = (items.take stop).take middle := by
    rw [List.take_take, Nat.min_eq_left upper]
  have further : (items.take stop).drop middle =
      ((items.take stop).drop start).drop (middle - start) := by
    rw [List.drop_drop, Nat.add_sub_cancel' lower]
  rw [before, further, List.drop_take, List.take_append_drop]

/-- Slices that meet are one slice. -/
theorem sliced_append (first last : Option Int) {middle : Int}
    (lower : begins items.length first ≤ bounded items.length middle)
    (upper : bounded items.length middle ≤ ends items.length last) :
    sliced first (some middle) items ++ sliced (some middle) last items =
      sliced first last items := by
  rw [← clamp_eq_begins, ← clamp_eq, Int.ofNat_le] at lower
  rw [← clamp_eq_ends, ← clamp_eq, Int.ofNat_le] at upper
  exact drop_take_append lower upper

end Places

section Single

variable {items : List Value} {position : Int}

/-- An index selects what a selector does that picks at the same places. -/
theorem select_index_eq_slice {first last : Option Int}
    (same : ∀ place : Nat, place < items.length →
      ((place : Int) = placed items.length position ↔
        begins items.length first ≤ place ∧ place < ends items.length last)) :
    (Selector.index position).select (.array items) =
      (Selector.slice first last).select (.array items) := by
  rw [select_index, select_slice, map_snd_picked_array, map_snd_picked_array]
  congr 1
  apply List.filter_congr
  intro entry inside
  have within : entry.2 < items.length := by
    simpa using List.snd_lt_of_mem_zipIdx inside
  rw [decide_eq_decide]
  exact same entry.2 within

/-- The last item is what a slice without an end selects from it on. The next place would be
zero. -/
theorem select_index_last :
    (Selector.index (-1)).select (.array items) =
      (Selector.slice (some (-1)) none).select (.array items) := by
  apply select_index_eq_slice
  intro place within
  simp only [placed, begins, ends, bounded, Option.elim]
  split_ifs <;> omega

/-- An index selects what the slice from it to the next place does. -/
theorem select_index_of_ne (other : position ≠ -1) :
    (Selector.index position).select (.array items) =
      (Selector.slice (some position) (some (position + 1))).select (.array items) := by
  apply select_index_eq_slice
  intro place within
  -- The index and the next number count from the same end, as only -1 is followed by 0.
  simp only [placed, begins, ends, bounded, Option.elim]
  split_ifs <;> omega

/-- An index selects what a slice up to the next place does. Behind the last item there is no such
place: the next number is that of the first item. -/
theorem select_index_eq_iff :
    (Selector.index position).select (.array items) =
        (Selector.slice (some position) (some (position + 1))).select (.array items) ↔
      position ≠ -1 ∨ items = [] := by
  constructor
  · intro same
    by_cases last : position = -1
    · right
      by_contra given
      -- The index selects the last item, and the slice goes from there back to the first.
      have reached : 1 ≤ items.length := List.length_pos_iff.mpr given
      have selected : (Selector.index (-1)).select (.array items) =
          [items[items.length - 1]] := by
        simp [Selector.select, position?, reached]
      have crossed : (Selector.slice (some (-1)) (some 0)).select (.array items) = [] := by
        rw [Selector.select, sliced_eq]
        simp [begins, ends, bounded]
      obtain rfl := last
      rw [Int.add_left_neg, selected, crossed] at same
      exact absurd same (List.cons_ne_nil _ _)
    · exact .inl last
  · rintro (other | rfl)
    · exact select_index_of_ne other
    · simp [Selector.select, sliced]

/-- An index selects one item at the most. -/
theorem length_select_index : ((Selector.index position).select (.array items)).length ≤ 1 := by
  rw [Selector.select]
  exact Option.length_toList_le

end Single

namespace Word

variable {A : Type}

/-- How far a signed word is from zero. This is an unsigned word for the least one, too. -/
def magnitude (word : Int64) : UInt64 := word.abs.toUInt64

/-- The place of an index in an array of so many items. -/
def position? (index : Int64) (length : UInt64) : Option UInt64 :=
  if 0 ≤ index then some index.toUInt64
  else if magnitude index ≤ length then some (length - magnitude index)
  else none

/-- The place of a bound of a slice in an array of so many items. -/
def clamp (bound : Int64) (length : UInt64) : UInt64 :=
  if 0 ≤ bound then min bound.toUInt64 length
  else if magnitude bound ≤ length then length - magnitude bound
  else 0

/-- The magnitude of a word is its absolute value, for the least word as well. -/
theorem toNat_magnitude (word : Int64) : (magnitude word).toNat = word.toInt.natAbs := by
  have number := BitVec.toInt_eq_toNat_cond word.toBitVec
  have small := word.toBitVec.isLt
  change word.toInt = _ at number
  change word.toBitVec.abs.toNat = _
  rw [BitVec.toNat_abs, BitVec.msb_eq_toInt]
  change (if decide (word.toInt < 0) = true then _ else _) = _
  simp only [decide_eq_true_eq]
  split_ifs at number ⊢ <;> omega

/-- Taking a magnitude away from a length does not wrap around if it fits in. -/
theorem toNat_sub_magnitude {word : Int64} {length : UInt64}
    (inside : word.toInt.natAbs ≤ length.toNat) :
    (length - magnitude word).toNat = length.toNat - word.toInt.natAbs := by
  rw [UInt64.toNat_sub_of_le, toNat_magnitude]
  rwa [UInt64.le_iff_toNat_le, toNat_magnitude]

/-- A word that is not negative keeps its value as an unsigned one. -/
theorem toNat_of_nonneg {word : Int64} (nonneg : 0 ≤ word.toInt) :
    word.toUInt64.toNat = word.toInt.toNat :=
  Int64.toNat_toUInt64_of_le (Int64.le_iff_toInt_le.mpr nonneg)

/-- With words the same place is found for an index. -/
theorem toNat_position? (index : Int64) (length : UInt64) :
    (position? index length).map UInt64.toNat = Path.position? index.toInt length.toNat := by
  simp only [position?, Path.position?, UInt64.le_iff_toNat_le, toNat_magnitude,
    Int64.le_iff_toInt_le, Int64.toInt_zero]
  split_ifs with nonneg inside
  · rw [Option.map_some, toNat_of_nonneg nonneg]
  · rw [Option.map_some, toNat_sub_magnitude inside]
  · rfl

/-- With words the same place is found for a bound. -/
theorem toNat_clamp (bound : Int64) (length : UInt64) :
    (clamp bound length).toNat = Path.clamp bound.toInt length.toNat := by
  simp only [clamp, Path.clamp, UInt64.le_iff_toNat_le, toNat_magnitude, Int64.le_iff_toInt_le,
    Int64.toInt_zero]
  split_ifs with nonneg inside
  · rw [UInt64.toNat_min, toNat_of_nonneg nonneg]
  · rw [toNat_sub_magnitude inside]
  · rw [UInt64.toNat_zero]
    omega

/-- The item at an index. -/
def item? (index : Int64) (items : List A) : Option A :=
  (position? index (UInt64.ofNat items.length)).bind fun place => items[place.toNat]?

/-- The items from one place up to another. Nothing is given for places that cross or lie outside
the list. -/
def run? (start stop : Nat) (items : List A) : Option (List A) :=
  if start ≤ stop ∧ stop ≤ items.length then some ((items.drop start).take (stop - start)) else none

/-- The items of a slice, which are not looked for if the places cross. -/
def sliced? (first last : Option Int64) (items : List A) : Option (List A) :=
  let length := UInt64.ofNat items.length
  let start := first.elim 0 (clamp · length)
  let stop := last.elim length (clamp · length)
  if stop ≤ start then some [] else run? start.toNat stop.toNat items

section Fitting

variable {items : List A} (fits : items.length < 2 ^ 64)

include fits

/-- Indexing with words gives the item at the place of the index, and never looks outside the
array. -/
theorem item?_eq (index : Int64) :
    item? index items =
      (Path.position? index.toInt items.length).bind fun place => items[place]? := by
  have size : (UInt64.ofNat items.length).toNat = items.length := UInt64.toNat_ofNat_of_lt' fits
  have place := toNat_position? index (UInt64.ofNat items.length)
  rw [size] at place
  rw [item?, ← place, Option.bind_map]
  rfl

/-- The places of a slice never lie outside the list. -/
theorem sliced?_eq (first last : Option Int64) :
    sliced? first last items =
      some (sliced (first.map Int64.toInt) (last.map Int64.toInt) items) := by
  have size : (UInt64.ofNat items.length).toNat = items.length := UInt64.toNat_ofNat_of_lt' fits
  have start : ((first.elim 0 (clamp · (UInt64.ofNat items.length))).toNat : Int) =
      begins items.length (first.map Int64.toInt) := by
    cases first with
    | none => rfl
    | some bound =>
        rw [Option.elim, toNat_clamp, size]
        exact clamp_eq bound.toInt items.length
  have stop : ((last.elim (UInt64.ofNat items.length) (clamp · (UInt64.ofNat items.length))).toNat :
      Int) = ends items.length (last.map Int64.toInt) := by
    cases last with
    | none => exact congrArg Nat.cast size
    | some bound =>
        rw [Option.elim, toNat_clamp, size]
        exact clamp_eq bound.toInt items.length
  have inside := (ends_inside items.length (last.map Int64.toInt)).2
  rw [← stop] at inside
  rw [sliced?, sliced_eq, ← start, ← stop, Int.toNat_natCast, Int.toNat_sub]
  simp only [UInt64.le_iff_toNat_le]
  split_ifs with crossed
  · rw [Nat.sub_eq_zero_of_le crossed, List.take_zero]
  · rw [run?, if_pos (by omega)]

end Fitting

end Word

/-- Worked out with words of 64 bits, a slice stays within the array, and indices and slices select
the items that they do among unbounded numbers. A slice selects the run of items from the place at
which it begins up to the one at which it ends. The items before a place and those from it on are
all items, and slices that meet are one slice. An index selects one item at most, and what the slice
up to the next place does, but for the last item, which is what a slice without an end selects. -/
theorem slices_divide_arrays {items : List Value} (fits : items.length < 2 ^ 64) :
    (∀ first last : Option Int64,
      Word.sliced? first last items =
        some ((Selector.slice (first.map Int64.toInt) (last.map Int64.toInt)).select
          (.array items))) ∧
    (∀ index : Int64,
      (Word.item? index items).toList = (Selector.index index.toInt).select (.array items)) ∧
    (∀ first last : Option Int,
      (0 ≤ begins items.length first ∧ begins items.length first ≤ items.length) ∧
      (0 ≤ ends items.length last ∧ ends items.length last ≤ items.length) ∧
      (Selector.slice first last).select (.array items) =
        (items.drop (begins items.length first).toNat).take
          (ends items.length last - begins items.length first).toNat) ∧
    (∀ place : Int,
      (Selector.slice none (some place)).select (.array items) ++
        (Selector.slice (some place) none).select (.array items) = items) ∧
    (∀ (first last : Option Int) (middle : Int),
      begins items.length first ≤ bounded items.length middle →
      bounded items.length middle ≤ ends items.length last →
      (Selector.slice first (some middle)).select (.array items) ++
        (Selector.slice (some middle) last).select (.array items) =
        (Selector.slice first last).select (.array items)) ∧
    (∀ position : Int,
      ((Selector.index position).select (.array items)).length ≤ 1 ∧
      ((Selector.index position).select (.array items) =
          (Selector.slice (some position) (some (position + 1))).select (.array items) ↔
        position ≠ -1 ∨ items = [])) ∧
    (Selector.index (-1)).select (.array items) =
      (Selector.slice (some (-1)) none).select (.array items) := by
  refine ⟨Word.sliced?_eq fits, fun index => ?item, fun first last => ?run, fun place => ?halves,
    fun first last middle => sliced_append first last,
    fun position => ⟨length_select_index, select_index_eq_iff⟩, select_index_last⟩
  case item => exact congrArg Option.toList (Word.item?_eq fits index)
  case run => exact ⟨begins_inside _ first, ends_inside _ last, sliced_eq first last items⟩
  case halves =>
    obtain ⟨lower, upper⟩ := bounded_inside items.length place
    have whole : sliced none none items = items := by
      simp [sliced]
    exact (sliced_append none none lower upper).trans whole

/-- An array of three items. -/
def three : List Value := [.text "a", .text "b", .text "c"]

theorem slices_divide_arrays_three :
    three.length < 2 ^ 64 ∧
    Word.sliced? (some Int64.minValue) (some Int64.maxValue) three = some three ∧
    Word.sliced? (some (-1)) (some 0) three = some [] ∧
    (begins three.length (some (-4)) ≤ bounded three.length (-2) ∧
      bounded three.length (-2) ≤ ends three.length (some 7)) ∧
    (Selector.slice (some (-4)) (some (-2))).select (.array three) ++
        (Selector.slice (some (-2)) (some 7)).select (.array three) = three ∧
    (Selector.index (-4)).select (.array three) =
      (Selector.slice (some (-4)) (some (-3))).select (.array three) := by
  have fits : three.length < 2 ^ 64 := by decide
  have ordered : begins three.length (some (-4)) ≤ bounded three.length (-2) ∧
      bounded three.length (-2) ≤ ends three.length (some 7) := by
    decide
  obtain ⟨words, -, -, -, meet, single, -⟩ := slices_divide_arrays fits
  refine ⟨fits, ?_, ?_, ordered, ?_, ?_⟩
  · exact (words _ _).trans rfl
  · exact (words _ _).trans rfl
  · exact (meet _ _ _ ordered.1 ordered.2).trans rfl
  · exact (single (-4)).2.mpr (.inl (by decide))

end Path

end HostAudit
