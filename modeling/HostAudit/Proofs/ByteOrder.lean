import HostAudit.Text.Utf8
import Mathlib.Data.List.Lex
import Mathlib.Data.String.Basic

/-
This file shows that texts stand in the order of the bytes that encode them.
-/

namespace HostAudit.Text.Utf8

/-- The bytes that are held are followed by those from an index on. -/
theorem toList_loop (array : ByteArray) (index : Nat) (held : List UInt8) :
    ByteArray.toList.loop array index held = held.reverse ++ array.data.toList.drop index := by
  fun_induction ByteArray.toList.loop array index held with
  | case1 index held inside ih =>
      have within : index < array.data.size := inside
      have next : array.data.toList.drop index =
          array.get! index :: array.data.toList.drop (index + 1) := by
        rw [List.drop_eq_getElem_cons within, Array.getElem_toList,
          ← getElem!_pos array.data index within]
        rfl
      rw [ih, next]
      simp
  | case2 index held outside =>
      have past : array.data.toList.length ≤ index := Nat.le_of_not_lt outside
      rw [List.drop_eq_nil_of_le past]
      simp

/-- The bytes of a text are those of its characters. -/
theorem bytes_eq (text : String) : bytes text = text.toList.flatMap String.utf8EncodeChar := by
  rw [bytes, String.toUTF8, ByteArray.toList, toList_loop, ← String.utf8Encode_toList]
  simp [List.utf8Encode]

/-- Lists of small numbers are in order as their first numbers are, or else as what follows. -/
theorem ofNat_cons_lt_cons {first second : Nat} {before after : List UInt8} :
    UInt8.ofNat first :: before < UInt8.ofNat second :: after ↔
      first % 256 < second % 256 ∨ first % 256 = second % 256 ∧ before < after := by
  rw [List.cons_lt_cons_iff, UInt8.lt_iff_toNat_lt, ← UInt8.toNat_inj]
  simp

/-- The bytes of a smaller character are smaller, whatever follows. No bytes of a character begin
those of another. -/
theorem encode_append_lt {first second : Char} (less : first < second) (before after : List UInt8) :
    String.utf8EncodeChar first ++ before < String.utf8EncodeChar second ++ after := by
  have below : first.val.toNat < second.val.toNat := less
  have valid : second.val.toNat < 0x110000 := by
    rcases second.valid with low | high
    · exact lt_trans low (by decide)
    · exact high.2
  -- Every byte tells a digit in base 64.
  have third (value : Nat) : value / 4096 = value / 64 / 64 := by omega
  have fourth (value : Nat) : value / 262144 = value / 64 / 64 / 64 := by omega
  simp only [String.utf8EncodeChar, third, fourth]
  split_ifs <;> first | omega | (simp only [List.cons_append, ofNat_cons_lt_cons]; omega)

/-- Texts are in order as their bytes are: a greater code point has greater bytes. -/
theorem flatMap_encode_lt {first second : List Char} (less : List.Lex (· < ·) first second) :
    first.flatMap String.utf8EncodeChar < second.flatMap String.utf8EncodeChar := by
  induction less with
  | @nil c rest =>
      obtain ⟨byte, others, same⟩ : ∃ byte others, String.utf8EncodeChar c = byte :: others :=
        List.exists_cons_of_ne_nil String.utf8EncodeChar_ne_nil
      rw [List.flatMap_cons, same]
      exact List.nil_lt_cons _ _
  | rel less => exact encode_append_lt less _ _
  | cons _ ih => exact List.append_left_lt ih

/-- The order of texts is the order of their bytes. -/
theorem bytes_lt_bytes_iff {first second : String} :
    bytes first < bytes second ↔ first < second := by
  have forward {first second : String} (less : first < second) : bytes first < bytes second := by
    rw [bytes_eq, bytes_eq]
    exact flatMap_encode_lt (String.lt_iff.mp less)
  constructor
  · intro less
    rcases lt_trichotomy first second with before | same | after
    · exact before
    · exact absurd less (same ▸ List.lt_irrefl _)
    · exact absurd less (List.lt_asymm (forward after))
  · exact forward

end HostAudit.Text.Utf8
