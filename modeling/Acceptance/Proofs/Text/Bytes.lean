import Mathlib.Data.List.Lex
import Mathlib.Data.String.Basic

namespace Acceptance.Text

/-! Texts are compared character by character. Their encodings, compared byte by byte, come
in the same order: the first byte of a character grows with the number of its bytes, and
the bytes are the digits of its code, the highest first. -/

def bytes (text : String) : List UInt8 :=
  text.toUTF8.data.toList

example : bytes "é" = [0xC3, 0xA9] := by decide +kernel

theorem bytes_eq_flatMap (text : String) :
    bytes text = text.toList.flatMap String.utf8EncodeChar := by
  have encoded : (String.ofList text.toList).toUTF8 = text.toList.utf8Encode := rfl
  rw [bytes, ← String.ofList_toList (s := text), encoded, String.ofList_toList,
    List.utf8Encode, List.data_toByteArray]

/-- The bytes of the lesser of two characters come first, whatever follows them. -/
theorem utf8EncodeChar_append_lt {left right : Char} (less : left < right)
    (leftRest rightRest : List UInt8) :
    String.utf8EncodeChar left ++ leftRest < String.utf8EncodeChar right ++ rightRest := by
  have codes : left.val.toNat < right.val.toNat := UInt32.lt_iff_toNat_lt.mp less
  have bound : right.val.toNat < 1114112 := by
    rcases right.valid with low | high
    · exact Nat.lt_trans low (by decide)
    · exact high.2
  have byte {digit first : Nat} (small : digit + first < 256) :
      (UInt8.ofNat (digit + first)).toNat = digit + first :=
    (UInt8.toNat_ofNat' ..).trans (Nat.mod_eq_of_lt small)
  -- The digits of higher places are those of the quotient by 64.
  have third (code : Nat) : code / 4096 = code / 64 / 64 := by omega
  have fourth (code : Nat) : code / 262144 = code / 64 / 64 / 64 := by omega
  simp only [String.utf8EncodeChar]
  generalize left.val.toNat = low at *
  generalize right.val.toNat = high at *
  split_ifs <;>
    simp (disch := omega) only [List.cons_append, List.nil_append, List.cons_lt_cons_iff,
      UInt8.lt_iff_toNat_lt, ← UInt8.toNat_inj, byte, UInt8.toNat_ofNat', third, fourth] <;>
    omega

theorem flatMap_utf8EncodeChar_lt {left right : List Char} (less : left < right) :
    left.flatMap String.utf8EncodeChar < right.flatMap String.utf8EncodeChar := by
  induction less with
  | @nil first rest =>
      rw [List.flatMap_nil, List.flatMap_cons]
      cases encoded : String.utf8EncodeChar first with
      | nil => exact absurd encoded String.utf8EncodeChar_ne_nil
      | cons byte others => exact List.nil_lt_cons ..
  | cons later induction => exact List.Lex.append_left _ induction _
  | rel less => exact utf8EncodeChar_append_lt less _ _

theorem bytes_lt_of_lt {left right : String} (less : left < right) :
    bytes left < bytes right := by
  rw [bytes_eq_flatMap, bytes_eq_flatMap]
  exact flatMap_utf8EncodeChar_lt (String.lt_iff_toList_lt.mp less)

theorem bytes_lt_iff {left right : String} : bytes left < bytes right ↔ left < right := by
  refine ⟨fun less => ?_, bytes_lt_of_lt⟩
  rcases lt_trichotomy left right with below | rfl | above
  · exact below
  · exact absurd less (List.lt_irrefl _)
  · exact absurd less (List.lt_asymm (bytes_lt_of_lt above))

end Acceptance.Text
