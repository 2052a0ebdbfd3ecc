import Mathlib.Data.String.Basic

/-! The order of texts by their bytes in UTF-8, which is their order by characters.
-/

namespace Tablewright.Text

/-- The bytes of a text in UTF-8.
-/
def bytes (text : String) : List UInt8 :=
  text.toList.flatMap String.utf8EncodeChar

/-- The bytes of a text are those that it is kept as.
-/
theorem toUTF8_eq_bytes (text : String) : text.toUTF8 = (bytes text).toByteArray := by
  conv_lhs => rw [← String.ofList_toList (s := text)]
  exact String.toByteArray_ofList

-----------------------------------------------------------------------------------------
-- Single characters
-----------------------------------------------------------------------------------------

/-- The bytes of a character: its number is split into digits to the base 64, and the first byte
tells how many there are.
-/
inductive Spelling : Nat → List UInt8 → Prop
  | one (a : Nat) (small : a < 128) : Spelling a [.ofNat a]
  | two (a b : Nat) (large : 128 ≤ 64 * a + b) (first : a < 32) (last : b < 64)
    : Spelling (64 * a + b) [.ofNat (a + 192), .ofNat (b + 128)]
  | three (a b c : Nat) (large : 2048 ≤ 4096 * a + 64 * b + c) (first : a < 16)
    (second : b < 64) (last : c < 64)
    : Spelling (4096 * a + 64 * b + c) [.ofNat (a + 224), .ofNat (b + 128), .ofNat (c + 128)]
  | four (a b c d : Nat) (large : 65536 ≤ 262144 * a + 4096 * b + 64 * c + d) (first : a < 8)
    (second : b < 64) (third : c < 64) (last : d < 64)
    : Spelling (262144 * a + 4096 * b + 64 * c + d)
        [.ofNat (a + 240), .ofNat (b + 128), .ofNat (c + 128), .ofNat (d + 128)]

/-- Every character is spelled so.
-/
theorem spelling_utf8EncodeChar (c : Char)
    : Spelling c.val.toNat (String.utf8EncodeChar c) := by
  have bound : c.val.toNat < 1114112 := by
    have valid := c.valid
    simp only [UInt32.isValidChar, Nat.isValidChar] at valid
    omega
  simp only [String.utf8EncodeChar]
  generalize c.val.toNat = n at bound
  split
  · exact .one n (by omega)
  · split
    · have digits : n = 64 * (n / 64 % 32) + n % 64 := by omega
      have spelled := Spelling.two (n / 64 % 32) (n % 64) (by omega) (by omega) (by omega)
      rwa [← digits] at spelled
    · split
      · have digits : n = 4096 * (n / 4096 % 16) + 64 * (n / 64 % 64) + n % 64 := by omega
        have spelled := Spelling.three (n / 4096 % 16) (n / 64 % 64) (n % 64) (by omega)
          (by omega) (by omega) (by omega)
        rwa [← digits] at spelled
      · have digits
            : n
              = 262144 * (n / 262144 % 8) + 4096 * (n / 4096 % 64) + 64 * (n / 64 % 64)
                + n % 64 := by
          omega
        have spelled := Spelling.four (n / 262144 % 8) (n / 4096 % 64) (n / 64 % 64) (n % 64)
          (by omega) (by omega) (by omega) (by omega) (by omega)
        rwa [← digits] at spelled

/-- Of two spellings that of the smaller number comes first, whatever follows them.
-/
theorem Spelling.append_lt_append {m n : Nat} {first second : List UInt8}
    (one : Spelling m first) (other : Spelling n second) (below : m < n)
    (rest others : List UInt8)
    : first ++ rest < second ++ others := by
  cases one <;> cases other <;>
    simp only [List.cons_append, List.cons_lt_cons_iff, UInt8.lt_iff_toNat_lt,
      ← UInt8.toNat_inj, UInt8.toNat_ofNat'] <;>
    omega

-----------------------------------------------------------------------------------------
-- Texts
-----------------------------------------------------------------------------------------

/-- A text that comes earlier by its characters does so by its bytes.
Witness: induction along both texts, up to the first difference.
-/
theorem bytes_lt_bytes {text other : String} (before : text < other)
    : bytes text < bytes other := by
  rw [String.lt_iff_toList_lt] at before
  rw [bytes, bytes]
  generalize text.toList = first, other.toList = second at before
  induction first generalizing second with
  | nil =>
      cases second with
      | nil => exact absurd before (List.not_lt_nil _)
      | cons d others =>
          rw [List.flatMap_nil, List.flatMap_cons]
          cases spelled : String.utf8EncodeChar d with
          | nil => exact absurd spelled String.utf8EncodeChar_ne_nil
          | cons byte more => exact List.nil_lt_cons _ _
  | cons c rest ih =>
      cases second with
      | nil => exact absurd before (List.not_lt_nil _)
      | cons d others =>
          rw [List.flatMap_cons, List.flatMap_cons]
          rcases List.cons_lt_cons_iff.mp before with less | ⟨rfl, later⟩
          · exact (spelling_utf8EncodeChar c).append_lt_append (spelling_utf8EncodeChar d) less _ _
          · exact List.append_left_lt (ih _ later)

/-- Texts are in the order of their bytes exactly when they are in that of their characters.
-/
theorem bytes_lt_bytes_iff {text other : String}
    : bytes text < bytes other ↔ text < other := by
  constructor
  · intro less
    by_contra notBefore
    by_cases after : other < text
    · exact List.lt_asymm less (bytes_lt_bytes after)
    · obtain rfl := String.le_antisymm (String.not_lt.mp after) (String.not_lt.mp notBefore)
      exact List.lt_irrefl _ less
  · exact bytes_lt_bytes

end Tablewright.Text
