import KeyedText.Character.Range

/-!
# Letters and digits of ASCII by their code points

The classes of ASCII are ranges of code points, and lower case moves a capital
by the distance of the two ranges of letters.  Facts about single classes follow
by arithmetic.
-/

namespace KeyedText
namespace Character

theorem isAsciiDigit_iff
    {character : Char} :
    isAsciiDigit character = true ↔ 48 ≤ character.toNat ∧ character.toNat ≤ 57 := by
  rw [isAsciiDigit, Bool.and_eq_true, decide_eq_true_eq, decide_eq_true_eq, Char.le_def,
    Char.le_def, UInt32.le_iff_toNat_le, UInt32.le_iff_toNat_le]
  rfl

theorem isAsciiLower_iff
    {character : Char} :
    isAsciiLower character = true ↔ 97 ≤ character.toNat ∧ character.toNat ≤ 122 := by
  rw [isAsciiLower, Bool.and_eq_true, decide_eq_true_eq, decide_eq_true_eq, Char.le_def,
    Char.le_def, UInt32.le_iff_toNat_le, UInt32.le_iff_toNat_le]
  rfl

theorem isAsciiUpper_iff
    {character : Char} :
    isAsciiUpper character = true ↔ 65 ≤ character.toNat ∧ character.toNat ≤ 90 := by
  rw [isAsciiUpper, Bool.and_eq_true, decide_eq_true_eq, decide_eq_true_eq, Char.le_def,
    Char.le_def, UInt32.le_iff_toNat_le, UInt32.le_iff_toNat_le]
  rfl

theorem asciiLower_eq_self
    {character : Char}
    (notUpper : isAsciiUpper character = false) :
    asciiLower character = character := by
  rw [asciiLower, notUpper, if_neg Bool.false_ne_true]

/-- The character of a code has that code. -/
theorem toNat_ofNat
    {code : Nat}
    (isCode : code.isValidChar) :
    (Char.ofNat code).toNat = code := by
  rw [Char.ofNat, dif_pos isCode]
  rfl

/-- A capital has a small letter. -/
theorem isAsciiLower_asciiLower
    {character : Char}
    (isUpper : isAsciiUpper character = true) :
    isAsciiLower (asciiLower character) = true := by
  obtain ⟨least, greatest⟩ := isAsciiUpper_iff.mp isUpper
  have isCode : (character.toNat + 32).isValidChar := Or.inl (by omega)
  rw [isAsciiLower_iff, asciiLower, if_pos isUpper, toNat_ofNat isCode]
  omega

end Character
end KeyedText
