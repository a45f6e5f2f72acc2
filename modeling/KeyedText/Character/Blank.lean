import KeyedText.Character.Range

/-!
# Blank characters

Two notions of blank are in use: the White_Space property of Unicode, and the four characters
that an element tree treats as layout.
-/

namespace KeyedText
namespace Character

/-- The White_Space property of Unicode. -/
def isBlank (character : Char) : Bool :=
  within
    [(0x9, 0xd), (0x20, 0x20), (0x85, 0x85), (0xa0, 0xa0), (0x1680, 0x1680), (0x2000, 0x200a),
     (0x2028, 0x2029), (0x202f, 0x202f), (0x205f, 0x205f), (0x3000, 0x3000)]
    character

/-- Space, tab, line feed and carriage return: the layout between the elements of a page. -/
def isLayout (character : Char) : Bool :=
  character == ' ' || character == '\t' || character == '\r' || character == '\n'

/-- Every layout character is blank. -/
theorem isBlank_of_isLayout {character : Char} (layout : isLayout character = true) :
    isBlank character = true := by
  simp only [isLayout, Bool.or_eq_true, beq_iff_eq] at layout
  rcases layout with ((rfl | rfl) | rfl) | rfl <;> rfl

end Character
end KeyedText
