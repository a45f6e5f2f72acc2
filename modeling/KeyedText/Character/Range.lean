/-!
# Ranges of code points

A property of characters is stored as a list of inclusive ranges of code points.  Membership
is decided by searching the list.
-/

namespace KeyedText
namespace Character

/-- Inclusive ranges of code points, in increasing order. -/
abbrev Ranges := List (Nat × Nat)

/-- Whether the code point of a character lies in one of the ranges. -/
def within (ranges : Ranges) (character : Char) : Bool :=
  ranges.any fun range => range.1 ≤ character.toNat && character.toNat ≤ range.2

/-- Whether a character is one of the 128 ASCII characters. -/
def isAscii (character : Char) : Bool :=
  character.toNat < 128

/-- A decimal digit of ASCII. -/
def isAsciiDigit (character : Char) : Bool :=
  '0' ≤ character && character ≤ '9'

/-- A lower-case letter of ASCII. -/
def isAsciiLower (character : Char) : Bool :=
  'a' ≤ character && character ≤ 'z'

/-- An upper-case letter of ASCII. -/
def isAsciiUpper (character : Char) : Bool :=
  'A' ≤ character && character ≤ 'Z'

/-- A letter or decimal digit of ASCII. -/
def isAsciiAlphanumeric (character : Char) : Bool :=
  isAsciiLower character || isAsciiUpper character || isAsciiDigit character

/-- Lower-cases an ASCII letter and keeps every other character. -/
def asciiLower (character : Char) : Char :=
  if isAsciiUpper character then Char.ofNat (character.toNat + 32) else character

end Character
end KeyedText
