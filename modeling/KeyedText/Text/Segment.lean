import KeyedText.Character.Range

/-!
# Segments of paths

The directories and files of a path become names of groups: lower-case words of ASCII, with an
underscore in front of every capital but the first character and in the place of every character
that a name cannot hold.
-/

namespace KeyedText
namespace Text

/-- Lower-cases the capitals of a text and puts an underscore in front of all but a leading one. -/
def separateCapitals : List Char → List Char
  | [] => []
  | first :: rest =>
    Character.asciiLower first :: rest.flatMap fun character =>
      if Character.isAsciiUpper character then ['_', Character.asciiLower character]
      else [character]

/-- Whether a character can stand in the name of a group. -/
def isSegmentCharacter (character : Char) : Bool :=
  Character.isAsciiLower character || Character.isAsciiDigit character || character == '_'
    || character == '-'

/-- Puts one underscore in the place of several in a row. -/
def squeeze : List Char → List Char
  | [] => []
  | character :: rest =>
    if character == '_' && rest.head? == some '_' then squeeze rest
    else character :: squeeze rest

/-- The name of a group that a segment of a path stands for. -/
def segmentName (segment : List Char) : List Char :=
  squeeze
    ((separateCapitals segment).map fun character =>
      if isSegmentCharacter character then character else '_')

/-- What stands behind the last slash of a path. -/
def lastSegment (path : List Char) : List Char :=
  (path.reverse.takeWhile (· != '/')).reverse

/-- The last segment of a path without its extension.  A dot in front of a name starts no
extension. -/
def stem (path : List Char) : List Char :=
  let name := lastSegment path
  let front := (name.reverse.dropWhile (· != '.')).tail.reverse
  if front.isEmpty then name else front

end Text
end KeyedText
