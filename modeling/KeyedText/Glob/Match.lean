import KeyedText.Glob.Pattern

/-!
# Texts that fit a pattern

A pattern fits a whole text, never a part of one.  Slashes are characters like any other, but the
token for directories takes nothing, or a text up to a slash, or all that is left.
-/

namespace KeyedText
namespace Glob

/-- Whether a character is a choice. -/
def Choice.admits (character : Char) : Choice → Bool
  | one only => character == only
  | range first last => first ≤ character && character ≤ last

/-- Whether a token admits a character. -/
def Token.admits (character : Char) : Token → Bool
  | char only => character == only
  | anyChar => true
  | within choices => choices.any (Choice.admits character)
  | except choices => !choices.any (Choice.admits character)
  | many | deep => false

/-- What can be left of a text behind any number of its characters. -/
def suffixes : List Char → List (List Char)
  | [] => [[]]
  | character :: rest => (character :: rest) :: suffixes rest

/-- What can be left of a text behind one or more of its directories. -/
def behindDirectories : List Char → List (List Char)
  | [] => [[]]
  | character :: rest =>
    if character == '/' then rest :: behindDirectories rest else behindDirectories rest

/-- Whether tokens fit a text. -/
def fits : List Token → List Char → Bool
  | [], text => text.isEmpty
  | .many :: tokens, text => (suffixes text).any (fits tokens)
  | .deep :: tokens, text => (text :: behindDirectories text).any (fits tokens)
  | _ :: _, [] => false
  | token :: tokens, character :: text => token.admits character && fits tokens text

/-- Whether a pattern fits a text. -/
def Pattern.fits (pattern : Pattern) (text : List Char) : Bool :=
  Glob.fits pattern.tokens text

end Glob
end KeyedText
