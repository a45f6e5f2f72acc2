import KeyedText.Character.Blank

/-!
# Runs of characters

A text falls into runs: the longest pieces in which no character separates.  Spacing is collapsed
by joining the runs of a text again, each to the next by one space.
-/

namespace KeyedText
namespace Text

/-- The longest pieces of a text in which no character separates. -/
def runs (separates : Char → Bool) : List Char → List (List Char)
  | [] => []
  | character :: rest =>
    if separates character then runs separates rest
    else
      match rest, runs separates rest with
      | next :: _, run :: more =>
        if separates next then [character] :: run :: more else (character :: run) :: more
      | _, _ => [[character]]

/-- Joins texts, each to the next by one character. -/
def joinedBy (separator : Char) (texts : List (List Char)) : List Char :=
  [separator].intercalate texts

/-- Collapses every run of layout characters to one space and drops it at both ends.  Other blank
characters stay. -/
def collapseSpacing (text : List Char) : List Char :=
  joinedBy ' ' (runs Character.isLayout text)

/-- Drops the characters at both ends of a text that fit a condition. -/
def trimmedBy (fits : Char → Bool) (text : List Char) : List Char :=
  ((text.dropWhile fits).reverse.dropWhile fits).reverse

/-- Drops the blank characters at both ends of a text. -/
def trimmed (text : List Char) : List Char :=
  trimmedBy Character.isBlank text

@[simp] theorem runs_nil (separates : Char → Bool) : runs separates [] = [] := rfl

theorem runs_cons_of_separates {separates : Char → Bool} {character : Char}
    (separated : separates character = true) (rest : List Char) :
    runs separates (character :: rest) = runs separates rest := by
  simp [runs, separated]

end Text
end KeyedText
