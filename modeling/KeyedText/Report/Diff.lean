import KeyedText.Report.Style
import KeyedText.Text.Pieces

/-!
# Changed lines

A conversion keeps the number of lines, so that a line before and the line with the same number
after belong together.  The lines that differ are shown, the old one above the new one.
-/

namespace KeyedText
namespace Report

/-- Drops a carriage return from the end of a line. -/
def withoutReturn (line : List Char) : List Char :=
  if line.getLast? == some '\r' then line.dropLast else line

/-- The lines of a text.  A line feed ends a line, together with a carriage return in front of
it; an empty text behind the last line feed is no line. -/
def linesOf (text : List Char) : List (List Char) :=
  let all := Text.pieces '\n' text
  let last := all.getLastD []
  all.dropLast.map withoutReturn ++ if last.isEmpty then [] else [last]

/-- Pairs the elements of lists by their indices; beyond the end of a list there is nothing. -/
def paired : List α → List α → List (Option α × Option α)
  | [], [] => []
  | left :: lefts, [] => (some left, none) :: paired lefts []
  | [], right :: rights => (none, some right) :: paired [] rights
  | left :: lefts, right :: rights => (some left, some right) :: paired lefts rights

/-- The lines for a pair of lines that differ. -/
def changeLines (colored : Bool) (pair : Option (List Char) × Option (List Char)) : List String :=
  let shown (sign : String) (style : Style) (line : Option (List Char)) : List String :=
    (line.map fun text => painted colored [style] (sign ++ " " ++ String.ofList text)).toList
  shown "-" .red pair.1 ++ shown "+" .green pair.2

/-- The changed lines of a file. -/
def diffLines (colored : Bool) (file : String) (before after : List Char) : List String :=
  let changed := (paired (linesOf before) (linesOf after)).filter fun pair =>
    pair.1 != pair.2
  painted colored [.red] ("--- " ++ file ++ " (original)")
    :: painted colored [.green] ("+++ " ++ file ++ " (modified)")
    :: changed.flatMap (changeLines colored)

end Report
end KeyedText
