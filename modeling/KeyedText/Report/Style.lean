/-!
# Styles

Reports for a terminal are painted; reports for a file are plain.
-/

namespace KeyedText
namespace Report

/-- A style of text. -/
inductive Style where
  | bold
  | dimmed
  | red
  | green
  | yellow
  | blue
  | cyan
deriving DecidableEq, Repr

/-- The number by which terminals know a style. -/
def Style.code : Style → String
  | bold => "1"
  | dimmed => "2"
  | red => "31"
  | green => "32"
  | yellow => "33"
  | blue => "34"
  | cyan => "36"

/-- Puts styles on again wherever a text ends all styles. -/
def restyled (opening : List Char) : List Char → List Char
  | '\x1b' :: '[' :: '0' :: 'm' :: rest =>
    ['\x1b', '[', '0', 'm'] ++ opening ++ restyled opening rest
  | character :: rest => character :: restyled opening rest
  | [] => []

/-- A text in some styles, if there are colours. -/
def painted (colored : Bool) (styles : List Style) (text : String) : String :=
  if colored then
    let opening := "\x1b[" ++ ";".intercalate (styles.map Style.code) ++ "m"
    opening ++ String.ofList (restyled opening.toList text.toList) ++ "\x1b[0m"
  else text

/-- A text with spaces behind it up to a length. -/
def padded (length : Nat) (text : String) : String :=
  text ++ String.ofList (List.replicate (length - text.length) ' ')

/-- A text with spaces in front of it up to a length. -/
def paddedFront (length : Nat) (text : String) : String :=
  String.ofList (List.replicate (length - text.length) ' ') ++ text

/-- Lines as a text in which each of them is ended. -/
def textOf (lines : List String) : String :=
  String.join (lines.map fun line => line ++ "\n")

/-- The mark of what went well. -/
def successMark : String := "✓"

/-- The mark of what was found. -/
def failureMark : String := "✘"

end Report
end KeyedText
