/-!
# Rankings

A ranking lists texts by how often they occur.  Texts that occur equally often stand in their own
order, so that a ranking depends on nothing but the number of each text.
-/

namespace KeyedText
namespace Report

/-- A text and how often it occurs. -/
structure Ranked where
  /-- The text. -/
  text : String
  /-- How often it occurs. -/
  count : Nat
deriving DecidableEq, Repr

/-- Whether an entry of a ranking can stand in front of another one. -/
def Ranked.before (left right : Ranked) : Bool :=
  right.count < left.count || (left.count == right.count && !(right.text < left.text))

/-- The ranking of texts. -/
def ranking (texts : List String) : List Ranked :=
  (texts.eraseDups.map fun text => ⟨text, texts.count text⟩).mergeSort Ranked.before

/-- A text of limited width.  One that is wider is cut as late as possible, and an ellipsis stands
behind it.  The widths of characters and the width that is taken already are given. -/
def shortenedFrom (width : Char → Nat) (limit taken : Nat) : List Char → List Char
  | [] => []
  | character :: rest =>
    if limit < taken + width character then ['…']
    else character :: shortenedFrom width limit (taken + width character) rest

/-- A text of limited width. -/
def shortened (width : Char → Nat) (limit : Nat) (text : List Char) : List Char :=
  shortenedFrom width limit 0 text

end Report
end KeyedText
