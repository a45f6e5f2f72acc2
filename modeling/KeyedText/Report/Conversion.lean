import KeyedText.Report.Diff
import KeyedText.Run.Conversion

/-!
# Reports of conversions

A report tells where the keys of a file belong, how many texts of each category were converted,
which keys are shared by different texts, and what is left to do.
-/

namespace KeyedText
namespace Report

open Run

/-- The line about the namespace and group of keys. -/
def placeLine (colored : Bool) (place : Key.Place) : String :=
  let space := painted colored [.bold] "Namespace:" ++ " " ++ place.space
  if place.group.isEmpty then space
  else space ++ "  " ++ painted colored [.bold] "Group:" ++ " " ++ place.group

/-- A line with a name and a number. -/
def countLine (name : String) (count : Nat) : String :=
  "  " ++ padded 16 name ++ " " ++ toString count

/-- The lines about the numbers of conversions. -/
def countLines (colored : Bool) (file : String) (ledger : Ledger) : List String :=
  if ledger.hasChanges then
    painted colored [.bold] "Converted:"
      :: Category.all.map (fun category => countLine category.name (ledger.counts category))
      ++ [countLine "total" ledger.total]
  else ["No translatable text found in " ++ file]

/-- The word in front of a warning. -/
def warningWord (colored : Bool) : String :=
  painted colored [.bold, .yellow] "warning:"

/-- The line about a key that different texts share. -/
def collisionLine (colored : Bool) (collision : Collision) : String :=
  warningWord colored ++ " line " ++ toString collision.line ++ ": \"" ++ collision.other
    ++ "\" reuses key " ++ painted colored [.cyan] collision.key ++ " (first used for \""
    ++ collision.first ++ "\")"

/-- The lines that list the keys. -/
def keyLines (colored : Bool) (ledger : Ledger) : List String :=
  "" :: painted colored [.bold] "Keys:" :: ledger.unique.map fun record =>
    "  " ++ record.key ++ " " ++ painted colored [.dimmed] ("// " ++ record.text)

/-- The lines about what became of the file. -/
def outcomeLines (colored : Bool) (converted : Converted) : List String :=
  if converted.written then
    [painted colored [.green] successMark ++ " "
      ++ painted colored [.green] ("Written: " ++ converted.file)]
  else if converted.ledger.hasChanges then
    ["Dry run (use " ++ painted colored [.cyan] "--write" ++ " to apply changes)"]
  else []

/-- The lines about the sites that are left to a person. -/
def reviewLines (colored : Bool) (ledger : Ledger) : List String :=
  if ledger.reviews.isEmpty then []
  else
    [painted colored [.bold, .cyan] "note:" ++ " " ++ toString ledger.reviews.length
      ++ " site(s) need manual review (see " ++ reviewLogName ++ ")"]

/-- The report of a conversion. -/
def conversion (colored : Bool) (converted : Converted) : String :=
  let ledger := converted.ledger
  let keys :=
    if converted.listsKeys && ledger.hasChanges then keyLines colored ledger else []
  let changes :=
    if converted.showsLines && converted.before != converted.output then
      "" :: diffLines colored converted.file converted.before converted.output
    else []
  textOf
    (placeLine colored converted.place :: countLines colored converted.file ledger
      ++ ledger.collisions.map (collisionLine colored) ++ keys ++ changes
      ++ [""] ++ outcomeLines colored converted ++ reviewLines colored ledger)

/-- The report of changed lines alone. -/
def diff (colored : Bool) (file : String) (before after : List Char) : String :=
  textOf (diffLines colored file before after)

end Report
end KeyedText
