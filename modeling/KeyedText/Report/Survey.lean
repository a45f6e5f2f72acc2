import KeyedText.Character.Width
import KeyedText.Report.Conversion
import KeyedText.Report.Ranking
import KeyedText.Run.Survey

/-!
# Reports of surveys

A report ranks the most frequent texts and lists, file by file, what a conversion would replace.
-/

namespace KeyedText
namespace Report

open Run

/-- How wide a text of a ranking can be. -/
def rankedWidth : Nat := 60

/-- The lines of a ranking. -/
def rankingLines (colored : Bool) (top : Nat) (ranked : List Ranked) : List String :=
  let widest := (ranked.head?.map fun entry => (toString entry.count).length).getD 1
  let line (entry : Ranked) : String :=
    "  " ++ paddedFront widest (toString entry.count) ++ "  \""
      ++ String.ofList (shortened Character.width rankedWidth entry.text.toList) ++ "\""
  if top == 0 then []
  else
    painted colored [.bold] ("Top " ++ toString top ++ " strings:")
      :: (ranked.take top).map line ++ [""]

/-- The lines about a file. -/
def findingLines (colored : Bool) (finding : Finding) : List String :=
  let line (record : Record) : String :=
    "  " ++ painted colored [.blue] (toString record.line) ++ " (" ++ record.kind.category.name
      ++ "): \"" ++ record.text ++ "\""
  painted colored [.bold] finding.file :: finding.records.map line

/-- The report of a survey. -/
def survey (colored : Bool) (surveyed : Surveyed) : String :=
  let files := toString surveyed.scanned
  if surveyed.total == 0 then
    textOf
      [painted colored [.green] successMark ++ " "
        ++ painted colored [.green] ("No convertible strings found in " ++ files ++ " file(s)")]
  else
    let ranked := ranking surveyed.texts
    let counts :=
      toString surveyed.total ++ " candidate string(s), " ++ toString ranked.length
        ++ " unique, in " ++ toString surveyed.findings.length ++ " file(s) (" ++ files
        ++ " file(s) scanned)"
    textOf
      (rankingLines colored surveyed.top ranked
        ++ surveyed.findings.flatMap (findingLines colored)
        ++ ["", painted colored [.red] failureMark ++ " " ++ painted colored [.red] counts])

/-- The report about files that could not be read. -/
def faults (colored verbose : Bool) (messages : List String) : String :=
  if messages.isEmpty then ""
  else if verbose then
    textOf (messages.map fun message => warningWord colored ++ " " ++ message)
  else
    textOf
      [warningWord colored ++ " " ++ toString messages.length
        ++ " file(s) could not be parsed (use " ++ painted colored [.cyan] "-v"
        ++ " for details)"]

/-- The report of a setup. -/
def setup (colored : Bool) (name : String) : String :=
  textOf
    [painted colored [.green] successMark ++ " " ++ painted colored [.green] ("Created " ++ name)]

end Report
end KeyedText
