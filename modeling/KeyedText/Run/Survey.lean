import KeyedText.Files.Discovery
import KeyedText.Run.Conversion

/-!
# Survey of a folder

A run can survey the source files of a folder: it converts each of them without writing anything,
and lists what a conversion would replace.
-/

namespace KeyedText
namespace Run

variable {m : Type → Type} [Monad m] [Host m]

/-- What a survey is asked for. -/
structure SurveyOrder where
  /-- The folder, unless it is the one from which paths start. -/
  folder : Option String
  /-- How many of the most frequent texts the report ranks. -/
  top : Nat
deriving DecidableEq, Repr

/-- What a conversion would replace in a file. -/
structure Finding where
  /-- The file. -/
  file : String
  /-- The conversions. -/
  records : List Record
deriving DecidableEq, Repr

/-- What a survey gives. -/
structure Surveyed where
  /-- The number of source files. -/
  scanned : Nat
  /-- The files in which a conversion would replace anything, in order. -/
  findings : List Finding
  /-- What was wrong with files that could not be read. -/
  faults : List String
  /-- How many of the most frequent texts the report ranks. -/
  top : Nat
deriving DecidableEq, Repr

/-- The texts that a conversion would replace, over all files. -/
def Surveyed.texts (surveyed : Surveyed) : List String :=
  surveyed.findings.flatMap fun finding => finding.records.map (·.text)

/-- The number of texts that a conversion would replace. -/
def Surveyed.total (surveyed : Surveyed) : Nat :=
  surveyed.findings.foldl (fun sum finding => sum + finding.records.length) 0

/-- The event of source files that were found. -/
def foundEvent (count : Nat) : Event :=
  ⟨.debug, "scanned source tree", [("files", .number count), ("skipped", .number 0)]⟩

/-- The name of a file in reports about a folder. -/
def nameIn (folder path : Path) : String :=
  String.ofList (((folder.behind? path).getD path).map fun character =>
    if character == '\\' then '/' else character)

/-- What a conversion would replace in a file. -/
def surveyFile (settings : Settings) (converter : Keying.Converter) (folder path : Path) :
    Attempt m Finding := do
  let file := nameIn folder path
  let text ← ask (.sourceUnread file) (Host.readText path)
  let place := settings.placement.infer (String.ofList path)
  let outcome ← convertText converter file place text
  return ⟨file, outcome.ledger.records⟩

/-- What surveys of files give together. -/
def Surveyed.gather (top : Nat) (results : List (Except Failure Finding)) : Surveyed where
  scanned := results.length
  findings := (results.filterMap Except.toOption).filter fun finding => !finding.records.isEmpty
  faults := results.filterMap fun result =>
    match result with
    | .ok _ => none
    | .error failure => some failure.headline
  top

/-- Surveys a folder. -/
def survey (folder : Path) (order : SurveyOrder) : Attempt m Surveyed := do
  let root := match order.folder with
    | some path => folder.join path.toList
    | none => folder
  unless ← ExceptT.lift (Host.isFolder root) do throw (.noFolder root)
  let project ← Project.load root
  let settings := project.settings
  let tables ← project.tables
  let scope : Discovery.Scope := ⟨settings.includes, settings.ignores, settings.skipsTests⟩
  let paths ← ExceptT.lift (Discovery.find root scope)
  note (foundEvent paths.length)
  let converter := settings.converter tables
  let results ← paths.mapM fun path =>
    ExceptT.lift (surveyFile settings converter root path).run
  return .gather order.top results

end Run
end KeyedText
