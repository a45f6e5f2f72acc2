import KeyedText.Run.Project

/-!
# Conversion of a file

A run converts one source file.  Without being told to write, it changes no file but the log of
the sites that are left to a person.
-/

namespace KeyedText
namespace Run

variable {m : Type → Type} [Monad m] [Host m]

/-! ## Logs -/

/-- The name of the log of sites that are left to a person. -/
def reviewLogName : String :=
  "i18n-codemod.manual.txt"

/-- The name of the log of converted files. -/
def changeLogName : String :=
  "i18n-codemod.modified.txt"

/-- A text on one line: a line feed is spelled by a backslash and a letter. -/
def onOneLine (text : String) : String :=
  String.ofList (text.toList.flatMap fun character =>
    if character == '\n' then ['\\', 'n'] else [character])

/-- The line for a site that is left to a person. -/
def reviewLine (file : String) (entry : ReviewEntry) : String :=
  "[complex] " ++ file ++ ":" ++ toString entry.line ++ " :: " ++ entry.reason.name ++ " :: "
    ++ onOneLine entry.text

/-- Adds lines to a log, one after the other, each of them ended. -/
def log (path : Path) (lines : List String) : Attempt m Unit := do
  ask (.logUnopened path) (Host.openEnd path)
  lines.forM fun line => ask (.logUnwritten path) (Host.append path (line ++ "\n").toUTF8)

/-! ## Conversion -/

/-- What a conversion is asked for. -/
structure ConversionOrder where
  /-- The file, as it was given. -/
  file : String
  /-- Whether the file is to be changed. -/
  writes : Bool
  /-- Whether the report shows the changed lines. -/
  showsLines : Bool
  /-- Whether the report lists the keys. -/
  listsKeys : Bool
deriving DecidableEq, Repr

/-- What a conversion of a file gives. -/
structure Converted where
  /-- The file, as it was given. -/
  file : String
  /-- The namespace and group of its keys. -/
  place : Key.Place
  /-- What was done. -/
  ledger : Ledger
  /-- The text before. -/
  before : List Char
  /-- The text after. -/
  output : List Char
  /-- Whether the report shows the changed lines. -/
  showsLines : Bool
  /-- Whether the report lists the keys. -/
  listsKeys : Bool
  /-- Whether the file was changed. -/
  written : Bool

/-- The event of a project without settings of its own. -/
def defaultSettingsEvent : Event :=
  ⟨.debug, "no config file found, using defaults", []⟩

/-- The event of a file that was changed. -/
def writtenEvent (file : String) (ledger : Ledger) : Event :=
  ⟨.info, "wrote converted file", [("file", .text file), ("keys", .number ledger.total)]⟩

/-- Converts the text of a file. -/
def convertText (converter : Keying.Converter) (file : String) (place : Key.Place)
    (text : String) : Attempt m Keying.Outcome := do
  let outcome ← require (.sourceMalformed file) (converter.convert file place text.toList)
  outcome.events.forM note
  return outcome

/-- Changes a file and logs that it was changed. -/
def commit (folder path : Path) (file : String) (outcome : Keying.Outcome) : Attempt m Unit := do
  ask (.sourceUnwritten file) (Host.write path (String.ofList outcome.output).toUTF8)
  log (folder.join changeLogName.toList) [file]
  note (writtenEvent file outcome.ledger)

/-- Converts a file, whose path starts from a folder.  The logs are in that folder. -/
def convert (folder : Path) (order : ConversionOrder) : Attempt m Converted := do
  let path := folder.join order.file.toList
  unless ← ExceptT.lift (Host.isFile path) do throw (.noFile order.file)
  let project ← Project.load folder
  if project.source.isNone then note defaultSettingsEvent
  let tables ← project.tables
  let text ← ask (.sourceUnread order.file) (Host.readText path)
  let place := project.settings.placement.infer (String.ofList path)
  let outcome ← convertText (project.settings.converter tables) order.file place text
  unless outcome.ledger.reviews.isEmpty do
    log (folder.join reviewLogName.toList) (outcome.ledger.reviews.map (reviewLine order.file))
  let writes := order.writes && outcome.output != text.toList
  if writes then commit folder path order.file outcome
  return ⟨order.file, place, outcome.ledger, text.toList, outcome.output, order.showsLines,
    order.listsKeys, writes⟩

end Run
end KeyedText
