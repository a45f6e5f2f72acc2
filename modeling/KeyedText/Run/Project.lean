import KeyedText.Json.Printer
import KeyedText.Run.Failure
import KeyedText.Settings.Shape

/-!
# Projects

The project of a folder is what its settings say.  They are in the nearest folder upwards that
holds a file of settings, unless the top of a repository comes first.  The settings name the
files with the key tables.
-/

namespace KeyedText
namespace Run

variable {m : Type → Type} [Monad m] [Host m]

/-- What a run gives unless it fails. -/
abbrev Attempt (m : Type → Type) := ExceptT Failure m

/-- Tells the host what happens. -/
def note (event : Event) : Attempt m Unit :=
  ExceptT.lift (Host.tell event)

/-- Asks the host for something that it can refuse. -/
def ask (cause : Refusal → Failure) (question : m (Except Refusal α)) : Attempt m α :=
  ExceptT.mk do
    match ← question with
    | .ok answer => return .ok answer
    | .error refusal => return .error (cause refusal)

/-- Goes on unless something is faulty. -/
def require (cause : ε → Failure) : Except ε α → Attempt m α
  | .ok result => return result
  | .error fault => throw (cause fault)

/-! ## Settings -/

/-- The name of a file with settings. -/
def settingsName : String :=
  ".i18n-codemod.json"

/-- The name that marks the top of a repository. -/
def repositoryMark : String :=
  ".git"

/-- The first file with settings in some folders, none of which is behind the top of a
repository. -/
def firstSettings? : List Path → m (Option Path)
  | [] => return none
  | folder :: above => do
    let path := folder.join settingsName.toList
    if ← Host.has path then return some path
    else if ← Host.has (folder.join repositoryMark.toList) then return none
    else firstSettings? above

/-- The file with the settings of a folder. -/
def settingsPath? (folder : Path) : m (Option Path) :=
  firstSettings? folder.upwards

/-- The settings of a folder and what their paths start from. -/
structure Project where
  /-- The settings. -/
  settings : Settings
  /-- The folder from which the paths of the key tables start. -/
  base : Path
  /-- The file with the settings, unless they are the default ones. -/
  source : Option Path

/-- Loads the settings that a file holds. -/
def loadSettings (path : Path) : Attempt m Settings := do
  let text ← ask .settingsUnread (Host.readText path)
  let settings ← require (.settingsMalformed path) (Settings.ofText text.toList)
  match settings.fault? with
  | some fault => throw (.settingsFaulty fault)
  | none => return settings

/-- Loads the project of a folder. -/
def Project.load (folder : Path) : Attempt m Project := do
  match ← ExceptT.lift (settingsPath? folder) with
  | none => return ⟨.default, folder, none⟩
  | some path => return ⟨← loadSettings path, path.parent?.getD folder, some path⟩

/-! ## Key tables -/

/-- The event of a key table that is not there. -/
def missingTableEvent (path : Path) : Event :=
  ⟨.debug, "key table not found, using empty table", [("path", .text (String.ofList path))]⟩

/-- The event of an entry that is no text. -/
def skippedEntryEvent (path : Path) (key : String) (value : Json) : Event :=
  ⟨.warn, "skipping non-string entry",
    [("key", .text key), ("path", .text (String.ofList path)), ("value", .text value.compact)]⟩

/-- The event of key tables that were loaded. -/
def loadedTablesEvent (tables : Key.Tables) : Event :=
  ⟨.debug, "loaded key tables",
    [("keymap", .number tables.patterns.length), ("synonyms", .number tables.synonyms.length)]⟩

/-- The entries of a key table: the members whose values are texts. -/
def entriesOf (path : Path) : List (String × Json) → m Key.Table
  | [] => return []
  | (key, .string text) :: rest => return (key, text) :: (← entriesOf path rest)
  | (key, value) :: rest => do
    Host.tell (skippedEntryEvent path key value)
    entriesOf path rest

/-- Loads the key table that a file holds; without a file it is empty. -/
def loadTable (path : Path) : Attempt m Key.Table := do
  if ← ExceptT.lift (Host.has path) then
    let text ← ask (.tableUnread path) (Host.readText path)
    let members ← require (.tableMalformed path) (Json.Step.object.run text.toList)
    ExceptT.lift (entriesOf path members)
  else
    note (missingTableEvent path)
    return []

/-- Loads the key tables that settings name. -/
def loadTables (settings : Settings) (base : Path) : Attempt m Key.Tables := do
  let patterns ← loadTable (base.join settings.patternsPath.toList)
  let synonyms ← loadTable (base.join settings.synonymsPath.toList)
  let tables : Key.Tables := ⟨patterns, synonyms⟩
  note (loadedTablesEvent tables)
  return tables

/-- Loads the key tables of a project. -/
def Project.tables (project : Project) : Attempt m Key.Tables :=
  loadTables project.settings project.base

end Run
end KeyedText
