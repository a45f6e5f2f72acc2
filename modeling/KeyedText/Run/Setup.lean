import KeyedText.Run.Project

/-!
# Setup of a folder

A run can give a folder the default settings, unless it has settings already.
-/

namespace KeyedText
namespace Run

variable {m : Type → Type} [Monad m] [Host m]

/-- The default settings as a text. -/
def defaultSettingsText : String :=
  Settings.default.toJson.pretty 0

/-- Gives a folder the default settings. -/
def setUp (folder : Path) : Attempt m Unit := do
  let path := folder.join settingsName.toList
  if ← ExceptT.lift (Host.has path) then throw (.settingsPresent settingsName)
  ask .settingsUnwritten (Host.write path defaultSettingsText.toUTF8)

end Run
end KeyedText
