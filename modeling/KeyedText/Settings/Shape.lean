import KeyedText.Json.Shape
import KeyedText.Settings.Basic

/-!
# Settings as JSON

Settings are written as an object with one member for each of them.  When they are read, members
that are missing keep their defaults and members that are unknown do not matter.
-/

namespace KeyedText
namespace Settings

/-! ## Writing -/

/-- Texts as JSON. -/
def textsToJson (texts : List String) : Json :=
  .array (texts.map .string)

/-- The word for a mode. -/
def modeWord : Key.GroupMode → String
  | .nested => "nested"
  | .segment => "segment"

/-- A prefix of paths as JSON. -/
def spaceToJson (entry : Key.SpacePrefix) : Json :=
  .object [("prefix", .string entry.path), ("namespace", .string entry.space)]

/-- The members of settings as JSON. -/
def members (settings : Settings) : List (String × Json) :=
  [("translatableAttributes", textsToJson settings.translatable),
   ("structuralAttributes", textsToJson settings.structural),
   ("richTextComponents", textsToJson settings.richComponents),
   ("skippedTags", textsToJson settings.skippedTags),
   ("lookupFunction", .string settings.lookup),
   ("groupMode", .string (modeWord settings.mode)),
   ("slugMaxLength", .number (.natural settings.slugLimit)),
   ("defaultNamespace", .string settings.defaultSpace),
   ("namespaces", .array (settings.spaces.map spaceToJson)),
   ("keymapPath", .string settings.patternsPath),
   ("synonymsPath", .string settings.synonymsPath),
   ("includes", textsToJson settings.includes),
   ("ignores", textsToJson settings.ignores),
   ("ignoreTestFiles", .bool settings.skipsTests)]

/-- Settings as JSON. -/
def toJson (settings : Settings) : Json :=
  .object settings.members

/-! ## Reading -/

/-- The mode that a word stands for. -/
def modeOfWord (word : String) : Key.GroupMode :=
  if word == "segment" then .segment else .nested

/-- The fields of a prefix of paths. -/
def spaceFields [Monad m] (source : Json.Source m) : List (Json.Field m Key.SpacePrefix) :=
  [⟨"prefix", fun entry => return { entry with path := ← source.text }, true⟩,
   ⟨"namespace", fun entry => return { entry with space := ← source.text }, true⟩]

/-- Reads a prefix of paths. -/
def readSpace [Monad m] (source : Json.Source m) : m Key.SpacePrefix :=
  source.record "struct NamespacePrefix" (spaceFields source) ⟨"", ""⟩

/-- The fields of settings. -/
def fields [Monad m] (source : Json.Source m) : List (Json.Field m Settings) :=
  let texts := source.list source.text
  [⟨"translatableAttributes", fun s => return { s with translatable := ← texts }, false⟩,
   ⟨"structuralAttributes", fun s => return { s with structural := ← texts }, false⟩,
   ⟨"richTextComponents", fun s => return { s with richComponents := ← texts }, false⟩,
   ⟨"skippedTags", fun s => return { s with skippedTags := ← texts }, false⟩,
   ⟨"lookupFunction", fun s => return { s with lookup := ← source.text }, false⟩,
   ⟨"groupMode", fun s =>
      return { s with mode := modeOfWord (← source.choice ["nested", "segment"]) }, false⟩,
   ⟨"slugMaxLength", fun s => return { s with slugLimit := ← source.natural }, false⟩,
   ⟨"defaultNamespace", fun s => return { s with defaultSpace := ← source.text }, false⟩,
   ⟨"namespaces", fun s => return { s with spaces := ← source.list (readSpace source) }, false⟩,
   ⟨"keymapPath", fun s => return { s with patternsPath := ← source.text }, false⟩,
   ⟨"synonymsPath", fun s => return { s with synonymsPath := ← source.text }, false⟩,
   ⟨"includes", fun s => return { s with includes := ← texts }, false⟩,
   ⟨"ignores", fun s => return { s with ignores := ← texts }, false⟩,
   ⟨"ignoreTestFiles", fun s => return { s with skipsTests := ← source.flag }, false⟩]

/-- What stands for each setting whose member is missing. -/
def unwritten : Settings where
  translatable := defaultTranslatable
  structural := defaultStructural
  richComponents := defaultRichComponents
  skippedTags := defaultSkippedTags
  lookup := defaultLookup
  mode := defaultMode
  slugLimit := defaultSlugLimit
  defaultSpace := defaultDefaultSpace
  spaces := defaultSpaces
  patternsPath := defaultPatternsPath
  synonymsPath := defaultSynonymsPath
  includes := defaultIncludes
  ignores := []
  skipsTests := defaultSkipsTests

/-- Reads settings. -/
def read [Monad m] (source : Json.Source m) : m Settings :=
  source.record "struct Config" (fields source) unwritten

/-- The settings that a text spells. -/
def ofText (text : List Char) : Except Json.Fault Settings :=
  Json.Step.run (read Json.Source.reading) text

/-- The settings that a value stands for. -/
def ofJson (value : Json) : Except Json.Mismatch Settings :=
  read Json.Source.viewing value

end Settings
end KeyedText
