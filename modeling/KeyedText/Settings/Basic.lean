import KeyedText.Key.Place
import KeyedText.Keying.Conversion

/-!
# Settings

The settings of a project say where text is looked for, how keys are named, and which files
belong to it.  Every setting has a default.
-/

namespace KeyedText

/-- The settings of a project. -/
structure Settings where
  /-- The attributes whose values can be meant for people. -/
  translatable : List String
  /-- The attributes that hold short codes rather than prose. -/
  structural : List String
  /-- The elements that translate their content themselves. -/
  richComponents : List String
  /-- The elements whose children are passed over. -/
  skippedTags : List String
  /-- The name of the lookup function. -/
  lookup : String
  /-- How directories name a group. -/
  mode : Key.GroupMode
  /-- The bound for the length of a slug. -/
  slugLimit : Nat
  /-- The namespace of files behind no prefix. -/
  defaultSpace : String
  /-- The prefixes of paths that name namespaces. -/
  spaces : List Key.SpacePrefix
  /-- The file with the table of patterns. -/
  patternsPath : String
  /-- The file with the table of synonyms. -/
  synonymsPath : String
  /-- The directories that are searched for source files. -/
  includes : List String
  /-- The paths that are left out. -/
  ignores : List String
  /-- Whether files with tests are left out. -/
  skipsTests : Bool
deriving DecidableEq, Repr

namespace Settings

/-! ## Defaults -/

/-- The attributes that can hold prose where a project names none. -/
def defaultTranslatable : List String :=
  ["title", "placeholder", "aria-label", "alt", "label", "description", "subTitle"]

/-- The attributes that hold short codes where a project names none. -/
def defaultStructural : List String :=
  ["className", "style", "id", "name", "type", "variant", "size"]

/-- The elements that translate their content where a project names none. -/
def defaultRichComponents : List String := ["Trans"]

/-- The elements that are passed over where a project names none. -/
def defaultSkippedTags : List String := ["style", "script"]

/-- The lookup function of a project that names none. -/
def defaultLookup : String := "t"

/-- The mode of a project that names none. -/
def defaultMode : Key.GroupMode := .nested

/-- The bound for slugs of a project that names none. -/
def defaultSlugLimit : Nat := 64

/-- The namespace behind no prefix of a project that names none. -/
def defaultDefaultSpace : String := "features"

/-- The prefixes of a project that names none. -/
def defaultSpaces : List Key.SpacePrefix :=
  [⟨"src/app/atoms", "atoms"⟩, ⟨"src/app/molecules", "molecules"⟩,
   ⟨"src/app/organisms", "organisms"⟩, ⟨"src/app/components", "components"⟩,
   ⟨"src/app/features", "features"⟩, ⟨"src/app/pages", "pages"⟩, ⟨"src/app/hooks", "hooks"⟩,
   ⟨"src/app/utils", "utils"⟩, ⟨"src/app/state", "state"⟩, ⟨"src/app/styles", "styles"⟩,
   ⟨"src/app/plugins", "plugins"⟩, ⟨"src/app/partials", "partials"⟩, ⟨"src/client", "client"⟩,
   ⟨"src/util", "util"⟩, ⟨"src/types", "types"⟩]

/-- The table of patterns of a project that names none. -/
def defaultPatternsPath : String := "scripts/i18n-keymap.json"

/-- The table of synonyms of a project that names none. -/
def defaultSynonymsPath : String := "scripts/i18n-synonyms.json"

/-- The directories that are searched where a project names none. -/
def defaultIncludes : List String := ["src"]

/-- Whether files with tests are left out where a project does not say. -/
def defaultSkipsTests : Bool := true

/-- The settings of a project that has none of its own. -/
def default : Settings where
  translatable := defaultTranslatable
  structural := defaultStructural
  richComponents := defaultRichComponents
  skippedTags := defaultSkippedTags
  lookup := defaultLookup
  mode := defaultMode
  slugLimit := defaultSlugLimit
  defaultSpace := defaultDefaultSpace
  spaces := defaultSpaces
  patternsPath := defaultPatternsPath
  synonymsPath := defaultSynonymsPath
  includes := defaultIncludes
  ignores := []
  skipsTests := defaultSkipsTests

/-- How the places of files are inferred. -/
def placement (settings : Settings) : Key.Placement :=
  ⟨settings.spaces, settings.defaultSpace, settings.mode⟩

/-- What converts the source texts of a project with some key tables. -/
def converter (settings : Settings) (tables : Key.Tables) : Keying.Converter where
  interest :=
    { attributes := settings.translatable
      richComponents := settings.richComponents
      skippedTags := settings.skippedTags
      lookup := settings.lookup }
  criteria := ⟨settings.structural, settings.lookup⟩
  generator := .ofTables tables settings.slugLimit

end Settings
end KeyedText
