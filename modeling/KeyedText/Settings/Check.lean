import KeyedText.Glob.Pattern
import KeyedText.Settings.Basic

/-!
# Checking settings

Settings that can be read can still make no sense: a pattern that is none, a bound out of range,
a name without a character that shows.
-/

namespace KeyedText
namespace Settings

/-- What is wrong with settings. -/
inductive Fault where
  /-- An ignored pattern is none. -/
  | ignoredPattern (pattern : String) (fault : Glob.Fault)
  /-- An included pattern is none. -/
  | includedPattern (pattern : String) (fault : Glob.Fault)
  /-- The bound for slugs is out of range. -/
  | slugLimit (limit : Nat)
  /-- The lookup function has no name. -/
  | unnamedLookup
  /-- The default namespace has no name. -/
  | unnamedSpace
  /-- A prefix or its namespace is blank. -/
  | blankSpace (entry : Key.SpacePrefix)
deriving DecidableEq, Repr

/-- The least bound for slugs. -/
def leastSlugLimit : Nat := 8

/-- The greatest bound for slugs. -/
def greatestSlugLimit : Nat := 128

/-- The wording of a fault. -/
def Fault.message : Fault → String
  | ignoredPattern pattern fault =>
    "Invalid glob pattern in 'ignores': \"" ++ pattern ++ "\": " ++ fault.message
  | includedPattern pattern fault =>
    "Invalid glob pattern in 'includes': \"" ++ pattern ++ "\": " ++ fault.message
  | slugLimit limit =>
    "'slugMaxLength' must be between " ++ toString leastSlugLimit ++ " and "
      ++ toString greatestSlugLimit ++ ", got " ++ toString limit
  | unnamedLookup => "'lookupFunction' must not be empty"
  | unnamedSpace => "'defaultNamespace' must not be empty"
  | blankSpace entry =>
    "Invalid entry in 'namespaces': prefix \"" ++ entry.path ++ "\" -> namespace \""
      ++ entry.space ++ "\""

/-- Whether a text shows nothing. -/
def isBlank (text : String) : Bool :=
  text.toList.all Character.isBlank

/-- The fault of a text as a pattern. -/
def patternFault? (text : String) : Option Glob.Fault :=
  match Glob.Pattern.ofText text.toList with
  | .ok _ => none
  | .error fault => some fault

/-- The first fault of settings.  Patterns come first, and an included text is a pattern only if
it holds a wildcard. -/
def fault? (settings : Settings) : Option Fault :=
  let ignored := settings.ignores.findSome? fun text =>
    (patternFault? text).map (.ignoredPattern text)
  let included := settings.includes.findSome? fun text =>
    if Glob.hasWildcard text.toList then (patternFault? text).map (.includedPattern text) else none
  let limited :=
    if leastSlugLimit ≤ settings.slugLimit && settings.slugLimit ≤ greatestSlugLimit then none
    else some (.slugLimit settings.slugLimit)
  let lookup := if isBlank settings.lookup then some .unnamedLookup else none
  let space := if isBlank settings.defaultSpace then some .unnamedSpace else none
  let blank := (settings.spaces.find? fun entry => isBlank entry.path || isBlank entry.space).map
    Fault.blankSpace
  ignored <|> included <|> limited <|> lookup <|> space <|> blank

end Settings
end KeyedText
