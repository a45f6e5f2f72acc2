import KeyedText.Text.Runs
import KeyedText.Text.Search
import KeyedText.Text.Segment

/-!
# Places

The place of a file decides the namespace and the group of its keys.  Prefixes of paths name
namespaces; the directories behind a prefix name the group.
-/

namespace KeyedText
namespace Key

/-- The namespace and group of the keys of a file. -/
structure Place where
  /-- The namespace. -/
  space : String
  /-- The group, whose segments are separated by dots; it may be empty. -/
  group : String
deriving DecidableEq, Repr

/-- How the directories behind a prefix name a group. -/
inductive GroupMode where
  /-- Every directory is a segment of the group. -/
  | nested
  /-- The first directory, or else the file, is the group. -/
  | segment
deriving DecidableEq, Repr

/-- A prefix of paths and the namespace of the files behind it. -/
structure SpacePrefix where
  /-- The prefix, which may occur anywhere in a path in front of a slash. -/
  path : String
  /-- The namespace. -/
  space : String
deriving DecidableEq, Repr

/-- How places are inferred. -/
structure Placement where
  /-- The prefixes, of which the first that occurs counts. -/
  spaces : List SpacePrefix
  /-- The namespace of files behind no prefix. -/
  defaultSpace : String
  /-- How directories name a group. -/
  mode : GroupMode
deriving DecidableEq, Repr

/-- What a path holds behind a prefix. -/
def SpacePrefix.rest? (entry : SpacePrefix) (path : List Char) : Option (List Char) :=
  Text.behind? ((entry.path.toList.reverse.dropWhile (· == '/')).reverse ++ ['/']) path

/-- The group that the path behind a prefix names. -/
def GroupMode.group (mode : GroupMode) (rest : List Char) : List Char :=
  let directories := (Text.runs (· == '/') rest).dropLast
  match mode with
  | .nested => Text.joinedBy '.' (directories.map Text.segmentName)
  | .segment =>
    match directories with
    | directory :: _ => Text.segmentName directory
    | [] => Text.segmentName (Text.stem rest)

/-- The place of the file at a path with slashes. -/
def Placement.inferFrom (placement : Placement) (path : List Char) : Place :=
  let found := placement.spaces.findSome? fun entry =>
    (entry.rest? path).map fun rest =>
      Place.mk entry.space (String.ofList (placement.mode.group rest))
  found.getD ⟨placement.defaultSpace, String.ofList (Text.segmentName (Text.stem path))⟩

/-- The place of the file at a path, in which backslashes count as slashes. -/
def Placement.infer (placement : Placement) (path : String) : Place :=
  placement.inferFrom
    (path.toList.map fun character => if character == '\\' then '/' else character)

/-- The full key of a slug. -/
def Place.key (place : Place) (slug : String) : String :=
  if place.group.isEmpty then place.space ++ ":" ++ slug
  else place.space ++ ":" ++ place.group ++ "." ++ slug

end Key
end KeyedText
