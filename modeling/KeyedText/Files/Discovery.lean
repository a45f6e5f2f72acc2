import KeyedText.Files.Host
import KeyedText.Glob.Match

/-!
# Discovery of source files

Source files are found by walking the trees at some paths.  A path to start from is given by name
or by a pattern; folders of certain names are never entered, and what falls under an ignored path
or pattern is left out.
-/

namespace KeyedText
namespace Discovery

/-- The folders that are never entered. -/
def skippedFolders : List (List Char) :=
  ["node_modules", ".git", "dist", "build", "coverage"].map String.toList

/-- The extensions of source files. -/
def extensions : List (List Char) :=
  ["tsx", "ts", "jsx", "js"].map String.toList

/-- The patterns of files with tests. -/
def testPatterns : List String :=
  ["**/*.test.tsx", "**/*.test.ts", "**/*.test.jsx", "**/*.test.js", "**/*.spec.tsx",
   "**/*.spec.ts", "**/*.spec.jsx", "**/*.spec.js", "**/__tests__/**"]

/-- Where source files are looked for. -/
structure Scope where
  /-- The paths and patterns to start from. -/
  includes : List String
  /-- The paths and patterns that are left out. -/
  ignores : List String
  /-- Whether files with tests are left out. -/
  skipsTests : Bool
deriving DecidableEq, Repr

/-! ## Walking -/

/-- Whether a walk goes on into an entry of a folder. -/
def enters (name : List Char) (kind : Tree.Kind) : Bool :=
  kind == .file || !skippedFolders.contains name

mutual

/-- The paths of the files in a tree that is at a path. -/
def walk (path : Path) : Tree.Shape → List Path
  | .file _ => [path]
  | .folder entries => walkEntries path entries
termination_by structural tree => tree

/-- The paths of the files in the entries of the folder at a path. -/
def walkEntries (path : Path) : List (List Char × Tree.Shape) → List Path
  | [] => []
  | (name, inner) :: rest =>
    (if enters name inner.kind then walk (path.join name) inner else []) ++ walkEntries path rest
termination_by structural entries => entries

end

/-! ## Starting from patterns -/

/-- A part of a pattern between slashes. -/
inductive Part where
  /-- A name. -/
  | name (text : List Char)
  /-- A pattern for a name. -/
  | pattern (pattern : Glob.Pattern)
  /-- Any number of folders, but at least one. -/
  | deep
deriving DecidableEq, Repr

/-- The part that a text spells. -/
def Part.ofText (text : List Char) : Except Glob.Fault Part := do
  let read ← Glob.Pattern.ofText text
  match read.literal? with
  | some only => return .name only
  | none => return if read.tokens.contains .deep then .deep else .pattern read

/-- Whether a part fits a name. -/
def Part.fits (part : Part) (given : List Char) : Bool :=
  match part with
  | .name text => text == given
  | .pattern glob => glob.fits given
  | .deep => true

/-- Puts a part in front of others; several for any number of folders in a row are one. -/
def Part.push (part : Part) (parts : List Part) : List Part :=
  if part == .deep && parts.head? == some .deep then parts else part :: parts

/-- The parts of a pattern that starts at the top. -/
def parts (text : List Char) : Except Glob.Fault (List Part) := do
  let _ ← Glob.Pattern.ofText text
  let all ← (Text.endedPieces '/' (text.drop 1)).mapM Part.ofText
  return all.foldr Part.push []

/-- A file or folder below a path. -/
structure Below where
  /-- The path of it. -/
  path : Path
  /-- The name of it. -/
  name : List Char
  /-- Which of both it is. -/
  kind : Tree.Kind
deriving DecidableEq

mutual

/-- The files and folders below a path, given the tree that is there. -/
def below (path : Path) : Tree.Shape → List Below
  | .file _ => []
  | .folder entries => belowEntries path entries
termination_by structural tree => tree

/-- The files and folders at and below the entries of the folder at a path. -/
def belowEntries (path : Path) : List (List Char × Tree.Shape) → List Below
  | [] => []
  | (name, inner) :: rest =>
    let here := path.join name
    ⟨here, name, inner.kind⟩ :: below here inner ++ belowEntries path rest
termination_by structural entries => entries

end

/-- Whether a name leads to the folder itself or to the one above. -/
def isDots (name : List Char) : Bool :=
  name == ['.'] || name == ['.', '.']

/-- The names in a folder that a pattern fits.  The names for the folder itself and the one above
are among them only if the pattern starts with a dot. -/
def fitting (pattern : Glob.Pattern) (entries : List (List Char × Tree.Shape)) :
    List (List Char) :=
  let dots := if pattern.tokens.head? == some (.char '.') then [['.'], ['.', '.']] else []
  (entries.map (·.1) ++ dots).filter pattern.fits

variable {m : Type → Type} [Monad m] [Host m]

/-- The paths to which parts lead from a path. -/
def expand : List Part → Path → m (List Path)
  | [], path => return [path]
  | .name text :: rest, path => do
    let next := path.join text
    if ← if isDots text then Host.isFolder path else Host.has next then expand rest next
    else return []
  | .pattern pattern :: rest, path => do
    match ← Host.shape? path with
    | some (.folder entries) =>
      let found ← (fitting pattern entries).mapM fun name => expand rest (path.join name)
      return found.flatten
    | _ => return []
  | [.deep], path => do
    let all := ((← Host.shape? path).map (below path)).getD []
    return (all.filter fun found => found.kind == .folder).map (·.path)
  | .deep :: part :: rest, path => do
    let all := ((← Host.shape? path).map (below path)).getD []
    let found ← (all.filter fun found => part.fits found.name).mapM fun found =>
      expand rest found.path
    return found.flatten

/-- The event of an include that is no pattern. -/
def badIncludeEvent (text : String) (fault : Glob.Fault) : Event :=
  ⟨.warn, "invalid include pattern", [("error", .text fault.message), ("pattern", .text text)]⟩

/-- The event of an include that leads nowhere. -/
def missingIncludeEvent (path : Path) : Event :=
  ⟨.warn, "include path does not exist", [("path", .text (String.ofList path))]⟩

/-- The paths to start from that an include gives. -/
def starts (base : Path) (text : String) : m (List Path) := do
  if Glob.hasWildcard text.toList then
    match parts (base.join text.toList) with
    | .ok parts => (← expand parts ['/']).filterM Host.isFolder
    | .error fault =>
      Host.tell (badIncludeEvent text fault)
      return []
  else
    let path := base.join text.toList
    if ← Host.has path then return [path]
    else
      Host.tell (missingIncludeEvent path)
      return []

/-! ## Leaving out -/

/-- What is left out. -/
structure Exclusion where
  /-- Paths, with everything behind them. -/
  paths : List Path
  /-- Patterns of whole paths. -/
  patterns : List Glob.Pattern

/-- Whether a path is left out. -/
def Exclusion.covers (exclusion : Exclusion) (path : Path) : Bool :=
  exclusion.paths.any (fun ignored => ignored.startsWith path)
    || exclusion.patterns.any fun pattern => pattern.fits path

/-- The event of an ignored text that is no pattern. -/
def badIgnoreEvent (text : String) (fault : Glob.Fault) : Event :=
  ⟨.warn, "invalid ignore pattern", [("error", .text fault.message), ("pattern", .text text)]⟩

/-- Adds an ignored text, which may be a path or a pattern. -/
def Exclusion.add (base : Path) (exclusion : Exclusion) (text : String) : m Exclusion := do
  if Glob.hasWildcard text.toList then
    match Glob.Pattern.ofText text.toList with
    | .ok pattern => return { exclusion with patterns := exclusion.patterns ++ [pattern] }
    | .error fault =>
      Host.tell (badIgnoreEvent text fault)
      return exclusion
  else return { exclusion with paths := exclusion.paths ++ [base.join text.toList] }

/-- The patterns that some texts spell. -/
def patternsOf (texts : List String) : List Glob.Pattern :=
  texts.filterMap fun text => (Glob.Pattern.ofText text.toList).toOption

/-- What a scope leaves out. -/
def Scope.exclusion (scope : Scope) (base : Path) : m Exclusion := do
  let ignored ← scope.ignores.foldlM (Exclusion.add base) ⟨[], []⟩
  let tests := if scope.skipsTests then patternsOf testPatterns else []
  return { ignored with patterns := ignored.patterns ++ tests }

/-! ## Finding -/

/-- Whether a path is that of a source file. -/
def isSource (path : Path) : Bool :=
  path.extension?.any extensions.contains

/-- Paths in order, each of them once. -/
def inOrder (paths : List Path) : List Path :=
  (paths.mergeSort fun left right => !(right < left)).eraseReps

/-- The source files of a scope at a path, in order. -/
def find (base : Path) (scope : Scope) : m (List Path) := do
  let exclusion ← scope.exclusion base
  let roots ←
    if scope.includes.isEmpty then pure [base]
    else List.flatten <$> scope.includes.mapM (starts base)
  let found ← roots.mapM fun root => do
    return ((← Host.shape? root).map (walk root)).getD []
  return inOrder (found.flatten.filter fun path => isSource path && !exclusion.covers path)

end Discovery
end KeyedText
