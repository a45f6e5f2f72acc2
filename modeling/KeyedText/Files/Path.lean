import KeyedText.Text.Pieces

/-!
# Paths

A path is a text whose slashes separate names.  Two texts can name the same file: empty names and
single dots count for nothing.  Paths keep their text, since reports show it.
-/

namespace KeyedText

/-- The text of a path. -/
abbrev Path := List Char

namespace Path

/-- Whether a path starts at the top. -/
def isAbsolute (path : Path) : Bool :=
  path.head? == some '/'

/-- Goes on from a path along another one, which counts alone if it starts at the top. -/
def join (base path : Path) : Path :=
  if isAbsolute path then path
  else if base.isEmpty || base.getLast? == some '/' then base ++ path
  else base ++ '/' :: path

/-- Whether a name between slashes counts for nothing. -/
def isIdle (name : List Char) : Bool :=
  name.isEmpty || name == ['.']

/-- The names of a path that count. -/
def names (path : Path) : List (List Char) :=
  (Text.pieces '/' path).filter fun name => !isIdle name

/-- Whether a path starts with another one, name by name. -/
def startsWith (base path : Path) : Bool :=
  isAbsolute base == isAbsolute path && (names base).isPrefixOf (names path)

/-- Drops what counts for nothing from the start of a path. -/
def dropIdle : List Char → List Char
  | '/' :: rest => dropIdle rest
  | '.' :: '/' :: rest => dropIdle rest
  | ['.'] => []
  | rest => rest

/-- What a path holds behind names. -/
def behindNames? : List (List Char) → List Char → Option (List Char)
  | [], path => some (dropIdle path)
  | name :: more, path =>
    let rest := dropIdle path
    if rest.takeWhile (· != '/') == name then behindNames? more (rest.drop name.length) else none

/-- What a path holds behind another one. -/
def behind? (base path : Path) : Option Path :=
  if isAbsolute base == isAbsolute path then behindNames? (names base) path else none

/-- Drops what counts for nothing from the end of a path, which is given from back to front. -/
def dropIdleBack : List Char → List Char
  | '/' :: rest => dropIdleBack rest
  | '.' :: '/' :: rest => dropIdleBack rest
  | rest => rest

/-- The shortest text of a path with the same start. -/
def trimmedEnd (path : Path) : Path :=
  let front := (dropIdleBack path.reverse).reverse
  if front.isEmpty && isAbsolute path then ['/'] else front

/-- The path without its last name. -/
def parent? (path : Path) : Option Path :=
  let whole := trimmedEnd path
  if whole.isEmpty || whole == ['/'] then none
  else some (trimmedEnd (whole.reverse.dropWhile (· != '/')).reverse)

/-- A path and the paths above it, the nearest first. -/
def upwardsFor : Nat → Path → List Path
  | 0, path => [path]
  | fuel + 1, path =>
    path :: match parent? path with
      | none => []
      | some above => upwardsFor fuel above

/-- A path and the paths above it, the nearest first.  Each is shorter than the one before. -/
def upwards (path : Path) : List Path :=
  upwardsFor path.length path

/-- What stands behind the last dot of a name, unless the name starts with that dot. -/
def extension? (path : Path) : Option (List Char) :=
  let name := (Text.pieces '/' path).getLastD []
  let behind := name.reverse.takeWhile (· != '.')
  if behind.length + 1 < name.length then some behind.reverse else none

end Path
end KeyedText
