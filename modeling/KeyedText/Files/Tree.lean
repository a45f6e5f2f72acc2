/-!
# Trees of files

A tree is a file or a folder of named trees.  What a file holds is left open: bytes, or nothing
where only the shape of the tree matters.
-/

namespace KeyedText

/-- A file or folder. -/
inductive Tree (α : Type) where
  /-- A file and what it holds. -/
  | file (content : α)
  /-- A folder and its entries. -/
  | folder (entries : List (List Char × Tree α))

/-- The names that lead from the top of a tree to a part of it. -/
abbrev Location := List (List Char)

namespace Tree

/-- The shape of a tree. -/
abbrev Shape := Tree Unit

/-- Whether a tree is a file or a folder. -/
inductive Kind where
  | file
  | folder
deriving DecidableEq, Repr

/-- Whether a tree is a file or a folder. -/
def kind : Tree α → Kind
  | file _ => .file
  | folder _ => .folder

/-- The entries of a tree; a file has none. -/
def entries : Tree α → List (List Char × Tree α)
  | file _ => []
  | folder entries => entries

/-- The entry of a tree with a name. -/
def entry? (tree : Tree α) (name : List Char) : Option (Tree α) :=
  tree.entries.lookup name

/-- The part of a tree at a location. -/
def get? (tree : Tree α) : Location → Option (Tree α)
  | [] => some tree
  | name :: rest => (tree.entry? name).bind fun inner => inner.get? rest

/-- Gives a name a new entry: in the place of the one that it has, or at the end. -/
def putEntry (name : List Char) (new : Tree α) :
    List (List Char × Tree α) → List (List Char × Tree α)
  | [] => [(name, new)]
  | (other, old) :: rest =>
    if other == name then (name, new) :: rest else (other, old) :: putEntry name new rest

/-- Puts a part at a location of a tree.  Folders on the way that are missing come into being; a
file on the way is in the way, and nothing changes. -/
def put (tree : Tree α) (location : Location) (new : Tree α) : Tree α :=
  match location, tree with
  | [], _ => new
  | _ :: _, file content => file content
  | name :: rest, folder entries =>
    let inner := (entries.lookup name).getD (folder [])
    folder (putEntry name (put inner rest new) entries)
termination_by structural location

/-- Removes the part at a location of a tree. -/
def remove (tree : Tree α) (location : Location) : Tree α :=
  match location, tree with
  | [], tree => tree
  | _ :: _, file content => file content
  | [name], folder entries => folder (entries.filter fun entry => entry.1 != name)
  | name :: rest, folder entries =>
    match entries.lookup name with
    | none => folder entries
    | some inner => folder (putEntry name (remove inner rest) entries)
termination_by structural location

mutual

/-- A tree with what its files hold changed. -/
def map (change : α → β) : Tree α → Tree β
  | file content => file (change content)
  | folder entries => folder (mapEntries change entries)
termination_by structural tree => tree

/-- Entries with what their files hold changed. -/
def mapEntries (change : α → β) : List (List Char × Tree α) → List (List Char × Tree β)
  | [] => []
  | (name, inner) :: rest => (name, inner.map change) :: mapEntries change rest
termination_by structural entries => entries

end

/-- The shape of a tree. -/
def shape (tree : Tree α) : Shape :=
  tree.map fun _ => ()

mutual

/-- The files of a tree with their locations. -/
def files : Tree α → List (Location × α)
  | file content => [([], content)]
  | folder entries => filesOf entries
termination_by structural tree => tree

/-- The files of entries with their locations. -/
def filesOf : List (List Char × Tree α) → List (Location × α)
  | [] => []
  | (name, inner) :: rest =>
    inner.files.map (fun (location, content) => (name :: location, content)) ++ filesOf rest
termination_by structural entries => entries

end

end Tree
end KeyedText
