import KeyedText.Files.Host

/-!
# Worlds

A world is a tree of files together with the events that were told.  It is a host: reading looks
into the tree, writing puts a new file into it, and nothing else changes it.  The disk under a
world can refuse to write: at once, or when as much is written as a file can hold.
-/

namespace KeyedText

/-! ## Disks -/

/-- What a disk lets the file at a location hold. -/
inductive Allowance where
  /-- Whatever is written. -/
  | anything
  /-- What it holds already: it cannot be opened for writing. -/
  | nothing (refusal : Refusal)
  /-- So many bytes at most: what goes beyond is refused when the rest is written. -/
  | atMost (size : Nat) (refusal : Refusal)

/-- What a disk lets the file at each location hold. -/
class Disk where
  /-- What the disk allows at a location. -/
  allowance : Location → Allowance

/-- Where no other disk is named, it refuses nothing. -/
instance : Disk := ⟨fun _ => .anything⟩

/-- Why a file with an allowance cannot be opened for writing, if it cannot. -/
def Allowance.refusal? : Allowance → Option Refusal
  | nothing refusal => some refusal
  | _ => none

/-- What a file that holds some bytes holds when more are written behind them, and whether all of
them are. -/
def Allowance.extend (allowance : Allowance) (before content : ByteArray) :
    ByteArray × Except Refusal Unit :=
  match allowance with
  | atMost size refusal =>
    let room := size - before.size
    if content.size ≤ room then (before ++ content, .ok ())
    else (before ++ content.extract 0 room, .error refusal)
  | _ => (before ++ content, .ok ())

/-! ## Trees -/

/-- A tree of files. -/
abbrev FileTree := Tree ByteArray

namespace Tree

/-- Goes on from a location along names.  Every name but the last has to be that of a folder; at
the last one there may be nothing. -/
def locateFrom (tree : Tree α) (location : Location) :
    List (List Char) → Except Refusal Location
  | [] => .ok location
  | name :: rest =>
    match tree.get? location with
    | none => .error .missing
    | some (.file _) => .error .notFolder
    | some (.folder _) =>
      if Path.isIdle name then tree.locateFrom location rest
      else if name == ['.', '.'] then tree.locateFrom location.dropLast rest
      else tree.locateFrom (location ++ [name]) rest

/-- The location that a path from the top leads to. -/
def locate (tree : Tree α) (path : Path) : Except Refusal Location :=
  tree.locateFrom [] (Text.pieces '/' path)

/-- What is at a path. -/
def find (tree : Tree α) (path : Path) : Except Refusal (Tree α) := do
  match tree.get? (← tree.locate path) with
  | some part => return part
  | none => throw .missing

/-- What is at a path, if there is anything. -/
def find? (tree : Tree α) (path : Path) : Option (Tree α) :=
  (tree.find path).toOption

end Tree

namespace FileTree

/-- What the file at a path holds. -/
def read (tree : FileTree) (path : Path) : Except Refusal ByteArray := do
  match ← tree.find path with
  | .file content => return content
  | .folder _ => throw .isFolder

/-- The location of the file at a path, if that can be opened for writing. -/
def openAt (disk : Disk) (tree : FileTree) (path : Path) : Except Refusal Location := do
  let location ← tree.locate path
  match tree.get? location with
  | some (.folder _) => throw .isFolder
  | _ =>
    match (disk.allowance location).refusal? with
    | some refusal => throw refusal
    | none => return location

/-- What the file at a location holds; where there is none, nothing. -/
def heldAt (tree : FileTree) (location : Location) : ByteArray :=
  match tree.get? location with
  | some (.file content) => content
  | _ => .empty

/-- Writes behind what the file at a location should start with. -/
def extendAt (disk : Disk) (tree : FileTree) (location : Location) (before content : ByteArray) :
    Except Refusal Unit × FileTree :=
  let (held, result) := (disk.allowance location).extend before content
  (result, tree.put location (.file held))

/-- Goes on with the location of a file that is opened for writing, and changes nothing if it
cannot be. -/
def withOpen (disk : Disk) (tree : FileTree) (path : Path)
    (next : Location → Except Refusal Unit × FileTree) : Except Refusal Unit × FileTree :=
  match tree.openAt disk path with
  | .error refusal => (.error refusal, tree)
  | .ok location => next location

/-- Lets the file at a path hold something else. -/
def write (disk : Disk) (tree : FileTree) (path : Path) (content : ByteArray) :
    Except Refusal Unit × FileTree :=
  tree.withOpen disk path fun location => tree.extendAt disk location .empty content

/-- Opens the file at a path to write at its end; where there is none, it comes into being. -/
def openEnd (disk : Disk) (tree : FileTree) (path : Path) : Except Refusal Unit × FileTree :=
  tree.withOpen disk path fun location =>
    (.ok (), tree.put location (.file (tree.heldAt location)))

/-- Lets the file at a path hold something more at its end. -/
def append (disk : Disk) (tree : FileTree) (path : Path) (content : ByteArray) :
    Except Refusal Unit × FileTree :=
  tree.withOpen disk path fun location =>
    tree.extendAt disk location (tree.heldAt location) content

end FileTree

/-! ## Worlds -/

/-- A tree of files on a disk and what was told about it. -/
structure World where
  /-- The files, from the top. -/
  tree : FileTree
  /-- What was told, in order. -/
  events : List Event
  /-- The disk under the files. -/
  [disk : Disk]

namespace World

/-- Goes on with a changed tree. -/
def change (update : Disk → FileTree → Except Refusal Unit × FileTree) :
    StateM World (Except Refusal Unit) :=
  fun world =>
    let (result, tree) := update world.disk world.tree
    (result, { world with tree })

instance : Host (StateM World) where
  kind? path world := (((world.tree.find? path).map Tree.kind), world)
  shape? path world := (((world.tree.find? path).map Tree.shape), world)
  read path world := (world.tree.read path, world)
  write path content := change fun disk tree => tree.write disk path content
  openEnd path := change fun disk tree => tree.openEnd disk path
  append path content := change fun disk tree => tree.append disk path content
  tell event world := ((), { world with events := world.events ++ [event] })

end World
end KeyedText
