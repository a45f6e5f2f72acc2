import KeyedText.Event
import KeyedText.Files.Path
import KeyedText.Files.Tree

/-!
# Hosts

A run asks a host for files, changes files through it, and tells it what happens.  What a host
refuses it refuses for one of a few causes.
-/

namespace KeyedText

/-- Why a host refuses to read or change a file. -/
inductive Refusal where
  /-- There is nothing at the path. -/
  | missing
  /-- The path goes on behind a file. -/
  | notFolder
  /-- There is a folder at the path. -/
  | isFolder
  /-- The file holds no text. -/
  | notText
  /-- Any other cause, in the words of the host. -/
  | other (words : String)
deriving DecidableEq, Repr

/-- The wording of a refusal. -/
def Refusal.message : Refusal → String
  | missing => "No such file or directory (os error 2)"
  | notFolder => "Not a directory (os error 20)"
  | isFolder => "Is a directory (os error 21)"
  | notText => "stream did not contain valid UTF-8"
  | other words => words

/-- What a run can ask of its host. -/
class Host (m : Type → Type) where
  /-- Whether there is a file or a folder at a path. -/
  kind? : Path → m (Option Tree.Kind)
  /-- The shape of what is at a path. -/
  shape? : Path → m (Option Tree.Shape)
  /-- What the file at a path holds. -/
  read : Path → m (Except Refusal ByteArray)
  /-- Lets the file at a path hold something else; if that is refused, the file can be as it was or
  hold a front of it. -/
  write : Path → ByteArray → m (Except Refusal Unit)
  /-- Opens the file at a path to write at its end; where there is none, it comes into being. -/
  openEnd : Path → m (Except Refusal Unit)
  /-- Lets the file at a path hold something more at its end, or a front of that if it is
  refused. -/
  append : Path → ByteArray → m (Except Refusal Unit)
  /-- Tells the host what happens. -/
  tell : Event → m Unit

namespace Host

variable {m : Type → Type} [Monad m] [Host m]

/-- Whether there is a file at a path. -/
def isFile (path : Path) : m Bool := do
  return (← kind? path) == some .file

/-- Whether there is a folder at a path. -/
def isFolder (path : Path) : m Bool := do
  return (← kind? path) == some .folder

/-- Whether there is anything at a path. -/
def has (path : Path) : m Bool := do
  return (← kind? path).isSome

/-- The text that the file at a path holds. -/
def readText (path : Path) : m (Except Refusal String) := do
  match ← read path with
  | .error refusal => return .error refusal
  | .ok bytes =>
    match String.fromUTF8? bytes with
    | some text => return .ok text
    | none => return .error .notText

end Host
end KeyedText
