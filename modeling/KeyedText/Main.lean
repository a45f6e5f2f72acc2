import KeyedText.Command.Run
import KeyedText.Files.World

/-!
# The program

The program takes its order from the arguments and runs it on the files of the machine.  Before a
survey it reads the listing of the files that exist from the standard input, one path on a line.
-/

namespace KeyedText
namespace Main

/-- The machine: its files, and a listing of those that a survey can find. -/
abbrev Machine := ReaderT Tree.Shape IO

/-- The refusal that an error comes to. -/
def refusalOf : IO.Error → Refusal
  | .noFileOrDirectory _ _ _ => .missing
  | .inappropriateType _ _ details =>
    if details == "is a directory" then .isFolder else .notFolder
  | error => .other (toString error)

/-- Tries to do something with a file. -/
def attempt (action : IO α) : IO (Except Refusal α) := do
  match ← action.toBaseIO with
  | .ok result => return .ok result
  | .error error => return .error (refusalOf error)

/-- Reads a file. -/
def readFile (path : Path) : IO (Except Refusal ByteArray) :=
  attempt (IO.FS.readBinFile (String.ofList path))

/-- Opens a file to write at its end. -/
def openEndOf (path : Path) : IO (Except Refusal Unit) :=
  attempt do
    let _ ← IO.FS.Handle.mk (String.ofList path) .append

/-- Adds to the end of a file. -/
def appendFile (path : Path) (content : ByteArray) : IO (Except Refusal Unit) :=
  attempt do
    let handle ← IO.FS.Handle.mk (String.ofList path) .append
    handle.write content

/-- Whether there is a file or a folder at a path. -/
def kindOf? (path : Path) : IO (Option Tree.Kind) := do
  match ← readFile path with
  | .ok _ => return some .file
  | .error .isFolder => return some .folder
  | .error _ => return none

/-- An event as a line. -/
def eventLine (event : Event) : String :=
  let fields := event.fields.map fun (name, value) =>
    match value with
    | .number value => " " ++ name ++ "=" ++ toString value
    | .text value => " " ++ name ++ "=" ++ value
  event.level.name ++ " " ++ event.message ++ String.join fields

/-- The machine as a host; events are told if they are warnings, or if all are wanted. -/
@[reducible]
def host (tellsAll : Bool) : Host Machine where
  kind? path := kindOf? path
  shape? path := return (← read).find? path
  read path := readFile path
  write path content := attempt (IO.FS.writeBinFile (String.ofList path) content)
  openEnd path := openEndOf path
  append path content := appendFile path content
  tell event := do if tellsAll || event.level == .warn then IO.eprintln (eventLine event)

/-- The lines of the standard input, of which a number is read at most. -/
def readLines (input : IO.FS.Stream) : Nat → IO (List String)
  | 0 => return []
  | fuel + 1 => do
    let line ← input.getLine
    if line.isEmpty then return [] else return line :: (← readLines input fuel)

/-- The most files that a listing can have. -/
def longestListing : Nat := 100000

/-- The tree of the files in a listing, whose paths start from a folder. -/
def treeOf (folder : Path) (lines : List String) : Tree.Shape :=
  let paths := lines.map fun line => line.toList.filter fun character =>
    character != '\n' && character != '\r'
  paths.foldl (fun tree path => tree.put (folder.join path).names (.file ())) (.folder [])

/-- The listing that an order needs. -/
def listing (folder : Path) : Command.Order → IO Tree.Shape
  | .survey _ _ => do return treeOf folder (← readLines (← IO.getStdin) longestListing)
  | _ => return .folder []

/-- The text about arguments that give no order. -/
def usageText : Command.Usage → String
  | .displayHelp =>
    "Usage: i18n-codemod [OPTIONS]\n       i18n-codemod <COMMAND>\n\n"
      ++ "Commands:\n  convert\n  scan\n  init\n\n"
      ++ "Options:\n  -f, --file <PATH>\n  --write\n  --print\n  --report\n  -v, --verbose\n"
  | .displayVersion => "i18n-codemod 0.1.0\n"
  | .unknownArgument => "error: unexpected argument\n"
  | .invalidValue => "error: a value is required\n"
  | .valueValidation => "error: invalid value\n"
  | .tooManyValues => "error: unexpected value\n"
  | .argumentConflict => "error: the arguments cannot be used together\n"
  | .invalidSubcommand => "error: unrecognized subcommand\n"

/-- Runs an order from a folder. -/
def runOrder (folder : Path) (order : Command.Order) : IO UInt32 := do
  let colored := (← (← IO.getStdout).isTty) && (← IO.getEnv "NO_COLOR").isNone
  let tree ← listing folder order
  let run : Machine Command.Result :=
    let _ := host order.verbose
    order.run colored folder
  let result ← run tree
  IO.print result.output
  IO.eprint result.errors
  match result.failure with
  | some failure => IO.eprintln ("error: " ++ failure.message)
  | none => pure ()
  return UInt32.ofNat result.exitCode

end Main
end KeyedText

/-- Takes the order from the arguments and runs it from the working folder. -/
def main (arguments : List String) : IO UInt32 := do
  match KeyedText.Command.Order.ofArguments arguments with
  | .error usage =>
    let code := usage.exitCode
    if code == 0 then IO.print (KeyedText.Main.usageText usage)
    else IO.eprint (KeyedText.Main.usageText usage)
    return UInt32.ofNat code
  | .ok order => KeyedText.Main.runOrder ((← IO.getEnv "PWD").getD "").toList order
