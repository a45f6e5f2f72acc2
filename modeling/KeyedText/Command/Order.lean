import KeyedText.Command.Arguments
import KeyedText.Run.Survey

/-!
# Orders

The arguments of the program give an order: to convert a file, to survey a folder, or to set up
the folder.  Options without the name of a command are those of a conversion.
-/

namespace KeyedText
namespace Command

/-- What the program is to do. -/
inductive Order where
  /-- Convert a file, which may not have been named. -/
  | convert (file : Option String) (writes showsLines listsKeys verbose : Bool)
  /-- Survey a folder. -/
  | survey (order : Run.SurveyOrder) (verbose : Bool)
  /-- Give the folder the default settings. -/
  | setUp
deriving DecidableEq, Repr

/-- Whether everything that happens is told. -/
def Order.verbose : Order → Bool
  | convert _ _ _ _ verbose => verbose
  | survey _ verbose => verbose
  | setUp => false

/-- The options of a conversion. -/
def conversionOptions : List Slot :=
  [.file, .write, .print, .report, .verbose, .help]

/-- The arguments without the name of a command. -/
def topForm : Form :=
  ⟨conversionOptions ++ [.version], none, ["convert", "scan", "init", "help"]⟩

/-- The arguments of a conversion. -/
def conversionForm : Form :=
  ⟨conversionOptions, none, []⟩

/-- The arguments of a survey. -/
def surveyForm : Form :=
  ⟨[.top, .verbose, .help], some .folder, []⟩

/-- The arguments of a setup. -/
def setupForm : Form :=
  ⟨[.help], none, []⟩

/-- The number of texts that a report ranks if none is given. -/
def defaultTop : Nat := 20

/-- Values of slots. -/
abbrev Given := List (Slot × String)

/-- Whether a slot is given. -/
def Given.has (given : Given) (slot : Slot) : Bool :=
  (given.lookup slot).isSome

/-- The conversion that values of slots order. -/
def conversionOrder (given : Given) : Order :=
  .convert (given.lookup .file) (given.has .write) (given.has .print) (given.has .report)
    (given.has .verbose)

/-- The survey that values of slots order. -/
def surveyOrder (given : Given) : Order :=
  .survey ⟨given.lookup .folder, ((given.lookup .top).bind wholeNumber?).getD defaultTop⟩
    (given.has .verbose)

/-- Reads the arguments of a command that has no further commands. -/
def readLeaf (form : Form) (order : Given → Order) (arguments : List String) :
    Except Usage Order := do
  match ← form.read arguments with
  | .given slots => return order slots
  | .command _ _ => throw .invalidSubcommand

/-- What a request for help about commands comes to. -/
def helpAbout (names : List String) : Usage :=
  match names with
  | [] => .displayHelp
  | [name] => if topForm.commands.contains name then .displayHelp else .invalidSubcommand
  | _ => .invalidSubcommand

/-- The order that arguments give. -/
def Order.ofArguments (arguments : List String) : Except Usage Order := do
  match ← topForm.read arguments with
  | .given slots => return conversionOrder slots
  | .command name rest =>
    if name == "convert" then readLeaf conversionForm conversionOrder rest
    else if name == "scan" then readLeaf surveyForm surveyOrder rest
    else if name == "init" then readLeaf setupForm (fun _ => .setUp) rest
    else throw (helpAbout rest)

end Command
end KeyedText
