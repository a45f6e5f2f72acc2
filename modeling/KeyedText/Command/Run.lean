import KeyedText.Command.Order
import KeyedText.Report.Survey
import KeyedText.Run.Setup

/-!
# Running an order

An order is run from a folder.  What it comes to is an exit code, the texts for both outputs, and
the failure if there is one.
-/

namespace KeyedText
namespace Command

open Run

variable {m : Type → Type} [Monad m] [Host m]

/-- What running an order comes to. -/
structure Result where
  /-- The exit code. -/
  exitCode : Nat
  /-- Why the run failed, if it did. -/
  failure : Option Failure
  /-- The text for the standard output. -/
  output : String
  /-- The text for the error output. -/
  errors : String
deriving DecidableEq, Repr

/-- The exit code of a run that went well; for a survey, nothing was found. -/
def successCode : Nat := 0

/-- The exit code of a survey that found something. -/
def findingsCode : Nat := 1

/-- The exit code of a run that failed. -/
def failureCode : Nat := 2

/-- The exit code of arguments that give no order. -/
def Usage.exitCode : Usage → Nat
  | displayHelp | displayVersion => successCode
  | _ => failureCode

/-- The text about a file that was not named. -/
def unnamedFileText : String :=
  "error: the following required argument was not provided: --file <PATH>\n\n"
    ++ "Usage: i18n-codemod [OPTIONS]\n       i18n-codemod <COMMAND>\n\n"
    ++ "For more information, try '--help'.\n"

/-- The result of a run that may have failed. -/
def resultOf (success : α → Result) : Except Failure α → Result
  | .ok answer => success answer
  | .error failure => ⟨failureCode, some failure, "", ""⟩

/-- The result of a conversion. -/
def convertedResult (colored : Bool) (converted : Converted) : Result :=
  ⟨successCode, none, Report.conversion colored converted, ""⟩

/-- The result of a survey. -/
def surveyedResult (colored verbose : Bool) (surveyed : Surveyed) : Result where
  exitCode := if surveyed.total == 0 then successCode else findingsCode
  failure := none
  output := Report.survey colored surveyed
  errors := Report.faults colored verbose surveyed.faults

/-- Runs an order from a folder. -/
def Order.run (colored : Bool) (folder : Path) : Order → m Result
  | .convert none _ _ _ _ => return ⟨failureCode, none, "", unnamedFileText⟩
  | .convert (some file) writes showsLines listsKeys _ => do
    let order : ConversionOrder := ⟨file, writes, showsLines, listsKeys⟩
    return resultOf (convertedResult colored) (← (Run.convert folder order).run)
  | .survey order verbose => do
    return resultOf (surveyedResult colored verbose) (← (Run.survey folder order).run)
  | .setUp => do
    let success (_ : Unit) : Result := ⟨successCode, none, Report.setup colored settingsName, ""⟩
    return resultOf success (← (Run.setUp folder).run)

end Command
end KeyedText
