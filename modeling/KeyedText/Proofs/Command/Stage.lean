import KeyedText.Command.Run
import KeyedText.Proofs.Run.Conversion

/-!
# Runs that fail

A run that fails leaves the file that it is to convert as it is, as long as it
fails before it changes that file.  The log of converted files comes last: if it
cannot be opened or written, the file has been changed already, and what it
holds is the text with the calls.
-/

namespace KeyedText
namespace Command

open Run World

/-- What the program is run for. -/
structure Invocation where
  /-- Whether reports are colored. -/
  colored : Bool
  /-- What it is to do. -/
  order : Order

/-- A run of the program from a folder of a world. -/
structure Stage extends Invocation where
  /-- The folder from which it runs. -/
  folder : Path
  /-- The world before the run. -/
  before : World

namespace Stage

/-- What the run comes to. -/
def result (stage : Stage) : Result :=
  (((stage.order.run stage.colored stage.folder : StateM World Result)).run stage.before).1

/-- The world behind the run. -/
def after (stage : Stage) : World :=
  (((stage.order.run stage.colored stage.folder : StateM World Result)).run stage.before).2

/-- The log of converted files. -/
def changeLog (stage : Stage) : Path :=
  stage.folder.join changeLogName.toList

/-- The log of sites that are left to a person. -/
def reviewLog (stage : Stage) : Path :=
  stage.folder.join reviewLogName.toList

end Stage

/-! ## Results of attempts -/

section Results

variable
    {stage : Stage}
    {file : String}
    {writes showsLines listsKeys verbose : Bool}
    (isConversion : stage.order = .convert (some file) writes showsLines listsKeys verbose)

include isConversion

theorem result_of_conversion :
    stage.result = resultOf (convertedResult stage.colored)
      (resultIn stage.before (convert stage.folder ⟨file, writes, showsLines, listsKeys⟩)) := by
  unfold Stage.result
  rw [isConversion]
  rfl

theorem after_of_conversion :
    stage.after.tree =
      treeBehind stage.before (convert stage.folder ⟨file, writes, showsLines, listsKeys⟩) := by
  unfold Stage.after
  rw [isConversion]
  rfl

theorem exists_failure
    (fails : stage.result.exitCode = failureCode) :
    ∃ failure,
      resultIn stage.before (convert stage.folder ⟨file, writes, showsLines, listsKeys⟩) =
          .error failure ∧
        stage.result.failure = some failure := by
  rw [result_of_conversion isConversion] at fails ⊢
  cases isResult : resultIn stage.before
      (convert stage.folder ⟨file, writes, showsLines, listsKeys⟩) with
  | error failure => exact ⟨failure, rfl, rfl⟩
  | ok converted =>
      rw [isResult] at fails
      cases fails

end Results

section Setups

variable
    (stage : Stage)
    (isSetUp : stage.order = .setUp)

include isSetUp

/-- A setup that does not fail goes well. -/
theorem setUp_eq_ok
    (succeeds : stage.result.exitCode ≠ failureCode) :
    resultIn stage.before (setUp stage.folder) = .ok () := by
  cases isResult : resultIn stage.before (setUp stage.folder) with
  | ok value => rfl
  | error failure =>
      refine absurd ?_ succeeds
      have isLift : stage.result = resultOf
          (fun _ => ⟨successCode, none, Report.setup stage.colored settingsName, ""⟩)
          (resultIn stage.before (setUp stage.folder)) := by
        unfold Stage.result
        rw [isSetUp]
        rfl
      rw [isLift, isResult]
      rfl

theorem after_of_setUp :
    stage.after =
      (((setUp stage.folder : Attempt (StateM World) Unit).run).run stage.before).2 := by
  unfold Stage.after
  rw [isSetUp]
  rfl

end Setups

/-- A run that fails leaves the file that it is to convert as it is, unless the failure shows only
when the file may have been changed, or the file is the log of sites that are left to a person. -/
theorem failed_conversion_keeps_file
    (stage : Stage)
    (file? : Option String)
    (writes showsLines listsKeys verbose : Bool)
    (isConversion : stage.order = .convert file? writes showsLines listsKeys verbose)
    (fails : stage.result.exitCode = failureCode) :
    (file? = none → stage.after.tree = stage.before.tree) ∧
      ∀ file, file? = some file →
        ∃ failure,
          stage.result.failure = some failure ∧
            Spares stage.folder ⟨file, writes, showsLines, listsKeys⟩ stage.before.tree failure
              stage.after.tree := by
  constructor
  · rintro rfl
    unfold Stage.after
    rw [isConversion]
    rfl
  · rintro file rfl
    obtain ⟨failure, isResult, isFailure⟩ := exists_failure isConversion fails
    have ending := convert_ending stage.before.tree stage.folder
      ⟨file, writes, showsLines, listsKeys⟩ stage.before rfl
    rw [← after_of_conversion isConversion, isResult] at ending
    exact ⟨failure, isFailure, ending.spares⟩

/-- A disk on which no file of a name can hold more than some bytes. -/
@[reducible]
def diskWith (name : List Char) (size : Nat) : Disk :=
  ⟨fun location =>
    if location.getLast? = some name then
      .atMost size (.other "No space left on device (os error 28)")
    else .anything⟩

/-- A run for a file with a site that is left to a person, where the log of such sites has no room
for the whole line. -/
def fullStage : Stage where
  colored := false
  order := .convert (some "a.tsx") true false false false
  folder := "/home".toList
  before :=
    { tree := .folder [("home".toList, .folder
        [("a.tsx".toList, .file "const a = <b>\x7b' \\n '\x7d</b>;".toUTF8)])]
      events := []
      disk := diskWith reviewLogName.toList 9 }

/-- A front of the line is in the log, and the file is as it was. -/
theorem failed_conversion_of_fullStage :
    fullStage.result.exitCode = failureCode ∧
      fullStage.after.tree.content? fullStage.reviewLog = some "[complex]".toUTF8 ∧
        fullStage.after.tree.view? "/home/a.tsx".toList =
          fullStage.before.tree.view? "/home/a.tsx".toList := by
  have fails : fullStage.result.exitCode = failureCode := by decide +kernel
  have isFailure : fullStage.result.failure = some (.logUnwritten fullStage.reviewLog
      (.other "No space left on device (os error 28)")) := by
    decide +kernel
  have apart : ¬ fullStage.before.tree.SamePlace
      (ConversionOrder.target ⟨"a.tsx", true, false, false⟩ fullStage.folder)
      fullStage.reviewLog := by
    decide +kernel
  refine ⟨fails, by decide +kernel, ?_⟩
  obtain ⟨-, ofFile⟩ :=
    failed_conversion_keeps_file fullStage (some "a.tsx") true false false false rfl fails
  obtain ⟨failure, isSame, spares⟩ := ofFile "a.tsx" rfl
  cases isFailure.symm.trans isSame
  refine spares.kept ?_ fun _ _ => apart
  generalize isLate : Failure.logUnwritten fullStage.reviewLog _ = failure
  rintro (_ | _ | _)
  · cases isLate
  · cases isLate
  · exact reviewLog_ne_changeLog fullStage.folder (Failure.logUnwritten.inj isLate).1

/-- A run in a folder where the log of converted files is a folder. -/
def blockedStage : Stage where
  colored := false
  order := .convert (some "a.tsx") true false false false
  folder := "/home".toList
  before :=
    ⟨.folder [("home".toList, .folder
      [("a.tsx".toList, .file "const a = <b>Hello</b>;".toUTF8),
        (changeLogName.toList, .folder [])])], []⟩

/-- What the file of that run holds behind it. -/
def blockedText : String :=
  "const a = <b>\x7bt('features:a.hello', \x7b defaultValue: 'Hello' \x7d)\x7d</b>;"

/-- A run for the log of sites that are left to a person, which itself has such a site and no room
for its line. -/
def ownLogStage : Stage where
  colored := false
  order := .convert (some reviewLogName) false false false false
  folder := "/home".toList
  before :=
    { tree := .folder [("home".toList, .folder
        [(reviewLogName.toList, .file "const a = <b>\x7b' \\n '\x7d</b>;".toUTF8)])]
      events := []
      disk := diskWith reviewLogName.toList 30 }

/-- A run can fail when it has changed its file: the log of converted files cannot be opened, or the
file is itself the log that cannot be written. -/
theorem failed_conversion_changes_file :
    (blockedStage.result.exitCode = failureCode ∧
      blockedStage.after.tree.content? "/home/a.tsx".toList = some blockedText.toUTF8 ∧
        blockedStage.after.tree.content? "/home/a.tsx".toList ≠
          blockedStage.before.tree.content? "/home/a.tsx".toList) ∧
      ownLogStage.result.exitCode = failureCode ∧
        ownLogStage.after.tree.content? ownLogStage.reviewLog ≠
          ownLogStage.before.tree.content? ownLogStage.reviewLog := by
  have isAfter : blockedStage.after.tree.content? "/home/a.tsx".toList =
      some blockedText.toUTF8 := by
    decide +kernel
  refine ⟨⟨by decide +kernel, isAfter, ?_⟩, by decide +kernel, by decide +kernel⟩
  rw [isAfter]
  decide +kernel

end Command
end KeyedText
