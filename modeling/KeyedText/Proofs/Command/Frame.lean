import KeyedText.Proofs.Command.Stage
import KeyedText.Proofs.Run.Setup

/-!
# What runs change

Whatever runs go well one after the other, each changes the files that it is for
and no others, and the logs grow by the lines of all of them, in order.
-/

namespace KeyedText
namespace Run

open World

/-! ## Surveys -/

theorem looks_surveyFile
    (settings : Settings)
    (converter : Keying.Converter)
    (folder path : Path) :
    Looks (surveyFile (m := StateM World) settings converter folder path).run :=
  fun tree => ⟨_, gives_surveyFile tree converter settings folder path⟩

/-- A survey changes no file. -/
theorem looks_survey
    (folder : Path)
    (order : SurveyOrder) :
    Looks (survey (m := StateM World) folder order).run := by
  have along : ∀ project : Project, Looks (do
      let tables ← project.tables
      let paths ← ExceptT.lift (surveyedPaths (order.root folder) project.settings)
      note (foundEvent paths.length)
      let results ← paths.mapM fun path => (ExceptT.lift (surveyFile project.settings
        (project.settings.converter tables) (order.root folder) path).run : Attempt _ _)
      return Surveyed.gather order.top results).run := by
    intro project
    refine looks_run_bind (inquires_tables project).looks fun tables => ?_
    refine looks_run_bind (inquires_lift (Discovery.looks_find _ _)).looks fun paths => ?_
    refine looks_run_bind (inquires_note _).looks fun _ => ?_
    rw [mapM_lift]
    have looks := looks_mapM
      (looks_surveyFile project.settings (project.settings.converter tables) (order.root folder))
    exact looks_run_bind (inquires_lift (looks paths)).looks fun _ => looks_pure _
  refine looks_run_bind (inquires_lift (looks_isFolder _)).looks fun isFolder => ?_
  cases isFolder with
  | false => exact looks_pure _
  | true => exact looks_run_bind (inquires_load _).looks along

end Run

namespace Command

open Run World

/-- The file that an order is to convert, if it names one. -/
def Order.file? : Order → Option String
  | .convert file? _ _ _ _ => file?
  | _ => none

namespace Stage

/-! ## What a run is for -/

/-- The file with the settings of the folder. -/
def settingsFile (stage : Stage) : Path :=
  stage.folder.join settingsName.toList

/-- What a conversion gives, if the run is one and goes well. -/
def converted? (stage : Stage) : Option Converted :=
  match stage.order with
  | .convert (some file) writes showsLines listsKeys _ =>
    (resultIn stage.before
      (convert stage.folder ⟨file, writes, showsLines, listsKeys⟩)).toOption
  | _ => none

/-- The lines for the sites that the run leaves to a person. -/
def reviewLines (stage : Stage) : List String :=
  stage.converted?.elim [] fun converted =>
    converted.ledger.reviews.map (reviewLine converted.file)

/-- The line for the file that the run changes. -/
def changeLines (stage : Stage) : List String :=
  stage.converted?.elim [] fun converted => if converted.written then [converted.file] else []

/-- The file that the run changes apart from the logs. -/
def changedFiles (stage : Stage) : List Path :=
  match stage.order with
  | .setUp => [stage.settingsFile]
  | _ => stage.changeLines.map fun file => stage.folder.join file.toList

/-- The paths at which the run changes something. -/
def touched (stage : Stage) : List Path :=
  logged stage.reviewLog stage.reviewLines ++
    (stage.changedFiles ++ logged stage.changeLog stage.changeLines)

/-- A run goes well, and if it converts a file the path of that is on one line and leads to none of
the logs. -/
structure GoesWell (stage : Stage) : Prop where
  succeeds : stage.result.exitCode ≠ failureCode
  oneLine : ∀ file ∈ stage.order.file?, '\n' ∉ file.toList
  noReviewLog : ∀ file ∈ stage.order.file?,
    ¬ stage.before.tree.SamePlace (stage.folder.join file.toList) stage.reviewLog
  noChangeLog : ∀ file ∈ stage.order.file?,
    ¬ stage.before.tree.SamePlace (stage.folder.join file.toList) stage.changeLog

theorem goesWell_iff
    (stage : Stage) :
    stage.GoesWell ↔
      stage.result.exitCode ≠ failureCode ∧
        ∀ file ∈ stage.order.file?,
          '\n' ∉ file.toList ∧
            ¬ stage.before.tree.SamePlace (stage.folder.join file.toList) stage.reviewLog ∧
              ¬ stage.before.tree.SamePlace (stage.folder.join file.toList) stage.changeLog := by
  constructor
  · rintro ⟨succeeds, oneLine, noReviewLog, noChangeLog⟩
    exact ⟨succeeds, fun file isFile =>
      ⟨oneLine file isFile, noReviewLog file isFile, noChangeLog file isFile⟩⟩
  · rintro ⟨succeeds, ofFile⟩
    exact ⟨succeeds, fun file isFile => (ofFile file isFile).1,
      fun file isFile => (ofFile file isFile).2.1, fun file isFile => (ofFile file isFile).2.2⟩

instance (stage : Stage) : Decidable stage.GoesWell :=
  decidable_of_iff' _ stage.goesWell_iff

/-! ## What a run does -/

/-- What a run does, depending on what it is for. -/
inductive Does (stage : Stage) : Prop where
  /-- A survey changes nothing. -/
  | survey
      (order : SurveyOrder)
      (verbose : Bool)
      (isSurvey : stage.order = .survey order verbose)
      (unchanged : stage.after.tree = stage.before.tree)
  /-- A setup puts the default settings where nothing was. -/
  | setUp
      (isSetUp : stage.order = .setUp)
      (absent : stage.before.tree.view? stage.settingsFile = none)
      (present : stage.after.tree.content? stage.settingsFile = some defaultSettingsText.toUTF8)
  /-- A conversion changes its file if it is told to write and the text with the calls differs. -/
  | conversion
      (file : String)
      (writes showsLines listsKeys verbose : Bool)
      (isConversion : stage.order = .convert (some file) writes showsLines listsKeys verbose)
      (converted : Converted)
      (isConverted : stage.converted? = some converted)
      (ofText :
        ∃ settings tables text outcome,
          answer stage.before.tree (configured stage.folder).run = .ok (settings, tables) ∧
            textOf (stage.before.tree.read (stage.folder.join file.toList)) = .ok text ∧
              (settings.converter tables).convert file
                  (settings.placement.infer (String.ofList (stage.folder.join file.toList)))
                  text.toList =
                .ok outcome ∧
                converted.file = file ∧
                  converted.before = text.toList ∧
                    converted.output = outcome.output ∧ converted.ledger = outcome.ledger)
      (written_iff :
        converted.written = true ↔ writes = true ∧ converted.output ≠ converted.before)
      (target :
        stage.after.tree.view? (stage.folder.join file.toList) =
          if converted.written then some (some (String.ofList converted.output).toUTF8)
          else stage.before.tree.view? (stage.folder.join file.toList))

/-- Both logs gain their lines, and nothing else changes but the file that the run is for. -/
structure Framed (stage : Stage) : Prop where
  reviews :
    Gains (stage.before.tree.content? stage.reviewLog) (stage.after.tree.content? stage.reviewLog)
      stage.reviewLines
  changes :
    Gains (stage.before.tree.content? stage.changeLog) (stage.after.tree.content? stage.changeLog)
      stage.changeLines
  keeps : stage.before.tree.Keeps stage.after.tree stage.touched

theorem reviewLines_eq_nil
    {stage : Stage}
    (isNone : stage.converted? = none) :
    stage.reviewLines = [] := by
  rw [reviewLines, isNone]
  rfl

theorem changeLines_eq_nil
    {stage : Stage}
    (isNone : stage.converted? = none) :
    stage.changeLines = [] := by
  rw [changeLines, isNone]
  rfl

theorem does_and_framed_of_survey
    {stage : Stage}
    {order : SurveyOrder}
    {verbose : Bool}
    (isSurvey : stage.order = .survey order verbose) :
    stage.Does ∧ stage.Framed := by
  have unchanged : stage.after.tree = stage.before.tree := by
    unfold after
    rw [isSurvey]
    exact ((looks_survey stage.folder order).gives stage.before.tree stage.before rfl).2
  have isNone : stage.converted? = none := by
    rw [converted?, isSurvey]
  refine ⟨.survey order verbose isSurvey unchanged, ?_, ?_, ?_⟩
  · rw [unchanged, reviewLines_eq_nil isNone]
    exact gains_nothing rfl
  · rw [unchanged, changeLines_eq_nil isNone]
    exact gains_nothing rfl
  · rw [unchanged, touched, changedFiles, isSurvey, reviewLines_eq_nil isNone,
      changeLines_eq_nil isNone]
    exact .refl _

theorem does_and_framed_of_setUp
    {stage : Stage}
    (isSetUp : stage.order = .setUp)
    (succeeds : stage.result.exitCode ≠ failureCode) :
    stage.Does ∧ stage.Framed := by
  have sets := setUp_leaves stage.before.tree stage.folder stage.before rfl
  have isTree : treeBehind stage.before (setUp stage.folder) = stage.after.tree := by
    rw [after_of_setUp stage isSetUp]
    rfl
  obtain ⟨absent, puts⟩ := sets (setUp_eq_ok stage isSetUp succeeds)
  rw [isTree] at puts
  have isNone : stage.converted? = none := by
    rw [converted?, isSetUp]
  refine ⟨.setUp isSetUp absent puts.content?_self, ?_, ?_, ?_⟩
  · rw [reviewLines_eq_nil isNone]
    exact gains_nothing (puts.view?_of_not_samePlace
      (Tree.not_samePlace_join _ isName_reviewLogName isName_settingsName (by decide) _))
  · rw [changeLines_eq_nil isNone]
    exact gains_nothing (puts.view?_of_not_samePlace
      (Tree.not_samePlace_join _ isName_changeLogName isName_settingsName (by decide) _))
  · rw [touched, changedFiles, isSetUp, reviewLines_eq_nil isNone, changeLines_eq_nil isNone]
    exact puts.keeps

/-- A conversion that goes well has found out what it changes files for, and changes them. -/
theorem exists_effects
    {stage : Stage}
    {file : String}
    {writes showsLines listsKeys verbose : Bool}
    (isConversion : stage.order = .convert (some file) writes showsLines listsKeys verbose)
    (goesWell : stage.GoesWell) :
    ∃ prepared,
      Prepares stage.before.tree stage.folder ⟨file, writes, showsLines, listsKeys⟩ prepared ∧
        stage.converted? = some
            (ConversionOrder.converted ⟨file, writes, showsLines, listsKeys⟩ prepared) ∧
          Effects stage.folder ⟨file, writes, showsLines, listsKeys⟩ prepared stage.before.tree
            stage.after.tree := by
  have isFile : stage.order.file? = some file := by
    rw [isConversion]
    rfl
  have ending := convert_ending stage.before.tree stage.folder
    ⟨file, writes, showsLines, listsKeys⟩ stage.before rfl
  rw [← after_of_conversion isConversion] at ending
  cases isResult : resultIn stage.before
      (convert stage.folder ⟨file, writes, showsLines, listsKeys⟩) with
  | error failure =>
      refine absurd ?_ goesWell.succeeds
      rw [result_of_conversion isConversion, isResult]
      rfl
  | ok converted =>
      rw [isResult] at ending
      obtain ⟨prepared, prepares, rfl, effects⟩ :=
        ending.of_ok (goesWell.noReviewLog file isFile) (goesWell.noChangeLog file isFile)
      refine ⟨prepared, prepares, ?_, effects⟩
      rw [converted?, isConversion]
      dsimp only
      rw [isResult]
      rfl

theorem does_and_framed_of_conversion
    {stage : Stage}
    {file : String}
    {writes showsLines listsKeys verbose : Bool}
    (isConversion : stage.order = .convert (some file) writes showsLines listsKeys verbose)
    (goesWell : stage.GoesWell) :
    stage.Does ∧ stage.Framed := by
  obtain ⟨prepared, prepares, isConverted, effects⟩ := exists_effects isConversion goesWell
  have isLine : '\n' ∉ file.toList := by
    apply goesWell.oneLine
    rw [isConversion]
    rfl
  constructor
  · obtain ⟨isRead, settings, tables, isConfigured, isPlace, ofText⟩ := prepares
    rw [isPlace] at ofText
    refine .conversion file writes showsLines listsKeys verbose isConversion _ isConverted
      ⟨settings, tables, prepared.text, prepared.outcome, isConfigured, isRead, ofText, rfl, rfl,
        rfl, rfl⟩ ConversionOrder.changes_iff effects.target
  · have isReviews : stage.reviewLines =
        ConversionOrder.reviewLines ⟨file, writes, showsLines, listsKeys⟩ prepared := by
      rw [reviewLines, isConverted]
      rfl
    have isChanges : stage.changeLines =
        ConversionOrder.changeLines ⟨file, writes, showsLines, listsKeys⟩ prepared := by
      rw [changeLines, isConverted]
      rfl
    refine ⟨?_, ?_, ?_⟩
    · rw [isReviews]
      refine gains_of_grown effects.reviews fun line isOne => ?_
      obtain ⟨entry, -, rfl⟩ := List.mem_map.mp isOne
      exact lineFeed_notMem_reviewLine isLine entry
    · rw [isChanges]
      refine gains_of_grown effects.changes fun line isOne => ?_
      unfold ConversionOrder.changeLines at isOne
      split at isOne
      · rwa [List.mem_singleton.mp isOne]
      · cases isOne
    · rw [touched, changedFiles, isConversion, isReviews, isChanges]
      exact effects.keeps

theorem GoesWell.does_and_framed
    {stage : Stage}
    (goesWell : stage.GoesWell) :
    stage.Does ∧ stage.Framed := by
  cases isOrder : stage.order with
  | survey order verbose => exact does_and_framed_of_survey isOrder
  | setUp => exact does_and_framed_of_setUp isOrder goesWell.succeeds
  | convert file? writes showsLines listsKeys verbose =>
      cases file? with
      | some file => exact does_and_framed_of_conversion isOrder goesWell
      | none =>
          refine absurd ?_ goesWell.succeeds
          unfold result
          rw [isOrder]
          rfl

end Stage

/-! ## Runs in a row -/

/-- The runs of the program from a folder, one after the other. -/
def stages (folder : Path) : World → List Invocation → List Stage
  | _, [] => []
  | world, run :: rest =>
    let stage : Stage := ⟨run, folder, world⟩
    stage :: stages folder stage.after rest

/-- The world behind runs from a folder. -/
def worldBehind (folder : Path) (world : World) (runs : List Invocation) : World :=
  runs.foldl (fun world run => (Stage.mk run folder world).after) world

/-- Whatever runs go well one after the other, each does what it is for, and together they leave the
logs with the lines of all of them and everything else as it was but for their files. -/
theorem runs_frame
    (folder : Path)
    (world : World)
    (runs : List Invocation)
    (goesWell : ∀ stage ∈ stages folder world runs, stage.GoesWell) :
    (∀ stage ∈ stages folder world runs, stage.Does ∧ stage.Framed) ∧
      Gains (world.tree.content? (folder.join reviewLogName.toList))
          ((worldBehind folder world runs).tree.content? (folder.join reviewLogName.toList))
          ((stages folder world runs).flatMap Stage.reviewLines) ∧
        Gains (world.tree.content? (folder.join changeLogName.toList))
            ((worldBehind folder world runs).tree.content? (folder.join changeLogName.toList))
            ((stages folder world runs).flatMap Stage.changeLines) ∧
          world.tree.Keeps (worldBehind folder world runs).tree
            ((stages folder world runs).flatMap Stage.touched) := by
  refine ⟨fun stage isStage => (goesWell stage isStage).does_and_framed, ?_⟩
  induction runs generalizing world with
  | nil => exact ⟨gains_nothing rfl, gains_nothing rfl, .refl _⟩
  | cons run rest inductionHypothesis =>
      obtain ⟨first, later⟩ := List.forall_mem_cons.mp goesWell
      obtain ⟨-, framed⟩ := first.does_and_framed
      obtain ⟨reviews, changes, keeps⟩ := inductionHypothesis _ later
      exact ⟨framed.reviews.trans reviews, framed.changes.trans changes, framed.keeps.trans keeps⟩

/-- A folder with two source files, one of which has a text of its own and one only a line feed. -/
def mixedWorld : World :=
  ⟨.folder [("home".toList, .folder
    [("a.tsx".toList, .file "const a = <b>Hello</b>;".toUTF8),
      ("b.tsx".toList, .file "const a = <b>\x7b' \\n '\x7d</b>;".toUTF8)])], []⟩

/-- Conversions of both files and a setup. -/
def mixedRuns : List Invocation :=
  [⟨false, .convert (some "b.tsx") true false false false⟩,
    ⟨false, .convert (some "a.tsx") true false false false⟩, ⟨false, .setUp⟩]

/-- Two conversions and a setup go well and leave one line in each log. -/
theorem runs_frame_of_mixedRuns :
    (∀ stage ∈ stages "/home".toList mixedWorld mixedRuns, stage.GoesWell) ∧
      (worldBehind "/home".toList mixedWorld mixedRuns).tree.content?
          (Path.join "/home".toList reviewLogName.toList) =
        some "[complex] b.tsx:1 :: empty-key-generated ::  \\n \n".toUTF8 ∧
      (worldBehind "/home".toList mixedWorld mixedRuns).tree.content?
          (Path.join "/home".toList changeLogName.toList) =
        some "a.tsx\n".toUTF8 := by
  have goesWell : ∀ stage ∈ stages "/home".toList mixedWorld mixedRuns, stage.GoesWell := by
    decide +kernel
  obtain ⟨-, reviews, changes, -⟩ := runs_frame "/home".toList mixedWorld mixedRuns goesWell
  obtain ⟨areReviews, areChanges⟩ :
      (stages "/home".toList mixedWorld mixedRuns).flatMap Stage.reviewLines =
          ["[complex] b.tsx:1 :: empty-key-generated ::  \\n "] ∧
        (stages "/home".toList mixedWorld mixedRuns).flatMap Stage.changeLines = ["a.tsx"] := by
    decide +kernel
  rw [areReviews] at reviews
  rw [areChanges] at changes
  rw [reviews.isGrown, changes.isGrown]
  exact ⟨goesWell, by decide +kernel, by decide +kernel⟩

/-- A folder with a log whose last line is not ended. -/
def unendedStage : Stage where
  colored := false
  order := .convert (some "a.tsx") true false false false
  folder := "/home".toList
  before :=
    ⟨.folder [("home".toList, .folder
      [("a.tsx".toList, .file "const a = <b>Hello</b>;".toUTF8),
        (changeLogName.toList, .file "old".toUTF8)])], []⟩

/-- A line that is not ended is not kept, but goes on with what is added. -/
theorem unended_line_goes_on :
    unendedStage.GoesWell ∧
      unendedStage.changeLines = ["a.tsx"] ∧
        endedLines (held (unendedStage.after.tree.content? unendedStage.changeLog)) =
            [bytesOf "olda.tsx"] ∧
          bytesOf "a.tsx" ∉
            endedLines (held (unendedStage.after.tree.content? unendedStage.changeLog)) := by
  decide +kernel

end Command
end KeyedText
