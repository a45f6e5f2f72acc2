import KeyedText.Proofs.Run.Change
import KeyedText.Proofs.Run.Survey

/-!
# What a conversion does to files

A conversion looks first: all that can go wrong with the settings, the tables or
the source text goes wrong before any file is changed.  Then it changes up to
three files, always in the same order: the log of the sites that are left to a
person, the source file, and the log of converted files.
-/

namespace KeyedText
namespace Run

open World

/-! ## Looking -/

/-- What a conversion finds out before it changes any file. -/
structure Prepared where
  /-- The namespace and group of the keys. -/
  place : Key.Place
  /-- The text of the file. -/
  text : String
  /-- The conversion of the text. -/
  outcome : Keying.Outcome

/-- The file that a conversion is for. -/
def ConversionOrder.target (order : ConversionOrder) (folder : Path) : Path :=
  folder.join order.file.toList

/-- What is found out in a tree: the conversion of the text that the file holds, with the settings
and tables of the folder. -/
structure Prepares (tree : FileTree) (folder : Path) (order : ConversionOrder)
    (prepared : Prepared) : Prop where
  isRead : textOf (tree.read (order.target folder)) = .ok prepared.text
  isConverted :
    ∃ settings tables,
      answer tree (configured folder).run = .ok (settings, tables) ∧
        prepared.place = settings.placement.infer (String.ofList (order.target folder)) ∧
          (settings.converter tables).convert order.file prepared.place prepared.text.toList =
            .ok prepared.outcome

/-- Whether a conversion changes its file. -/
def ConversionOrder.changes (order : ConversionOrder) (prepared : Prepared) : Bool :=
  order.writes && prepared.outcome.output != prepared.text.toList

/-- The lines for the sites that are left to a person. -/
def ConversionOrder.reviewLines (order : ConversionOrder) (prepared : Prepared) : List String :=
  prepared.outcome.ledger.reviews.map (reviewLine order.file)

/-- What a conversion gives. -/
def ConversionOrder.converted (order : ConversionOrder) (prepared : Prepared) : Converted :=
  ⟨order.file, prepared.place, prepared.outcome.ledger, prepared.text.toList,
    prepared.outcome.output, order.showsLines, order.listsKeys, order.changes prepared⟩

/-- The end of a conversion, which changes files. -/
def finish (folder : Path) (order : ConversionOrder) (prepared : Prepared) :
    Attempt (StateM World) Converted := do
  unless prepared.outcome.ledger.reviews.isEmpty do
    log (folder.join reviewLogName.toList) (order.reviewLines prepared)
  if order.changes prepared then
    commit folder (order.target folder) order.file prepared.outcome
  return order.converted prepared

/-- A conversion in a project. -/
def convertIn (folder : Path) (order : ConversionOrder) (project : Project) :
    Attempt (StateM World) Converted := do
  let tables ← project.tables
  let text ← ask (.sourceUnread order.file) (Host.readText (order.target folder))
  let place := project.settings.placement.infer (String.ofList (order.target folder))
  let outcome ← convertText (project.settings.converter tables) order.file place text
  finish folder order ⟨place, text, outcome⟩

/-- A conversion first looks for its file and loads its project. -/
theorem convert_eq_convertIn
    (folder : Path)
    (order : ConversionOrder) :
    convert folder order = (do
      unless ← ExceptT.lift (Host.isFile (order.target folder)) do throw (.noFile order.file)
      let project ← Project.load folder
      if project.source.isNone then note defaultSettingsEvent
      convertIn folder order project) := by
  rfl

theorem inquires_convertText
    (converter : Keying.Converter)
    (file : String)
    (place : Key.Place)
    (text : String) :
    Inquires (convertText (m := StateM World) converter file place text) := by
  refine inquires_of_gives _ (fun tree => gives_convertText tree converter file place text) ?_
  intro _ failure fails
  cases isConverted : converter.convert file place text.toList with
  | ok outcome =>
      rw [isConverted] at fails
      cases fails
  | error fault =>
      rw [isConverted] at fails
      cases fails
      rfl

theorem ok_of_mapError
    {result : Except ε α}
    {cause : ε → δ}
    {value : α}
    (isOk : result.mapError cause = .ok value) :
    result = .ok value := by
  cases result with
  | ok other => cases isOk; rfl
  | error fault => cases isOk

section Leaves

variable
    {tree : FileTree}
    {folder : Path}
    {order : ConversionOrder}
    {holds : Except Failure Converted → FileTree → Prop}
    (fails : ∀ failure, isOfWriting failure = false → holds (.error failure) tree)
    (goesOn : ∀ prepared, Prepares tree folder order prepared →
      Leaves tree holds (finish folder order prepared))

include fails goesOn

/-- What a conversion in its project leaves behind is what it ends with. -/
theorem leaves_convertIn
    {project : Project}
    (isLoaded : Gives tree (Project.load folder).run (.ok project)) :
    Leaves tree holds (convertIn folder order project) := by
  unfold convertIn
  refine leaves_bind_of_inquires (inquires_tables project) fails fun tables hasTables => ?_
  refine leaves_bind_of_inquires (inquires_ask (fun _ => rfl) (looks_readText _)) fails
    fun text hasText => ?_
  refine leaves_bind_of_inquires (inquires_convertText _ _ _ _) fails fun outcome hasOutcome => ?_
  have isConfigured : Gives tree (configured folder).run (.ok (project.settings, tables)) :=
    gives_run_bind_ok isLoaded (gives_run_bind_ok hasTables (gives_pure _))
  have isRead := hasText.eq (gives_run_ask _ (gives_readText tree _))
  have isConverted := hasOutcome.eq (gives_convertText tree _ _ _ _)
  exact goesOn _ ⟨ok_of_mapError isRead.symm, project.settings, tables, isConfigured.answer_eq, rfl,
    ok_of_mapError isConverted.symm⟩

/-- Before a conversion changes any file, it has found out all that it changes files for. -/
theorem leaves_convert :
    Leaves tree holds (convert folder order) := by
  rw [convert_eq_convertIn]
  refine leaves_bind_of_inquires (inquires_lift (looks_isFile _)) fails fun isFile _ => ?_
  cases isFile with
  | false =>
      exact leaves_throw (fails (.noFile order.file) rfl)
  | true =>
      refine leaves_bind_of_inquires (inquires_load folder) fails fun project isLoaded => ?_
      have rest := leaves_convertIn fails goesOn isLoaded
      dsimp only
      split
      · exact leaves_bind_of_inquires (inquires_note _) fails fun _ _ => rest
      · exact rest

end Leaves

/-! ## Changing -/

/-- How a conversion in a tree ends, and the tree that it leaves. -/
inductive Ending (folder : Path) (order : ConversionOrder) (before : FileTree) :
    Except Failure Converted → FileTree → Prop where
  /-- What it looked for was not there, or was wrong. -/
  | unprepared
      (failure : Failure)
      (looked : isOfWriting failure = false) :
      Ending folder order before (.error failure) before
  /-- The log of the sites that are left to a person could not be opened. -/
  | unreviewed
      (refusal : Refusal) :
      Ending folder order before
        (.error (.logUnopened (folder.join reviewLogName.toList) refusal)) before
  /-- That log was opened, but not all lines could be added to it. -/
  | halfReviewed
      (refusal : Refusal)
      (after : FileTree)
      (keeps : before.Keeps after [folder.join reviewLogName.toList]) :
      Ending folder order before
        (.error (.logUnwritten (folder.join reviewLogName.toList) refusal)) after
  /-- The file could not be opened to be changed. -/
  | unwritten
      (reviews : List String)
      (reviewed : FileTree)
      (logs : Logs (folder.join reviewLogName.toList) before reviews reviewed)
      (refusal : Refusal) :
      Ending folder order before (.error (.sourceUnwritten order.file refusal)) reviewed
  /-- The file could not be written to its end. -/
  | halfWritten
      (prepared : Prepared)
      (prepares : Prepares before folder order prepared)
      (changes : order.changes prepared = true)
      (reviewed : FileTree)
      (size : Nat)
      (fewer : size < (String.ofList prepared.outcome.output).toUTF8.size)
      (after : FileTree)
      (puts : reviewed.Puts (order.target folder)
        ((String.ofList prepared.outcome.output).toUTF8.extract 0 size) after)
      (refusal : Refusal) :
      Ending folder order before (.error (.sourceUnwritten order.file refusal)) after
  /-- The log of converted files could not be opened, when the file was changed already. -/
  | unlisted
      (prepared : Prepared)
      (prepares : Prepares before folder order prepared)
      (changes : order.changes prepared = true)
      (reviewed after : FileTree)
      (puts : reviewed.Puts (order.target folder)
        (String.ofList prepared.outcome.output).toUTF8 after)
      (refusal : Refusal) :
      Ending folder order before
        (.error (.logUnopened (folder.join changeLogName.toList) refusal)) after
  /-- That log was opened, but the line could not be added to it. -/
  | halfListed
      (prepared : Prepared)
      (prepares : Prepares before folder order prepared)
      (changes : order.changes prepared = true)
      (reviewed written after : FileTree)
      (logs : Logs (folder.join reviewLogName.toList) before (order.reviewLines prepared)
        reviewed)
      (puts : reviewed.Puts (order.target folder)
        (String.ofList prepared.outcome.output).toUTF8 written)
      (keeps : written.Keeps after [folder.join changeLogName.toList])
      (refusal : Refusal) :
      Ending folder order before
        (.error (.logUnwritten (folder.join changeLogName.toList) refusal)) after
  /-- The file was not to be changed. -/
  | kept
      (prepared : Prepared)
      (prepares : Prepares before folder order prepared)
      (keeps : order.changes prepared = false)
      (after : FileTree)
      (reviews : Logs (folder.join reviewLogName.toList) before (order.reviewLines prepared)
        after) :
      Ending folder order before (.ok (order.converted prepared)) after
  /-- The file was changed. -/
  | changed
      (prepared : Prepared)
      (prepares : Prepares before folder order prepared)
      (changes : order.changes prepared = true)
      (reviewed written after : FileTree)
      (reviews : Logs (folder.join reviewLogName.toList) before (order.reviewLines prepared)
        reviewed)
      (puts : reviewed.Puts (order.target folder)
        (String.ofList prepared.outcome.output).toUTF8 written)
      (lists : Logs (folder.join changeLogName.toList) written [order.file] after) :
      Ending folder order before (.ok (order.converted prepared)) after

theorem isName_reviewLogName :
    Tree.IsName reviewLogName.toList :=
  ⟨by decide, by decide, by decide⟩

theorem isName_changeLogName :
    Tree.IsName changeLogName.toList :=
  ⟨by decide, by decide, by decide⟩

/-- The two logs are two files. -/
theorem reviewLog_ne_changeLog
    (folder : Path) :
    folder.join reviewLogName.toList ≠ folder.join changeLogName.toList :=
  Tree.join_ne_join isName_reviewLogName isName_changeLogName (by decide) folder

/-- The failures that show when the file may have been changed: to write it, and to open or write
the log of converted files. -/
inductive ShowsLate (folder : Path) (order : ConversionOrder) : Failure → Prop where
  | file
      (refusal : Refusal) :
      ShowsLate folder order (.sourceUnwritten order.file refusal)
  | unlisted
      (refusal : Refusal) :
      ShowsLate folder order (.logUnopened (folder.join changeLogName.toList) refusal)
  | halfListed
      (refusal : Refusal) :
      ShowsLate folder order (.logUnwritten (folder.join changeLogName.toList) refusal)

/-- What a conversion that fails leaves of the files, and of its file above all. -/
structure Spares (folder : Path) (order : ConversionOrder) (before : FileTree) (failure : Failure)
    (after : FileTree) : Prop where
  /-- Where it fails for what it looked for, every file is as it was. -/
  looked : isOfWriting failure = false → after = before
  /-- Unless the failure shows late, the file is as it was; it could change only as the log of the
  sites that are left to a person, if this could not be written to its end. -/
  kept : ¬ ShowsLate folder order failure →
    (∀ refusal, failure = .logUnwritten (folder.join reviewLogName.toList) refusal →
      ¬ before.SamePlace (order.target folder) (folder.join reviewLogName.toList)) →
    after.view? (order.target folder) = before.view? (order.target folder)
  /-- A file that could not be written is as it was, or holds a front of what it was to hold. -/
  cut : ∀ refusal, failure = .sourceUnwritten order.file refusal →
    (¬ before.SamePlace (order.target folder) (folder.join reviewLogName.toList) →
        after.view? (order.target folder) = before.view? (order.target folder)) ∨
      ∃ prepared size,
        Prepares before folder order prepared ∧
          order.changes prepared = true ∧
            size < (String.ofList prepared.outcome.output).toUTF8.size ∧
              after.view? (order.target folder) =
                some (some ((String.ofList prepared.outcome.output).toUTF8.extract 0 size))
  /-- Where the log of converted files could not be opened, the file was changed before. -/
  unlisted : ∀ refusal, failure = .logUnopened (folder.join changeLogName.toList) refusal →
    ∃ prepared,
      Prepares before folder order prepared ∧
        order.changes prepared = true ∧
          after.view? (order.target folder) =
            some (some (String.ofList prepared.outcome.output).toUTF8)
  /-- So it was where that log could not be written, unless it is the file itself. -/
  halfListed : ∀ refusal, failure = .logUnwritten (folder.join changeLogName.toList) refusal →
    ∃ prepared,
      Prepares before folder order prepared ∧
        order.changes prepared = true ∧
          (¬ before.SamePlace (order.target folder) (folder.join changeLogName.toList) →
            after.view? (order.target folder) =
              some (some (String.ofList prepared.outcome.output).toUTF8))

/-- A conversion that fails spares what it does not get to. -/
theorem Ending.spares
    {folder : Path}
    {order : ConversionOrder}
    {before after : FileTree}
    {failure : Failure}
    (ending : Ending folder order before (.error failure) after) :
    Spares folder order before failure after := by
  have logsDiffer := reviewLog_ne_changeLog folder
  cases ending with
  | unprepared _ looked =>
      refine ⟨fun _ => rfl, fun _ _ => rfl, ?_, ?_, ?_⟩ <;>
        rintro refusal rfl <;> cases looked
  | unreviewed refusal =>
      refine ⟨fun _ => rfl, fun _ _ => rfl, nofun, ?_, nofun⟩
      intro other same
      exact absurd (Failure.logUnopened.inj same).1 logsDiffer
  | halfReviewed refusal _ keeps =>
      refine ⟨nofun, fun _ apart => ?_, nofun, nofun, ?_⟩
      · refine keeps.views _ fun other isLog => ?_
        rw [List.mem_singleton.mp isLog]
        exact apart refusal rfl
      · intro other same
        exact absurd (Failure.logUnwritten.inj same).1 logsDiffer
  | unwritten reviews _ logs refusal =>
      refine ⟨nofun, fun isEarly => absurd (.file refusal) isEarly, fun _ _ => .inl ?_, nofun,
        nofun⟩
      exact logs.view?_of_not_samePlace
  | halfWritten prepared prepares changes reviewed size fewer _ puts refusal =>
      exact ⟨nofun, fun isEarly => absurd (.file refusal) isEarly,
        fun _ _ => .inr ⟨prepared, size, prepares, changes, fewer, puts.holds⟩, nofun, nofun⟩
  | unlisted prepared prepares changes reviewed _ puts refusal =>
      exact ⟨nofun, fun isEarly => absurd (.unlisted refusal) isEarly, nofun,
        fun _ _ => ⟨prepared, prepares, changes, puts.holds⟩, nofun⟩
  | halfListed prepared prepares changes reviewed written _ logs puts keeps refusal =>
      refine ⟨nofun, fun isEarly => absurd (.halfListed refusal) isEarly, nofun, nofun,
        fun _ _ => ⟨prepared, prepares, changes, fun apart => ?_⟩⟩
      rw [← puts.holds]
      refine keeps.views _ fun other isLog => ?_
      rw [List.mem_singleton.mp isLog, puts.keeps.samePlace_iff, logs.keeps.samePlace_iff]
      exact apart

theorem ConversionOrder.changes_iff
    {order : ConversionOrder}
    {prepared : Prepared} :
    order.changes prepared = true ↔
      order.writes = true ∧ prepared.outcome.output ≠ prepared.text.toList := by
  unfold changes
  rw [Bool.and_eq_true, bne_iff_ne]

section Finish

variable
    {before : FileTree}
    {folder : Path}
    {order : ConversionOrder}
    {prepared : Prepared}
    (prepares : Prepares before folder order prepared)

include prepares

/-- With the sites that are left to a person in their log, the file is changed if it is to be. -/
theorem leaves_commit
    {reviewed : FileTree}
    (reviews : Logs (folder.join reviewLogName.toList) before (order.reviewLines prepared)
      reviewed) :
    Leaves reviewed (Ending folder order before) (do
      if order.changes prepared then
        commit folder (order.target folder) order.file prepared.outcome
      return order.converted prepared) := by
  cases changes : order.changes prepared with
  | false => exact leaves_pure (.kept prepared prepares changes reviewed reviews)
  | true =>
      rw [if_pos rfl]
      unfold commit
      simp only [bind_assoc]
      refine leaves_write_bind _ ?_ ?_ fun written puts => ?_
      · intro refusal
        exact .unwritten _ reviewed reviews refusal
      · intro refusal size after fewer puts
        exact .halfWritten prepared prepares changes reviewed size fewer after puts refusal
      refine leaves_log_bind (List.cons_ne_nil _ _) ?_ ?_ fun after lists => ?_
      · intro refusal
        exact .unlisted prepared prepares changes reviewed written puts refusal
      · intro refusal after keeps
        exact .halfListed prepared prepares changes reviewed written after reviews puts keeps
          refusal
      refine leaves_bind_of_gives (gives_run_note after _) (leaves_pure ?_)
      exact .changed prepared prepares changes reviewed written after reviews puts lists

/-- A conversion that is prepared leaves what its ending says. -/
theorem leaves_finish :
    Leaves before (Ending folder order before) (finish folder order prepared) := by
  unfold finish
  cases isNone : prepared.outcome.ledger.reviews with
  | nil =>
      refine leaves_commit prepares ?_
      rw [ConversionOrder.reviewLines, isNone]
      exact .nothing
  | cons entry rest =>
      refine leaves_log_bind ?_ .unreviewed .halfReviewed
        fun reviewed reviews => leaves_commit prepares reviews
      rw [ConversionOrder.reviewLines, isNone]
      exact List.cons_ne_nil _ _

end Finish

/-- How a conversion ends. -/
theorem convert_ending
    (before : FileTree)
    (folder : Path)
    (order : ConversionOrder) :
    Leaves before (Ending folder order before) (convert folder order) :=
  leaves_convert .unprepared fun _ prepares => leaves_finish prepares

/-! ## Effects -/

/-- The lines for a file that is changed. -/
def ConversionOrder.changeLines (order : ConversionOrder) (prepared : Prepared) : List String :=
  if order.changes prepared then [order.file] else []

/-- The paths at which a conversion changes something. -/
def ConversionOrder.touched (order : ConversionOrder) (folder : Path) (prepared : Prepared) :
    List Path :=
  logged (folder.join reviewLogName.toList) (order.reviewLines prepared) ++
    ((order.changeLines prepared).map (fun file => folder.join file.toList) ++
      logged (folder.join changeLogName.toList) (order.changeLines prepared))

/-- What a conversion does to files, if its file is none of the logs. -/
structure Effects (folder : Path) (order : ConversionOrder) (prepared : Prepared)
    (before after : FileTree) : Prop where
  /-- The log of the sites that are left to a person gains a line for each of them. -/
  reviews :
    after.content? (folder.join reviewLogName.toList) =
      grown (before.content? (folder.join reviewLogName.toList)) (order.reviewLines prepared)
  /-- The log of converted files gains a line if the file is changed. -/
  changes :
    after.content? (folder.join changeLogName.toList) =
      grown (before.content? (folder.join changeLogName.toList)) (order.changeLines prepared)
  /-- The file is changed to what its conversion gives, or it is not changed. -/
  target :
    after.view? (order.target folder) =
      if order.changes prepared then some (some (String.ofList prepared.outcome.output).toUTF8)
      else before.view? (order.target folder)
  /-- Nothing else changes. -/
  keeps : before.Keeps after (order.touched folder prepared)

/-- A conversion that succeeds has all its effects. -/
theorem Ending.of_ok
    {folder : Path}
    {order : ConversionOrder}
    {before after : FileTree}
    {converted : Converted}
    (ending : Ending folder order before (.ok converted) after)
    (noReviewLog : ¬ before.SamePlace (order.target folder) (folder.join reviewLogName.toList))
    (noChangeLog : ¬ before.SamePlace (order.target folder) (folder.join changeLogName.toList)) :
    ∃ prepared,
      Prepares before folder order prepared ∧
        converted = order.converted prepared ∧ Effects folder order prepared before after := by
  have logsApart := Tree.not_samePlace_join before isName_changeLogName isName_reviewLogName
    (by decide) folder
  cases ending with
  | kept prepared prepares keeps after reviews =>
      have noLines : order.changeLines prepared = [] := by
        rw [ConversionOrder.changeLines, keeps]
        rfl
      refine ⟨prepared, prepares, rfl, reviews.content?_eq, ?_, ?_, ?_⟩
      · rw [noLines]
        exact Tree.content?_eq_of_view?_eq (reviews.view?_of_not_samePlace logsApart)
      · rw [keeps]
        exact reviews.view?_of_not_samePlace noReviewLog
      · rw [ConversionOrder.touched, noLines]
        exact reviews.keeps.trans (.refl _)
  | changed prepared prepares changes reviewed written after reviews puts lists =>
      have isLine : order.changeLines prepared = [order.file] := by
        rw [ConversionOrder.changeLines, changes]
        rfl
      -- Every tree on the way has the same places, so what is apart in one is apart in all.
      have sameReviewed := reviews.keeps.samePlace_iff
      have sameWritten := fun first second =>
        (puts.keeps.samePlace_iff first second).trans (sameReviewed first second)
      have reviewsApart : ¬ written.SamePlace (folder.join reviewLogName.toList)
          (folder.join changeLogName.toList) :=
        mt (sameWritten _ _).mp fun same => logsApart same.symm
      refine ⟨prepared, prepares, rfl, ?_, ?_, ?_, ?_⟩
      · rw [Tree.content?_eq_of_view?_eq (lists.view?_of_not_samePlace reviewsApart),
          Tree.content?_eq_of_view?_eq (puts.view?_of_not_samePlace
            (mt (sameReviewed _ _).mp fun same => noReviewLog same.symm))]
        exact reviews.content?_eq
      · rw [isLine, lists.content?_eq,
          Tree.content?_eq_of_view?_eq (puts.view?_of_not_samePlace
            (mt (sameReviewed _ _).mp fun same => noChangeLog same.symm)),
          Tree.content?_eq_of_view?_eq (reviews.view?_of_not_samePlace logsApart)]
      · rw [changes, lists.view?_of_not_samePlace (mt (sameWritten _ _).mp noChangeLog)]
        exact puts.holds
      · rw [ConversionOrder.touched, isLine]
        exact reviews.keeps.trans (puts.keeps.trans lists.keeps)

end Run
end KeyedText
