import KeyedText.Proofs.Files.Observation
import KeyedText.Run.Project

/-!
# Loading a project

Loading the settings of a folder and the tables that they name only looks into
the tree, so both are the same in every world with the same tree.  It may fail,
but not because it writes.
-/

namespace KeyedText
namespace World

open Run

/-- The result of an attempt in a world. -/
def resultIn (world : World) (attempt : Attempt (StateM World) α) : Except Failure α :=
  (attempt.run.run world).1

/-- Whatever was told, an attempt in a tree ends with a result of a kind. -/
def Ends (tree : FileTree) (holds : Except Failure α → Prop)
    (attempt : Attempt (StateM World) α) : Prop :=
  ∀ world : World, world.tree = tree → holds (resultIn world attempt)

section Attempts

variable
    {tree : FileTree}
    {attempt : Attempt (StateM World) α}
    {next : α → Attempt (StateM World) β}

/-- Attempts in a row give what the second gives if the first gives a value. -/
theorem gives_run_bind_ok
    {value : α}
    {result : Except Failure β}
    (first : Gives tree attempt.run (.ok value))
    (second : Gives tree (next value).run result) :
    Gives tree (attempt >>= next).run result := by
  rw [ExceptT.run_bind]
  exact gives_bind first second

/-- Attempts in a row fail as the first of them does. -/
theorem gives_run_bind_error
    {failure : Failure}
    (fails : Gives tree attempt.run (.error failure)) :
    Gives tree (attempt >>= next).run (.error failure) := by
  rw [ExceptT.run_bind]
  exact gives_bind fails (gives_pure _)

/-- Attempts that only look give their results in a row. -/
theorem gives_run_bind
    {result : Except Failure α}
    {later : α → Except Failure β}
    (first : Gives tree attempt.run result)
    (second : ∀ value, Gives tree (next value).run (later value)) :
    Gives tree (attempt >>= next).run (result >>= later) := by
  cases result with
  | error failure => exact gives_run_bind_error first
  | ok value => exact gives_run_bind_ok first (second value)

/-- An attempt ends with what it gives. -/
theorem ends_of_gives
    {holds : Except Failure α → Prop}
    {result : Except Failure α}
    (gives : Gives tree attempt.run result)
    (isHeld : holds result) :
    Ends tree holds attempt := by
  intro world isTree
  unfold resultIn
  rwa [(gives world isTree).1]

/-- What a row of attempts ends with is what the last one ends with. -/
theorem ends_bind
    {holds : Except Failure β → Prop}
    {value : α}
    (first : Gives tree attempt.run (.ok value))
    (second : Ends tree holds (next value)) :
    Ends tree holds (attempt >>= next) := by
  intro world isTree
  obtain ⟨isValue, keepsTree⟩ := first world isTree
  have holdsLater := second _ keepsTree
  unfold resultIn at holdsLater ⊢
  rw [ExceptT.run_bind, StateT.run_bind]
  dsimp only [bind]
  rwa [isValue]

/-- Attempts that only look do so in a row. -/
theorem looks_run_bind
    (looks : Looks attempt.run)
    (nextLooks : ∀ value, Looks (next value).run) :
    Looks (attempt >>= next).run := by
  rw [ExceptT.run_bind]
  refine looks_bind looks fun result => ?_
  cases result with
  | ok value => exact nextLooks value
  | error failure => exact looks_pure _

end Attempts

theorem gives_run_lift
    {tree : FileTree}
    {action : StateM World α}
    {value : α}
    (gives : Gives tree action value) :
    Gives tree (ExceptT.lift action : Attempt (StateM World) α).run (.ok value) :=
  gives_map gives _

/-- Lifted one by one, actions are lifted together. -/
theorem mapM_lift
    (ask : α → StateM World β)
    (values : List α) :
    (values.mapM fun value => (ExceptT.lift (ask value) : Attempt (StateM World) β)) =
      ExceptT.lift (values.mapM ask) := by
  induction values with
  | nil => rfl
  | cons value rest inductionHypothesis =>
      rw [List.mapM_cons, List.mapM_cons, inductionHypothesis]
      rfl

theorem gives_run_note
    (tree : FileTree)
    (event : Event) :
    Gives tree (note event : Attempt (StateM World) Unit).run (.ok ()) :=
  gives_run_lift (gives_tell tree event)

/-- A result at hand is given, its fault told as a failure. -/
theorem gives_run_require
    (tree : FileTree)
    (cause : ε → Failure)
    (result : Except ε α) :
    Gives tree (require cause result : Attempt (StateM World) α).run (result.mapError cause) := by
  cases result with
  | ok value => exact gives_pure _
  | error fault => exact gives_pure _

/-- What is asked is given, a refusal told as a failure. -/
theorem gives_run_ask
    {tree : FileTree}
    (cause : Refusal → Failure)
    {question : StateM World (Except Refusal α)}
    {result : Except Refusal α}
    (gives : Gives tree question result) :
    Gives tree (ask cause question).run (result.mapError cause) := by
  refine gives_bind gives ?_
  cases result with
  | ok value => exact gives_pure _
  | error refusal => exact gives_pure _

/-- Behind a question of any kind, a run goes on with the answer or fails for the refusal. -/
theorem ends_ask_bind
    {tree : FileTree}
    {holds : Except Failure β → Prop}
    (cause : Refusal → Failure)
    (question : StateM World (Except Refusal α))
    {next : α → Attempt (StateM World) β}
    (refused : ∀ refusal, holds (.error (cause refusal)))
    (answered : ∀ value world, holds (resultIn world (next value))) :
    Ends tree holds (ask cause question >>= next) := by
  intro world _
  unfold resultIn
  rw [ExceptT.run_bind, ask, ExceptT.run_mk, bind_assoc, StateT.run_bind]
  dsimp only [bind]
  cases (question.run world).1 with
  | ok value => exact answered value _
  | error refusal => exact refused refusal

/-! ## Attempts that inquire -/

/-- Whether a run fails because a file cannot be written. -/
def isOfWriting : Failure → Bool
  | .settingsUnwritten _ | .logUnopened _ _ | .logUnwritten _ _ | .sourceUnwritten _ _ => true
  | _ => false

/-- An attempt that only looks, and that does not fail because it writes. -/
structure Inquires (attempt : Attempt (StateM World) α) : Prop where
  looks : Looks attempt.run
  unwritten : ∀ tree failure, Gives tree attempt.run (.error failure) → isOfWriting failure = false

/-- An attempt that gives a result for each tree inquires, if it fails for no write. -/
theorem inquires_of_gives
    {attempt : Attempt (StateM World) α}
    (told : FileTree → Except Failure α)
    (gives : ∀ tree, Gives tree attempt.run (told tree))
    (unwritten : ∀ tree failure, told tree = .error failure → isOfWriting failure = false) :
    Inquires attempt :=
  ⟨fun tree => ⟨told tree, gives tree⟩,
    fun tree failure fails => unwritten tree failure ((gives tree).eq fails)⟩

theorem inquires_pure
    (value : α) :
    Inquires (pure value) :=
  inquires_of_gives (fun _ => .ok value) (fun _ => gives_pure _) nofun

theorem inquires_throw
    {failure : Failure}
    (unwritten : isOfWriting failure = false) :
    Inquires (throw failure : Attempt (StateM World) α) := by
  refine inquires_of_gives (fun _ => .error failure) (fun _ => gives_pure _) ?_
  rintro _ _ ⟨⟩
  exact unwritten

/-- Inquiries in a row are an inquiry. -/
theorem inquires_bind
    {attempt : Attempt (StateM World) α}
    {next : α → Attempt (StateM World) β}
    (inquires : Inquires attempt)
    (nextInquires : ∀ value, Inquires (next value)) :
    Inquires (attempt >>= next) := by
  refine ⟨looks_run_bind inquires.looks fun value => (nextInquires value).looks, ?_⟩
  intro tree failure fails
  obtain ⟨result, first⟩ := inquires.looks tree
  cases result with
  | error other =>
      cases fails.eq (gives_run_bind_error first)
      exact inquires.unwritten tree failure first
  | ok value =>
      obtain ⟨last, second⟩ := (nextInquires value).looks tree
      cases fails.eq (gives_run_bind_ok first second)
      exact (nextInquires value).unwritten tree failure second

theorem inquires_lift
    {action : StateM World α}
    (looks : Looks action) :
    Inquires (ExceptT.lift action : Attempt (StateM World) α) :=
  inquires_of_gives (fun tree => .ok (answer tree action))
    (fun tree => gives_run_lift (looks.gives tree)) nofun

theorem inquires_note
    (event : Event) :
    Inquires (note event : Attempt (StateM World) Unit) :=
  inquires_lift (looks_tell event)

/-- A result at hand is an inquiry. -/
theorem inquires_require
    {cause : ε → Failure}
    (unwritten : ∀ fault, isOfWriting (cause fault) = false)
    (result : Except ε α) :
    Inquires (require cause result : Attempt (StateM World) α) := by
  refine inquires_of_gives _ (fun tree => gives_run_require tree cause result) ?_
  intro _ failure fails
  cases result with
  | ok value => cases fails
  | error fault =>
      cases fails
      exact unwritten fault

/-- A question that only looks is an inquiry. -/
theorem inquires_ask
    {cause : Refusal → Failure}
    (unwritten : ∀ refusal, isOfWriting (cause refusal) = false)
    {question : StateM World (Except Refusal α)}
    (looks : Looks question) :
    Inquires (ask cause question) := by
  refine inquires_of_gives _ (fun tree => gives_run_ask cause (looks.gives tree)) ?_
  intro tree failure fails
  cases isAnswer : answer tree question with
  | ok value =>
      rw [isAnswer] at fails
      cases fails
  | error refusal =>
      rw [isAnswer] at fails
      cases fails
      exact unwritten refusal

end World

namespace Run

open World

/-- Going up for settings only looks. -/
theorem looks_firstSettings?
    (folders : List Path) :
    Looks (firstSettings? (m := StateM World) folders) := by
  induction folders with
  | nil => exact looks_pure _
  | cons folder above inductionHypothesis =>
      refine looks_bind (looks_has _) fun hasSettings => ?_
      cases hasSettings with
      | true => exact looks_pure _
      | false =>
          refine looks_bind (looks_has _) fun hasMark => ?_
          cases hasMark with
          | true => exact looks_pure _
          | false => exact inductionHypothesis

/-- Settings are loaded without a change of the tree. -/
theorem inquires_loadSettings
    (path : Path) :
    Inquires (loadSettings (m := StateM World) path) := by
  refine inquires_bind (inquires_ask (fun _ => rfl) (looks_readText path)) fun text => ?_
  refine inquires_bind (inquires_require (fun _ => rfl) _) fun settings => ?_
  split
  · exact inquires_throw rfl
  · exact inquires_pure _

/-- A project is loaded without a change of the tree. -/
theorem inquires_load
    (folder : Path) :
    Inquires (Project.load (m := StateM World) folder) := by
  refine inquires_bind (inquires_lift (looks_firstSettings? _)) fun path? => ?_
  cases path? with
  | none => exact inquires_pure _
  | some path => exact inquires_bind (inquires_loadSettings path) fun _ => inquires_pure _

theorem looks_entriesOf
    (path : Path)
    (members : List (String × Json)) :
    Looks (entriesOf (m := StateM World) path members) := by
  induction members using entriesOf.induct with
  | case1 => exact looks_pure _
  | case2 key text rest inductionHypothesis =>
      exact looks_bind inductionHypothesis fun _ => looks_pure _
  | case3 key value rest notText inductionHypothesis =>
      rw [entriesOf]
      · exact looks_bind (looks_tell _) fun _ => inductionHypothesis
      · exact notText

/-- A table is loaded without a change of the tree. -/
theorem inquires_loadTable
    (path : Path) :
    Inquires (loadTable (m := StateM World) path) := by
  refine inquires_bind (inquires_lift (looks_has path)) fun isThere => ?_
  cases isThere with
  | true =>
      refine inquires_bind (inquires_ask (fun _ => rfl) (looks_readText path)) fun text => ?_
      refine inquires_bind (inquires_require (fun _ => rfl) _) fun members => ?_
      exact inquires_lift (looks_entriesOf path members)
  | false => exact inquires_bind (inquires_note _) fun _ => inquires_pure _

theorem inquires_tables
    (project : Project) :
    Inquires (project.tables (m := StateM World)) :=
  inquires_bind (inquires_loadTable _) fun _ =>
    inquires_bind (inquires_loadTable _) fun _ =>
      inquires_bind (inquires_note _) fun _ => inquires_pure _

/-- The settings of a folder and the tables that they name. -/
def configured (folder : Path) : Attempt (StateM World) (Settings × Key.Tables) := do
  let project ← Project.load folder
  let tables ← project.tables
  return (project.settings, tables)

end Run

end KeyedText
