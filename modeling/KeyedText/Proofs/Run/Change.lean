import KeyedText.Proofs.Run.Log
import KeyedText.Proofs.Run.Project

/-!
# Attempts that change files

An attempt ends with a result and leaves a tree.  What it leaves is found by
going through it in order: as long as it inquires the tree stays as it is, and a
change is made or refused.
-/

namespace KeyedText
namespace World

open Run

/-- The tree behind an attempt in a world. -/
def treeBehind (world : World) (attempt : Attempt (StateM World) α) : FileTree :=
  (attempt.run.run world).2.tree

/-- Whatever was told, an attempt in a tree ends with a result and leaves a tree of a kind. -/
def Leaves (tree : FileTree) (holds : Except Failure α → FileTree → Prop)
    (attempt : Attempt (StateM World) α) : Prop :=
  ∀ world : World, world.tree = tree → holds (resultIn world attempt) (treeBehind world attempt)

section Leaves

variable
    {tree : FileTree}
    {attempt : Attempt (StateM World) α}
    {next : α → Attempt (StateM World) β}
    {holds : Except Failure β → FileTree → Prop}

theorem leaves_pure
    {value : β}
    (isHeld : holds (.ok value) tree) :
    Leaves tree holds (pure value) := by
  rintro world rfl
  exact isHeld

theorem leaves_throw
    {failure : Failure}
    (isHeld : holds (.error failure) tree) :
    Leaves tree holds (throw failure) := by
  rintro world rfl
  exact isHeld

theorem leaves_bind_of_gives
    {value : α}
    (gives : Gives tree attempt.run (.ok value))
    (later : Leaves tree holds (next value)) :
    Leaves tree holds (attempt >>= next) := by
  intro world isTree
  obtain ⟨isValue, keepsTree⟩ := gives world isTree
  have isHeld := later _ keepsTree
  unfold resultIn treeBehind at isHeld ⊢
  rw [ExceptT.run_bind, StateT.run_bind]
  dsimp only [bind]
  rwa [isValue]

/-- What inquires leaves the tree as it is, whether it fails or goes on. -/
theorem leaves_bind_of_inquires
    (inquires : Inquires attempt)
    (fails : ∀ failure, isOfWriting failure = false → holds (.error failure) tree)
    (goesOn : ∀ value, Gives tree attempt.run (.ok value) → Leaves tree holds (next value)) :
    Leaves tree holds (attempt >>= next) := by
  obtain ⟨result, gives⟩ := inquires.looks tree
  cases result with
  | ok value => exact leaves_bind_of_gives gives (goesOn value gives)
  | error failure =>
      intro world isTree
      obtain ⟨isResult, keepsTree⟩ := gives_run_bind_error gives world isTree
      unfold resultIn treeBehind
      rw [isResult, keepsTree]
      exact fails failure (inquires.unwritten tree failure gives)

theorem run_change
    {world : World}
    {update : Disk → FileTree → Except Refusal Unit × FileTree}
    {result : Except Refusal Unit}
    {after : FileTree}
    (isUpdated : update world.disk world.tree = (result, after)) :
    (change update).run world = (result, { world with tree := after }) := by
  unfold change StateT.run
  dsimp only
  rw [isUpdated]

/-- Behind a change of the tree, an attempt goes on in the changed tree or fails for the refusal. -/
theorem leaves_bind_of_change
    (cause : Refusal → Failure)
    {update : Disk → FileTree → Except Refusal Unit × FileTree}
    {next : Unit → Attempt (StateM World) β}
    (refused : ∀ disk refusal after, update disk tree = (.error refusal, after) →
      holds (.error (cause refusal)) after)
    (changed : ∀ disk after, update disk tree = (.ok (), after) → Leaves after holds (next ())) :
    Leaves tree holds (ask cause (change update) >>= next) := by
  rintro world rfl
  unfold resultIn treeBehind
  rw [ExceptT.run_bind, ask, ExceptT.run_mk, bind_assoc, StateT.run_bind]
  dsimp only [bind]
  cases isUpdated : update world.disk world.tree with
  | mk result after =>
      rw [run_change isUpdated]
      cases result with
      | error refusal => exact refused world.disk refusal after isUpdated
      | ok done => exact changed world.disk after isUpdated { world with tree := after } rfl

/-! ## Writing -/

/-- A file that could not be written is as it was or holds a front of the content; behind one that
could be, an attempt goes on. -/
theorem leaves_write_bind
    (cause : Refusal → Failure)
    {path : Path}
    {content : ByteArray}
    {next : Unit → Attempt (StateM World) β}
    (unopened : ∀ refusal, holds (.error (cause refusal)) tree)
    (cut : ∀ refusal size after, size < content.size →
      tree.Puts path (content.extract 0 size) after → holds (.error (cause refusal)) after)
    (whole : ∀ after, tree.Puts path content after → Leaves after holds (next ())) :
    Leaves tree holds (ask cause (Host.write path content) >>= next) := by
  refine leaves_bind_of_change cause (fun disk refusal after isWritten => ?_)
    fun disk after isWritten => ?_
  · have written := FileTree.written_write disk tree path content
    rw [isWritten] at written
    cases written with
    | unopened => exact unopened refusal
    | cut size _ fewer _ puts =>
        rw [ByteArray.empty_append] at puts
        exact cut refusal size after fewer puts
  · have written := FileTree.written_write disk tree path content
    rw [isWritten] at written
    cases written with
    | whole _ puts =>
        rw [ByteArray.empty_append] at puts
        exact whole after puts

/-- Lines are added to a log that is open one after the other, until one is refused. -/
theorem leaves_lines_bind
    {path : Path}
    {next : Unit → Attempt (StateM World) β}
    {lines : List String}
    {before : FileTree}
    {content : ByteArray}
    (puts : before.Puts path content tree)
    (cut : ∀ refusal after, before.Keeps after [path] →
      holds (.error (.logUnwritten path refusal)) after)
    (added : ∀ after, before.Puts path (content ++ (ended lines).toUTF8) after →
      Leaves after holds (next ())) :
    Leaves tree holds
      ((lines.forM fun line => ask (.logUnwritten path)
        (Host.append path (line ++ "\n").toUTF8)) >>= next) := by
  induction lines generalizing tree content with
  | nil =>
      have nothing : (ended []).toUTF8 = ByteArray.empty := rfl
      rw [nothing, ByteArray.append_empty] at added
      exact added tree puts
  | cons line rest inductionHypothesis =>
      rw [List.forM, bind_assoc]
      refine leaves_bind_of_change _ (fun disk refusal after isWritten => ?_)
        fun disk after isWritten => ?_
      · have written := FileTree.written_append disk tree path (line ++ "\n").toUTF8
        rw [isWritten] at written
        cases written with
        | unopened => exact cut refusal _ puts.keeps
        | cut size _ _ _ later => exact cut refusal after (puts.trans later).keeps
      · have written := FileTree.written_append disk tree path (line ++ "\n").toUTF8
        rw [isWritten, puts.content?_self, Option.getD_some] at written
        cases written with
        | whole _ later =>
            refine inductionHypothesis (puts.trans later) fun last lastPuts => ?_
            refine added last ?_
            rwa [ended_cons, toUTF8_append, ← ByteArray.append_assoc]

/-- A log could not be opened, or not all lines could be added to it, or it has gained them. -/
theorem leaves_log_bind
    {path : Path}
    {lines : List String}
    (nonempty : lines ≠ [])
    {next : Unit → Attempt (StateM World) β}
    (unopened : ∀ refusal, holds (.error (.logUnopened path refusal)) tree)
    (cut : ∀ refusal after, tree.Keeps after [path] →
      holds (.error (.logUnwritten path refusal)) after)
    (added : ∀ after, Logs path tree lines after → Leaves after holds (next ())) :
    Leaves tree holds (log path lines >>= next) := by
  unfold log
  rw [bind_assoc]
  refine leaves_bind_of_change _ (fun disk refusal after isOpened => ?_)
    fun disk after isOpened => ?_
  · rcases FileTree.openEnd_cases disk tree path with ⟨other, isRefused⟩ | ⟨_, isOpen, -⟩
    · rw [isRefused] at isOpened
      cases isOpened
      exact unopened refusal
    · rw [isOpen] at isOpened
      cases isOpened
  · rcases FileTree.openEnd_cases disk tree path with ⟨other, isRefused⟩ | ⟨_, isOpen, puts⟩
    · rw [isRefused] at isOpened
      cases isOpened
    · rw [isOpen] at isOpened
      cases isOpened
      exact leaves_lines_bind puts cut fun last later =>
        added last (.added lines nonempty last later)

end Leaves
end World
end KeyedText
