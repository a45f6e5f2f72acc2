import KeyedText.Proofs.Run.Unseen

/-!
# Actions that find something

An action that finds something tells nothing either: behind it the whole world is
as it was.  Looking for files and reading them are such actions, and so is every
row of them.
-/

namespace KeyedText
namespace World

/-- An action in a tree gives a value, and the world stays as it is. -/
def Finds (tree : FileTree) (action : StateM World α) (value : α) : Prop :=
  ∀ world, world.tree = tree → action.run world = (value, world)

section Finds

variable
    {tree : FileTree}

theorem finds_pure
    (value : α) :
    Finds tree (pure value) value :=
  fun _ _ => rfl

theorem finds_bind
    {action : StateM World α}
    {next : α → StateM World β}
    {value : α}
    {last : β}
    (first : Finds tree action value)
    (second : Finds tree (next value) last) :
    Finds tree (action >>= next) last := by
  intro world isTree
  rw [StateT.run_bind, first world isTree]
  exact second world isTree

theorem finds_has
    (tree : FileTree)
    (path : Path) :
    Finds tree (Host.has path) (tree.view? path).isSome := by
  have isSome : ((tree.find? path).map Tree.kind).isSome = (tree.view? path).isSome := by
    rw [Tree.map_kind_find?, Option.isSome_map]
  rintro world rfl
  rw [← isSome]
  rfl

theorem finds_isFile
    (tree : FileTree)
    (path : Path) :
    Finds tree (Host.isFile path) ((tree.view? path).map Tree.kindOfView == some .file) := by
  rintro world rfl
  rw [← Tree.map_kind_find?]
  rfl

theorem fromUTF8?_toUTF8
    (text : String) :
    String.fromUTF8? text.toUTF8 = some text :=
  dif_pos text.isValidUTF8

/-- A file that holds a text is read as that text. -/
theorem finds_readText
    {path : Path}
    {text : String}
    (isHeld : tree.view? path = some (some text.toUTF8)) :
    Finds tree (Host.readText path) (.ok text) := by
  have isRead := FileTree.read_eq_ok_iff.mpr isHeld
  have finds : Finds tree (Host.read path) (.ok text.toUTF8) := by
    rintro world rfl
    rw [← isRead]
    rfl
  refine finds_bind finds ?_
  dsimp only
  rw [fromUTF8?_toUTF8]
  exact finds_pure _

theorem finds_run_bind
    {attempt : Run.Attempt (StateM World) α}
    {next : α → Run.Attempt (StateM World) β}
    {value : α}
    {last : Except Run.Failure β}
    (first : Finds tree attempt.run (.ok value))
    (second : Finds tree (next value).run last) :
    Finds tree (attempt >>= next).run last := by
  rw [ExceptT.run_bind]
  exact finds_bind first second

/-- Behind what only finds a value, an attempt goes on in the same world. -/
theorem run_bind_of_finds
    {attempt : Run.Attempt (StateM World) α}
    {next : α → Run.Attempt (StateM World) β}
    {value : α}
    {world : World}
    (finds : Finds world.tree attempt.run (.ok value)) :
    (attempt >>= next).run.run world = (next value).run.run world := by
  rw [ExceptT.run_bind, StateT.run_bind, finds world rfl]
  rfl

theorem finds_run_lift
    {action : StateM World α}
    {value : α}
    (finds : Finds tree action value) :
    Finds tree (ExceptT.lift action : Run.Attempt (StateM World) α).run (.ok value) := by
  intro world isTree
  have isFound := finds world isTree
  rw [ExceptT.run_lift, StateT.run_map, isFound]
  rfl

end Finds

end World
end KeyedText
