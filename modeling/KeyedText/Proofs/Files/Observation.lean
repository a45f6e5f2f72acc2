import KeyedText.Files.World
import Mathlib.Control.Lawful

/-!
# Actions that only look

Most of what a run asks of a world is to look into the tree.  Such an action
leaves the tree as it is, and what it gives depends on nothing but the tree:
what was told before makes no difference.  Such actions can be put in a row, and
what the row gives is made from what its members give.
-/

namespace KeyedText
namespace World

/-- The answer of an action in a tree about which nothing was told. -/
def answer (tree : FileTree) (action : StateM World α) : α :=
  (action.run ⟨tree, []⟩).1

/-- Whatever was told, an action in a tree gives a value and leaves the tree as it is. -/
def Gives (tree : FileTree) (action : StateM World α) (value : α) : Prop :=
  ∀ world, world.tree = tree → (action.run world).1 = value ∧ (action.run world).2.tree = tree

/-- Actions that only look into the tree. -/
def Looks (action : StateM World α) : Prop :=
  ∀ tree, ∃ value, Gives tree action value

/-- What an action gives is its answer. -/
theorem Gives.answer_eq
    {tree : FileTree}
    {action : StateM World α}
    {value : α}
    (gives : Gives tree action value) :
    answer tree action = value :=
  (gives ⟨tree, []⟩ rfl).1

/-- An action gives one value in a tree. -/
theorem Gives.eq
    {tree : FileTree}
    {action : StateM World α}
    {first second : α}
    (givesFirst : Gives tree action first)
    (givesSecond : Gives tree action second) :
    first = second :=
  givesFirst.answer_eq.symm.trans givesSecond.answer_eq

/-- What only looks gives its answer. -/
theorem Looks.gives
    {action : StateM World α}
    (looks : Looks action)
    (tree : FileTree) :
    Gives tree action (answer tree action) := by
  obtain ⟨value, gives⟩ := looks tree
  rwa [gives.answer_eq]

/-! ## Actions in a row -/

section Gives

variable {tree : FileTree}

theorem gives_pure
    (value : α) :
    Gives tree (pure value) value :=
  fun _ isTree => ⟨rfl, isTree⟩

/-- Actions in a row give what the last one gives. -/
theorem gives_bind
    {action : StateM World α}
    {next : α → StateM World β}
    {value : α}
    {last : β}
    (first : Gives tree action value)
    (second : Gives tree (next value) last) :
    Gives tree (action >>= next) last := by
  intro world isTree
  obtain ⟨isValue, keepsTree⟩ := first world isTree
  obtain ⟨isLast, keepsAgain⟩ := second (action.run world).2 keepsTree
  rw [← isValue] at isLast keepsAgain
  exact ⟨isLast, keepsAgain⟩

theorem gives_map
    {action : StateM World α}
    {value : α}
    (gives : Gives tree action value)
    (change : α → β) :
    Gives tree (change <$> action) (change value) := by
  rw [map_eq_pure_bind]
  exact gives_bind gives (gives_pure _)

/-- Asking about several values gives what is told about each. -/
theorem gives_mapM
    {ask : α → StateM World β}
    {told : α → β}
    (gives : ∀ value, Gives tree (ask value) (told value))
    (values : List α) :
    Gives tree (values.mapM ask) (values.map told) := by
  induction values with
  | nil => exact gives_pure []
  | cons value rest inductionHypothesis =>
      rw [List.mapM_cons]
      exact gives_bind (gives value) (gives_bind inductionHypothesis (gives_pure _))

/-- Steps that only look give what the steps between the values give. -/
theorem gives_foldlM
    {step : β → α → StateM World β}
    {told : β → α → β}
    (gives : ∀ before value, Gives tree (step before value) (told before value))
    (values : List α)
    (start : β) :
    Gives tree (values.foldlM step start) (values.foldl told start) := by
  induction values generalizing start with
  | nil => exact gives_pure start
  | cons value rest inductionHypothesis =>
      rw [List.foldlM_cons]
      exact gives_bind (gives start value) (inductionHypothesis _)

/-- Asking which values fit gives those of which it is told. -/
theorem gives_filterM
    {fits : α → StateM World Bool}
    {told : α → Bool}
    (gives : ∀ value, Gives tree (fits value) (told value))
    (values : List α) :
    Gives tree (values.filterM fits) (values.filter told) := by
  have ofKept (kept : List α) :
      Gives tree (values.filterAuxM fits kept) ((values.filter told).reverse ++ kept) := by
    induction values generalizing kept with
    | nil => exact gives_pure kept
    | cons value rest inductionHypothesis =>
        refine gives_bind (gives value) ?_
        cases isFitting : told value with
        | false =>
            rw [List.filter_cons_of_neg (Bool.not_eq_true _ ▸ isFitting)]
            exact inductionHypothesis kept
        | true =>
            rw [List.filter_cons_of_pos isFitting, List.reverse_cons, List.append_assoc,
              List.singleton_append]
            exact inductionHypothesis (value :: kept)
  rw [← List.reverse_reverse (values.filter told), ← List.append_nil (values.filter told).reverse]
  exact gives_bind (ofKept []) (gives_pure _)

end Gives

theorem looks_pure
    (value : α) :
    Looks (pure value) :=
  fun _ => ⟨value, gives_pure value⟩

/-- Actions that only look do so in a row. -/
theorem looks_bind
    {action : StateM World α}
    {next : α → StateM World β}
    (looks : Looks action)
    (nextLooks : ∀ value, Looks (next value)) :
    Looks (action >>= next) := by
  intro tree
  obtain ⟨value, first⟩ := looks tree
  obtain ⟨last, second⟩ := nextLooks value tree
  exact ⟨last, gives_bind first second⟩

theorem looks_map
    {action : StateM World α}
    (looks : Looks action)
    (change : α → β) :
    Looks (change <$> action) := by
  intro tree
  obtain ⟨value, gives⟩ := looks tree
  exact ⟨change value, gives_map gives change⟩

theorem looks_mapM
    {ask : α → StateM World β}
    (looks : ∀ value, Looks (ask value))
    (values : List α) :
    Looks (values.mapM ask) :=
  fun tree => ⟨_, gives_mapM (fun value => (looks value).gives tree) values⟩

theorem looks_filterM
    {fits : α → StateM World Bool}
    (looks : ∀ value, Looks (fits value))
    (values : List α) :
    Looks (values.filterM fits) := by
  have auxiliary : ∀ kept, Looks (values.filterAuxM fits kept) := by
    induction values with
    | nil => exact fun kept => looks_pure kept
    | cons value rest inductionHypothesis =>
        exact fun kept => looks_bind (looks value) fun _ => inductionHypothesis _
  exact looks_bind (auxiliary []) fun _ => looks_pure _

theorem looks_foldlM
    {step : β → α → StateM World β}
    (looks : ∀ before value, Looks (step before value))
    (values : List α)
    (start : β) :
    Looks (values.foldlM step start) := by
  induction values generalizing start with
  | nil => exact looks_pure start
  | cons value rest inductionHypothesis =>
      rw [List.foldlM_cons]
      exact looks_bind (looks start value) inductionHypothesis

/-! ## Questions to the host -/

section Host

variable (tree : FileTree)

/-- What a world says of the kind of a path is what its tree says. -/
theorem gives_kind?
    (path : Path) :
    Gives tree (Host.kind? path) ((tree.find? path).map Tree.kind) := by
  rintro world rfl
  exact ⟨rfl, rfl⟩

theorem gives_shape?
    (path : Path) :
    Gives tree (Host.shape? path) ((tree.find? path).map Tree.shape) := by
  rintro world rfl
  exact ⟨rfl, rfl⟩

/-- What a world says of the content of a path is what its tree says. -/
theorem gives_read
    (path : Path) :
    Gives tree (Host.read path) (tree.read path) := by
  rintro world rfl
  exact ⟨rfl, rfl⟩

/-- Telling an event leaves the tree as it is. -/
theorem gives_tell
    (event : Event) :
    Gives tree (Host.tell event) () := by
  rintro world rfl
  exact ⟨rfl, rfl⟩

theorem gives_isFile
    (path : Path) :
    Gives tree (Host.isFile path) ((tree.find? path).map Tree.kind == some .file) :=
  gives_bind (gives_kind? tree path) (gives_pure _)

theorem gives_isFolder
    (path : Path) :
    Gives tree (Host.isFolder path) ((tree.find? path).map Tree.kind == some .folder) :=
  gives_bind (gives_kind? tree path) (gives_pure _)

theorem gives_has
    (path : Path) :
    Gives tree (Host.has path) ((tree.find? path).map Tree.kind).isSome :=
  gives_bind (gives_kind? tree path) (gives_pure _)

/-- The text of the bytes that a host gives. -/
def textOf : Except Refusal ByteArray → Except Refusal String
  | .error refusal => .error refusal
  | .ok bytes =>
    match String.fromUTF8? bytes with
    | some text => .ok text
    | none => .error .notText

/-- The text of a file is its content if that is a text. -/
theorem gives_readText
    (path : Path) :
    Gives tree (Host.readText path) (textOf (tree.read path)) := by
  refine gives_bind (gives_read tree path) ?_
  cases tree.read path with
  | error refusal => exact gives_pure _
  | ok bytes =>
      unfold textOf
      dsimp only
      cases String.fromUTF8? bytes with
      | some text => exact gives_pure _
      | none => exact gives_pure _

end Host

theorem looks_shape?
    (path : Path) :
    Looks (Host.shape? path) :=
  fun tree => ⟨_, gives_shape? tree path⟩

theorem looks_tell
    (event : Event) :
    Looks (Host.tell event) :=
  fun tree => ⟨_, gives_tell tree event⟩

theorem looks_isFile
    (path : Path) :
    Looks (Host.isFile path) :=
  fun tree => ⟨_, gives_isFile tree path⟩

theorem looks_isFolder
    (path : Path) :
    Looks (Host.isFolder path) :=
  fun tree => ⟨_, gives_isFolder tree path⟩

theorem looks_has
    (path : Path) :
    Looks (Host.has path) :=
  fun tree => ⟨_, gives_has tree path⟩

theorem looks_readText
    (path : Path) :
    Looks (Host.readText path) :=
  fun tree => ⟨_, gives_readText tree path⟩

end World
end KeyedText
