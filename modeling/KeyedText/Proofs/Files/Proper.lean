import KeyedText.Proofs.Files.Step

/-!
# Proper trees

In a proper tree every entry of a folder has a name, and no two have the same
one.  Then a file of the tree is what the names of its location lead to, and a
path goes on from a folder along names exactly as they stand.
-/

namespace KeyedText
namespace Tree

/-- Whether the entries of every folder have names, no two of them the same one. -/
inductive Proper : Tree α → Prop where
  | file (content : α) :
      Proper (file content)
  | folder {entries : List (List Char × Tree α)}
      (named : ∀ entry ∈ entries, IsName entry.1)
      (distinct : (entries.map (·.1)).Nodup)
      (inside : ∀ entry ∈ entries, Proper entry.2) :
      Proper (folder entries)

theorem proper_file_iff
    {content : α} :
    (file content).Proper ↔ True :=
  iff_true_intro (.file content)

theorem proper_folder_iff
    {entries : List (List Char × Tree α)} :
    (folder entries).Proper ↔
      (∀ entry ∈ entries, IsName entry.1) ∧ (entries.map (·.1)).Nodup ∧
        ∀ entry ∈ entries, entry.2.Proper := by
  constructor
  · intro proper
    cases proper with
    | folder named distinct inside => exact ⟨named, distinct, inside⟩
  · rintro ⟨named, distinct, inside⟩
    exact .folder named distinct inside

instance (name : List Char) : Decidable (IsName name) :=
  decidable_of_iff ('/' ∉ name ∧ Path.isIdle name = false ∧ name ≠ ['.', '.'])
    ⟨fun ⟨plain, busy, notAbove⟩ => ⟨plain, busy, notAbove⟩,
      fun isName => ⟨isName.plain, isName.busy, isName.notAbove⟩⟩

section Entries

variable
    {entries : List (List Char × Tree α)}
    {name : List Char}
    {inner : Tree α}

theorem mem_of_lookup
    (isInner : entries.lookup name = some inner) :
    (name, inner) ∈ entries := by
  obtain ⟨front, back, rfl, -⟩ := List.lookup_eq_some_iff.mp isInner
  exact List.mem_append_right _ List.mem_cons_self

theorem lookup_of_mem
    (distinct : (entries.map (·.1)).Nodup)
    (isEntry : (name, inner) ∈ entries) :
    entries.lookup name = some inner := by
  obtain ⟨front, back, rfl⟩ := List.append_of_mem isEntry
  refine List.lookup_eq_some_iff.mpr ⟨front, back, rfl, fun other inFront => ?_⟩
  rw [List.map_append, List.nodup_append] at distinct
  have differs := distinct.2.2 other.1 (List.mem_map_of_mem inFront) name (by simp)
  exact bne_iff_ne.mpr (Ne.symm differs)

end Entries

namespace Proper

variable {tree : Tree α}

theorem get?
    (proper : tree.Proper)
    {location : Location}
    {part : Tree α}
    (isPart : tree.get? location = some part) :
    part.Proper := by
  induction location generalizing tree with
  | nil => rwa [← Option.some.inj isPart]
  | cons name rest inductionHypothesis =>
      cases proper with
      | file content => cases isPart
      | folder named distinct inside =>
          obtain ⟨inner, isInner, isPart⟩ := Option.bind_eq_some_iff.mp isPart
          exact inductionHypothesis (inside _ (mem_of_lookup isInner)) isPart

theorem get?_of_mem_files
    (proper : tree.Proper)
    {location : Location}
    {content : α}
    (isFile : (location, content) ∈ tree.files) :
    tree.get? location = some (Tree.file content) := by
  induction proper generalizing location with
  | file held =>
      obtain ⟨rfl, rfl⟩ := mem_files_file_iff.mp isFile
      rfl
  | folder named distinct inside inductionHypothesis =>
      obtain ⟨name, inner, rest, isEntry, inInner, rfl⟩ := mem_files_folder_iff.mp isFile
      rw [get?_folder_cons, lookup_of_mem distinct isEntry, Option.bind_some]
      exact inductionHypothesis _ isEntry inInner

theorem isName_of_mem_files
    (proper : tree.Proper)
    {location : Location}
    {content : α}
    (isFile : (location, content) ∈ tree.files) :
    ∀ name ∈ location, IsName name := by
  induction proper generalizing location with
  | file held =>
      obtain ⟨rfl, rfl⟩ := mem_files_file_iff.mp isFile
      exact List.forall_mem_nil _
  | folder named distinct inside inductionHypothesis =>
      obtain ⟨name, inner, rest, isEntry, inInner, rfl⟩ := mem_files_folder_iff.mp isFile
      exact List.forall_mem_cons.mpr ⟨named _ isEntry, inductionHypothesis _ isEntry inInner⟩

/-- A tree is proper for its shape. -/
theorem shape
    (proper : tree.Proper) :
    tree.shape.Proper := by
  unfold Tree.shape
  induction proper with
  | file content => exact .file ()
  | folder named distinct inside inductionHypothesis =>
      rw [map, mapEntries_eq_map]
      refine .folder ?_ ?_ ?_
      · exact List.forall_mem_map.mpr named
      · rw [List.map_map]
        exact distinct
      · exact List.forall_mem_map.mpr inductionHypothesis

end Proper

/-! ## Shapes -/

theorem kind_shape
    (tree : Tree α) :
    tree.shape.kind = tree.kind := by
  cases tree <;> rfl

theorem shape_folder
    (entries : List (List Char × Tree α)) :
    (folder entries).shape = folder (entries.map fun entry => (entry.1, entry.2.shape)) :=
  congrArg folder (mapEntries_eq_map _ entries)

theorem lookup_map_entries
    (change : Tree α → Tree β)
    (entries : List (List Char × Tree α))
    (name : List Char) :
    (entries.map fun entry => (entry.1, change entry.2)).lookup name =
      (entries.lookup name).map change := by
  induction entries with
  | nil => rfl
  | cons entry entries inductionHypothesis =>
      rw [List.map_cons, List.lookup_cons, List.lookup_cons, inductionHypothesis]
      split <;> rfl

/-- The shape of a tree has the shapes of its parts where the tree has the parts. -/
theorem get?_shape
    (tree : Tree α)
    (location : Location) :
    tree.shape.get? location = (tree.get? location).map Tree.shape := by
  induction location generalizing tree with
  | nil => rfl
  | cons name rest inductionHypothesis =>
      cases tree with
      | file content => rfl
      | folder entries =>
          rw [shape_folder, get?_folder_cons, get?_folder_cons, lookup_map_entries, Option.map_bind,
            Option.bind_map]
          exact congrArg _ (funext fun inner => inductionHypothesis inner)

/-! ## What paths lead to -/

variable {tree : Tree α}

theorem find?_eq_some_iff
    {path : Path}
    {part : Tree α} :
    tree.find? path = some part ↔
      ∃ location, tree.place? path = some location ∧ tree.get? location = some part := by
  unfold find? find place?
  cases tree.locate path with
  | error refusal => exact iff_of_false nofun nofun
  | ok location =>
      dsimp only [bind, Except.bind, Except.toOption]
      simp only [Option.some.injEq, exists_eq_left']
      cases tree.get? location with
      | none => exact iff_of_false nofun nofun
      | some found => exact ⟨fun same => by cases same; rfl, fun same => by cases same; rfl⟩

/-- What a path leads to in a proper tree has a proper shape. -/
theorem Proper.of_find?
    (proper : tree.Proper)
    {path : Path}
    {shape : Shape}
    (isShape : (tree.find? path).map Tree.shape = some shape) :
    shape.Proper := by
  obtain ⟨part, isPart, rfl⟩ := Option.map_eq_some_iff.mp isShape
  obtain ⟨location, -, isThere⟩ := find?_eq_some_iff.mp isPart
  exact (proper.get? isThere).shape

/-- Whether a path leads to a folder. -/
def HasFolder (tree : Tree α) (path : Path) : Prop :=
  ∃ location, tree.place? path = some location ∧ tree.IsFolder location

theorem hasFolder_iff
    {path : Path} :
    tree.HasFolder path ↔ ∃ entries, tree.find? path = some (folder entries) := by
  simp only [HasFolder, isFolder_iff, find?_eq_some_iff]
  constructor
  · rintro ⟨location, leads, entries, isPart⟩
    exact ⟨entries, location, leads, isPart⟩
  · rintro ⟨entries, location, leads, isPart⟩
    exact ⟨location, leads, entries, isPart⟩

theorem hasFolder_iff_kind
    {path : Path} :
    tree.HasFolder path ↔ (tree.find? path).map kind = some .folder := by
  rw [hasFolder_iff, Option.map_eq_some_iff]
  constructor
  · rintro ⟨entries, isPart⟩
    exact ⟨_, isPart, rfl⟩
  · rintro ⟨part, isPart, isKind⟩
    cases part with
    | file content => cases isKind
    | folder entries => exact ⟨entries, isPart⟩

/-- A path that leads anywhere along names starts with a path to a folder, or there are none. -/
theorem hasFolder_of_along
    {path : Path}
    {names : Location}
    (plain : ∀ name ∈ names, '/' ∉ name)
    (hasFolder : tree.HasFolder (Discovery.along path names)) :
    tree.HasFolder path := by
  induction names generalizing path with
  | nil => exact hasFolder
  | cons name names inductionHypothesis =>
      obtain ⟨isPlain, others⟩ := List.forall_mem_cons.mp plain
      obtain ⟨location, leads, -⟩ := inductionHypothesis others hasFolder
      obtain ⟨front, leadsInFront, isFolder, -⟩ := (place?_join_eq_some_iff isPlain).mp leads
      exact ⟨front, leadsInFront, isFolder⟩

/-- Along names a path leads to where they stand behind one another. -/
theorem place?_along
    {path : Path}
    {names : Location}
    (areNames : ∀ name ∈ names, IsName name)
    {location : Location}
    (leads : tree.place? (Discovery.along path names) = some location) :
    ∃ front, tree.place? path = some front ∧ location = front ++ names := by
  induction names generalizing path with
  | nil => exact ⟨location, leads, (List.append_nil _).symm⟩
  | cons name names inductionHypothesis =>
      obtain ⟨isName, others⟩ := List.forall_mem_cons.mp areNames
      obtain ⟨between, leadsBetween, rfl⟩ := inductionHypothesis others leads
      obtain ⟨front, leadsInFront, -, rfl⟩ :=
        (place?_join_eq_some_iff isName.plain).mp leadsBetween
      refine ⟨front, leadsInFront, ?_⟩
      rw [goOn_of_isName isName, List.append_assoc, List.singleton_append]

/-- What a path leads to along names is at these names in what the path leads to. -/
theorem find?_along
    {path : Path}
    {names : Location}
    (areNames : ∀ name ∈ names, IsName name)
    {part : Tree α}
    (isPart : tree.find? (Discovery.along path names) = some part) :
    ∃ whole, tree.find? path = some whole ∧ whole.get? names = some part := by
  obtain ⟨location, leads, isThere⟩ := find?_eq_some_iff.mp isPart
  obtain ⟨front, leadsInFront, rfl⟩ := place?_along areNames leads
  rw [get?_append] at isThere
  obtain ⟨whole, isWhole, isBehind⟩ := Option.bind_eq_some_iff.mp isThere
  exact ⟨whole, find?_eq_some_iff.mpr ⟨front, leadsInFront, isWhole⟩, isBehind⟩

/-- What is at a location in a folder is where the path of the folder leads along its names. -/
theorem place?_along_of_get?
    {path : Path}
    {front names : Location}
    (areNames : ∀ name ∈ names, IsName name)
    (leads : tree.place? path = some front)
    (isThere : (tree.get? (front ++ names)).isSome) :
    tree.place? (Discovery.along path names) = some (front ++ names) := by
  induction names generalizing path front with
  | nil => rwa [List.append_nil]
  | cons name names inductionHypothesis =>
      obtain ⟨isName, others⟩ := List.forall_mem_cons.mp areNames
      have isFolder : tree.IsFolder front := isFolder_of_isSome_get? isThere
      have leadsOn : tree.place? (path.join name) = some (front ++ [name]) :=
        (place?_join_eq_some_iff isName.plain).mpr
          ⟨front, leads, isFolder, goOn_of_isName isName front⟩
      rw [List.append_cons] at isThere ⊢
      exact inductionHypothesis others leadsOn isThere

end Tree
end KeyedText
