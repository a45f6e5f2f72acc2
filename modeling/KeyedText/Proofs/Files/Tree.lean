import KeyedText.Files.Tree
import Mathlib.Data.List.Basic

/-!
# Putting files into trees

A file is put into a folder that is there, in the place of a file or of nothing.
Then it is at its location, and at every other location there is what was there
before.
-/

namespace KeyedText
namespace Tree

/-- What a tree is, whatever its entries are: a file with its content, or a folder. -/
def node : Tree α → Option α
  | file content => some content
  | folder _ => none

/-- What is at a location, whatever its entries are, if there is anything. -/
def nodeAt? (tree : Tree α) (location : Location) : Option (Option α) :=
  (tree.get? location).map node

/-- Whether there is a folder at a location. -/
def IsFolder (tree : Tree α) (location : Location) : Prop :=
  tree.nodeAt? location = some none

/-- A place is a folder if entries are found there. -/
theorem isFolder_iff
    {tree : Tree α}
    {location : Location} :
    tree.IsFolder location ↔ ∃ entries, tree.get? location = some (folder entries) := by
  unfold IsFolder nodeAt?
  rw [Option.map_eq_some_iff]
  constructor
  · rintro ⟨part, isPart, isNode⟩
    cases part with
    | file content => cases isNode
    | folder entries => exact ⟨entries, isPart⟩
  · rintro ⟨entries, isPart⟩
    exact ⟨folder entries, isPart, rfl⟩

theorem IsFolder.nil
    {tree : Tree α}
    {location : Location}
    (isFolder : tree.IsFolder location) :
    tree.IsFolder [] := by
  cases tree with
  | folder entries => rfl
  | file content =>
      obtain ⟨entries, isPart⟩ := isFolder_iff.mp isFolder
      cases location <;> cases isPart

/-! ## Locations -/

theorem get?_folder_cons
    (entries : List (List Char × Tree α))
    (name : List Char)
    (rest : Location) :
    (folder entries).get? (name :: rest) =
      (entries.lookup name).bind fun inner => inner.get? rest := rfl

theorem nodeAt?_folder_cons
    (entries : List (List Char × Tree α))
    (name : List Char)
    (rest : Location) :
    (folder entries).nodeAt? (name :: rest) =
      (entries.lookup name).bind fun inner => inner.nodeAt? rest := by
  unfold nodeAt?
  rw [get?_folder_cons, Option.map_bind]
  rfl

/-- A way in two parts goes through the place between them. -/
theorem get?_append
    (tree : Tree α)
    (front back : Location) :
    tree.get? (front ++ back) = (tree.get? front).bind fun part => part.get? back := by
  induction front generalizing tree with
  | nil => rfl
  | cons name rest inductionHypothesis =>
      cases tree with
      | file content => rfl
      | folder entries =>
          rw [List.cons_append, get?_folder_cons, get?_folder_cons, Option.bind_assoc]
          simp only [inductionHypothesis]

/-- What has something in it is a folder. -/
theorem nodeAt?_eq_none_of_not_isFolder
    {tree : Tree α}
    {location : Location}
    (isNone : ¬ tree.IsFolder location)
    (name : List Char)
    (rest : Location) :
    tree.nodeAt? (location ++ name :: rest) = none := by
  rw [isFolder_iff] at isNone
  unfold nodeAt?
  rw [get?_append]
  cases isPart : tree.get? location with
  | none => rfl
  | some part =>
      cases part with
      | file content => rfl
      | folder entries => exact absurd ⟨entries, isPart⟩ isNone

/-- A folder is in a folder, or it is the whole tree. -/
theorem IsFolder.dropLast
    {tree : Tree α}
    {location : Location}
    (isFolder : tree.IsFolder location) :
    tree.IsFolder location.dropLast := by
  by_cases isTop : location = []
  · rwa [isTop] at isFolder ⊢
  · by_contra isNone
    have nothing := nodeAt?_eq_none_of_not_isFolder isNone (location.getLast isTop) []
    rw [List.dropLast_append_getLast isTop, isFolder] at nothing
    cases nothing

/-- What has an entry is a folder. -/
theorem isFolder_of_isSome_get?
    {tree : Tree α}
    {location : Location}
    {name : List Char}
    {rest : Location}
    (isThere : (tree.get? (location ++ name :: rest)).isSome) :
    tree.IsFolder location := by
  by_contra isNone
  have nothing := nodeAt?_eq_none_of_not_isFolder isNone name rest
  rw [nodeAt?, Option.map_eq_none_iff] at nothing
  rw [nothing] at isThere
  cases isThere

/-- A folder is in folders alone. -/
theorem IsFolder.of_append
    {tree : Tree α}
    {front back : Location}
    (isFolder : tree.IsFolder (front ++ back)) :
    tree.IsFolder front := by
  cases back with
  | nil => rwa [List.append_nil] at isFolder
  | cons name rest =>
      obtain ⟨entries, isPart⟩ := isFolder_iff.mp isFolder
      exact isFolder_of_isSome_get? (Option.isSome_of_mem isPart)

/-! ## Entries -/

section Entries

variable
    {name other : List Char}
    (new : Tree α)
    (entries : List (List Char × Tree α))

theorem lookup_cons_of_ne
    (differs : other ≠ name) :
    ((name, new) :: entries).lookup other = entries.lookup other := by
  rw [List.lookup_cons, beq_false_of_ne differs]

/-- An entry that is put is found under its name. -/
theorem lookup_putEntry_self :
    (putEntry name new entries).lookup name = some new := by
  induction entries with
  | nil => exact List.lookup_cons_self
  | cons entry rest inductionHypothesis =>
      obtain ⟨first, old⟩ := entry
      rw [putEntry]
      split
      · exact List.lookup_cons_self
      · next differs =>
          rw [lookup_cons_of_ne _ _ fun same => differs (beq_iff_eq.mpr same.symm)]
          exact inductionHypothesis

/-- Entries under other names are kept. -/
theorem lookup_putEntry_of_ne
    (differs : other ≠ name) :
    (putEntry name new entries).lookup other = entries.lookup other := by
  induction entries with
  | nil => exact lookup_cons_of_ne new [] differs
  | cons entry rest inductionHypothesis =>
      obtain ⟨first, old⟩ := entry
      rw [putEntry]
      split
      · next same =>
          rw [beq_iff_eq] at same
          subst same
          rw [lookup_cons_of_ne _ _ differs, lookup_cons_of_ne _ _ differs]
      · rw [List.lookup_cons, List.lookup_cons, inductionHypothesis]

end Entries

/-! ## Putting -/

/-- A file can be put at a location: in a folder that is there, where no folder is. -/
structure Takes (tree : Tree α) (location : Location) : Prop where
  inside : location ≠ []
  above : tree.IsFolder location.dropLast
  unfolded : ¬ tree.IsFolder location

theorem Takes.exists_entries
    {tree : Tree α}
    {location : Location}
    (takes : tree.Takes location) :
    ∃ entries, tree = folder entries := by
  obtain ⟨entries, isPart⟩ := isFolder_iff.mp takes.above.nil
  exact ⟨entries, Option.some.inj isPart⟩

/-- Behind the first name of a location a file can be put into the entry of that name. -/
theorem Takes.behind
    {entries : List (List Char × Tree α)}
    {name next : List Char}
    {rest : Location}
    (takes : (folder entries).Takes (name :: next :: rest)) :
    ∃ inner, entries.lookup name = some inner ∧ inner.Takes (next :: rest) := by
  obtain ⟨others, isAbove⟩ := isFolder_iff.mp takes.above
  rw [List.dropLast_cons_cons, get?_folder_cons] at isAbove
  obtain ⟨inner, isInner, inInner⟩ := Option.bind_eq_some_iff.mp isAbove
  refine ⟨inner, isInner, List.cons_ne_nil _ _, isFolder_iff.mpr ⟨others, inInner⟩, ?_⟩
  intro isFolder
  obtain ⟨more, isMore⟩ := isFolder_iff.mp isFolder
  apply takes.unfolded
  apply isFolder_iff.mpr
  rw [get?_folder_cons, isInner]
  exact ⟨more, isMore⟩

/-- What is where after a file was put into a tree. -/
theorem nodeAt?_put
    {tree : Tree α}
    {location : Location}
    (takes : tree.Takes location)
    (content : α)
    (other : Location) :
    (tree.put location (file content)).nodeAt? other =
      if other = location then some (some content) else tree.nodeAt? other := by
  induction location generalizing tree other with
  | nil => exact absurd rfl takes.inside
  | cons name rest inductionHypothesis =>
      obtain ⟨entries, rfl⟩ := takes.exists_entries
      cases other with
      | nil => rfl
      | cons first more =>
          rw [put, nodeAt?_folder_cons, nodeAt?_folder_cons]
          by_cases same : first = name
          · subst same
            rw [lookup_putEntry_self, Option.bind_some]
            simp only [List.cons.injEq, true_and]
            cases rest with
            | nil =>
                rw [put]
                cases more with
                | nil => rfl
                | cons next back =>
                    rw [if_neg (List.cons_ne_nil _ _), ← nodeAt?_folder_cons]
                    exact (nodeAt?_eq_none_of_not_isFolder takes.unfolded next back).symm
            | cons next back =>
                obtain ⟨inner, isInner, innerTakes⟩ := takes.behind
                rw [isInner]
                exact inductionHypothesis innerTakes more
          · rw [lookup_putEntry_of_ne _ _ same]
            simp only [List.cons.injEq, same, false_and, if_false]

end Tree
end KeyedText
