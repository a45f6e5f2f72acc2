import KeyedText.Proofs.Files.Discovery

/-!
# Which source files are found

A search whose includes are paths finds a file exactly if one of the paths leads
through folders that are entered to it, it has the extension of a source file,
and neither an ignored path nor an ignored pattern covers it.  Patterns are held
against the whole path of a file alone: that one fits a folder on the way leaves
out nothing.
-/

namespace KeyedText
namespace Tree

/-! ## Files of trees -/

/-- A statement holds of every tree if it holds of files, and of a folder whenever it holds of all
its entries. -/
theorem induction
    {motive : Tree α → Prop}
    (ofFile : ∀ content, motive (.file content))
    (ofFolder : ∀ entries, (∀ entry ∈ entries, motive entry.2) → motive (.folder entries))
    (tree : Tree α) :
    motive tree := by
  refine Tree.rec (motive_1 := motive)
    (motive_2 := fun entries => ∀ entry ∈ entries, motive entry.2)
    (motive_3 := fun entry => motive entry.2) ofFile ofFolder ?_ ?_ ?_ tree
  · exact List.forall_mem_nil _
  · exact fun entry rest ofEntry ofRest => List.forall_mem_cons.mpr ⟨ofEntry, ofRest⟩
  · exact fun _ _ ofInner => ofInner

/-- The files of a folder are those of its entries. -/
theorem mem_files_folder_iff
    {entries : List (List Char × Tree α)}
    {location : Location}
    {content : α} :
    (location, content) ∈ (folder entries).files ↔
      ∃ name inner rest,
        (name, inner) ∈ entries ∧ (rest, content) ∈ inner.files ∧ location = name :: rest := by
  rw [files]
  induction entries with
  | nil => simp [filesOf]
  | cons entry entries inductionHypothesis =>
      obtain ⟨name, inner⟩ := entry
      rw [filesOf, List.mem_append, inductionHypothesis, List.mem_map]
      constructor
      · rintro (⟨⟨rest, found⟩, isFile, same⟩ | ⟨other, part, rest, isEntry, isFile, same⟩)
        · cases same
          exact ⟨name, inner, rest, List.mem_cons_self, isFile, rfl⟩
        · exact ⟨other, part, rest, List.mem_cons_of_mem _ isEntry, isFile, same⟩
      · rintro ⟨other, part, rest, isEntry, isFile, rfl⟩
        rcases List.mem_cons.mp isEntry with same | isLater
        · cases same
          exact .inl ⟨(rest, content), isFile, rfl⟩
        · exact .inr ⟨other, part, rest, isLater, isFile, rfl⟩

/-- A file has one file in it, itself. -/
theorem mem_files_file_iff
    {held content : α}
    {location : Location} :
    (location, content) ∈ (file held).files ↔ location = [] ∧ content = held := by
  rw [files, List.mem_singleton, Prod.mk.injEq]

theorem mapEntries_eq_map
    (change : α → β)
    (entries : List (List Char × Tree α)) :
    mapEntries change entries = entries.map fun entry => (entry.1, entry.2.map change) := by
  induction entries with
  | nil => rfl
  | cons entry entries inductionHypothesis =>
      rw [mapEntries, inductionHypothesis]
      rfl

/-- The shape of a tree has files where the tree has some. -/
theorem mem_files_shape_iff
    {tree : Tree α}
    {location : Location} :
    (location, ()) ∈ tree.shape.files ↔ ∃ content, (location, content) ∈ tree.files := by
  unfold shape
  induction tree using Tree.induction generalizing location with
  | ofFile held => simp [map, mem_files_file_iff]
  | ofFolder entries inside =>
      rw [map, mapEntries_eq_map]
      simp only [mem_files_folder_iff]
      constructor
      · rintro ⟨name, inner, rest, isEntry, isFile, rfl⟩
        obtain ⟨⟨given, part⟩, isPart, same⟩ := List.mem_map.mp isEntry
        cases same
        obtain ⟨content, holds⟩ := (inside _ isPart).mp isFile
        exact ⟨content, given, part, rest, isPart, holds, rfl⟩
      · rintro ⟨content, name, part, rest, isPart, holds, rfl⟩
        exact ⟨name, part.map _, rest, List.mem_map.mpr ⟨_, isPart, rfl⟩,
          (inside _ isPart).mpr ⟨content, holds⟩, rfl⟩

theorem kind_eq_file_of_mem_files
    {tree : Tree α}
    {content : α}
    (isFile : ([], content) ∈ tree.files) :
    tree.kind = .file := by
  cases tree with
  | file held => rfl
  | folder entries =>
      obtain ⟨name, inner, rest, -, -, same⟩ := mem_files_folder_iff.mp isFile
      cases same

theorem kind_eq_folder_of_mem_files
    {tree : Tree α}
    {name : List Char}
    {rest : Location}
    {content : α}
    (isFile : (name :: rest, content) ∈ tree.files) :
    tree.kind = .folder := by
  cases tree with
  | file held => cases (mem_files_file_iff.mp isFile).1
  | folder entries => rfl

end Tree

namespace Discovery

open World

/-! ## Walking -/

/-- The path that goes on from a path along a location. -/
def along (path : Path) (location : Location) : Path :=
  location.foldl Path.join path

/-- Whether a walk gets to a location: the folders on the way are entered. -/
def Entered (location : Location) : Prop :=
  ∀ name ∈ location.dropLast, name ∉ skippedFolders

/-- A walk enters all but the folders that are skipped. -/
theorem enters_eq_true_iff
    {name : List Char}
    {kind : Tree.Kind} :
    enters name kind = true ↔ (kind = .folder → name ∉ skippedFolders) := by
  unfold enters
  cases kind <;> simp

/-- What a walk finds in a folder it finds in an entry that it enters. -/
theorem mem_walk_folder_iff
    {path found : Path}
    {entries : List (List Char × Tree.Shape)} :
    found ∈ walk path (.folder entries) ↔
      ∃ name inner,
        (name, inner) ∈ entries ∧
          enters name inner.kind = true ∧ found ∈ walk (path.join name) inner := by
  rw [walk]
  induction entries with
  | nil => simp [walkEntries]
  | cons entry entries inductionHypothesis =>
      obtain ⟨name, inner⟩ := entry
      rw [walkEntries, List.mem_append, inductionHypothesis]
      constructor
      · rintro (here | ⟨other, part, isEntry, isEntered, isFound⟩)
        · split at here
          · next isEntered => exact ⟨name, inner, List.mem_cons_self, isEntered, here⟩
          · cases here
        · exact ⟨other, part, List.mem_cons_of_mem _ isEntry, isEntered, isFound⟩
      · rintro ⟨other, part, isEntry, isEntered, isFound⟩
        rcases List.mem_cons.mp isEntry with same | isLater
        · cases same
          rw [if_pos isEntered]
          exact .inl isFound
        · exact .inr ⟨other, part, isLater, isEntered, isFound⟩

/-- A walk enters an entry and gets to a location in it, or it does neither. -/
theorem entered_cons_iff
    {name : List Char}
    {rest : Location}
    {inner : Tree.Shape}
    (isFile : (rest, ()) ∈ inner.files) :
    Entered (name :: rest) ↔ enters name inner.kind = true ∧ Entered rest := by
  unfold Entered
  cases rest with
  | nil =>
      rw [enters_eq_true_iff, Tree.kind_eq_file_of_mem_files isFile]
      simp
  | cons next more =>
      rw [enters_eq_true_iff, Tree.kind_eq_folder_of_mem_files isFile, List.dropLast_cons_cons,
        List.forall_mem_cons]
      simp

/-- A walk finds the files of a tree to which it gets. -/
theorem mem_walk_iff
    {path found : Path}
    {shape : Tree.Shape} :
    found ∈ walk path shape ↔
      ∃ location,
        (location, ()) ∈ shape.files ∧ Entered location ∧ found = along path location := by
  induction shape using Tree.induction generalizing path with
  | ofFile held => simp [walk, Tree.mem_files_file_iff, Entered, along]
  | ofFolder entries inside =>
      rw [mem_walk_folder_iff]
      simp only [Tree.mem_files_folder_iff]
      constructor
      · rintro ⟨name, inner, isEntry, isEntered, isFound⟩
        obtain ⟨rest, isFile, goesOn, rfl⟩ := (inside _ isEntry).mp isFound
        exact ⟨name :: rest, ⟨name, inner, rest, isEntry, isFile, rfl⟩,
          (entered_cons_iff isFile).mpr ⟨isEntered, goesOn⟩, rfl⟩
      · rintro ⟨_, ⟨name, inner, rest, isEntry, isFile, rfl⟩, getsThere, rfl⟩
        obtain ⟨isEntered, goesOn⟩ := (entered_cons_iff isFile).mp getsThere
        exact ⟨name, inner, isEntry, isEntered,
          (inside _ isEntry).mpr ⟨rest, isFile, goesOn, rfl⟩⟩

/-! ## Starting -/

/-- Whether a search whose includes are paths starts from a path: an include leads there and there
is something, or there are no includes and the search starts from its base. -/
inductive Starts (tree : FileTree) (base : Path) (scope : Scope) : Path → Prop where
  | base
      (noIncludes : scope.includes = []) :
      Starts tree base scope base
  | included
      (text : String)
      (isInclude : text ∈ scope.includes)
      (isThere : (tree.find? (base.join text.toList)).isSome) :
      Starts tree base scope (base.join text.toList)

/-- An entry without wildcards starts at its path if something is there. -/
theorem gives_starts
    {tree : FileTree}
    {base : Path}
    {text : String}
    (literal : Glob.hasWildcard text.toList = false) :
    Gives tree (starts base text)
      (if (tree.find? (base.join text.toList)).isSome then [base.join text.toList] else []) := by
  unfold starts
  rw [literal, if_neg Bool.false_ne_true]
  refine gives_bind (gives_has tree _) ?_
  rw [Option.isSome_map]
  split
  · exact gives_pure _
  · exact gives_bind (gives_tell tree _) (gives_pure _)

/-- A search starts from what its includes give, or from its base if there are none. -/
theorem mem_answer_roots
    {tree : FileTree}
    {base root : Path}
    {scope : Scope} :
    root ∈ answer tree (roots base scope) ↔
      scope.includes = [] ∧ root = base ∨
        ∃ text ∈ scope.includes, root ∈ answer tree (starts base text) := by
  unfold roots
  cases scope.includes with
  | nil =>
      have told : Gives tree (pure [base]) [base] := gives_pure _
      rw [List.isEmpty_nil, if_pos rfl, told.answer_eq, List.mem_singleton]
      simp
  | cons first rest =>
      have told := gives_map
        (gives_mapM (fun text => (looks_starts base text).gives tree) (first :: rest)) List.flatten
      rw [List.isEmpty_cons, if_neg Bool.false_ne_true, told.answer_eq, List.mem_flatten]
      simp

/-- A walk starts where an included path leads to something. -/
theorem mem_answer_roots_iff
    {tree : FileTree}
    {base root : Path}
    {scope : Scope}
    (literal : ∀ text ∈ scope.includes, Glob.hasWildcard text.toList = false) :
    root ∈ answer tree (roots base scope) ↔ Starts tree base scope root := by
  rw [mem_answer_roots]
  constructor
  · rintro (⟨noIncludes, rfl⟩ | ⟨text, isInclude, isRoot⟩)
    · exact .base noIncludes
    · rw [(gives_starts (literal text isInclude)).answer_eq] at isRoot
      split at isRoot
      · next isThere =>
          rw [List.mem_singleton.mp isRoot]
          exact .included text isInclude isThere
      · cases isRoot
  · rintro (noIncludes | ⟨text, isInclude, isThere⟩)
    · exact .inl ⟨noIncludes, rfl⟩
    · refine .inr ⟨text, isInclude, ?_⟩
      rw [(gives_starts (literal text isInclude)).answer_eq, if_pos isThere]
      exact List.mem_singleton_self _

/-! ## Leaving out -/

/-- Whether a path lies at or under another one, name by name. -/
def LiesUnder (above path : Path) : Prop :=
  above.isAbsolute = path.isAbsolute ∧ above.names <+: path.names

/-- Whether a text spells a pattern that fits a path. -/
def SpellsFitting (text : String) (path : Path) : Prop :=
  ∃ pattern, Glob.Pattern.ofText text.toList = .ok pattern ∧ pattern.fits path = true

/-- Whether an ignored text covers a path: as a pattern if it holds a wildcard, and as a path if it
holds none. -/
def Ignores (base : Path) (text : String) (path : Path) : Prop :=
  if Glob.hasWildcard text.toList then SpellsFitting text path
  else LiesUnder (base.join text.toList) path

/-- The components of a path start with those of each path above it. -/
theorem startsWith_eq_true_iff
    {above path : Path} :
    above.startsWith path = true ↔ LiesUnder above path := by
  unfold Path.startsWith LiesUnder
  rw [Bool.and_eq_true, beq_iff_eq, List.isPrefixOf_iff_prefix]

instance (above path : Path) : Decidable (LiesUnder above path) :=
  decidable_of_iff _ startsWith_eq_true_iff

/-- A path is ignored for a path above it or for a pattern that it fits. -/
theorem covers_eq_true_iff
    {exclusion : Exclusion}
    {path : Path} :
    exclusion.covers path = true ↔
      (∃ above ∈ exclusion.paths, LiesUnder above path) ∨
        ∃ pattern ∈ exclusion.patterns, pattern.fits path = true := by
  unfold Exclusion.covers
  rw [Bool.or_eq_true, List.any_eq_true, List.any_eq_true]
  simp only [startsWith_eq_true_iff]

/-- What is left out with one text more. -/
def Exclusion.plus (base : Path) (exclusion : Exclusion) (text : String) : Exclusion :=
  if Glob.hasWildcard text.toList then
    { exclusion with
      patterns := exclusion.patterns ++ (Glob.Pattern.ofText text.toList).toOption.toList }
  else { exclusion with paths := exclusion.paths ++ [base.join text.toList] }

/-- An ignored path or pattern is added by what its text spells and by what is there. -/
theorem gives_add
    (tree : FileTree)
    (base : Path)
    (exclusion : Exclusion)
    (text : String) :
    Gives tree (exclusion.add base text) (exclusion.plus base text) := by
  unfold Exclusion.add Exclusion.plus
  split
  · cases Glob.Pattern.ofText text.toList with
    | ok pattern => exact gives_pure _
    | error fault =>
        refine gives_bind (gives_tell tree _) ?_
        simp only [Except.toOption, Option.toList_none, List.append_nil]
        exact gives_pure _
  · exact gives_pure _

theorem toOption_eq_some_iff
    {result : Except ε α}
    {value : α} :
    result.toOption = some value ↔ result = .ok value := by
  cases result <;> simp [Except.toOption]

instance (text : String) (path : Path) : Decidable (SpellsFitting text path) :=
  decidable_of_iff
    ((Glob.Pattern.ofText text.toList).toOption.any fun pattern => pattern.fits path)
    (by simp only [Option.any_eq_true, toOption_eq_some_iff, SpellsFitting])

theorem covers_plus_iff
    {base path : Path}
    {exclusion : Exclusion}
    {text : String} :
    (exclusion.plus base text).covers path = true ↔
      exclusion.covers path = true ∨ Ignores base text path := by
  rw [covers_eq_true_iff, covers_eq_true_iff]
  unfold Exclusion.plus Ignores SpellsFitting
  split <;>
    simp [toOption_eq_some_iff, or_and_right, exists_or, or_assoc, or_comm, or_left_comm]

/-- Ignored texts ignore what one of them ignores. -/
theorem covers_foldl_plus_iff
    {base path : Path}
    {exclusion : Exclusion}
    {texts : List String} :
    (texts.foldl (Exclusion.plus base) exclusion).covers path = true ↔
      exclusion.covers path = true ∨ ∃ text ∈ texts, Ignores base text path := by
  induction texts generalizing exclusion with
  | nil => simp
  | cons text texts inductionHypothesis =>
      rw [List.foldl_cons, inductionHypothesis, covers_plus_iff]
      simp only [List.mem_cons, exists_eq_or_imp, or_assoc]

/-- The patterns of texts are those that the texts spell. -/
theorem mem_patternsOf_iff
    {texts : List String}
    {pattern : Glob.Pattern} :
    pattern ∈ patternsOf texts ↔
      ∃ text ∈ texts, Glob.Pattern.ofText text.toList = .ok pattern := by
  unfold patternsOf
  simp only [List.mem_filterMap, toOption_eq_some_iff]

/-- The patterns of files with tests are left out besides. -/
theorem covers_append_iff
    {exclusion : Exclusion}
    {patterns : List Glob.Pattern}
    {path : Path} :
    ({ exclusion with patterns := exclusion.patterns ++ patterns } : Exclusion).covers path = true ↔
      exclusion.covers path = true ∨ ∃ pattern ∈ patterns, pattern.fits path = true := by
  simp only [covers_eq_true_iff, List.mem_append, or_and_right, exists_or, or_assoc]

/-- A path is ignored for an ignored text, or as a test file. -/
theorem covers_exclusion_iff
    {tree : FileTree}
    {base path : Path}
    {scope : Scope} :
    (answer tree (scope.exclusion base)).covers path = true ↔
      (∃ text ∈ scope.ignores, Ignores base text path) ∨
        scope.skipsTests = true ∧ ∃ text ∈ testPatterns, SpellsFitting text path := by
  have told : Gives tree (scope.exclusion base) _ :=
    gives_bind (gives_foldlM (gives_add tree base) scope.ignores ⟨[], []⟩) (gives_pure _)
  have nothing : Exclusion.covers ⟨[], []⟩ path = false := rfl
  rw [told.answer_eq, covers_append_iff, covers_foldl_plus_iff, nothing]
  unfold SpellsFitting
  cases scope.skipsTests with
  | false => simp
  | true =>
      rw [if_pos rfl]
      simp only [mem_patternsOf_iff]
      grind

/-! ## Extensions -/

/-- Whether the last name of a path ends with a dot and an extension, behind something else. -/
def HasExtension (path : Path) (extension : List Char) : Prop :=
  ∃ stem, stem ≠ [] ∧ (Text.pieces '/' path).getLastD [] = stem ++ '.' :: extension ∧
    '.' ∉ extension

/-- A name with a dot is cut at its last one. -/
theorem exists_stem
    {name : List Char}
    (shorter : (name.reverse.takeWhile (· != '.')).length < name.length) :
    ∃ stem, name = stem ++ '.' :: (name.reverse.takeWhile (· != '.')).reverse := by
  have split := List.takeWhile_append_dropWhile (p := (· != '.')) (l := name.reverse)
  cases isFront : name.reverse.dropWhile (· != '.') with
  | nil =>
      rw [isFront, List.append_nil] at split
      rw [split, List.length_reverse] at shorter
      exact absurd shorter (Nat.lt_irrefl _)
  | cons dot front =>
      have isDot := List.head_dropWhile_not (· != '.') (l := name.reverse)
        (by rw [isFront]; exact List.cons_ne_nil _ _)
      simp only [isFront, List.head_cons, bne_eq_false_iff_eq] at isDot
      have whole := congrArg List.reverse split
      rw [isFront, isDot, List.reverse_append, List.reverse_cons, List.reverse_reverse,
        List.append_assoc] at whole
      exact ⟨front.reverse, whole.symm⟩

theorem takeWhile_reverse_append
    {stem extension : List Char}
    (noDot : '.' ∉ extension) :
    (stem ++ '.' :: extension).reverse.takeWhile (· != '.') = extension.reverse := by
  rw [List.reverse_append, List.reverse_cons, List.append_assoc, List.singleton_append,
    List.takeWhile_append_of_pos]
  · simp
  · intro character isIn
    rw [bne_iff_ne]
    rintro rfl
    exact noDot (List.mem_reverse.mp isIn)

/-- An extension stands behind the last dot of a name. -/
theorem extension?_eq_some_iff
    {path : Path}
    {extension : List Char} :
    path.extension? = some extension ↔ HasExtension path extension := by
  unfold Path.extension? HasExtension
  dsimp only
  generalize (Text.pieces '/' path).getLastD [] = name
  constructor
  · intro isExtension
    split at isExtension
    · next behindStem =>
        obtain ⟨stem, isName⟩ := exists_stem (Nat.lt_of_succ_lt behindStem)
        obtain rfl := Option.some.inj isExtension
        refine ⟨stem, ?_, isName, ?_⟩
        · rintro rfl
          have sameLength := congrArg List.length isName
          rw [List.nil_append, List.length_cons, List.length_reverse] at sameLength
          omega
        · intro isIn
          simpa using List.all_eq_true.mp List.all_takeWhile _ (List.mem_reverse.mp isIn)
    · cases isExtension
  · rintro ⟨stem, isStem, rfl, noDot⟩
    have nonempty := List.length_pos_of_ne_nil isStem
    rw [takeWhile_reverse_append noDot, List.reverse_reverse, if_pos]
    rw [List.length_reverse, List.length_append, List.length_cons]
    omega

/-- A source file has one of the extensions of sources. -/
theorem isSource_eq_true_iff
    {path : Path} :
    isSource path = true ↔ ∃ extension ∈ extensions, HasExtension path extension := by
  unfold isSource
  simp only [Option.any_eq_true, List.contains_iff_mem, extension?_eq_some_iff]
  exact exists_congr fun extension => and_comm

/-! ## Finding -/

theorem mem_loop_iff
    {first found : Path}
    {rest kept : List Path} :
    found ∈ List.eraseRepsBy.loop (· == ·) first rest kept ↔
      found ∈ kept ∨ found ∈ first :: rest := by
  induction rest generalizing first kept with
  | nil => simp [List.eraseRepsBy.loop, or_comm]
  | cons next rest inductionHypothesis =>
      unfold List.eraseRepsBy.loop
      split
      · next same =>
          rw [inductionHypothesis, beq_iff_eq.mp same]
          simp
      · rw [inductionHypothesis]
        simp [or_assoc, or_comm, or_left_comm]

/-- Putting paths in order drops none. -/
theorem mem_inOrder_iff
    {paths : List Path}
    {found : Path} :
    found ∈ inOrder paths ↔ found ∈ paths := by
  unfold inOrder List.eraseReps
  rw [← (List.mergeSort_perm paths _).mem_iff]
  cases paths.mergeSort fun left right => !(right < left) with
  | nil => rfl
  | cons first rest =>
      rw [List.eraseRepsBy, mem_loop_iff]
      simp

/-- What makes a file one of those that a search with paths as includes finds. -/
structure Selects (tree : FileTree) (base : Path) (scope : Scope) (path : Path) : Prop where
  /-- A path that the search starts from leads through folders that are entered to the file. -/
  reached :
    ∃ root part location content,
      Starts tree base scope root ∧
        tree.find? root = some part ∧
          (location, content) ∈ part.files ∧ Entered location ∧ path = along root location
  /-- The file is a source file. -/
  isSource : ∃ extension ∈ extensions, HasExtension path extension
  /-- No ignored path lies above the file. -/
  notUnder :
    ∀ text ∈ scope.ignores, Glob.hasWildcard text.toList = false →
      ¬ LiesUnder (base.join text.toList) path
  /-- No ignored pattern fits the path of the file. -/
  notFitting :
    ∀ text ∈ scope.ignores, Glob.hasWildcard text.toList = true → ¬ SpellsFitting text path
  /-- The file is none with tests, if these are left out. -/
  noTests : scope.skipsTests = true → ∀ text ∈ testPatterns, ¬ SpellsFitting text path

/-- The walks from some paths find the files to which one of them gets. -/
theorem mem_answer_walks_iff
    {tree : FileTree}
    {paths : List Path}
    {found : Path} :
    found ∈ (answer tree (walks paths)).flatten ↔
      ∃ root ∈ paths, ∃ part location content,
        tree.find? root = some part ∧
          (location, content) ∈ part.files ∧ Entered location ∧ found = along root location := by
  have told : Gives tree (walks paths)
      (paths.map fun path => (((tree.find? path).map Tree.shape).map (walk path)).getD []) := by
    refine gives_mapM (fun path => ?_) paths
    exact gives_bind (gives_shape? tree path) (gives_pure _)
  rw [told.answer_eq, List.mem_flatten]
  constructor
  · rintro ⟨_, isWalk, isFound⟩
    obtain ⟨root, isRoot, rfl⟩ := List.mem_map.mp isWalk
    cases isPart : tree.find? root with
    | none =>
        rw [isPart] at isFound
        cases isFound
    | some part =>
        rw [isPart] at isFound
        obtain ⟨location, isFile, isEntered, isAlong⟩ := mem_walk_iff.mp isFound
        obtain ⟨content, holds⟩ := Tree.mem_files_shape_iff.mp isFile
        exact ⟨root, isRoot, part, location, content, isPart, holds, isEntered, isAlong⟩
  · rintro ⟨root, isRoot, part, location, content, isPart, holds, isEntered, isAlong⟩
    refine ⟨_, List.mem_map_of_mem isRoot, ?_⟩
    rw [isPart]
    exact mem_walk_iff.mpr
      ⟨location, Tree.mem_files_shape_iff.mpr ⟨content, holds⟩, isEntered, isAlong⟩

/-- What a search finds are the source files that its walks find, but for what is left out. -/
theorem answer_find
    (tree : FileTree)
    (base : Path)
    (scope : Scope) :
    answer tree (find base scope) = inOrder
      ((answer tree (walks (answer tree (roots base scope)))).flatten.filter fun path =>
        isSource path && !(answer tree (scope.exclusion base)).covers path) := by
  rw [find_eq]
  refine Gives.answer_eq ?_
  exact gives_bind ((looks_exclusion scope base).gives tree)
    (gives_bind ((looks_roots base scope).gives tree)
      (gives_bind ((looks_walks _).gives tree) (gives_pure _)))

/-- The paths that are found are those that are selected. -/
theorem mem_answer_find_iff
    {tree : FileTree}
    {base path : Path}
    {scope : Scope}
    (literal : ∀ text ∈ scope.includes, Glob.hasWildcard text.toList = false) :
    path ∈ answer tree (find base scope) ↔ Selects tree base scope path := by
  rw [answer_find, mem_inOrder_iff, List.mem_filter, Bool.and_eq_true,
    Bool.not_eq_true', ← Bool.not_eq_true, mem_answer_walks_iff, isSource_eq_true_iff,
    covers_exclusion_iff, not_or]
  simp only [mem_answer_roots_iff literal]
  constructor
  · rintro ⟨⟨root, isStart, part, location, content, reached⟩, isSource, notIgnored, noTests⟩
    refine ⟨⟨root, part, location, content, isStart, reached⟩, isSource, ?_, ?_, ?_⟩
    · intro text isText isPath isUnder
      refine notIgnored ⟨text, isText, ?_⟩
      rwa [Ignores, isPath, if_neg Bool.false_ne_true]
    · intro text isText isPattern fits
      refine notIgnored ⟨text, isText, ?_⟩
      rwa [Ignores, isPattern, if_pos rfl]
    · exact fun skips text isText fits => noTests ⟨skips, text, isText, fits⟩
  · rintro ⟨⟨root, part, location, content, isStart, reached⟩, isSource, notUnder, notFitting,
      noTests⟩
    refine ⟨⟨root, isStart, part, location, content, reached⟩, isSource, ?_, ?_⟩
    · rintro ⟨text, isText, ignores⟩
      unfold Ignores at ignores
      split at ignores
      · next isPattern => exact notFitting text isText isPattern ignores
      · next isPath => exact notUnder text isText (Bool.eq_false_iff.mpr isPath) ignores
    · rintro ⟨skips, text, isText, fits⟩
      exact noTests skips text isText fits

/-- A search whose includes are paths changes no file.  Whatever was told before, it gives the paths
of the files that the scope selects, each of them once and in order. -/
theorem find_selects
    (tree : FileTree)
    (base : Path)
    (scope : Scope)
    (literal : ∀ text ∈ scope.includes, Glob.hasWildcard text.toList = false) :
    ∃ paths,
      Gives tree (find base scope) paths ∧
        paths.Pairwise (· < ·) ∧ ∀ path, path ∈ paths ↔ Selects tree base scope path :=
  ⟨answer tree (find base scope), (looks_find base scope).gives tree, pairwise_find tree base scope,
    fun _ => mem_answer_find_iff literal⟩

/-- A folder of source files, some of which are left out. -/
def shopTree : FileTree :=
  .folder [("home".toList, .folder [
    ("notes.md".toList, .file .empty),
    ("src".toList, .folder [
      ("Cart.tsx".toList, .file .empty),
      ("Cart.test.tsx".toList, .file .empty),
      ("dist".toList, .folder [("out.js".toList, .file .empty)]),
      ("old".toList, .folder [("Tab.jsx".toList, .file .empty)]),
      ("types".toList, .folder [("cart.ts".toList, .file .empty)])])])]

/-- A scope with includes that overlap or lead nowhere, and with a pattern that fits a folder but no
file in it. -/
def shopScope : Scope where
  includes := ["src", "src/old/..", "lib"]
  ignores := ["src/types", "**/old"]
  skipsTests := true

/-- In a shop, a file under a second include is found, and one under an ignored pattern is not. -/
theorem find_selects_in_shop :
    (∀ text ∈ shopScope.includes, Glob.hasWildcard text.toList = false) ∧
      ∃ paths,
        Gives shopTree (find "/home".toList shopScope) paths ∧
          "/home/src/old/Tab.jsx".toList ∈ paths ∧ "/home/src/types/cart.ts".toList ∉ paths := by
  have literal : ∀ text ∈ shopScope.includes, Glob.hasWildcard text.toList = false := by decide
  obtain ⟨paths, gives, -, selects⟩ := find_selects shopTree "/home".toList shopScope literal
  refine ⟨literal, paths, gives, (selects _).mpr ?_, mt (selects _).mp fun selected => ?_⟩
  · exact
      { reached := ⟨"/home/src".toList, _, ["old".toList, "Tab.jsx".toList], .empty,
          .included "src" (by decide) (by decide +kernel), rfl, by simp [Tree.files, Tree.filesOf],
          by unfold Entered; decide, by decide +kernel⟩
        isSource := ⟨"jsx".toList, by decide, extension?_eq_some_iff.mp (by decide +kernel)⟩
        notUnder := by decide +kernel
        notFitting := by decide +kernel
        noTests := by decide +kernel }
  · exact selected.notUnder "src/types" (by decide) (by decide) (by decide +kernel)

end Discovery
end KeyedText
