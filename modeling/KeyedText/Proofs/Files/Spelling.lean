import KeyedText.Proofs.Files.Include

/-!
# Files under several paths

What a search finds are paths, each of them once; a file that can be reached
under several of them can be found under each.  Two paths lead to the same file
exactly if their steps, with the two dots carried out and idle ones left out,
are the same.  Where the base and the includes are spelled in names alone, every
file is found under one path at most.
-/

namespace KeyedText
namespace Path

/-- The last name of a path with an extension is there, so the path ends with no slash. -/
theorem opened_eq_append_of_hasExtension
    {path : Path}
    {extension : List Char}
    (hasExtension : Discovery.HasExtension path extension) :
    path.opened = path ++ ['/'] := by
  obtain ⟨stem, -, isLast, -⟩ := hasExtension
  unfold opened
  rw [if_neg]
  rw [Bool.or_eq_true, List.isEmpty_iff, beq_iff_eq]
  rintro (rfl | ends)
  · have noName : (Text.pieces '/' []).getLastD [] = [] := rfl
    rw [noName] at isLast
    exact List.append_ne_nil_of_right_ne_nil stem (List.cons_ne_nil _ _) isLast.symm
  · obtain ⟨front, rfl⟩ := List.getLast?_eq_some_iff.mp ends
    rw [Text.pieces_append_cons] at isLast
    have noName : Text.pieces '/' [] = [[]] := rfl
    rw [noName, List.getLastD_concat] at isLast
    exact List.append_ne_nil_of_right_ne_nil stem (List.cons_ne_nil _ _) isLast.symm

/-- Paths of files from the top are told by their steps. -/
theorem eq_of_steps_eq
    {first second : Path}
    (isFirst : isAbsolute first = true)
    (isSecond : isAbsolute second = true)
    (opensFirst : first.opened = first ++ ['/'])
    (opensSecond : second.opened = second ++ ['/'])
    (same : first.steps = second.steps) :
    first = second := by
  have sameOpened : first.opened = second.opened := by
    rw [opened_eq_flatMap_steps isFirst, opened_eq_flatMap_steps isSecond, same]
  rw [opensFirst, opensSecond] at sameOpened
  exact List.append_cancel_right sameOpened

end Path

namespace Tree

/-- Paths that lead somewhere lead to the same place exactly if their steps do. -/
theorem samePlace_iff
    {tree : Tree α}
    {first second : Path}
    (leadsFirst : (tree.place? first).isSome)
    (leadsSecond : (tree.place? second).isSome) :
    tree.SamePlace first second ↔ first.steps.foldl goOn [] = second.steps.foldl goOn [] := by
  obtain ⟨front, isFront⟩ := Option.isSome_iff_exists.mp leadsFirst
  obtain ⟨back, isBack⟩ := Option.isSome_iff_exists.mp leadsSecond
  rw [SamePlace, and_iff_right leadsFirst, isFront, isBack, ← eq_foldl_steps_of_place? isFront,
    ← eq_foldl_steps_of_place? isBack, Option.some.injEq]

end Tree

namespace Discovery

open World

/-! ## Spelling -/

/-- Whether a base and the includes of a scope are spelled from the top in names alone: no step is
empty or made of dots, and no step of a pattern can match dots. -/
structure Straight (base : Path) (scope : Scope) : Prop where
  absolute : base.isAbsolute = true
  ofBase : scope.includes = [] → ∀ step ∈ base.steps, Tree.IsName step
  ofIncludes :
    ∀ text ∈ scope.includes, ∀ step ∈ (base.join text.toList).steps, Tree.IsName step
  ofPatterns :
    ∀ text ∈ scope.includes, Glob.hasWildcard text.toList = true →
      ∀ step ∈ (base.join text.toList).steps, Glob.IsLiteral step ∨ step.head? ≠ some '.'

/-- Includes can overlap all the same. -/
example :
    Straight "/home".toList
      { includes := ["src", "src/*", "**/hotel", "src"], ignores := [], skipsTests := true } where
  absolute := by decide
  ofBase := nofun
  ofIncludes := by decide
  ofPatterns := by decide

/-- What matches steps that are names, and start with no dot if they hold a wildcard, are names. -/
theorem Matches.areNames
    {steps : List (List Char)}
    (areNames : ∀ step ∈ steps, Tree.IsName step)
    (noDots : ∀ step ∈ steps, Glob.IsLiteral step ∨ step.head? ≠ some '.')
    {names : Location}
    (isMatch : Matches steps names) :
    ∀ name ∈ names, Tree.IsName name := by
  refine isMatch.forall_mem (fun step isStep _ => areNames step isStep) ?_ fun _ isName => isName
  intro step isStep wild glob reads name offered
  refine offered.resolve_right fun isDot => ?_
  exact (noDots step isStep).resolve_left wild (Glob.head?_of_ofText reads isDot.2)

variable
    {tree : FileTree}
    {base root path : Path}
    {scope : Scope}

theorem isAbsolute_of_mem_roots
    (proper : tree.Proper)
    (absolute : base.isAbsolute = true)
    (isRoot : root ∈ answer tree (roots base scope)) :
    root.isAbsolute = true := by
  obtain ⟨-, rfl⟩ | ⟨text, -, isStart⟩ := mem_answer_roots.mp isRoot
  · exact absolute
  · cases wild : Glob.hasWildcard text.toList with
    | true =>
        obtain ⟨-, -, names, -, rfl⟩ := (mem_answer_starts_iff proper absolute wild).mp isStart
        exact isAbsolute_along rfl names
    | false =>
        rw [(gives_starts wild).answer_eq] at isStart
        split at isStart
        · rw [List.mem_singleton.mp isStart]
          exact Path.isAbsolute_join absolute _
        · cases isStart

/-- A search that is spelled in names starts from paths that are. -/
theorem isName_of_mem_roots
    (proper : tree.Proper)
    (straight : Straight base scope)
    (isRoot : root ∈ answer tree (roots base scope)) :
    ∀ step ∈ root.steps, Tree.IsName step := by
  obtain ⟨noIncludes, rfl⟩ | ⟨text, isInclude, isStart⟩ := mem_answer_roots.mp isRoot
  · exact straight.ofBase noIncludes
  · have areNames := straight.ofIncludes text isInclude
    cases wild : Glob.hasWildcard text.toList with
    | true =>
        obtain ⟨-, -, names, isMatch, rfl⟩ :=
          (mem_answer_starts_iff proper straight.absolute wild).mp isStart
        have named := isMatch.areNames areNames (straight.ofPatterns text isInclude wild)
        rw [steps_along rfl named]
        exact named
    | false =>
        rw [(gives_starts wild).answer_eq] at isStart
        split at isStart
        · rwa [List.mem_singleton.mp isStart]
        · cases isStart

/-! ## Finding -/

/-- How a search gets to what it finds. -/
theorem exists_of_mem_find
    (proper : tree.Proper)
    (isFound : path ∈ answer tree (find base scope)) :
    ∃ root ∈ answer tree (roots base scope), ∃ front names content,
      path = along root names ∧ (∀ name ∈ names, Tree.IsName name) ∧
        tree.place? path = some (front ++ names) ∧
          tree.get? (front ++ names) = some (.file content) := by
  rw [answer_find, mem_inOrder_iff, List.mem_filter, mem_answer_walks_iff] at isFound
  obtain ⟨⟨root, isRoot, part, names, content, isPart, isFile, -, rfl⟩, -⟩ := isFound
  obtain ⟨front, leads, isThere⟩ := Tree.find?_eq_some_iff.mp isPart
  have properPart := proper.get? isThere
  have areNames := properPart.isName_of_mem_files isFile
  have isContent : tree.get? (front ++ names) = some (.file content) := by
    rw [Tree.get?_append, isThere, Option.bind_some]
    exact properPart.get?_of_mem_files isFile
  have leadsOn := Tree.place?_along_of_get? areNames leads (Option.isSome_of_eq_some isContent)
  exact ⟨root, isRoot, front, names, content, rfl, areNames, leadsOn, isContent⟩

theorem isAbsolute_of_mem_find
    (proper : tree.Proper)
    (absolute : base.isAbsolute = true)
    (isFound : path ∈ answer tree (find base scope)) :
    path.isAbsolute = true := by
  obtain ⟨root, isRoot, front, names, content, rfl, -⟩ := exists_of_mem_find proper isFound
  exact isAbsolute_along (isAbsolute_of_mem_roots proper absolute isRoot) names

theorem opened_of_mem_find
    (isFound : path ∈ answer tree (find base scope)) :
    path.opened = path ++ ['/'] := by
  rw [answer_find, mem_inOrder_iff, List.mem_filter, Bool.and_eq_true,
    isSource_eq_true_iff] at isFound
  obtain ⟨-, ⟨extension, -, hasExtension⟩, -⟩ := isFound
  exact Path.opened_eq_append_of_hasExtension hasExtension

/-- In a search that is spelled in names the steps of what is found are where it is. -/
theorem place?_of_mem_find
    (proper : tree.Proper)
    (straight : Straight base scope)
    (isFound : path ∈ answer tree (find base scope)) :
    tree.place? path = some path.steps := by
  obtain ⟨root, isRoot, front, names, content, rfl, areNames, leads, -⟩ :=
    exists_of_mem_find proper isFound
  have areSteps : ∀ step ∈ (along root names).steps, Tree.IsName step := by
    rw [steps_along (isAbsolute_of_mem_roots proper straight.absolute isRoot) areNames]
    exact List.forall_mem_append.mpr
      ⟨isName_of_mem_roots proper straight isRoot, areNames⟩
  rw [leads, Tree.eq_foldl_steps_of_place? leads, Tree.foldl_goOn_of_areNames areSteps,
    List.nil_append]

/-- In a search that is spelled in names only one path leads to a file. -/
theorem eq_of_samePlace
    (proper : tree.Proper)
    (straight : Straight base scope)
    {first second : Path}
    (isFirst : first ∈ answer tree (find base scope))
    (isSecond : second ∈ answer tree (find base scope))
    (same : tree.SamePlace first second) :
    first = second := by
  have sameSteps := same.2
  rw [place?_of_mem_find proper straight isFirst,
    place?_of_mem_find proper straight isSecond] at sameSteps
  exact Path.eq_of_steps_eq (isAbsolute_of_mem_find proper straight.absolute isFirst)
    (isAbsolute_of_mem_find proper straight.absolute isSecond) (opened_of_mem_find isFirst)
    (opened_of_mem_find isSecond) (Option.some.inj sameSteps)

/-- A search finds files, each path of them once.  Two of the paths lead to the same file exactly if
their steps lead to the same place, and if the search is spelled in names, none do but those that
are the same. -/
theorem find_repeats
    (tree : FileTree)
    (proper : tree.Proper)
    (base : Path)
    (scope : Scope) :
    ∃ paths,
      Gives tree (find base scope) paths ∧
        paths.Pairwise (· < ·) ∧
        (∀ path ∈ paths, ∃ content, tree.find? path = some (.file content)) ∧
        (∀ first ∈ paths, ∀ second ∈ paths,
          tree.SamePlace first second ↔
            first.steps.foldl Tree.goOn [] = second.steps.foldl Tree.goOn []) ∧
        (Straight base scope →
          ∀ first ∈ paths, ∀ second ∈ paths, tree.SamePlace first second → first = second) := by
  have leads {path : Path} (isFound : path ∈ answer tree (find base scope)) :
      (tree.place? path).isSome := by
    obtain ⟨_, _, _, _, _, _, _, leads, _⟩ := exists_of_mem_find proper isFound
    exact Option.isSome_of_eq_some leads
  refine ⟨answer tree (find base scope), (looks_find base scope).gives tree,
    pairwise_find tree base scope, fun path isFound => ?_, fun first isFirst second isSecond => ?_,
    fun straight first isFirst second isSecond => ?_⟩
  · obtain ⟨_, _, front, names, content, _, _, leads, isContent⟩ :=
      exists_of_mem_find proper isFound
    exact ⟨content, Tree.find?_eq_some_iff.mpr ⟨_, leads, isContent⟩⟩
  · exact Tree.samePlace_iff (leads isFirst) (leads isSecond)
  · exact eq_of_samePlace proper straight isFirst isSecond

/-- A folder with one source file. -/
def lobbyTree : FileTree :=
  .folder [("home".toList, .folder [("src".toList, .folder [("Lobby.tsx".toList, .file .empty)])])]

/-- A scope with one folder under two paths. -/
def lobbyScope : Scope where
  includes := ["src", "./src"]
  ignores := []
  skipsTests := true

/-- Under two paths that lead to one folder a file is found twice. -/
theorem find_repeats_in_lobby :
    lobbyTree.Proper ∧
      ∃ paths,
        Gives lobbyTree (find "/home".toList lobbyScope) paths ∧
          "/home/src/Lobby.tsx".toList ∈ paths ∧ "/home/./src/Lobby.tsx".toList ∈ paths ∧
            lobbyTree.SamePlace "/home/src/Lobby.tsx".toList "/home/./src/Lobby.tsx".toList := by
  have proper : lobbyTree.Proper := by
    simp only [lobbyTree, Tree.proper_folder_iff, Tree.proper_file_iff, List.forall_mem_cons,
      List.not_mem_nil, false_implies, implies_true]
    decide
  obtain ⟨paths, gives, -, -, same, -⟩ := find_repeats lobbyTree proper "/home".toList lobbyScope
  have isFirst : "/home/src/Lobby.tsx".toList ∈ paths := by
    rw [← gives.answer_eq, answer_find, mem_inOrder_iff]
    decide +kernel
  have isSecond : "/home/./src/Lobby.tsx".toList ∈ paths := by
    rw [← gives.answer_eq, answer_find, mem_inOrder_iff]
    decide +kernel
  exact ⟨proper, paths, gives, isFirst, isSecond,
    (same _ isFirst _ isSecond).mpr (by decide +kernel)⟩

end Discovery
end KeyedText
