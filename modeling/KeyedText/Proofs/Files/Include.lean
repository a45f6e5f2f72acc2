import KeyedText.Proofs.Files.Expansion
import KeyedText.Settings.Check

/-!
# Included patterns

An included pattern is put behind the folder that it is relative to, and what is
searched for is the whole path, read as a pattern from the top.  So a search
starts from the folders that match the pattern in the folder if no step of the
folder holds a wildcard.  Otherwise such a step is read as a pattern too: other
folders match it, and the folder itself need not.
-/

namespace KeyedText
namespace Settings

theorem patternFault?_eq_none_iff
    {text : String} :
    patternFault? text = none ↔ ∃ glob, Glob.Pattern.ofText text.toList = .ok glob := by
  unfold patternFault?
  cases Glob.Pattern.ofText text.toList with
  | ok glob => exact iff_of_true rfl ⟨glob, rfl⟩
  | error fault => exact iff_of_false nofun nofun

end Settings

namespace Path

/-- The steps that stand in front of those of a path if it is relative to a folder. -/
def front (folder path : Path) : List (List Char) :=
  if path.isAbsolute then [] else folder.steps

theorem steps_join_eq
    {folder : Path}
    (absolute : isAbsolute folder = true)
    (path : Path) :
    (folder.join path).steps = front folder path ++ path.steps := by
  unfold front
  cases isPath : isAbsolute path with
  | true => rw [join, if_pos isPath, if_pos rfl, List.nil_append]
  | false => rw [steps_join absolute isPath, if_neg Bool.false_ne_true]

/-- The path behind a folder without wildcards is a pattern if the path itself is one. -/
theorem exists_ofText_join
    {folder path : Path}
    (absolute : isAbsolute folder = true)
    (literal : ∀ step ∈ front folder path, Glob.IsLiteral step)
    {glob : Glob.Pattern}
    (reads : Glob.Pattern.ofText path = .ok glob) :
    ∃ whole, Glob.Pattern.ofText (folder.join path) = .ok whole := by
  unfold front at literal
  cases isPath : isAbsolute path with
  | true => exact ⟨glob, by rwa [join, if_pos isPath]⟩
  | false =>
      rw [isPath, if_neg Bool.false_ne_true] at literal
      rw [join_eq_opened_append isPath]
      have isOpened := opened_eq_flatMap_steps absolute
      refine Glob.exists_ofText_append ?_ ?_ reads
      · rw [isOpened, Glob.isLiteral_cons_iff]
        refine ⟨by decide, ?_⟩
        generalize folder.steps = steps at literal
        induction steps with
        | nil => exact Glob.isLiteral_nil
        | cons step steps inductionHypothesis =>
            obtain ⟨isLiteral, others⟩ := List.forall_mem_cons.mp literal
            rw [List.flatMap_cons, Glob.isLiteral_append_iff, Glob.isLiteral_append_iff]
            exact ⟨⟨isLiteral, by decide⟩, inductionHypothesis others⟩
      · rw [isOpened]
        cases isRow : folder.steps using List.reverseRecOn with
        | nil => rfl
        | append_singleton steps step =>
            rw [List.flatMap_append, List.flatMap_singleton, ← List.append_assoc,
              ← List.cons_append, List.getLast?_concat]

end Path

namespace Discovery

open World

/-! ## Matching -/

/-- Whether names match the steps of a pattern. -/
def Matches (steps : List (List Char)) (names : Location) : Prop :=
  ∃ parts, List.Forall₂ Spells steps parts ∧ Leads parts names

theorem Spells.eq_name
    {step : List Char}
    (literal : Glob.IsLiteral step)
    {part : Part}
    (spells : Spells step part) :
    part = .name step := by
  cases spells with
  | name isLiteral => rfl
  | pattern wild single reads => exact absurd literal wild
  | deep => exact absurd literal not_isLiteral_stars

theorem matches_cons_iff_of_isLiteral
    {step : List Char}
    (literal : Glob.IsLiteral step)
    {steps : List (List Char)}
    {names : Location} :
    Matches (step :: steps) names ↔ ∃ rest, Matches steps rest ∧ names = step :: rest := by
  unfold Matches
  simp only [List.forall₂_cons_left_iff]
  constructor
  · rintro ⟨_, ⟨part, parts, spells, areSpelled, rfl⟩, leads⟩
    rw [spells.eq_name literal] at leads
    obtain ⟨rest, isRow, leadsBehind⟩ := leads_name_iff.mp leads
    exact ⟨rest, ⟨parts, areSpelled, leadsBehind⟩, isRow⟩
  · rintro ⟨rest, ⟨parts, areSpelled, leads⟩, rfl⟩
    exact ⟨_, ⟨_, parts, .name literal, areSpelled, rfl⟩, .name leads⟩

/-- Steps without wildcards match themselves alone. -/
theorem matches_append_iff_of_areLiteral
    {front steps : List (List Char)}
    (literal : ∀ step ∈ front, Glob.IsLiteral step)
    {names : Location} :
    Matches (front ++ steps) names ↔ ∃ rest, Matches steps rest ∧ names = front ++ rest := by
  induction front generalizing names with
  | nil => exact ⟨fun leads => ⟨names, leads, rfl⟩, fun ⟨_, leads, same⟩ => same ▸ leads⟩
  | cons step front inductionHypothesis =>
      obtain ⟨isLiteral, others⟩ := List.forall_mem_cons.mp literal
      rw [List.cons_append, matches_cons_iff_of_isLiteral isLiteral]
      simp only [inductionHypothesis others]
      constructor
      · rintro ⟨_, ⟨rest, leads, rfl⟩, rfl⟩
        exact ⟨rest, leads, rfl⟩
      · rintro ⟨rest, leads, rfl⟩
        exact ⟨_, ⟨rest, leads, rfl⟩, rfl⟩

theorem slash_notMem_of_isDots
    {name : List Char}
    (areDots : isDots name = true) :
    '/' ∉ name := by
  rw [isDots, Bool.or_eq_true, beq_iff_eq, beq_iff_eq] at areDots
  rcases areDots with rfl | rfl <;> decide

/-- What holds of literal steps, of what is held against the other ones and of all names of entries
holds of the names that match. -/
theorem Matches.forall_mem
    {steps : List (List Char)}
    {holds : List Char → Prop}
    (ofLiteral : ∀ step ∈ steps, Glob.IsLiteral step → holds step)
    (ofPattern :
      ∀ step ∈ steps, ¬Glob.IsLiteral step →
        ∀ glob, Glob.Pattern.ofText step = .ok glob → ∀ name, Offered glob name → holds name)
    (ofName : ∀ name, Tree.IsName name → holds name)
    {names : Location}
    (isMatch : Matches steps names) :
    ∀ name ∈ names, holds name := by
  obtain ⟨parts, areSpelled, leads⟩ := isMatch
  induction leads generalizing steps with
  | nil => exact List.forall_mem_nil _
  | name rest inductionHypothesis =>
      obtain ⟨step, steps, spells, behind, rfl⟩ := List.forall₂_cons_right_iff.mp areSpelled
      obtain ⟨isLiteral, areLiteral⟩ := List.forall_mem_cons.mp ofLiteral
      obtain ⟨-, arePatterns⟩ := List.forall_mem_cons.mp ofPattern
      cases spells with
      | name literal =>
          exact List.forall_mem_cons.mpr
            ⟨isLiteral literal, inductionHypothesis areLiteral arePatterns behind⟩
  | pattern offered fits rest inductionHypothesis =>
      obtain ⟨step, steps, spells, behind, rfl⟩ := List.forall₂_cons_right_iff.mp areSpelled
      obtain ⟨-, areLiteral⟩ := List.forall_mem_cons.mp ofLiteral
      obtain ⟨isPattern, arePatterns⟩ := List.forall_mem_cons.mp ofPattern
      cases spells with
      | pattern wild single reads =>
          exact List.forall_mem_cons.mpr
            ⟨isPattern wild _ reads _ offered, inductionHypothesis areLiteral arePatterns behind⟩
  | deep areNames isName nonempty rest inductionHypothesis =>
      obtain ⟨step, steps, spells, behind, rfl⟩ := List.forall₂_cons_right_iff.mp areSpelled
      obtain ⟨-, areLiteral⟩ := List.forall_mem_cons.mp ofLiteral
      obtain ⟨-, arePatterns⟩ := List.forall_mem_cons.mp ofPattern
      exact List.forall_mem_append.mpr
        ⟨fun name isBetween => ofName name (areNames name isBetween),
          inductionHypothesis areLiteral arePatterns behind⟩

/-- What matches steps without slashes has none. -/
theorem Matches.plain
    {steps : List (List Char)}
    (plain : ∀ step ∈ steps, '/' ∉ step)
    {names : Location}
    (isMatch : Matches steps names) :
    ∀ name ∈ names, '/' ∉ name := by
  refine isMatch.forall_mem (fun step isStep _ => plain step isStep) ?_ fun _ isName => isName.plain
  exact fun _ _ _ _ _ name offered =>
    offered.elim (·.plain) fun isDot => slash_notMem_of_isDots isDot.1

/-! ## Starting -/

theorem parts_eq_ok_iff
    {path : Path}
    (absolute : path.isAbsolute = true)
    {all : List Part} :
    parts path = .ok all ↔
      (∃ glob, Glob.Pattern.ofText path = .ok glob) ∧
        ∃ spelled, List.Forall₂ Spells path.steps spelled ∧ all = spelled.foldr Part.push [] := by
  have areSpelled (spelled : List Part) :
      List.Forall₂ Spells path.steps spelled ↔
        (Text.endedPieces '/' (path.drop 1)).mapM Part.ofText = .ok spelled := by
    rw [← Path.steps_eq_of_isAbsolute absolute]
    exact (mapM_ofText_eq_ok_iff fun _ => Path.slash_notMem_of_mem_steps).symm
  simp only [areSpelled]
  unfold parts
  cases Glob.Pattern.ofText path with
  | error fault => exact iff_of_false nofun nofun
  | ok glob =>
      cases (Text.endedPieces '/' (path.drop 1)).mapM Part.ofText with
      | error fault => exact iff_of_false nofun fun ⟨_, _, isRead, _⟩ => nomatch isRead
      | ok spelled =>
          simp only [bind, Except.bind, pure, Except.pure, Except.ok.injEq, exists_eq', true_and,
            exists_eq_left']
          exact eq_comm

/-- A search starts for a pattern from the folders that match the whole path of it. -/
theorem mem_answer_starts_iff
    {tree : FileTree}
    (proper : tree.Proper)
    {base root : Path}
    (absolute : base.isAbsolute = true)
    {text : String}
    (wild : Glob.hasWildcard text.toList = true) :
    root ∈ answer tree (starts base text) ↔
      (∃ glob, Glob.Pattern.ofText (base.join text.toList) = .ok glob) ∧
        tree.HasFolder root ∧
          ∃ names, Matches (base.join text.toList).steps names ∧ root = along ['/'] names := by
  have isWhole := Path.isAbsolute_join absolute text.toList
  cases areParts : parts (base.join text.toList) with
  | error fault =>
      have told : Gives tree (starts base text) [] := by
        unfold starts
        rw [if_pos wild, areParts]
        exact gives_bind (gives_tell tree _) (gives_pure _)
      rw [told.answer_eq]
      refine iff_of_false List.not_mem_nil fun ⟨reads, _, names, ⟨spelled, areSpelled, _⟩, _⟩ => ?_
      have areRead := (parts_eq_ok_iff isWhole).mpr ⟨reads, spelled, areSpelled, rfl⟩
      rw [areParts] at areRead
      cases areRead
  | ok all =>
      have told : Gives tree (starts base text)
          ((answer tree (expand all ['/'])).filter fun found =>
            (tree.find? found).map Tree.kind == some .folder) := by
        unfold starts
        rw [if_pos wild, areParts]
        exact gives_bind ((looks_expand all _).gives tree)
          (gives_filterM (gives_isFolder tree) _)
      obtain ⟨reads, spelled, areSpelled, rfl⟩ := (parts_eq_ok_iff isWhole).mp areParts
      rw [told.answer_eq, List.mem_filter, beq_iff_eq, ← Tree.hasFolder_iff_kind]
      constructor
      · rintro ⟨isRoot, hasFolder⟩
        obtain ⟨names, leads, isAlong⟩ :=
          exists_leads_of_mem_expand proper (unpaired_foldr_push spelled) isRoot
        rw [leads_foldr_push_iff] at leads
        exact ⟨reads, hasFolder, names, ⟨spelled, areSpelled, leads⟩, isAlong⟩
      · rintro ⟨-, hasFolder, names, isMatch, rfl⟩
        refine ⟨?_, hasFolder⟩
        have plain := isMatch.plain fun _ => Path.slash_notMem_of_mem_steps
        obtain ⟨other, areOther, leads⟩ := isMatch
        have isSame := (parts_eq_ok_iff isWhole).mpr ⟨reads, other, areOther, rfl⟩
        rw [areParts] at isSame
        rw [Except.ok.inj isSame]
        exact mem_expand_of_leads (unpaired_foldr_push other)
          ((leads_foldr_push_iff other names).mpr leads) plain hasFolder

/-- For a pattern that settings may hold a search starts from the folders that match the steps in
front and those of the pattern, provided that the whole path is a pattern as well.  If no step in
front holds a wildcard, these are the folders behind that match the steps of the pattern. -/
theorem starts_at_matches
    (tree : FileTree)
    (proper : tree.Proper)
    (base : Path)
    (absolute : base.isAbsolute = true)
    (text : String)
    (wild : Glob.hasWildcard text.toList = true)
    (accepted : Settings.patternFault? text = none) :
    ∃ roots,
      Gives tree (starts base text) roots ∧
        (∀ root, root ∈ roots ↔
          (∃ glob, Glob.Pattern.ofText (base.join text.toList) = .ok glob) ∧
            tree.HasFolder root ∧
              ∃ names, Matches (Path.front base text.toList ++ Path.steps text.toList) names ∧
                root = along ['/'] names) ∧
        ((∀ step ∈ Path.front base text.toList, Glob.IsLiteral step) →
          ∀ root, root ∈ roots ↔
            tree.HasFolder root ∧
              ∃ names, Matches (Path.steps text.toList) names ∧
                root = along ['/'] (Path.front base text.toList ++ names)) := by
  obtain ⟨glob, reads⟩ := Settings.patternFault?_eq_none_iff.mp accepted
  refine ⟨answer tree (starts base text), (looks_starts base text).gives tree, fun root => ?_,
    fun literal root => ?_⟩
  · rw [mem_answer_starts_iff proper absolute wild, Path.steps_join_eq absolute]
  · have isPattern := Path.exists_ofText_join absolute literal reads
    rw [mem_answer_starts_iff proper absolute wild, Path.steps_join_eq absolute,
      and_iff_right isPattern]
    refine and_congr_right' ?_
    simp only [matches_append_iff_of_areLiteral literal]
    constructor
    · rintro ⟨_, ⟨names, isMatch, rfl⟩, isAlong⟩
      exact ⟨names, isMatch, isAlong⟩
    · rintro ⟨names, isMatch, isAlong⟩
      exact ⟨_, ⟨names, isMatch, rfl⟩, isAlong⟩

/-- Two folders: the name of the first of them is, read as a pattern, that of the second. -/
def bracketTree : FileTree :=
  .folder [("home".toList, .folder [
    ("app[1]".toList, .folder [("src".toList, .folder [("ui".toList, .folder [])])]),
    ("app1".toList, .folder [("src".toList, .folder [("lib".toList, .folder [])])])])]

/-- In a folder with a wildcard in its name a search starts from what is in another folder. -/
theorem starts_at_matches_in_brackets :
    bracketTree.Proper ∧ Path.isAbsolute "/home/app[1]".toList = true ∧
      Glob.hasWildcard "src/*".toList = true ∧ Settings.patternFault? "src/*" = none ∧
        ∃ roots,
          Gives bracketTree (starts "/home/app[1]".toList "src/*") roots ∧
            "/home/app1/src/lib".toList ∈ roots ∧
              bracketTree.HasFolder "/home/app[1]/src/ui".toList ∧
                "/home/app[1]/src/ui".toList ∉ roots := by
  have proper : bracketTree.Proper := by
    simp only [bracketTree, Tree.proper_folder_iff, List.forall_mem_cons, List.not_mem_nil,
      false_implies, implies_true]
    decide
  have absolute : Path.isAbsolute "/home/app[1]".toList = true := by decide
  have wild : Glob.hasWildcard "src/*".toList = true := by decide
  have accepted : Settings.patternFault? "src/*" = none := by decide +kernel
  obtain ⟨roots, gives, areMatches, -⟩ :=
    starts_at_matches bracketTree proper "/home/app[1]".toList absolute "src/*" wild accepted
  refine ⟨proper, absolute, wild, accepted, roots, gives, (areMatches _).mpr ?_, ?_, ?_⟩
  · refine ⟨⟨_, toOption_eq_some_iff.mp (Option.some_get (by decide +kernel)).symm⟩,
      Tree.hasFolder_iff_kind.mpr (by decide +kernel),
      ["home".toList, "app1".toList, "src".toList, "lib".toList], ?_, by decide +kernel⟩
    refine ⟨[.name "home".toList, .pattern ⟨[.char 'a', .char 'p', .char 'p', .within [.one '1']]⟩,
      .name "src".toList, .pattern ⟨[.many]⟩], ?_, ?_⟩
    · rw [← mapM_ofText_eq_ok_iff (by decide +kernel), ← toOption_eq_some_iff]
      decide +kernel
    · exact .name (.pattern (.inl (by decide)) (by decide)
        (.name (.pattern (.inl (by decide)) (by decide) .nil)))
  · exact Tree.hasFolder_iff_kind.mpr (by decide +kernel)
  · rw [← gives.answer_eq]
    decide +kernel

end Discovery
end KeyedText
