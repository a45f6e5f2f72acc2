import KeyedText.Proofs.Files.Spelling

/-!
# Ignored folders

A folder can be ignored under its path, or with a pattern for everything in it.
The path is put behind the base of the search and leaves out what lies under it.
The pattern is held against whole paths as it stands, and leaves out what starts
with the text of the folder.  Since a search with a base from the top finds paths
from the top, a pattern for a folder that is relative to the base leaves out
nothing.
-/

namespace KeyedText
namespace Glob

/-- A pattern for everything in a folder without wildcards. -/
theorem ofText_inside
    {folder : List Char}
    (literal : IsLiteral folder) :
    Pattern.ofText (folder ++ ['/', '*', '*']) =
      .ok ⟨(folder ++ ['/']).map Token.char ++ [.deep]⟩ := by
  have isFront : IsLiteral (folder ++ ['/']) :=
    isLiteral_append_iff.mpr ⟨literal, by decide⟩
  have reads := readFrom_append 0 none [] isFront ['*', '*']
  rw [List.append_assoc, List.singleton_append, List.append_nil, List.getLast?_concat,
    Option.some_or, readFrom, Option.all_some, beq_self_eq_true, if_pos rfl] at reads
  rw [ofText_eq_ok_iff, reads]
  simp [pushDeep]

theorem fits_inside_iff
    {folder text : List Char} :
    (Pattern.mk ((folder ++ ['/']).map Token.char ++ [.deep])).fits text = true ↔
      folder ++ ['/'] <+: text := by
  rw [Pattern.fits, fits_char_append_iff]
  constructor
  · rintro ⟨rest, rfl, -⟩
    exact List.prefix_append _ _
  · rintro ⟨rest, rfl⟩
    exact ⟨rest, rfl, fits_deep rest⟩

theorem hasWildcard_of_isLiteral
    {text : List Char}
    (literal : IsLiteral text) :
    hasWildcard text = false := by
  rw [hasWildcard, Bool.or_eq_false_iff]
  exact ⟨by simpa using literal.1, by simpa using literal.2.1⟩

end Glob

namespace Discovery

open World

/-- A scope that leaves out one text more. -/
def Scope.ignoring (scope : Scope) (text : String) : Scope :=
  { scope with ignores := scope.ignores ++ [text] }

section Ignoring

variable
    (tree : FileTree)
    (base : Path)
    (scope : Scope)

theorem covers_ignoring_iff
    (text : String)
    (path : Path) :
    (answer tree ((scope.ignoring text).exclusion base)).covers path = true ↔
      (answer tree (scope.exclusion base)).covers path = true ∨ Ignores base text path := by
  rw [covers_exclusion_iff, covers_exclusion_iff]
  simp only [Scope.ignoring, List.mem_append, List.mem_singleton, or_and_right, exists_or,
    exists_eq_left]
  exact or_right_comm

/-- With one text more to ignore a search finds what it found, but for what the text covers. -/
theorem answer_find_ignoring
    {text : String}
    {covered : Path → Prop}
    [DecidablePred covered]
    (ignores : ∀ path, Ignores base text path ↔ covered path) :
    answer tree (find base (scope.ignoring text)) =
      (answer tree (find base scope)).filter fun path => ¬covered path := by
  have isFiltered := (pairwise_find tree base scope).filter fun path => ¬covered path
  refine (pairwise_find tree base (scope.ignoring text)).eq_of_mem_iff isFiltered fun path => ?_
  have sameRoots : roots base (scope.ignoring text) = roots base scope := rfl
  rw [List.mem_filter, answer_find, answer_find, sameRoots, mem_inOrder_iff, mem_inOrder_iff]
  simp only [List.mem_filter, Bool.and_eq_true, Bool.not_eq_true', ← Bool.not_eq_true,
    covers_ignoring_iff, ignores, decide_eq_true_iff]
  tauto

end Ignoring

theorem ignores_folder_iff
    {base path : Path}
    {folder : String}
    (literal : Glob.IsLiteral folder.toList) :
    Ignores base folder path ↔ LiesUnder (base.join folder.toList) path := by
  rw [Ignores, Glob.hasWildcard_of_isLiteral literal, if_neg Bool.false_ne_true]

theorem ignores_inside_iff
    {base path : Path}
    {folder : String}
    (literal : Glob.IsLiteral folder.toList) :
    Ignores base (folder ++ "/**") path ↔ folder.toList ++ ['/'] <+: path := by
  have isText : (folder ++ "/**").toList = folder.toList ++ ['/', '*', '*'] := String.toList_append
  have wild : Glob.hasWildcard (folder.toList ++ ['/', '*', '*']) = true := by
    simp [Glob.hasWildcard]
  rw [Ignores, SpellsFitting, isText, if_pos wild, Glob.ofText_inside literal]
  simp only [Except.ok.injEq, exists_eq_left']
  exact Glob.fits_inside_iff

/-- A relative text that is not empty is no start of a path from the top. -/
theorem not_prefix_of_isAbsolute
    {text path : Path}
    (nonempty : text ≠ [])
    (relative : text.isAbsolute = false)
    (absolute : path.isAbsolute = true)
    (behind : List Char) :
    ¬text ++ behind <+: path := by
  rintro ⟨rest, rfl⟩
  obtain ⟨first, others, rfl⟩ := List.exists_cons_of_ne_nil nonempty
  exact Bool.false_ne_true (relative.symm.trans absolute)

theorem filter_not_eq_filter_not_iff
    {values : List α}
    {first second : α → Prop}
    [DecidablePred first]
    [DecidablePred second] :
    values.filter (fun value => ¬first value) = values.filter (fun value => ¬second value) ↔
      ∀ value ∈ values, (first value ↔ second value) := by
  constructor
  · intro same value isIn
    have sameMember := congrArg (value ∈ ·) same
    simpa [isIn, not_iff_not] using sameMember
  · intro same
    refine List.filter_congr fun value isIn => ?_
    simp only [same value isIn]

/-- A folder without wildcards may be ignored under its path and with the pattern for everything in
it.  The one leaves out what lies under the path behind the base, the other what starts with the
text of the folder, so both leave out the same exactly if these are the same among what is found.
For a folder that is relative to a base from the top the pattern leaves out nothing, and both leave
out the same only if nothing is found in the folder. -/
theorem find_ignoring_folder
    (tree : FileTree)
    (base : Path)
    (scope : Scope)
    (folder : String)
    (literal : Glob.IsLiteral folder.toList) :
    Settings.patternFault? folder = none ∧ Settings.patternFault? (folder ++ "/**") = none ∧
      ∃ all byPath byPattern,
        Gives tree (find base scope) all ∧
        Gives tree (find base (scope.ignoring folder)) byPath ∧
        Gives tree (find base (scope.ignoring (folder ++ "/**"))) byPattern ∧
        byPath = all.filter (fun path => ¬LiesUnder (base.join folder.toList) path) ∧
        byPattern = all.filter (fun path => ¬folder.toList ++ ['/'] <+: path) ∧
        (byPath = byPattern ↔
          ∀ path ∈ all,
            (LiesUnder (base.join folder.toList) path ↔ folder.toList ++ ['/'] <+: path)) ∧
        (tree.Proper → base.isAbsolute = true →
          folder ≠ "" → Path.isAbsolute folder.toList = false →
            byPattern = all ∧
              (byPath = byPattern ↔
                ∀ path ∈ all, ¬LiesUnder (base.join folder.toList) path)) := by
  have isInside : (folder ++ "/**").toList = folder.toList ++ ['/', '*', '*'] :=
    String.toList_append
  refine ⟨Settings.patternFault?_eq_none_iff.mpr ⟨_, Glob.ofText_of_isLiteral literal⟩,
    Settings.patternFault?_eq_none_iff.mpr ⟨_, isInside ▸ Glob.ofText_inside literal⟩,
    answer tree (find base scope), _, _, (looks_find base scope).gives tree,
    (looks_find base _).gives tree, (looks_find base _).gives tree, ?_⟩
  rw [answer_find_ignoring tree base scope fun path => ignores_folder_iff literal,
    answer_find_ignoring tree base scope fun path => ignores_inside_iff literal]
  refine ⟨rfl, rfl, filter_not_eq_filter_not_iff, fun proper absolute nonempty relative => ?_⟩
  have notInside : ∀ path ∈ answer tree (find base scope), ¬folder.toList ++ ['/'] <+: path :=
    fun path isFound => not_prefix_of_isAbsolute (by simpa using nonempty) relative
      (isAbsolute_of_mem_find proper absolute isFound) ['/']
  constructor
  · exact List.filter_eq_self.mpr fun path isFound => decide_eq_true (notInside path isFound)
  · rw [filter_not_eq_filter_not_iff]
    exact forall₂_congr fun path isFound => by rw [iff_false_right (notInside path isFound)]

/-- A folder with source files, some of them in a folder that should be ignored. -/
def depotTree : FileTree :=
  .folder [("home".toList, .folder [("src".toList, .folder [
    ("app.tsx".toList, .file .empty),
    ("generated".toList, .folder [("types.ts".toList, .file .empty)])])])]

/-- A scope with the one folder. -/
def depotScope : Scope where
  includes := ["src"]
  ignores := []
  skipsTests := true

/-- A file in a folder that is ignored with a pattern for everything in it is found all the same. -/
theorem find_ignoring_folder_in_depot :
    depotTree.Proper ∧ Path.isAbsolute "/home".toList = true ∧
      Glob.IsLiteral "src/generated".toList ∧
        Settings.patternFault? "src/generated" = none ∧
        Settings.patternFault? ("src/generated" ++ "/**") = none ∧
          ∃ byPath byPattern,
            Gives depotTree (find "/home".toList (depotScope.ignoring "src/generated")) byPath ∧
            Gives depotTree (find "/home".toList (depotScope.ignoring ("src/generated" ++ "/**")))
              byPattern ∧
            "/home/src/generated/types.ts".toList ∈ byPattern ∧
            "/home/src/generated/types.ts".toList ∉ byPath ∧ byPath ≠ byPattern := by
  have proper : depotTree.Proper := by
    simp only [depotTree, Tree.proper_folder_iff, Tree.proper_file_iff, List.forall_mem_cons,
      List.not_mem_nil, false_implies, implies_true]
    decide
  have absolute : Path.isAbsolute "/home".toList = true := by decide
  have literal : Glob.IsLiteral "src/generated".toList := by decide
  obtain ⟨isText, isPattern, all, byPath, byPattern, gives, givesPath, givesPattern, areByPath, -,
      -, ofRelative⟩ :=
    find_ignoring_folder depotTree "/home".toList depotScope "src/generated" literal
  obtain ⟨rfl, agree⟩ := ofRelative proper absolute (by decide) (by decide)
  have isFound : "/home/src/generated/types.ts".toList ∈ byPattern := by
    rw [← gives.answer_eq, answer_find, mem_inOrder_iff]
    decide +kernel
  have isUnder : LiesUnder (Path.join "/home".toList "src/generated".toList)
      "/home/src/generated/types.ts".toList := by
    decide
  refine ⟨proper, absolute, literal, isText, isPattern, byPath, byPattern, givesPath, givesPattern,
    isFound, fun isLeft => ?_, fun same => agree.mp same _ isFound isUnder⟩
  rw [areByPath, List.mem_filter, decide_eq_true_iff] at isLeft
  exact isLeft.2 isUnder

end Discovery
end KeyedText
