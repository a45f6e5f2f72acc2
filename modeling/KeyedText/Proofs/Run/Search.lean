import KeyedText.Proofs.Files.Upwards
import KeyedText.Proofs.Run.Finding

/-!
# The nearest settings

The settings of a folder are searched for on its way up.  A folder of the way
that has an entry of their name ends the search with them, whatever else it has.
Without such an entry the mark of a repository ends it with none, and so does
the end of the way.
-/

namespace KeyedText
namespace Run

open World

theorem isName_settingsName :
    Tree.IsName settingsName.toList :=
  ⟨by decide, by decide, by decide⟩

theorem isName_repositoryMark :
    Tree.IsName repositoryMark.toList :=
  ⟨by decide, by decide, by decide⟩

/-- Whether there is anything at a name in a folder is found without any change of the world. -/
theorem finds_has_join
    (tree : FileTree)
    {name : List Char}
    (isName : Tree.IsName name)
    (folder : Path) :
    Finds tree (Host.has (folder.join name)) (decide (tree.Contains folder name)) := by
  have finds := finds_has tree (folder.join name)
  rwa [Tree.view?_eq, Option.isSome_map,
    Bool.eq_iff_iff.mpr ((Tree.isSome_find?_join isName).trans decide_eq_true_iff.symm)] at finds

/-! ## Searching -/

/-- What a search along a way ends with. -/
inductive Searched (tree : FileTree) : List Path → Option Path → Prop
  /-- At the end of the way there is nothing left to look at. -/
  | ended : Searched tree [] none
  /-- A folder with settings ends the search. -/
  | settled {folder : Path} {above : List Path} :
      tree.Contains folder settingsName.toList →
      Searched tree (folder :: above) (some (folder.join settingsName.toList))
  /-- The top of a repository without settings ends it. -/
  | marked {folder : Path} {above : List Path} :
      ¬ tree.Contains folder settingsName.toList →
      tree.Contains folder repositoryMark.toList →
      Searched tree (folder :: above) none
  /-- From any other folder it goes on. -/
  | onward {folder : Path} {above : List Path} {answer : Option Path} :
      ¬ tree.Contains folder settingsName.toList →
      ¬ tree.Contains folder repositoryMark.toList →
      Searched tree above answer →
      Searched tree (folder :: above) answer

/-- A search ends, and leaves the world as it is. -/
theorem exists_searched
    (tree : FileTree)
    (way : List Path) :
    ∃ answer, Searched tree way answer ∧ Finds tree (firstSettings? way) answer := by
  induction way with
  | nil => exact ⟨none, .ended, finds_pure _⟩
  | cons folder above inductionHypothesis =>
      obtain ⟨answer, searched, finds⟩ := inductionHypothesis
      have first := finds_has_join tree isName_settingsName folder
      have second := finds_has_join tree isName_repositoryMark folder
      unfold firstSettings?
      by_cases settled : tree.Contains folder settingsName.toList
      · rw [decide_eq_true settled] at first
        exact ⟨_, .settled settled, finds_bind first (finds_pure _)⟩
      · rw [decide_eq_false settled] at first
        by_cases marked : tree.Contains folder repositoryMark.toList
        · rw [decide_eq_true marked] at second
          exact ⟨none, .marked settled marked,
            finds_bind first (finds_bind second (finds_pure _))⟩
        · rw [decide_eq_false marked] at second
          exact ⟨answer, .onward settled marked searched,
            finds_bind first (finds_bind second finds)⟩

/-! ## The folder that is found -/

/-- A folder of a way has settings, and no nearer one has settings or is the top of a
repository. -/
structure IsNearest (tree : FileTree) (way : List Path) (index : Nat) : Prop where
  /-- There is a folder at the index, and it has settings. -/
  settled : ∃ folder, way[index]? = some folder ∧ tree.Contains folder settingsName.toList
  /-- The index is the least one of a folder with settings. -/
  least : ∀ nearer < index, ∀ folder, way[nearer]? = some folder →
    ¬ tree.Contains folder settingsName.toList
  /-- No folder with a lesser index is the top of a repository. -/
  inside : ∀ nearer < index, ∀ folder, way[nearer]? = some folder →
    ¬ tree.Contains folder repositoryMark.toList

section Nearest

variable
    {tree : FileTree}
    {folder : Path}
    {way above : List Path}
    {index : Nat}

theorem IsNearest.eq
    (nearest : IsNearest tree way index)
    {other : Nat}
    (isOther : IsNearest tree way other) :
    index = other := by
  obtain ⟨folder, isFolder, settled⟩ := nearest.settled
  obtain ⟨second, isSecond, alsoSettled⟩ := isOther.settled
  rcases Nat.lt_trichotomy index other with nearer | same | farther
  · exact absurd settled (isOther.least index nearer folder isFolder)
  · exact same
  · exact absurd alsoSettled (nearest.least other farther second isSecond)

theorem isNearest_zero
    (settled : tree.Contains folder settingsName.toList) :
    IsNearest tree (folder :: above) 0 :=
  ⟨⟨folder, rfl, settled⟩, nofun, nofun⟩

/-- In front of a way, a folder without either entry moves the nearest settings by one place. -/
theorem isNearest_cons_iff
    (unsettled : ¬ tree.Contains folder settingsName.toList)
    (unmarked : ¬ tree.Contains folder repositoryMark.toList) :
    IsNearest tree (folder :: above) (index + 1) ↔ IsNearest tree above index := by
  constructor
  · rintro ⟨settled, least, inside⟩
    exact ⟨settled, fun nearer isNearer => least (nearer + 1) (Nat.succ_lt_succ isNearer),
      fun nearer isNearer => inside (nearer + 1) (Nat.succ_lt_succ isNearer)⟩
  · rintro ⟨settled, least, inside⟩
    refine ⟨settled, fun nearer isNearer => ?_, fun nearer isNearer => ?_⟩
    · cases nearer with
      | zero =>
          rintro _ ⟨⟩
          exact unsettled
      | succ nearer => exact least nearer (Nat.lt_of_succ_lt_succ isNearer)
    · cases nearer with
      | zero =>
          rintro _ ⟨⟩
          exact unmarked
      | succ nearer => exact inside nearer (Nat.lt_of_succ_lt_succ isNearer)

theorem not_isNearest_zero
    (unsettled : ¬ tree.Contains folder settingsName.toList) :
    ¬ IsNearest tree (folder :: above) 0 := by
  rintro ⟨⟨_, ⟨⟩, settled⟩, -, -⟩
  exact unsettled settled

/-- A search ends with the nearest settings, or there are none and it ends so. -/
theorem Searched.cases_nearest
    {answer : Option Path}
    (searched : Searched tree way answer) :
    (∃ index folder,
        way[index]? = some folder ∧ IsNearest tree way index ∧
          answer = some (folder.join settingsName.toList)) ∨
      answer = none ∧ ∀ index, ¬ IsNearest tree way index := by
  induction searched with
  | ended =>
      refine .inr ⟨rfl, ?_⟩
      rintro index ⟨⟨_, ⟨⟩, -⟩, -, -⟩
  | @settled folder above settled => exact .inl ⟨0, folder, rfl, isNearest_zero settled, rfl⟩
  | marked unsettled marked =>
      refine .inr ⟨rfl, fun index nearest => ?_⟩
      cases index with
      | zero => exact not_isNearest_zero unsettled nearest
      | succ index => exact nearest.inside 0 (Nat.succ_pos index) _ rfl marked
  | onward unsettled unmarked _ inductionHypothesis =>
      rcases inductionHypothesis with ⟨index, folder, isFolder, nearest, found⟩ | ⟨isNone, noneIs⟩
      · exact .inl ⟨index + 1, folder, isFolder,
          (isNearest_cons_iff unsettled unmarked).mpr nearest, found⟩
      · refine .inr ⟨isNone, fun index nearest => ?_⟩
        cases index with
        | zero => exact not_isNearest_zero unsettled nearest
        | succ index =>
            exact noneIs index ((isNearest_cons_iff unsettled unmarked).mp nearest)

theorem Searched.eq_none_iff
    {answer : Option Path}
    (searched : Searched tree way answer) :
    answer = none ↔ ¬ ∃ index, IsNearest tree way index := by
  rcases searched.cases_nearest with ⟨index, folder, -, nearest, rfl⟩ | ⟨rfl, noneIs⟩
  · exact iff_of_false nofun fun isNone => isNone ⟨index, nearest⟩
  · exact iff_of_true rfl fun ⟨index, nearest⟩ => noneIs index nearest

/-- On a way up, the settings of a folder are found exactly if they are the nearest ones. -/
theorem Searched.eq_some_iff
    {answer : Option Path}
    (searched : Searched tree way answer)
    {start : Path}
    (leadsUp : start.LeadsUp way)
    (isFolder : way[index]? = some folder) :
    answer = some (folder.join settingsName.toList) ↔ IsNearest tree way index := by
  constructor
  · intro found
    obtain ⟨place, other, isOther, nearest, isAnswer⟩ :=
      searched.cases_nearest.resolve_right fun isNone => by
        rw [isNone.1] at found
        cases found
    have sameNames := congrArg Path.names (Option.some.inj (found.symm.trans isAnswer))
    rw [Path.names_join isName_settingsName, Path.names_join isName_settingsName] at sameNames
    rwa [leadsUp.eq_of_names_eq isFolder isOther (List.append_cancel_right sameNames)]
  · intro nearest
    rcases searched.cases_nearest with ⟨place, other, isOther, alsoNearest, rfl⟩ | ⟨-, noneIs⟩
    · rw [nearest.eq alsoNearest, isOther] at isFolder
      rw [Option.some.inj isFolder]
    · exact absurd nearest (noneIs index)

end Nearest

/-- Where the way up from a folder leads. -/
structure GoesUp (tree : FileTree) (folder : Path) : Prop where
  /-- The way goes through all fronts of the names of the folder. -/
  leadsUp : folder.LeadsUp folder.upwards
  /-- It ends at the top. -/
  ends : folder.upwards.getLast?.map Path.names = some []
  /-- Where no name leads back, its folders are those at the fronts of the location. -/
  locations :
    (∀ name ∈ folder.names, name ≠ ['.', '.']) →
      ∀ (index : Nat) (above : Path), folder.upwards[index]? = some above → ∀ name,
        (tree.Contains above name ↔
          (tree.get? (folder.names.take (folder.names.length - index) ++ [name])).isSome)

/-- What a search for the settings of a folder finds. -/
structure FindsNearest (tree : FileTree) (folder : Path) (answer : Option Path) : Prop where
  /-- The search finds the answer and leaves the world as it is. -/
  finds : Finds tree (settingsPath? folder) answer
  /-- It is the file in a folder of the way exactly if the settings there are the nearest ones with
  no top of a repository before them. -/
  nearest :
    ∀ (index : Nat) (above : Path), folder.upwards[index]? = some above →
      (answer = some (above.join settingsName.toList) ↔ IsNearest tree folder.upwards index)
  /-- There is none exactly if there are no such settings. -/
  none : answer = none ↔ ¬ ∃ index, IsNearest tree folder.upwards index
  /-- None is found that is not on the way. -/
  onWay :
    ∀ path, answer = some path →
      ∃ above ∈ folder.upwards, path = above.join settingsName.toList
  /-- Settings at the top of a repository are found if nothing ends the search before. -/
  atTop :
    ∀ (index : Nat) (above : Path), folder.upwards[index]? = some above →
      tree.Contains above settingsName.toList →
        tree.Contains above repositoryMark.toList →
          (∀ nearer < index, ∀ below : Path, folder.upwards[nearer]? = some below →
            ¬ tree.Contains below settingsName.toList ∧
              ¬ tree.Contains below repositoryMark.toList) →
            answer = some (above.join settingsName.toList)
  /-- Settings above the top of a repository are never found. -/
  notAbove :
    ∀ (index : Nat) (marked : Path), folder.upwards[index]? = some marked →
      tree.Contains marked repositoryMark.toList →
        ∀ (farther : Nat) (above : Path), index < farther →
          folder.upwards[farther]? = some above →
            answer ≠ some (above.join settingsName.toList)

/-- In every tree a search goes up from a folder to the top and finds the nearest settings, unless
the top of a repository comes first. -/
theorem nearest_settings_are_found
    (tree : FileTree)
    {folder : Path}
    (absolute : folder.isAbsolute = true) :
    GoesUp tree folder ∧ ∃ answer, FindsNearest tree folder answer := by
  have leadsUp := Path.leadsUp_upwards absolute
  obtain ⟨answer, searched, finds⟩ := exists_searched tree folder.upwards
  have found {index : Nat} {above : Path} (isAbove : folder.upwards[index]? = some above) :
      answer = some (above.join settingsName.toList) ↔ IsNearest tree folder.upwards index :=
    searched.eq_some_iff leadsUp isAbove
  refine ⟨⟨leadsUp, leadsUp.ends, ?_⟩, answer, finds, fun _ _ => found, searched.eq_none_iff,
    ?_, ?_, ?_⟩
  · exact fun forth index above isAbove => Tree.contains_iff_of_leadsUp leadsUp forth isAbove
  · rintro path rfl
    obtain ⟨_, above, isAbove, -, isFound⟩ := searched.cases_nearest.resolve_right nofun
    exact ⟨above, List.mem_of_getElem? isAbove, Option.some.inj isFound⟩
  · intro index above isAbove settled _ free
    exact (found isAbove).mpr ⟨⟨above, isAbove, settled⟩,
      fun nearer isNearer below isBelow => (free nearer isNearer below isBelow).1,
      fun nearer isNearer below isBelow => (free nearer isNearer below isBelow).2⟩
  · intro index marked isIndex hasMark farther above isFarther isAbove isFound
    exact ((found isAbove).mp isFound).inside index isFarther marked isIndex hasMark

/-- Two folders below the top of a repository; there are settings at that top and above it. -/
def siteTree : FileTree :=
  .folder [
    (settingsName.toList, .file "{}".toUTF8),
    ("site".toList, .folder [
      (repositoryMark.toList, .folder []),
      (settingsName.toList, .file "{}".toUTF8),
      ("src".toList, .folder [("app".toList, .folder [])])])]

/-- From the inner folder the settings at the top of the repository are found. -/
theorem nearest_settings_are_found_in_repository :
    Path.isAbsolute "/site/src/app".toList = true ∧
      (∀ name ∈ Path.names "/site/src/app".toList, name ≠ ['.', '.']) ∧
        (Path.upwards "/site/src/app".toList)[2]? = some "/site".toList ∧
          siteTree.Contains "/site".toList settingsName.toList ∧
            siteTree.Contains "/site".toList repositoryMark.toList ∧
              siteTree.Contains "/".toList settingsName.toList ∧
                Finds siteTree (settingsPath? "/site/src/app".toList)
                  (some "/site/.i18n-codemod.json".toList) := by
  have absolute : Path.isAbsolute "/site/src/app".toList = true := by decide
  have isAbove : (Path.upwards "/site/src/app".toList)[2]? = some "/site".toList := by decide
  have settled : siteTree.Contains "/site".toList settingsName.toList := by decide
  have marked : siteTree.Contains "/site".toList repositoryMark.toList := by decide
  have free : ∀ nearer < 2, ∀ below : Path,
      (Path.upwards "/site/src/app".toList)[nearer]? = some below →
        ¬ siteTree.Contains below settingsName.toList ∧
          ¬ siteTree.Contains below repositoryMark.toList := by
    intro nearer isNearer below isBelow
    rcases Nat.le_one_iff_eq_zero_or_eq_one.mp (Nat.le_of_lt_succ isNearer) with rfl | rfl
    · cases isBelow
      decide
    · cases isBelow
      decide
  obtain ⟨-, answer, found⟩ := nearest_settings_are_found siteTree absolute
  have isFound := found.finds
  rw [found.atTop 2 "/site".toList isAbove settled marked free] at isFound
  exact ⟨absolute, by decide, isAbove, settled, marked, by decide, isFound⟩

end Run
end KeyedText
