import KeyedText.Files.Path
import KeyedText.Settings.Basic
import Mathlib.Data.List.Basic

/-!
# Places in two folders

A prefix may occur anywhere in a path, so it may occur in the folder from which
the path of a file starts.  Unless the prefix that decides is found there, the
place of a file is the one that its path has from the top, whatever the folder:
then a project keeps its keys when it is moved.
-/

namespace KeyedText
namespace Text

/-! ## Searching two texts in a row -/

/-- A text is found in two texts in a row at a place in the first, or else as it is found in the
second. -/
theorem cut?_append
    (wanted front back : List Char) :
    (∃ before behind,
        cut? wanted (front ++ back) = some (before, behind) ∧ before.length < front.length) ∨
      cut? wanted (front ++ back) =
        (cut? wanted back).map fun cut => (front ++ cut.1, cut.2) := by
  induction front with
  | nil => exact .inr Option.map_id'.symm
  | cons character front inductionHypothesis =>
      rw [List.cons_append, cut?]
      split
      · exact .inl ⟨[], _, rfl, Nat.succ_pos _⟩
      · rcases inductionHypothesis with ⟨before, behind, found, inFront⟩ | asInBack
        · refine .inl ⟨character :: before, behind, ?_, Nat.succ_lt_succ inFront⟩
          rw [found]
          rfl
        · refine .inr ?_
          rw [asInBack, Option.map_map]
          rfl

theorem lastSegment_append_cons
    (front back : List Char) :
    lastSegment (front ++ '/' :: back) = lastSegment back := by
  unfold lastSegment
  rw [List.reverse_append, List.reverse_cons, List.append_assoc, List.takeWhile_append]
  split
  · next whole =>
      have noSlash : back.reverse.takeWhile (· != '/') = back.reverse :=
        (List.takeWhile_prefix _).eq_of_length whole
      rw [List.singleton_append, List.takeWhile_cons, noSlash]
      simp
  · rfl

theorem stem_append_cons
    (front back : List Char) :
    stem (front ++ '/' :: back) = stem back := by
  unfold stem
  rw [lastSegment_append_cons]

end Text

namespace Key

/-! ## What decides about a place -/

/-- A path with slashes in the place of backslashes. -/
def slashed (path : Path) : List Char :=
  path.map fun character => if character == '\\' then '/' else character

/-- What has to occur in a path for a prefix to count. -/
def SpacePrefix.mark (entry : SpacePrefix) : List Char :=
  (entry.path.toList.reverse.dropWhile (· == '/')).reverse ++ ['/']

namespace Placement

/-- Whether the prefix that decides about the place of a file is found in the folder from which
the path of the file starts: in front of the slash behind the folder. -/
def decidesAbove (placement : Placement) (folder path : Path) : Bool :=
  let whole := slashed (folder.join path)
  (placement.spaces.findSome? fun entry => Text.cut? entry.mark whole).any fun cut =>
    cut.1.length + path.length + 1 < whole.length

theorem infer_ofList
    (placement : Placement)
    (path : Path) :
    placement.infer (String.ofList path) = placement.inferFrom (slashed path) := by
  rw [infer, String.toList_ofList]
  rfl

/-- The place that a prefix gives to a path is read off what stands behind it. -/
theorem findSome?_append
    (mode : GroupMode)
    {spaces : List SpacePrefix}
    {front back : List Char}
    (notAbove : ∀ cut,
      (spaces.findSome? fun entry => Text.cut? entry.mark (front ++ back)) = some cut →
        front.length ≤ cut.1.length) :
    (spaces.findSome? fun entry => (entry.rest? (front ++ back)).map fun rest =>
        Place.mk entry.space (String.ofList (mode.group rest))) =
      spaces.findSome? fun entry => (entry.rest? back).map fun rest =>
        Place.mk entry.space (String.ofList (mode.group rest)) := by
  induction spaces with
  | nil => rfl
  | cons entry spaces inductionHypothesis =>
      rw [List.findSome?_cons] at notAbove
      have asInBack : Text.cut? entry.mark (front ++ back) =
          (Text.cut? entry.mark back).map fun cut => (front ++ cut.1, cut.2) := by
        rcases Text.cut?_append entry.mark front back with ⟨before, behind, found, inFront⟩ | same
        · rw [found] at notAbove
          exact absurd (notAbove _ rfl) (Nat.not_le_of_lt inFront)
        · exact same
      have sameRest : entry.rest? (front ++ back) = entry.rest? back := by
        unfold SpacePrefix.rest? Text.behind?
        rw [← SpacePrefix.mark, asInBack, Option.map_map]
        rfl
      rw [List.findSome?_cons, List.findSome?_cons, sameRest]
      cases isRest : entry.rest? back with
      | some rest => rfl
      | none =>
          have noCut : Text.cut? entry.mark (front ++ back) = none := by
            rw [asInBack, Option.map_eq_none_iff]
            exact Option.map_eq_none_iff.mp isRest
          rw [noCut] at notAbove
          exact inductionHypothesis notAbove

/-- What stands in front of a slash does not matter unless the prefix that decides is found
there. -/
theorem inferFrom_append
    (placement : Placement)
    {front back : List Char}
    (notAbove : ∀ cut,
      (placement.spaces.findSome? fun entry => Text.cut? entry.mark (front ++ '/' :: back)) =
          some cut →
        front.length ≤ cut.1.length) :
    placement.inferFrom (front ++ '/' :: back) = placement.inferFrom ('/' :: back) := by
  unfold inferFrom
  dsimp only
  rw [findSome?_append placement.mode notAbove, Text.stem_append_cons,
    show Text.stem ('/' :: back) = Text.stem back from Text.stem_append_cons [] back]

/-! ## Folders -/

/-- The path of a file in a folder from the top is cut by the slash behind the folder. -/
theorem exists_slashed_join
    {folder path : Path}
    (absolute : folder.isAbsolute = true)
    (relative : path.isAbsolute = false) :
    ∃ front, slashed (folder.join path) = front ++ '/' :: slashed path := by
  unfold Path.join
  rw [relative, if_neg Bool.false_ne_true]
  split
  · next isOpen =>
      rw [Bool.or_eq_true, List.isEmpty_iff, beq_iff_eq] at isOpen
      rcases isOpen with rfl | ends
      · cases absolute
      · obtain ⟨front, rfl⟩ := List.getLast?_eq_some_iff.mp ends
        refine ⟨slashed front, ?_⟩
        unfold slashed
        rw [List.map_append, List.map_append, List.append_assoc]
        rfl
  · refine ⟨slashed folder, ?_⟩
    unfold slashed
    rw [List.map_append]
    rfl

/-- Where the folder does not decide, the place of a file is that of its path from the top. -/
theorem infer_join
    {placement : Placement}
    {folder path : Path}
    (absolute : folder.isAbsolute = true)
    (relative : path.isAbsolute = false)
    (notAbove : placement.decidesAbove folder path = false) :
    placement.infer (String.ofList (folder.join path)) =
      placement.inferFrom ('/' :: slashed path) := by
  obtain ⟨front, isWhole⟩ := exists_slashed_join absolute relative
  rw [infer_ofList, isWhole]
  apply inferFrom_append
  intro cut isCut
  have sameLength : (slashed path).length = path.length := List.length_map _
  unfold decidesAbove at notAbove
  dsimp only at notAbove
  rw [isWhole, isCut, Option.any_some, decide_eq_false_iff_not, List.length_append,
    List.length_cons, sameLength] at notAbove
  omega

/-- A file has the same place in two folders, unless the prefix that decides about it is found in
one of them. -/
theorem infer_relocated
    (placement : Placement)
    (first second path : Path)
    (firstAbsolute : first.isAbsolute = true)
    (secondAbsolute : second.isAbsolute = true)
    (relative : path.isAbsolute = false)
    (notInFirst : placement.decidesAbove first path = false)
    (notInSecond : placement.decidesAbove second path = false) :
    placement.infer (String.ofList (first.join path)) =
      placement.infer (String.ofList (second.join path)) :=
  (infer_join firstAbsolute relative notInFirst).trans
    (infer_join secondAbsolute relative notInSecond).symm

/-- Both folders hold the mark of a prefix of the default settings, but an earlier one decides. -/
theorem infer_relocated_for_page :
    Settings.default.placement.infer
        (String.ofList (Path.join "/home/src/util".toList "src/app/pages/home/Home.tsx".toList)) =
      Settings.default.placement.infer
        (String.ofList (Path.join "/src/client/work/".toList
          "src/app/pages/home/Home.tsx".toList)) :=
  infer_relocated Settings.default.placement "/home/src/util".toList "/src/client/work/".toList
    "src/app/pages/home/Home.tsx".toList (by decide) (by decide) (by decide) (by decide +kernel)
    (by decide +kernel)

/-- A folder whose path holds a prefix gives its files another namespace and group. -/
theorem infer_differs_for_card :
    Settings.default.placement.infer
        (String.ofList (Path.join "/home/me/work".toList "lib/Card.tsx".toList)) =
          ⟨"features", "card"⟩ ∧
      Settings.default.placement.infer
          (String.ofList (Path.join "/home/me/src/client".toList "lib/Card.tsx".toList)) =
        ⟨"client", "lib"⟩ := by
  decide +kernel

end Placement
end Key
end KeyedText
