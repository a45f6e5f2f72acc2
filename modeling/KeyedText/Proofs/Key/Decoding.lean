import KeyedText.Key.Place
import KeyedText.Proofs.Key.Derivation
import KeyedText.Proofs.Text.Segment
import Mathlib.Data.List.Basic

/-!
# Decoding keys

A key is written without and with a group in two ways.  Both are one if the group
is taken apart into its segments: behind the namespace and a colon stand the
segments and the slug, each to the next by one dot.  As no segment and no slug
has a dot, and no segment is empty, the parts of a key can be read off it.
-/

namespace KeyedText
namespace Key

/-- The segments of a group, none of which is empty or has a dot. -/
structure Segmented
    (segments : List (List Char))
    (group : List Char) : Prop where
  joined : group = Text.joinedBy '.' segments
  nonempty : ∀ segment ∈ segments, segment ≠ []
  undotted : ∀ segment ∈ segments, '.' ∉ segment

/-! ## Groups -/

theorem dot_notMem_segmentName
    (segment : List Char) :
    '.' ∉ Text.segmentName segment := by
  intro member
  have isSegmentCharacter := Text.isSegmentCharacter_of_mem_segmentName member
  exact absurd isSegmentCharacter (by decide)

theorem segmented_segmentName
    (segment : List Char) :
    ∃ segments, Segmented segments (Text.segmentName segment) := by
  by_cases isEmpty : segment = []
  · subst isEmpty
    exact ⟨[], rfl, by simp, by simp⟩
  · have nonempty := mt Text.segmentName_eq_nil_iff.mp isEmpty
    refine ⟨[Text.segmentName segment], by simp [Text.joinedBy], ?_, ?_⟩
    · simpa using nonempty
    · simpa using dot_notMem_segmentName segment

theorem segmented_group
    (mode : GroupMode)
    (rest : List Char) :
    ∃ segments, Segmented segments (mode.group rest) := by
  cases mode with
  | nested =>
      refine ⟨_, rfl, ?_, ?_⟩
      · intro segment member
        obtain ⟨directory, isDirectory, rfl⟩ := List.mem_map.mp member
        have nonempty := Text.ne_nil_of_mem_runs (List.dropLast_subset _ isDirectory)
        exact mt Text.segmentName_eq_nil_iff.mp nonempty
      · intro segment member
        obtain ⟨directory, -, rfl⟩ := List.mem_map.mp member
        exact dot_notMem_segmentName directory
  | segment =>
      unfold GroupMode.group
      dsimp only
      split
      · exact segmented_segmentName _
      · exact segmented_segmentName _

/-- The group of every place that is inferred has segments. -/
theorem segmented_infer
    (placement : Placement)
    (path : String) :
    ∃ segments, Segmented segments (placement.infer path).group.toList := by
  unfold Placement.infer Placement.inferFrom
  dsimp only
  generalize path.toList.map _ = slashed
  cases isFound : placement.spaces.findSome? fun entry =>
      (entry.rest? slashed).map fun rest =>
        Place.mk entry.space (String.ofList (placement.mode.group rest)) with
  | none =>
      rw [Option.getD_none, String.toList_ofList]
      exact segmented_segmentName _
  | some place =>
      obtain ⟨entry, -, ofEntry⟩ := List.exists_of_findSome?_eq_some isFound
      obtain ⟨rest, -, rfl⟩ := Option.map_eq_some_iff.mp ofEntry
      rw [Option.getD_some, String.toList_ofList]
      exact segmented_group _ _

/-! ## Slugs -/

theorem dot_notMem_slug
    (generator : Generator)
    (group : String)
    (text : List Char) :
    '.' ∉ (generator.derive group text).slug := by
  obtain ⟨raw, -, isSlug⟩ := derive?_rule_derive generator group text
  rw [isSlug]
  intro member
  rcases (wellFormed_slugOf generator.limit raw).characters _ member with isKey | isUnderscore
  · exact absurd isKey (by decide)
  · exact absurd isUnderscore (by decide)

/-! ## Keys -/

/-- With or without a group, the segments and the slug stand behind the namespace, each to the
next by one dot. -/
theorem toList_key
    {segments : List (List Char)}
    {place : Place}
    (segmented : Segmented segments place.group.toList)
    (slug : String) :
    (place.key slug).toList =
      place.space.toList ++ ':' :: Text.joinedBy '.' (segments ++ [slug.toList]) := by
  have isEmpty_iff : place.group.isEmpty = true ↔ segments = [] := by
    rw [String.isEmpty_iff, ← String.toList_eq_nil_iff, segmented.joined,
      Text.joinedBy_eq_nil_iff segmented.nonempty]
  unfold Place.key
  split
  · next isEmpty =>
      rw [isEmpty_iff.mp isEmpty]
      simp [Text.joinedBy]
  · next isNotEmpty =>
      rw [Text.joinedBy_concat '.' (mt isEmpty_iff.mpr isNotEmpty), ← segmented.joined]
      simp

/-- What is joined by a separator is told by the whole, as long as no text has the separator. -/
theorem eq_of_joinedBy_eq
    {separator : Char}
    {first second : List (List Char)}
    (firstNonempty : first ≠ [])
    (secondNonempty : second ≠ [])
    (firstFree : ∀ text ∈ first, separator ∉ text)
    (secondFree : ∀ text ∈ second, separator ∉ text)
    (same : Text.joinedBy separator first = Text.joinedBy separator second) :
    first = second := by
  calc
    first = (Text.joinedBy separator first).splitOn separator :=
      (List.splitOn_intercalate separator firstFree firstNonempty).symm
    _ = (Text.joinedBy separator second).splitOn separator := by rw [same]
    _ = second := List.splitOn_intercalate separator secondFree secondNonempty

theorem takeWhile_append_cons
    {separator : Char}
    {front : List Char}
    (free : separator ∉ front)
    (back : List Char) :
    (front ++ separator :: back).takeWhile (· != separator) = front := by
  rw [List.takeWhile_append_of_pos]
  · simp
  · intro character member
    rw [bne_iff_ne]
    rintro rfl
    exact free member

/-- A key tells its namespace, its group and its slug. -/
theorem parts_eq_of_key_eq
    {firstSpace firstGroup firstSlug secondSpace secondGroup secondSlug : String}
    {firstSegments secondSegments : List (List Char)}
    (firstSegmented : Segmented firstSegments firstGroup.toList)
    (secondSegmented : Segmented secondSegments secondGroup.toList)
    (firstUncoloned : ':' ∉ firstSpace.toList)
    (secondUncoloned : ':' ∉ secondSpace.toList)
    (firstUndotted : '.' ∉ firstSlug.toList)
    (secondUndotted : '.' ∉ secondSlug.toList)
    (sameKey :
      Place.key ⟨firstSpace, firstGroup⟩ firstSlug =
        Place.key ⟨secondSpace, secondGroup⟩ secondSlug) :
    firstSpace = secondSpace ∧ firstGroup = secondGroup ∧ firstSlug = secondSlug := by
  have sameText := congrArg String.toList sameKey
  rw [toList_key firstSegmented, toList_key secondSegmented] at sameText
  have sameSpace : firstSpace.toList = secondSpace.toList := by
    rw [← takeWhile_append_cons firstUncoloned, sameText, takeWhile_append_cons secondUncoloned]
  rw [sameSpace] at sameText
  have sameParts : firstSegments ++ [firstSlug.toList] = secondSegments ++ [secondSlug.toList] := by
    apply eq_of_joinedBy_eq (by simp) (by simp) _ _
      (List.tail_eq_of_cons_eq (List.append_cancel_left sameText))
    · simpa [or_imp, forall_and] using ⟨firstSegmented.undotted, firstUndotted⟩
    · simpa [or_imp, forall_and] using ⟨secondSegmented.undotted, secondUndotted⟩
  obtain ⟨sameSegments, sameSlug⟩ := List.append_inj' sameParts rfl
  refine ⟨String.toList_inj.mp sameSpace, String.toList_inj.mp ?_, String.toList_inj.mp ?_⟩
  · rw [firstSegmented.joined, secondSegmented.joined, sameSegments]
  · simpa using sameSlug

/-- The namespace, the group and the slug of a key can be told from the key, wherever the group was
inferred and whatever the slug was derived from. -/
theorem key_injective
    {firstSpace secondSpace : String}
    (firstUncoloned : ':' ∉ firstSpace.toList)
    (secondUncoloned : ':' ∉ secondSpace.toList)
    (firstPlacement secondPlacement : Placement)
    (firstPath secondPath : String)
    (firstGenerator secondGenerator : Generator)
    (firstContext secondContext : String)
    (firstText secondText : List Char) :
    let firstGroup := (firstPlacement.infer firstPath).group
    let secondGroup := (secondPlacement.infer secondPath).group
    let firstSlug := String.ofList (firstGenerator.derive firstContext firstText).slug
    let secondSlug := String.ofList (secondGenerator.derive secondContext secondText).slug
    Place.key ⟨firstSpace, firstGroup⟩ firstSlug = Place.key ⟨secondSpace, secondGroup⟩ secondSlug ↔
      firstSpace = secondSpace ∧ firstGroup = secondGroup ∧ firstSlug = secondSlug := by
  intro firstGroup secondGroup firstSlug secondSlug
  constructor
  · intro sameKey
    obtain ⟨firstSegments, firstSegmented⟩ := segmented_infer firstPlacement firstPath
    obtain ⟨secondSegments, secondSegmented⟩ := segmented_infer secondPlacement secondPath
    refine parts_eq_of_key_eq firstSegmented secondSegmented firstUncoloned secondUncoloned ?_ ?_
      sameKey
    · rw [String.toList_ofList]
      exact dot_notMem_slug firstGenerator firstContext firstText
    · rw [String.toList_ofList]
      exact dot_notMem_slug secondGenerator secondContext secondText
  · rintro ⟨sameSpace, sameGroup, sameSlug⟩
    rw [sameSpace, sameGroup, sameSlug]

/-- Two files and two texts in different spellings have one key, and it tells one group and one
slug. -/
theorem key_injective_for_roomList :
    let nested : Placement := ⟨[⟨"src/app/", "app"⟩], "features", .nested⟩
    let segment : Placement := ⟨[⟨"src/app", "app"⟩], "features", .segment⟩
    let generator := Generator.ofTables ⟨[], []⟩ 64
    let firstGroup := (nested.infer "C:\\work\\src\\app\\RoomList\\Header.tsx").group
    let secondGroup := (segment.infer "/work/src/app/room_list/general/Page.tsx").group
    let firstSlug := String.ofList (generator.derive firstGroup "Save the file!".toList).slug
    let secondSlug := String.ofList (generator.derive secondGroup "save File".toList).slug
    ':' ∉ "app".toList ∧
      Place.key ⟨"app", firstGroup⟩ firstSlug = "app:room_list.save_file" ∧
        Place.key ⟨"app", secondGroup⟩ secondSlug = "app:room_list.save_file" ∧
          firstGroup = secondGroup ∧ firstSlug = secondSlug := by
  intro nested segment generator firstGroup secondGroup firstSlug secondSlug
  have uncoloned : ':' ∉ "app".toList := by decide
  have firstKey : Place.key ⟨"app", firstGroup⟩ firstSlug = "app:room_list.save_file" := by
    decide +kernel
  have secondKey : Place.key ⟨"app", secondGroup⟩ secondSlug = "app:room_list.save_file" := by
    decide +kernel
  obtain ⟨-, sameGroup, sameSlug⟩ :=
    (key_injective uncoloned uncoloned nested segment _ _ generator generator firstGroup secondGroup
      "Save the file!".toList "save File".toList).mp (firstKey.trans secondKey.symm)
  exact ⟨uncoloned, firstKey, secondKey, sameGroup, sameSlug⟩

end Key
end KeyedText
