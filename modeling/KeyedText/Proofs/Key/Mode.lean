import KeyedText.Proofs.Key.Decoding
import KeyedText.Proofs.Key.Relocation
import KeyedText.Proofs.Text.Occurrence
import KeyedText.Proofs.Text.Word

/-!
# Groups in both modes

A prefix decides about a path before the mode comes into play, so both modes give
a file the same namespace, and behind no prefix the same group.  Behind a prefix
they part: the names of all folders make up the group, or only the first of them,
and where there is no folder the group is empty, or the name of the file.  It is
the same which way the slashes of the path lean.
-/

namespace KeyedText
namespace Key

/-! ## The prefix that decides -/

/-- Whether a prefix decides about a path, of which the rest stands behind the prefix. -/
structure Decides
    (spaces : List SpacePrefix)
    (path : List Char)
    (entry : SpacePrefix)
    (rest : List Char) : Prop where
  /-- No prefix ahead in the list occurs in the path. -/
  ahead : ∃ before behind,
    spaces = before ++ entry :: behind ∧ ∀ other ∈ before, ¬other.mark <:+: path
  /-- The rest stands behind the first place at which the prefix occurs. -/
  first : ∃ front, Text.StandsFirst [entry.mark] path front rest

theorem SpacePrefix.mark_ne_nil
    (entry : SpacePrefix) :
    entry.mark ≠ [] :=
  List.append_ne_nil_of_right_ne_nil _ (List.cons_ne_nil _ _)

theorem SpacePrefix.rest?_eq_none_iff
    {entry : SpacePrefix}
    {path : List Char} :
    entry.rest? path = none ↔ ¬entry.mark <:+: path :=
  Text.behind?_eq_none_iff entry.mark_ne_nil

theorem SpacePrefix.rest?_eq_some_iff
    {entry : SpacePrefix}
    {path rest : List Char} :
    entry.rest? path = some rest ↔ ∃ front, Text.StandsFirst [entry.mark] path front rest :=
  Text.behind?_eq_some_iff entry.mark_ne_nil

/-- No prefix occurs in a path, or one of them decides about it. -/
theorem none_or_decides
    (spaces : List SpacePrefix)
    (path : List Char) :
    (∀ entry ∈ spaces, ¬entry.mark <:+: path) ∨ ∃ entry rest, Decides spaces path entry rest := by
  induction spaces with
  | nil => exact .inl (List.forall_mem_nil _)
  | cons entry spaces inductionHypothesis =>
      cases isRest : entry.rest? path with
      | some rest =>
          exact .inr ⟨entry, rest, ⟨[], spaces, rfl, List.forall_mem_nil _⟩,
            SpacePrefix.rest?_eq_some_iff.mp isRest⟩
      | none =>
          have notHere := SpacePrefix.rest?_eq_none_iff.mp isRest
          rcases inductionHypothesis with
            nowhere | ⟨other, rest, ⟨before, behind, rfl, ahead⟩, first⟩
          · exact .inl (List.forall_mem_cons.mpr ⟨notHere, nowhere⟩)
          · exact .inr ⟨other, rest,
              ⟨entry :: before, behind, rfl, List.forall_mem_cons.mpr ⟨notHere, ahead⟩⟩, first⟩

namespace Placement

variable
    {placement : Placement}
    {path : List Char}

theorem inferFrom_of_none
    (nowhere : ∀ entry ∈ placement.spaces, ¬entry.mark <:+: path) :
    placement.inferFrom path =
      ⟨placement.defaultSpace, String.ofList (Text.segmentName (Text.stem path))⟩ := by
  unfold inferFrom
  dsimp only
  rw [List.findSome?_eq_none_iff.mpr, Option.getD_none]
  intro entry isEntry
  rw [SpacePrefix.rest?_eq_none_iff.mpr (nowhere entry isEntry), Option.map_none]

theorem inferFrom_of_decides
    {entry : SpacePrefix}
    {rest : List Char}
    (decides : Decides placement.spaces path entry rest) :
    placement.inferFrom path = ⟨entry.space, String.ofList (placement.mode.group rest)⟩ := by
  obtain ⟨⟨before, behind, areSpaces, ahead⟩, first⟩ := decides
  unfold inferFrom
  dsimp only
  rw [areSpaces, List.findSome?_append, List.findSome?_eq_none_iff.mpr, Option.none_or,
    List.findSome?_cons, SpacePrefix.rest?_eq_some_iff.mpr first]
  · rfl
  · intro other isAhead
    rw [SpacePrefix.rest?_eq_none_iff.mpr (ahead other isAhead), Option.map_none]

end Placement

/-! ## Behind a prefix -/

/-- The last segment of a path stands behind the prefix that decides about it. -/
theorem Decides.stem_eq
    {spaces : List SpacePrefix}
    {path rest : List Char}
    {entry : SpacePrefix}
    (decides : Decides spaces path entry rest) :
    Text.stem path = Text.stem rest := by
  obtain ⟨front, ⟨found, isMark, rfl⟩, -⟩ := decides.first
  rw [List.mem_singleton.mp isMark, SpacePrefix.mark, ← List.append_assoc, List.append_assoc,
    List.singleton_append, Text.stem_append_cons]

/-- The names of a path between its slashes, of which empty ones are left out. -/
def namesBetween (rest : List Char) : List (List Char) :=
  (Text.pieces '/' rest).filter fun name => !name.isEmpty

theorem group_nested_eq
    (rest : List Char) :
    GroupMode.nested.group rest =
      Text.joinedBy '.' ((namesBetween rest).dropLast.map Text.segmentName) := by
  rw [namesBetween, ← Text.runs_eq_filter_pieces]
  rfl

theorem group_segment_eq
    (rest : List Char) :
    GroupMode.segment.group rest =
      match (namesBetween rest).dropLast with
      | folder :: _ => Text.segmentName folder
      | [] => Text.segmentName (Text.stem rest) := by
  rw [namesBetween, ← Text.runs_eq_filter_pieces]
  rfl

/-- Behind two names or more there are folders, and their names are the parts of the nested group,
of which the other group is the first. -/
theorem groups_of_folders
    {rest : List Char}
    (hasFolder : 2 ≤ (namesBetween rest).length) :
    let segments := Text.pieces '.' (GroupMode.nested.group rest)
    segments.length = (namesBetween rest).length - 1 ∧
      (∀ segment ∈ segments,
        segment ≠ [] ∧ ∀ character ∈ segment, Text.isSegmentCharacter character = true) ∧
      segments.head? = some (GroupMode.segment.group rest) := by
  intro segments
  have lengthFolders : (namesBetween rest).dropLast.length = (namesBetween rest).length - 1 :=
    List.length_dropLast
  have areSegments : segments = (namesBetween rest).dropLast.map Text.segmentName := by
    have nonempty : (namesBetween rest).dropLast.map Text.segmentName ≠ [] := by
      rw [← List.length_pos_iff, List.length_map, lengthFolders]
      omega
    have undotted :
        ∀ segment ∈ (namesBetween rest).dropLast.map Text.segmentName, '.' ∉ segment := by
      rw [List.forall_mem_map]
      exact fun folder _ => dot_notMem_segmentName folder
    change Text.pieces '.' (GroupMode.nested.group rest) = _
    rw [group_nested_eq, Text.pieces_joinedBy nonempty undotted]
  rw [areSegments]
  refine ⟨by rw [List.length_map, lengthFolders], ?_, ?_⟩
  · rw [List.forall_mem_map]
    intro folder isFolder
    have isName : folder ∈ namesBetween rest := List.dropLast_subset _ isFolder
    have nonempty : folder ≠ [] := by
      rintro rfl
      simp [namesBetween] at isName
    exact ⟨mt Text.segmentName_eq_nil_iff.mp nonempty,
      fun _ => Text.isSegmentCharacter_of_mem_segmentName⟩
  · rw [group_segment_eq]
    cases ofFolders : (namesBetween rest).dropLast with
    | cons folder more => rfl
    | nil =>
        rw [ofFolders, List.length_nil] at lengthFolders
        omega

/-- Behind one name or none there is no folder, and the name of the file makes up a group in one of
the modes alone. -/
theorem groups_of_file
    {rest : List Char}
    (noFolder : (namesBetween rest).length ≤ 1) :
    GroupMode.nested.group rest = [] ∧
      GroupMode.segment.group rest = Text.segmentName (Text.stem rest) := by
  have areFolders : (namesBetween rest).dropLast = [] := by
    rw [← List.length_eq_zero_iff, List.length_dropLast]
    omega
  rw [group_nested_eq, group_segment_eq, areFolders]
  exact ⟨rfl, rfl⟩

/-! ## Slashes -/

/-- The characters between the names of a path. -/
def slashes : List Char :=
  ['/', '\\']

/-- Whether two characters are the same, or slashes both. -/
def AreAlike (first second : Char) : Prop :=
  first = second ∨ first ∈ slashes ∧ second ∈ slashes

instance (first second : Char) : Decidable (AreAlike first second) :=
  inferInstanceAs (Decidable (_ ∨ _))

theorem slashed_congr
    {first second : List Char}
    (alike : List.Forall₂ AreAlike first second) :
    slashed first = slashed second := by
  unfold slashed
  induction alike with
  | nil => rfl
  | cons areAlike _ inductionHypothesis =>
      rw [List.map_cons, List.map_cons, inductionHypothesis]
      rcases areAlike with rfl | ⟨isFirst, isSecond⟩
      · rfl
      · simp only [slashes, List.mem_cons, List.not_mem_nil, or_false] at isFirst isSecond
        rcases isFirst with rfl | rfl <;> rcases isSecond with rfl | rfl <;> rfl

/-! ## Both modes -/

/-- Both modes give a file the same namespace, and behind no prefix the same group.  Behind the
prefix that decides, folders are the parts of the nested group, and the first part is the other
group; without folders the nested group is empty, and the other one is the name of the file.
A path with other slashes gives the same. -/
theorem infer_in_modes
    (spaces : List SpacePrefix)
    (defaultSpace path : String) :
    let infer (mode : GroupMode) := (Placement.mk spaces defaultSpace mode).infer
    let nested := infer .nested path
    let segment := infer .segment path
    let whole := slashed path.toList
    nested.space = segment.space ∧
      ((∀ entry ∈ spaces, ¬entry.mark <:+: whole) ∧ nested.group = segment.group ∨
        ∃ entry rest, Decides spaces whole entry rest ∧
          (2 ≤ (namesBetween rest).length →
            let segments := Text.pieces '.' nested.group.toList
            segments.length = (namesBetween rest).length - 1 ∧
              (∀ part ∈ segments,
                part ≠ [] ∧ ∀ character ∈ part, Text.isSegmentCharacter character = true) ∧
              segments.head? = some segment.group.toList) ∧
          ((namesBetween rest).length ≤ 1 →
            nested.group = "" ∧
              segment.group.toList = Text.segmentName (Text.stem whole))) ∧
      ∀ other : String, List.Forall₂ AreAlike path.toList other.toList →
        ∀ mode, infer mode other = infer mode path := by
  intro infer nested segment whole
  have sameSlashes : ∀ other : String, List.Forall₂ AreAlike path.toList other.toList →
      ∀ mode, infer mode other = infer mode path := by
    intro other alike mode
    have sameWhole : slashed other.toList = slashed path.toList := (slashed_congr alike).symm
    exact congrArg (Placement.mk spaces defaultSpace mode).inferFrom sameWhole
  rcases none_or_decides spaces whole with nowhere | ⟨entry, rest, decides⟩
  · have inMode (mode : GroupMode) : infer mode path =
        ⟨defaultSpace, String.ofList (Text.segmentName (Text.stem whole))⟩ :=
      Placement.inferFrom_of_none nowhere
    have same : nested = segment := (inMode .nested).trans (inMode .segment).symm
    exact ⟨congrArg Place.space same, .inl ⟨nowhere, congrArg Place.group same⟩, sameSlashes⟩
  · have inMode (mode : GroupMode) : infer mode path =
        ⟨entry.space, String.ofList (mode.group rest)⟩ :=
      Placement.inferFrom_of_decides decides
    have isNested : nested.group.toList = GroupMode.nested.group rest := by
      rw [show nested = _ from inMode .nested, String.toList_ofList]
    have isSegment : segment.group.toList = GroupMode.segment.group rest := by
      rw [show segment = _ from inMode .segment, String.toList_ofList]
    refine ⟨?_, .inr ⟨entry, rest, decides, fun hasFolder => ?_, fun noFolder => ?_⟩, sameSlashes⟩
    · rw [show nested = _ from inMode .nested, show segment = _ from inMode .segment]
    · rw [isNested, isSegment]
      exact groups_of_folders hasFolder
    · obtain ⟨ofNested, ofSegment⟩ := groups_of_file noFolder
      rw [isSegment, decides.stem_eq, ofSegment, ← String.toList_eq_nil_iff, isNested, ofNested]
      exact ⟨rfl, rfl⟩

/-- A path with slashes of both kinds, two in a row, and dots and letters of other scripts in the
names of its folders. -/
theorem infer_in_modes_for_roomList :
    let spaces : List SpacePrefix := [⟨"src/app/pages/", "pages"⟩, ⟨"src/app//", "app"⟩]
    let infer (mode : GroupMode) := (Placement.mk spaces "features" mode).infer
    let path := "/work/src/app//RoomList.v2/größe/Page.test.tsx"
    let other := "/work\\src/app//RoomList.v2\\größe/Page.test.tsx"
    List.Forall₂ AreAlike path.toList other.toList ∧
      infer .nested other = infer .nested path ∧
        infer .nested path = ⟨"app", "room_list_v2.gr_e"⟩ ∧
          infer .segment path = ⟨"app", "room_list_v2"⟩ := by
  intro spaces infer path other
  have alike : List.Forall₂ AreAlike path.toList other.toList := by decide +kernel
  exact ⟨alike, (infer_in_modes spaces "features" path).2.2 other alike .nested, by decide +kernel,
    by decide +kernel⟩

end Key
end KeyedText
