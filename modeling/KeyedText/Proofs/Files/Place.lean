import KeyedText.Files.World
import KeyedText.Proofs.Files.Tree
import KeyedText.Proofs.Text.Pieces

/-!
# What paths lead to

A path leads through folders to a location, and two paths may lead to the same
one.  Writing and appending change what is at the location of one path: what any
other path leads to is what it led to before, and it leads there still.
-/

namespace KeyedText
namespace Tree

/-! ## Locations of paths -/

/-- Goes on from a folder along a name. -/
def goOn (location : Location) (name : List Char) : Location :=
  if Path.isIdle name then location
  else if name == ['.', '.'] then location.dropLast
  else location ++ [name]

section Paths

variable
    {tree : Tree α}
    {location : Location}

/-- From a folder a path goes on by its first name. -/
theorem locateFrom_cons_of_isFolder
    (isFolder : tree.IsFolder location)
    (name : List Char)
    (rest : List (List Char)) :
    tree.locateFrom location (name :: rest) = tree.locateFrom (goOn location name) rest := by
  obtain ⟨entries, isPart⟩ := isFolder_iff.mp isFolder
  rw [locateFrom, isPart]
  dsimp only
  unfold goOn
  split
  · rfl
  · split <;> rfl

/-- From anything else a path leads nowhere. -/
theorem locateFrom_cons_of_not_isFolder
    (isNone : ¬ tree.IsFolder location)
    (name : List Char)
    (rest : List (List Char)) :
    (tree.locateFrom location (name :: rest)).toOption = none := by
  rw [isFolder_iff] at isNone
  rw [locateFrom]
  split
  · rfl
  · rfl
  · next entries isPart => exact absurd ⟨entries, isPart⟩ isNone

/-- The location that a path leads to, if it leads anywhere. -/
def place? (tree : Tree α) (path : Path) : Option Location :=
  (tree.locate path).toOption

/-- A path leads to the same location in every tree with the same folders. -/
theorem place?_congr
    {other : Tree α}
    (sameFolders : ∀ location, other.IsFolder location ↔ tree.IsFolder location)
    (path : Path) :
    other.place? path = tree.place? path := by
  have along : ∀ names location,
      (other.locateFrom location names).toOption = (tree.locateFrom location names).toOption := by
    intro names
    induction names with
    | nil => exact fun _ => rfl
    | cons name rest inductionHypothesis =>
        intro location
        by_cases isFolder : tree.IsFolder location
        · rw [locateFrom_cons_of_isFolder isFolder,
            locateFrom_cons_of_isFolder ((sameFolders location).mpr isFolder)]
          exact inductionHypothesis _
        · rw [locateFrom_cons_of_not_isFolder isFolder,
            locateFrom_cons_of_not_isFolder (mt (sameFolders location).mp isFolder)]
  exact along _ _

/-- What is reached by one name stands in a folder. -/
theorem isFolder_dropLast_goOn
    (isFolder : tree.IsFolder location)
    (name : List Char) :
    tree.IsFolder (goOn location name).dropLast := by
  unfold goOn
  split
  · exact isFolder.dropLast
  · split
    · exact isFolder.dropLast.dropLast
    · rwa [List.dropLast_concat]

/-- A path that goes on leads from a folder. -/
theorem isFolder_of_locateFrom
    {name : List Char}
    {names : List (List Char)}
    {reached : Location}
    (leads : (tree.locateFrom location (name :: names)).toOption = some reached) :
    tree.IsFolder location := by
  by_contra isNone
  rw [locateFrom_cons_of_not_isFolder isNone] at leads
  cases leads

/-- A path leads out of a folder along its last name. -/
theorem exists_of_locateFrom
    (names : List (List Char))
    (last : List Char)
    {reached : Location}
    (leads : (tree.locateFrom location (names ++ [last])).toOption = some reached) :
    ∃ front, tree.IsFolder front ∧ reached = goOn front last := by
  induction names generalizing location with
  | nil =>
      have isFolder := isFolder_of_locateFrom leads
      rw [List.nil_append, locateFrom_cons_of_isFolder isFolder] at leads
      exact ⟨location, isFolder, (Option.some.inj leads).symm⟩
  | cons name rest inductionHypothesis =>
      have isFolder := isFolder_of_locateFrom leads
      rw [List.cons_append, locateFrom_cons_of_isFolder isFolder] at leads
      exact inductionHypothesis leads

end Paths

/-! ## Names in a folder -/

/-- A name of an entry, and not a way to another folder. -/
structure IsName (name : List Char) : Prop where
  plain : '/' ∉ name
  busy : Path.isIdle name = false
  notAbove : name ≠ ['.', '.']

/-- A name by itself is a relative path. -/
theorem IsName.isAbsolute_eq_false
    {name : List Char}
    (isName : IsName name) :
    Path.isAbsolute name = false := by
  cases name with
  | nil => rfl
  | cons first rest =>
      refine beq_eq_false_iff_ne.mpr fun isFirst => isName.plain ?_
      rw [Option.some.inj isFirst]
      exact List.mem_cons_self

/-- The pieces of the paths of all names in a folder differ by the last one alone. -/
theorem exists_pieces_join
    (folder : Path) :
    ∃ front, ∀ {name}, IsName name → Text.pieces '/' (folder.join name) = front ++ [name] := by
  have ofName {name : List Char} (isName : IsName name) : Text.pieces '/' name = [name] :=
    Text.pieces_of_not_mem '/' isName.plain
  by_cases isOpen : (folder.isEmpty || folder.getLast? == some '/') = true
  · have joined {name : List Char} (isName : IsName name) : folder.join name = folder ++ name := by
      rw [Path.join, if_neg (by rw [isName.isAbsolute_eq_false]; exact Bool.false_ne_true),
        if_pos isOpen]
    rw [Bool.or_eq_true, List.isEmpty_iff, beq_iff_eq] at isOpen
    rcases isOpen with rfl | ends
    · refine ⟨[], fun isName => ?_⟩
      rw [joined isName]
      exact ofName isName
    · obtain ⟨front, rfl⟩ := List.getLast?_eq_some_iff.mp ends
      refine ⟨Text.pieces '/' front, fun isName => ?_⟩
      rw [joined isName, List.append_assoc, List.singleton_append, Text.pieces_append_cons,
        ofName isName]
  · refine ⟨Text.pieces '/' folder, fun isName => ?_⟩
    rw [Path.join, if_neg (by rw [isName.isAbsolute_eq_false]; exact Bool.false_ne_true),
      if_neg isOpen, Text.pieces_append_cons, ofName isName]

/-- Different names give different paths. -/
theorem join_ne_join
    {first second : List Char}
    (isFirst : IsName first)
    (isSecond : IsName second)
    (differs : first ≠ second)
    (folder : Path) :
    folder.join first ≠ folder.join second := by
  intro same
  obtain ⟨front, arePieces⟩ := exists_pieces_join folder
  have samePieces := arePieces isFirst
  rw [same, arePieces isSecond] at samePieces
  exact differs (List.singleton_inj.mp (List.append_cancel_left samePieces)).symm

/-- Where one name in a folder leads, every name does. -/
theorem isSome_place?_join
    (tree : Tree α)
    {first second : List Char}
    (isFirst : IsName first)
    (isSecond : IsName second)
    (folder : Path) :
    (tree.place? (folder.join first)).isSome = (tree.place? (folder.join second)).isSome := by
  have along : ∀ names location,
      (tree.locateFrom location (names ++ [first])).toOption.isSome =
        (tree.locateFrom location (names ++ [second])).toOption.isSome := by
    intro names
    induction names with
    | nil =>
        intro location
        rw [List.nil_append, List.nil_append]
        by_cases isFolder : tree.IsFolder location
        · rw [locateFrom_cons_of_isFolder isFolder, locateFrom_cons_of_isFolder isFolder]
          rfl
        · rw [locateFrom_cons_of_not_isFolder isFolder, locateFrom_cons_of_not_isFolder isFolder]
    | cons name rest inductionHypothesis =>
        intro location
        rw [List.cons_append, List.cons_append]
        by_cases isFolder : tree.IsFolder location
        · rw [locateFrom_cons_of_isFolder isFolder, locateFrom_cons_of_isFolder isFolder]
          exact inductionHypothesis _
        · rw [locateFrom_cons_of_not_isFolder isFolder, locateFrom_cons_of_not_isFolder isFolder]
  obtain ⟨front, arePieces⟩ := exists_pieces_join folder
  unfold place? locate
  rw [arePieces isFirst, arePieces isSecond]
  exact along front []

/-- Along a name in a folder a path leads to an entry of that name. -/
theorem getLast?_place?_join
    {tree : Tree α}
    {name : List Char}
    (isName : IsName name)
    {folder : Path}
    {location : Location}
    (leads : tree.place? (folder.join name) = some location) :
    location.getLast? = some name := by
  obtain ⟨front, arePieces⟩ := exists_pieces_join folder
  unfold place? locate at leads
  rw [arePieces isName] at leads
  obtain ⟨above, -, rfl⟩ := exists_of_locateFrom front name leads
  unfold goOn
  rw [if_neg (by rw [isName.busy]; exact Bool.false_ne_true),
    if_neg (mt beq_iff_eq.mp isName.notAbove), List.getLast?_concat]

/-! ## The same place -/

/-- Two paths lead to the same location. -/
def SamePlace (tree : Tree α) (first second : Path) : Prop :=
  (tree.place? first).isSome ∧ tree.place? first = tree.place? second

instance (tree : Tree α) (first second : Path) : Decidable (tree.SamePlace first second) :=
  inferInstanceAs (Decidable (_ ∧ _))

theorem SamePlace.symm
    {tree : Tree α}
    {first second : Path}
    (same : tree.SamePlace first second) :
    tree.SamePlace second first :=
  ⟨same.2 ▸ same.1, same.2.symm⟩

/-- Entries of different names are at different places. -/
theorem not_samePlace_join
    (tree : Tree α)
    {first second : List Char}
    (isFirst : IsName first)
    (isSecond : IsName second)
    (differs : first ≠ second)
    (folder : Path) :
    ¬ tree.SamePlace (folder.join first) (folder.join second) := by
  rintro ⟨leads, same⟩
  obtain ⟨location, isLocation⟩ := Option.isSome_iff_exists.mp leads
  have lastFirst := getLast?_place?_join isFirst isLocation
  have lastSecond := getLast?_place?_join isSecond (same ▸ isLocation)
  exact differs (Option.some.inj (lastFirst.symm.trans lastSecond))

/-! ## What is at a path -/

/-- What is at a path, whatever its entries are, if there is anything. -/
def view? (tree : Tree α) (path : Path) : Option (Option α) :=
  (tree.place? path).bind tree.nodeAt?

/-- What is seen at a path is what is found there, the entries of a folder aside. -/
theorem view?_eq
    (tree : Tree α)
    (path : Path) :
    tree.view? path = (tree.find? path).map node := by
  unfold view? place? find? find nodeAt?
  cases tree.locate path with
  | error refusal => rfl
  | ok location =>
      dsimp only [bind, Except.bind]
      cases isPart : tree.get? location with
      | none => simp only [Except.toOption, Option.bind_some, isPart]; rfl
      | some part => simp only [Except.toOption, Option.bind_some, isPart]; rfl

/-- What the file at a path holds. -/
def content? (tree : Tree α) (path : Path) : Option α :=
  (tree.view? path).join

/-- At one place one thing is seen, by whatever path. -/
theorem SamePlace.view?_eq
    {tree : Tree α}
    {first second : Path}
    (same : tree.SamePlace first second) :
    tree.view? first = tree.view? second := by
  unfold view?
  rw [same.2]

/-! ## Changes -/

/-- One tree is another but for what is at some paths. -/
structure Keeps (before after : Tree α) (changed : List Path) : Prop where
  /-- Every path leads where it led. -/
  places : ∀ path, after.place? path = before.place? path
  /-- Elsewhere there is what there was. -/
  views : ∀ path, (∀ other ∈ changed, ¬ before.SamePlace path other) →
    after.view? path = before.view? path

theorem Keeps.refl
    (tree : Tree α) :
    Keeps tree tree [] :=
  ⟨fun _ => rfl, fun _ _ => rfl⟩

/-- What keeps the other files keeps which paths lead to one place. -/
theorem Keeps.samePlace_iff
    {before after : Tree α}
    {changed : List Path}
    (keeps : Keeps before after changed)
    (first second : Path) :
    after.SamePlace first second ↔ before.SamePlace first second := by
  unfold SamePlace
  rw [keeps.places, keeps.places]

/-- Two changes in a row keep what neither of them changes. -/
theorem Keeps.trans
    {before between after : Tree α}
    {early late : List Path}
    (first : Keeps before between early)
    (second : Keeps between after late) :
    Keeps before after (early ++ late) where
  places path := (second.places path).trans (first.places path)
  views path apart := by
    have apartLate : ∀ other ∈ late, ¬ between.SamePlace path other := by
      intro other isLate
      rw [first.samePlace_iff]
      exact apart other (List.mem_append_right early isLate)
    rw [second.views path apartLate]
    exact first.views path fun other isEarly => apart other (List.mem_append_left late isEarly)

theorem Keeps.mono
    {before after : Tree α}
    {changed more : List Path}
    (keeps : Keeps before after changed)
    (subset : changed ⊆ more) :
    Keeps before after more :=
  ⟨keeps.places, fun path apart => keeps.views path fun other isChanged =>
    apart other (subset isChanged)⟩

/-- A file that looks the same has the same content. -/
theorem content?_eq_of_view?_eq
    {before after : Tree α}
    {path : Path}
    (same : after.view? path = before.view? path) :
    after.content? path = before.content? path := by
  unfold content?
  rw [same]

/-- A tree in which the file at a path holds something, and all else is as in another tree. -/
structure Puts (before : Tree α) (path : Path) (content : α) (after : Tree α) : Prop where
  /-- All else is as it was. -/
  keeps : Keeps before after [path]
  /-- The path leads somewhere. -/
  leads : (before.place? path).isSome
  /-- Where the path leads, the content is. -/
  holds : after.view? path = some (some content)

/-- A file that is put somewhere is there. -/
theorem Puts.content?_self
    {before after : Tree α}
    {path : Path}
    {content : α}
    (puts : Puts before path content after) :
    after.content? path = some content := by
  unfold content?
  rw [puts.holds]
  rfl

/-- Another path to the place shows the new content. -/
theorem Puts.view?_of_samePlace
    {before after : Tree α}
    {path other : Path}
    {content : α}
    (puts : Puts before path content after)
    (same : before.SamePlace other path) :
    after.view? other = some (some content) := by
  rw [← puts.holds]
  exact ((puts.keeps.samePlace_iff other path).mpr same).view?_eq

/-- At any other place nothing changes. -/
theorem Puts.view?_of_not_samePlace
    {before after : Tree α}
    {path other : Path}
    {content : α}
    (puts : Puts before path content after)
    (apart : ¬ before.SamePlace other path) :
    after.view? other = before.view? other := by
  refine puts.keeps.views other fun changed isChanged => ?_
  rwa [List.mem_singleton.mp isChanged]

/-- Of two files that are put at one path, the last counts. -/
theorem Puts.trans
    {before between after : Tree α}
    {path : Path}
    {first second : α}
    (early : Puts before path first between)
    (late : Puts between path second after) :
    Puts before path second after where
  keeps := (early.keeps.trans late.keeps).mono (by simp)
  leads := early.leads
  holds := late.holds

/-- A place that takes a file holds it afterwards. -/
theorem puts_of_takes
    {tree : Tree α}
    {path : Path}
    {location : Location}
    (leads : tree.place? path = some location)
    (takes : tree.Takes location)
    (content : α) :
    Puts tree path content (tree.put location (file content)) := by
  have sameFolders : ∀ other,
      (tree.put location (file content)).IsFolder other ↔ tree.IsFolder other := by
    intro other
    unfold IsFolder
    rw [nodeAt?_put takes]
    split
    · next isHere =>
        rw [isHere]
        exact iff_of_false (by simp) takes.unfolded
    · rfl
  have places := place?_congr sameFolders
  refine ⟨⟨places, ?_⟩, ?_, ?_⟩
  · intro other apart
    unfold view?
    rw [places]
    cases isOther : tree.place? other with
    | none => rfl
    | some behind =>
        rw [Option.bind_some, Option.bind_some, nodeAt?_put takes, if_neg]
        rintro rfl
        refine apart path List.mem_cons_self ⟨?_, isOther.trans leads.symm⟩
        rw [isOther]
        rfl
  · rw [leads]
    rfl
  · unfold view?
    rw [places, leads, Option.bind_some, nodeAt?_put takes, if_pos rfl]

/-- Where a path leads and no folder is, a file can be put. -/
theorem takes_of_place?
    {tree : Tree α}
    {path : Path}
    {location : Location}
    (leads : tree.place? path = some location)
    (unfolded : ¬ tree.IsFolder location) :
    tree.Takes location := by
  obtain ⟨front, last, arePieces⟩ : ∃ front last, Text.pieces '/' path = front ++ [last] :=
    ⟨_, _, (List.dropLast_append_getLast (Text.pieces_ne_nil '/' path)).symm⟩
  unfold place? locate at leads
  rw [arePieces] at leads
  obtain ⟨above, isFolder, rfl⟩ := exists_of_locateFrom front last leads
  refine ⟨?_, isFolder_dropLast_goOn isFolder last, unfolded⟩
  intro isTop
  apply unfolded
  rw [isTop]
  exact isFolder.nil

end Tree

namespace FileTree

variable
    {tree after : FileTree}
    {path : Path}
    {content : ByteArray}

/-- A file is read with a content exactly if it is seen with that content. -/
theorem read_eq_ok_iff :
    tree.read path = .ok content ↔ tree.view? path = some (some content) := by
  rw [Tree.view?_eq, Tree.find?]
  unfold read
  cases tree.find path with
  | error refusal => exact iff_of_false nofun nofun
  | ok part =>
      cases part with
      | folder entries => exact iff_of_false nofun nofun
      | file old => exact ⟨fun same => by cases same; rfl, fun same => by cases same; rfl⟩

/-! ## Files that are opened for writing -/

variable
    {disk : Disk}
    {location : Location}

/-- Where a path leads, a file can be opened unless a folder is there or the disk refuses it. -/
theorem openAt_of_place?
    (disk : Disk)
    (leads : tree.place? path = some location) :
    tree.openAt disk path =
      match tree.view? path with
      | some none => .error .isFolder
      | _ =>
        match (disk.allowance location).refusal? with
        | some refusal => .error refusal
        | none => .ok location := by
  unfold openAt Tree.view? Tree.nodeAt?
  rw [leads]
  unfold Tree.place? at leads
  cases isLocation : tree.locate path with
  | error refusal =>
      rw [isLocation] at leads
      cases leads
  | ok reached =>
      rw [isLocation] at leads
      cases leads
      dsimp only [bind, Except.bind, Option.bind]
      cases tree.get? location with
      | none => cases (disk.allowance location).refusal? <;> rfl
      | some part =>
          cases part with
          | folder entries => rfl
          | file content => cases (disk.allowance location).refusal? <;> rfl

/-- A file that is opened is where its path leads, and no folder. -/
theorem of_openAt_eq_ok
    (opens : tree.openAt disk path = .ok location) :
    tree.place? path = some location ∧ ¬ tree.IsFolder location := by
  cases leads : tree.place? path with
  | none =>
      unfold openAt at opens
      unfold Tree.place? at leads
      cases isLocation : tree.locate path with
      | error refusal =>
          rw [isLocation] at opens
          cases opens
      | ok reached =>
          rw [isLocation] at leads
          cases leads
  | some reached =>
      rw [openAt_of_place? disk leads] at opens
      split at opens
      · cases opens
      next unfolded =>
      split at opens
      · cases opens
      · cases opens
        refine ⟨rfl, fun isFolder => unfolded ?_⟩
        rwa [Tree.view?, leads, Option.bind_some]

/-- What is held where a path leads is its content, or nothing. -/
theorem heldAt_of_place?
    (leads : tree.place? path = some location) :
    tree.heldAt location = (tree.content? path).getD .empty := by
  unfold heldAt Tree.content? Tree.view? Tree.nodeAt?
  rw [leads, Option.bind_some]
  cases tree.get? location with
  | none => rfl
  | some part =>
      cases part with
      | folder entries => rfl
      | file content => rfl

/-- What is written behind some bytes is written to its end, or a front of it is. -/
theorem extend_cases
    (allowance : Allowance)
    (before content : ByteArray) :
    allowance.extend before content = (before ++ content, .ok ()) ∨
      ∃ size refusal, size < content.size ∧
        allowance.extend before content =
          (before ++ content.extract 0 size, .error refusal) := by
  unfold Allowance.extend
  split
  · next size refusal =>
      dsimp only
      split
      · exact .inl rfl
      · next tooMuch => exact .inr ⟨_, refusal, Nat.lt_of_not_le tooMuch, rfl⟩
  · exact .inl rfl

/-- What an attempt to write comes to: a file that could not be opened is as it was, and one that
could be holds what it should start with and all of the content, or a front of it. -/
inductive Written (tree : FileTree) (path : Path) (before content : ByteArray) :
    Except Refusal Unit → FileTree → Prop where
  | unopened
      (refusal : Refusal) :
      Written tree path before content (.error refusal) tree
  | whole
      (after : FileTree)
      (puts : tree.Puts path (before ++ content) after) :
      Written tree path before content (.ok ()) after
  | cut
      (size : Nat)
      (refusal : Refusal)
      (fewer : size < content.size)
      (after : FileTree)
      (puts : tree.Puts path (before ++ content.extract 0 size) after) :
      Written tree path before content (.error refusal) after

theorem written_extendAt
    (leads : tree.place? path = some location)
    (unfolded : ¬ tree.IsFolder location)
    (before : ByteArray) :
    Written tree path before content (tree.extendAt disk location before content).1
      (tree.extendAt disk location before content).2 := by
  have puts := Tree.puts_of_takes leads (Tree.takes_of_place? leads unfolded)
  unfold extendAt
  rcases extend_cases (disk.allowance location) before content with
    isWhole | ⟨size, refusal, fewer, isCut⟩
  · rw [isWhole]
    exact .whole _ (puts _)
  · rw [isCut]
    exact .cut size refusal fewer _ (puts _)

/-- A write starts from nothing, and leaves as much of the content as the disk allows. -/
theorem written_write
    (disk : Disk)
    (tree : FileTree)
    (path : Path)
    (content : ByteArray) :
    Written tree path .empty content (tree.write disk path content).1
      (tree.write disk path content).2 := by
  unfold write withOpen
  cases opens : tree.openAt disk path with
  | error refusal => exact .unopened refusal
  | ok location =>
      obtain ⟨leads, unfolded⟩ := of_openAt_eq_ok opens
      exact written_extendAt leads unfolded .empty

/-- An appended text stands behind what was there, as far as the disk allows. -/
theorem written_append
    (disk : Disk)
    (tree : FileTree)
    (path : Path)
    (content : ByteArray) :
    Written tree path ((tree.content? path).getD .empty) content
      (tree.append disk path content).1 (tree.append disk path content).2 := by
  unfold append withOpen
  cases opens : tree.openAt disk path with
  | error refusal => exact .unopened refusal
  | ok location =>
      obtain ⟨leads, unfolded⟩ := of_openAt_eq_ok opens
      rw [← heldAt_of_place? leads]
      exact written_extendAt leads unfolded _

/-- A file that is opened at its end holds what it held, and nothing where there was none. -/
theorem openEnd_cases
    (disk : Disk)
    (tree : FileTree)
    (path : Path) :
    (∃ refusal, tree.openEnd disk path = (.error refusal, tree)) ∨
      ∃ after, tree.openEnd disk path = (.ok (), after) ∧
        tree.Puts path ((tree.content? path).getD .empty) after := by
  unfold openEnd withOpen
  cases opens : tree.openAt disk path with
  | error refusal => exact .inl ⟨refusal, rfl⟩
  | ok location =>
      obtain ⟨leads, unfolded⟩ := of_openAt_eq_ok opens
      refine .inr ⟨_, rfl, ?_⟩
      rw [← heldAt_of_place? leads]
      exact Tree.puts_of_takes leads (Tree.takes_of_place? leads unfolded) _

end FileTree
end KeyedText
