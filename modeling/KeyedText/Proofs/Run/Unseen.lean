import KeyedText.Proofs.Run.Conversion

/-!
# Files that a run does not look at

Two worlds differ by one file that only the second of them holds.  What asks for
other paths only ends the same in both, and leaves two worlds that still differ
by that file alone.
-/

namespace KeyedText

/-! ## What reading and writing depend on -/

namespace Tree

/-- Whether a file or a folder is seen. -/
def kindOfView : Option α → Kind
  | none => .folder
  | some _ => .file

/-- What kind a path has shows in what is seen there. -/
theorem map_kind_find?
    (tree : Tree α)
    (path : Path) :
    (tree.find? path).map kind = (tree.view? path).map kindOfView := by
  rw [view?_eq, Option.map_map]
  congr 1
  funext part
  cases part with
  | file content => rfl
  | folder entries => rfl

/-- A path where something is seen leads somewhere. -/
theorem isSome_place?_of_view?
    {tree : Tree α}
    {path : Path}
    {seen : Option α}
    (isSeen : tree.view? path = some seen) :
    (tree.place? path).isSome := by
  obtain ⟨location, leads, -⟩ := Option.bind_eq_some_iff.mp isSeen
  rw [leads]
  rfl

/-- Changed alike, two trees that differ by the file at a path still differ by it alone. -/
theorem Puts.of_puts
    {first second firstAfter secondAfter : Tree α}
    {path other : Path}
    {content new : α}
    (puts : Puts first path content second)
    (putsFirst : Puts first other new firstAfter)
    (putsSecond : Puts second other new secondAfter)
    (apart : ¬ first.SamePlace other path) :
    Puts firstAfter path content secondAfter := by
  have samePlaces : ∀ path, secondAfter.place? path = firstAfter.place? path := fun path => by
    rw [putsSecond.keeps.places, puts.keeps.places, putsFirst.keeps.places]
  refine ⟨⟨samePlaces, fun seen differs => ?_⟩, ?_, ?_⟩
  · have notHere : ¬ first.SamePlace seen path := by
      rw [← putsFirst.keeps.samePlace_iff]
      exact differs path List.mem_cons_self
    by_cases isOther : first.SamePlace seen other
    · rw [putsFirst.view?_of_samePlace isOther,
        putsSecond.view?_of_samePlace ((puts.keeps.samePlace_iff _ _).mpr isOther)]
    · rw [putsFirst.view?_of_not_samePlace isOther,
        putsSecond.view?_of_not_samePlace (mt (puts.keeps.samePlace_iff _ _).mp isOther),
        puts.view?_of_not_samePlace notHere]
  · rw [putsFirst.keeps.places]
    exact puts.leads
  · rw [putsSecond.view?_of_not_samePlace, puts.holds]
    rw [puts.keeps.samePlace_iff]
    exact fun same => apart same.symm

end Tree

namespace FileTree

/-- What is read where a path leads, by what is seen there. -/
def readView : Option (Option ByteArray) → Except Refusal ByteArray
  | none => .error .missing
  | some none => .error .isFolder
  | some (some content) => .ok content

/-- What is read where a path leads depends on what is seen there. -/
theorem read_of_leads
    {tree : FileTree}
    {path : Path}
    (leads : (tree.place? path).isSome) :
    tree.read path = readView (tree.view? path) := by
  unfold read Tree.find Tree.view? Tree.place? Tree.nodeAt? at *
  cases isLocation : tree.locate path with
  | error refusal =>
      rw [isLocation] at leads
      cases leads
  | ok location =>
      dsimp only [bind, Except.bind, Except.toOption, Option.bind]
      cases tree.get? location with
      | none => rfl
      | some part =>
          cases part with
          | folder entries => rfl
          | file content => rfl

/-- A file that is opened is extended at the location of its path, behind what it held there. -/
theorem append_eq
    (disk : Disk)
    (tree : FileTree)
    (path : Path)
    (content : ByteArray) :
    tree.append disk path content = tree.withOpen disk path fun location =>
      tree.extendAt disk location ((tree.view? path).join.getD .empty) content := by
  unfold append withOpen
  cases opens : tree.openAt disk path with
  | error refusal => rfl
  | ok location =>
      dsimp only
      rw [heldAt_of_place? (of_openAt_eq_ok opens).1]
      rfl

/-- Opening a file to go on keeps what is seen in it, or starts it empty. -/
theorem openEnd_eq
    (disk : Disk)
    (tree : FileTree)
    (path : Path) :
    tree.openEnd disk path = tree.withOpen disk path fun location =>
      (.ok (), tree.put location (.file ((tree.view? path).join.getD .empty))) := by
  unfold openEnd withOpen
  cases opens : tree.openAt disk path with
  | error refusal => rfl
  | ok location =>
      dsimp only
      rw [heldAt_of_place? (of_openAt_eq_ok opens).1]
      rfl

end FileTree

namespace World

open Run

/-- A file that only one of two worlds holds, with the tree from which the places of paths come and
what was told in either world before. -/
structure Difference where
  /-- The path of the file. -/
  path : Path
  /-- What the file holds. -/
  content : ByteArray
  /-- A tree in which every path leads where it leads in both worlds. -/
  places : FileTree
  /-- What was told before in the world without the file. -/
  toldWithout : List Event
  /-- What was told before in the world with the file. -/
  toldWith : List Event

/-- Two worlds on one disk differ by the file alone. -/
structure Differ (difference : Difference) (without withFile : World) : Prop where
  disk : withFile.disk = without.disk
  puts : without.tree.Puts difference.path difference.content withFile.tree
  places : ∀ path, without.tree.place? path = difference.places.place? path
  told : ∃ events, without.events = difference.toldWithout ++ events ∧
    withFile.events = difference.toldWith ++ events

/-- What ends the same in two worlds that differ by a file, and leaves worlds that do. -/
def Blind (difference : Difference) (action : StateM World α) : Prop :=
  ∀ without withFile, Differ difference without withFile →
    (action.run without).1 = (action.run withFile).1 ∧
      Differ difference (action.run without).2 (action.run withFile).2

/-- What an action gives in some world that differs from another one by the file. -/
def MayGive (difference : Difference) (action : StateM World α) (value : α) : Prop :=
  ∃ without withFile, Differ difference without withFile ∧ (action.run without).1 = value

section Blind

variable
    {difference : Difference}

theorem blind_pure
    (value : α) :
    Blind difference (pure value) :=
  fun _ _ differ => ⟨rfl, differ⟩

/-- Actions that do not see a file do not see it in a row; of what comes second only the
values matter that the first can give. -/
theorem blind_bind_of_mayGive
    {action : StateM World α}
    {next : α → StateM World β}
    (first : Blind difference action)
    (second : ∀ value, MayGive difference action value → Blind difference (next value)) :
    Blind difference (action >>= next) := by
  intro without withFile differ
  obtain ⟨sameValue, differBetween⟩ := first without withFile differ
  have later := second (action.run without).1 ⟨without, withFile, differ, rfl⟩ _ _ differBetween
  rw [StateT.run_bind, StateT.run_bind]
  dsimp only [bind]
  rwa [← sameValue]

theorem blind_bind
    {action : StateM World α}
    {next : α → StateM World β}
    (first : Blind difference action)
    (second : ∀ value, Blind difference (next value)) :
    Blind difference (action >>= next) :=
  blind_bind_of_mayGive first fun value _ => second value

theorem blind_tell
    (event : Event) :
    Blind difference (Host.tell event) := by
  rintro without withFile ⟨disk, puts, places, events, toldWithout, toldWith⟩
  refine ⟨rfl, disk, puts, places, events ++ [event], ?_, ?_⟩
  · rw [← List.append_assoc, ← toldWithout]
    rfl
  · rw [← List.append_assoc, ← toldWith]
    rfl

section Paths

variable
    {path : Path}
    (apart : ¬ difference.places.SamePlace path difference.path)

include apart

/-- At any other place the two trees look the same. -/
theorem Differ.view?_eq
    {without withFile : World}
    (differ : Differ difference without withFile) :
    withFile.tree.view? path = without.tree.view? path := by
  refine differ.puts.view?_of_not_samePlace ?_
  unfold Tree.SamePlace
  rwa [differ.places, differ.places]

/-- What kind another path has does not depend on the file. -/
theorem blind_kind? :
    Blind difference (Host.kind? path) := by
  intro without withFile differ
  refine ⟨?_, differ⟩
  change (without.tree.find? path).map Tree.kind = (withFile.tree.find? path).map Tree.kind
  rw [Tree.map_kind_find?, Tree.map_kind_find?, differ.view?_eq apart]

theorem blind_has :
    Blind difference (Host.has path) :=
  blind_bind (blind_kind? apart) fun _ => blind_pure _

variable
    (leads : (difference.places.place? path).isSome)

include leads

/-- What another file holds does not depend on the file. -/
theorem blind_readText :
    Blind difference (Host.readText path) := by
  refine blind_bind ?_ fun result => ?_
  · intro without withFile differ
    refine ⟨?_, differ⟩
    have leadsWithout := leads
    have leadsWith := leads
    rw [← differ.places] at leadsWithout
    rw [← differ.places, ← differ.puts.keeps.places] at leadsWith
    change without.tree.read path = withFile.tree.read path
    rw [FileTree.read_of_leads leadsWithout, FileTree.read_of_leads leadsWith,
      differ.view?_eq apart]
  · cases result with
    | error refusal => exact blind_pure _
    | ok bytes =>
        dsimp only
        cases String.fromUTF8? bytes with
        | some text => exact blind_pure _
        | none => exact blind_pure _

/-- At another path both worlds are changed alike, if what is written depends on what is seen. -/
theorem blind_change
    {update : Disk → FileTree → Except Refusal Unit × FileTree}
    (held : Disk → Location → Option (Option ByteArray) → ByteArray × Except Refusal Unit)
    (isWrite : ∀ (disk : Disk) (tree : FileTree),
      update disk tree = tree.withOpen disk path fun location =>
        ((held disk location (tree.view? path)).2,
          tree.put location (.file (held disk location (tree.view? path)).1))) :
    Blind difference (change update) := by
  intro without withFile differ
  obtain ⟨location, isLocation⟩ := Option.isSome_iff_exists.mp leads
  have leadsWithout := (differ.places path).trans isLocation
  have leadsWith := (differ.puts.keeps.places path).trans leadsWithout
  have sameView := differ.view?_eq apart
  have opensWithout := FileTree.openAt_of_place? without.disk leadsWithout
  have opensWith := FileTree.openAt_of_place? without.disk leadsWith
  rw [sameView, ← opensWithout] at opensWith
  have first := isWrite without.disk without.tree
  have second := (congrArg (update · withFile.tree) differ.disk).trans
    (isWrite without.disk withFile.tree)
  unfold FileTree.withOpen at first second
  rw [sameView, opensWith] at second
  cases opens : without.tree.openAt without.disk path with
  | error refusal =>
      rw [opens] at first second
      rw [run_change first, run_change second]
      exact ⟨rfl, differ⟩
  | ok reached =>
      rw [opens] at first second
      obtain ⟨isReached, unfolded⟩ := FileTree.of_openAt_eq_ok opens
      obtain ⟨isReachedWith, unfoldedWith⟩ := FileTree.of_openAt_eq_ok (opensWith.trans opens)
      rw [run_change first, run_change second]
      have putsWithout := Tree.puts_of_takes isReached (Tree.takes_of_place? isReached unfolded)
        (held without.disk reached (without.tree.view? path)).1
      have putsWith := Tree.puts_of_takes isReachedWith
        (Tree.takes_of_place? isReachedWith unfoldedWith)
        (held without.disk reached (without.tree.view? path)).1
      refine ⟨rfl, differ.disk, differ.puts.of_puts putsWithout putsWith ?_, ?_, differ.told⟩
      · unfold Tree.SamePlace
        rwa [differ.places, differ.places]
      · intro other
        rw [putsWithout.keeps.places, differ.places]

/-- Writing another file keeps the difference. -/
theorem blind_write
    (content : ByteArray) :
    Blind difference (Host.write path content) :=
  blind_change apart leads
    (fun disk location _ => (disk.allowance location).extend .empty content) fun _ _ => rfl

theorem blind_openEnd :
    Blind difference (Host.openEnd path) :=
  blind_change apart leads (fun _ _ seen => (seen.join.getD .empty, .ok ()))
    fun disk tree => FileTree.openEnd_eq disk tree path

/-- Appending to another file keeps the difference. -/
theorem blind_append
    (content : ByteArray) :
    Blind difference (Host.append path content) :=
  blind_change apart leads
    (fun disk location seen =>
      (disk.allowance location).extend (seen.join.getD .empty) content)
    fun disk tree => FileTree.append_eq disk tree path content

end Paths

/-! ## Attempts -/

theorem blind_run_bind_of_mayGive
    {attempt : Attempt (StateM World) α}
    {next : α → Attempt (StateM World) β}
    (first : Blind difference attempt.run)
    (second : ∀ value, MayGive difference attempt.run (.ok value) →
      Blind difference (next value).run) :
    Blind difference (attempt >>= next).run := by
  rw [ExceptT.run_bind]
  refine blind_bind_of_mayGive first fun result isGiven => ?_
  cases result with
  | ok value => exact second value isGiven
  | error failure => exact blind_pure _

theorem blind_run_bind
    {attempt : Attempt (StateM World) α}
    {next : α → Attempt (StateM World) β}
    (first : Blind difference attempt.run)
    (second : ∀ value, Blind difference (next value).run) :
    Blind difference (attempt >>= next).run :=
  blind_run_bind_of_mayGive first fun value _ => second value

theorem blind_run_lift
    {action : StateM World α}
    (blind : Blind difference action) :
    Blind difference (ExceptT.lift action : Attempt (StateM World) α).run :=
  blind_bind blind fun _ => blind_pure _

theorem blind_run_note
    (event : Event) :
    Blind difference (note event : Attempt (StateM World) Unit).run :=
  blind_run_lift (blind_tell event)

/-- A value at hand is the same in both worlds. -/
theorem blind_run_require
    (cause : ε → Failure)
    (result : Except ε α) :
    Blind difference (require cause result : Attempt (StateM World) α).run := by
  cases result with
  | ok value => exact blind_pure _
  | error fault => exact blind_pure _

/-- A question that does not see the file is answered alike. -/
theorem blind_run_ask
    (cause : Refusal → Failure)
    {question : StateM World (Except Refusal α)}
    (blind : Blind difference question) :
    Blind difference (ask cause question).run := by
  refine blind_bind blind fun result => ?_
  cases result with
  | ok value => exact blind_pure _
  | error refusal => exact blind_pure _

theorem blind_run_notes
    (events : List Event) :
    Blind difference (events.forM (note (m := StateM World))).run := by
  induction events with
  | nil => exact blind_pure _
  | cons event rest inductionHypothesis =>
      exact blind_run_bind (blind_run_note event) fun _ => inductionHypothesis

end Blind

end World

namespace Run

open World

/-! ## Conversions -/

section Conversion

variable
    {difference : Difference}

theorem blind_entriesOf
    (path : Path)
    (members : List (String × Json)) :
    Blind difference (entriesOf (m := StateM World) path members) := by
  induction members using entriesOf.induct with
  | case1 => exact blind_pure _
  | case2 key text rest inductionHypothesis =>
      exact blind_bind inductionHypothesis fun _ => blind_pure _
  | case3 key value rest notText inductionHypothesis =>
      rw [entriesOf]
      · exact blind_bind (blind_tell _) fun _ => inductionHypothesis
      · exact notText

/-- Where anything is, a path leads. -/
theorem leads_of_mayGive_has
    {path : Path}
    (isThere : MayGive difference (Host.has path) true) :
    (difference.places.place? path).isSome := by
  obtain ⟨without, withFile, differ, isSome⟩ := isThere
  change ((without.tree.find? path).map Tree.kind).isSome = true at isSome
  rw [Tree.map_kind_find?, Option.isSome_map] at isSome
  obtain ⟨seen, isSeen⟩ := Option.isSome_iff_exists.mp isSome
  rw [← differ.places]
  exact Tree.isSome_place?_of_view? isSeen

/-- A table at another path is loaded alike. -/
theorem blind_loadTable
    {path : Path}
    (apart : ¬ difference.places.SamePlace path difference.path) :
    Blind difference (loadTable (m := StateM World) path).run := by
  refine blind_run_bind_of_mayGive (blind_run_lift (blind_has apart)) fun isThere isGiven => ?_
  cases isThere with
  | true =>
      have leads : (difference.places.place? path).isSome := by
        refine leads_of_mayGive_has ?_
        obtain ⟨without, withFile, differ, isTrue⟩ := isGiven
        exact ⟨without, withFile, differ, Except.ok.inj isTrue⟩
      refine blind_run_bind (blind_run_ask _ (blind_readText apart leads)) fun text => ?_
      refine blind_run_bind (blind_run_require _ _) fun members => ?_
      exact blind_run_lift (blind_entriesOf path members)
  | false => exact blind_run_bind (blind_run_note _) fun _ => blind_pure _

/-- Lines are appended to another log alike. -/
theorem blind_log
    {path : Path}
    (apart : ¬ difference.places.SamePlace path difference.path)
    (leads : (difference.places.place? path).isSome)
    (lines : List String) :
    Blind difference (log (m := StateM World) path lines).run := by
  refine blind_run_bind (blind_run_ask _ (blind_openEnd apart leads)) fun _ => ?_
  induction lines with
  | nil => exact blind_pure _
  | cons line rest inductionHypothesis =>
      exact blind_run_bind (blind_run_ask _ (blind_append apart leads _))
        fun _ => inductionHypothesis

/-- The paths that a conversion in a project asks for are apart from the file, and where it has to
read or write without looking first a path leads. -/
structure Avoids (difference : Difference) (folder : Path) (order : ConversionOrder)
    (project : Project) : Prop where
  patterns : ¬ difference.places.SamePlace
    (project.base.join project.settings.patternsPath.toList) difference.path
  synonyms : ¬ difference.places.SamePlace
    (project.base.join project.settings.synonymsPath.toList) difference.path
  target : ¬ difference.places.SamePlace (order.target folder) difference.path
  targetLeads : (difference.places.place? (order.target folder)).isSome
  reviews : ¬ difference.places.SamePlace (folder.join reviewLogName.toList) difference.path
  reviewsLead : (difference.places.place? (folder.join reviewLogName.toList)).isSome
  changes : ¬ difference.places.SamePlace (folder.join changeLogName.toList) difference.path
  changesLead : (difference.places.place? (folder.join changeLogName.toList)).isSome

section Avoids

variable
    {folder : Path}
    {order : ConversionOrder}
    {project : Project}
    (avoids : Avoids difference folder order project)

include avoids

/-- What a conversion changes is changed alike if it changes other files. -/
theorem blind_commit
    (outcome : Keying.Outcome) :
    Blind difference
      (commit (m := StateM World) folder (order.target folder) order.file outcome).run := by
  refine blind_run_bind (blind_run_ask _ (blind_write avoids.target avoids.targetLeads _))
    fun _ => ?_
  refine blind_run_bind (blind_log avoids.changes avoids.changesLead _) fun _ => ?_
  exact blind_run_note _

/-- A conversion that is prepared ends alike if its files are other files. -/
theorem blind_finish
    (prepared : Prepared) :
    Blind difference (finish folder order prepared).run := by
  have later : Blind difference (do
      if order.changes prepared then
        commit folder (order.target folder) order.file prepared.outcome
      return order.converted prepared : Attempt (StateM World) Converted).run := by
    split
    · exact blind_run_bind (blind_commit avoids prepared.outcome) fun _ => blind_pure _
    · exact blind_pure _
  unfold finish
  dsimp only
  split
  · exact later
  · exact blind_run_bind (blind_log avoids.reviews avoids.reviewsLead _) fun _ => later

/-- A conversion in a project does not see the file. -/
theorem blind_convertIn :
    Blind difference (convertIn folder order project).run := by
  have tables : Blind difference (project.tables (m := StateM World)).run := by
    refine blind_run_bind (blind_loadTable avoids.patterns) fun _ => ?_
    refine blind_run_bind (blind_loadTable avoids.synonyms) fun _ => ?_
    exact blind_run_bind (blind_run_note _) fun _ => blind_pure _
  refine blind_run_bind tables fun tables => ?_
  refine blind_run_bind (blind_run_ask _ (blind_readText avoids.target avoids.targetLeads))
    fun text => ?_
  refine blind_run_bind ?_ fun outcome => blind_finish avoids _
  refine blind_run_bind (blind_run_require _ _) fun outcome => ?_
  exact blind_run_bind (blind_run_notes _) fun _ => blind_pure _

end Avoids

end Conversion

end Run
end KeyedText
