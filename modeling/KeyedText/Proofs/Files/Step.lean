import KeyedText.Proofs.Files.Parent
import KeyedText.Proofs.Files.Selection
import KeyedText.Proofs.Text.Word

/-!
# Steps of paths

The steps of a path are what stands between its slashes, but for the one at the
start and one at the end.  A path in a folder has the steps of the folder and its
own.  Where a path leads anywhere, its steps tell where: a name goes on, the two
dots go back, and all else stays.
-/

namespace KeyedText
namespace Text

variable {separator : Char}

/-- No piece between separators holds one. -/
theorem separator_notMem_of_mem_pieces
    {text piece : List Char}
    (isPiece : piece ∈ pieces separator text) :
    separator ∉ piece := by
  induction text using pieces_induction separator with
  | last only isOnly =>
      rw [pieces_of_not_mem separator isOnly] at isPiece
      rwa [List.mem_singleton.mp isPiece]
  | earlier first isFirst rest inductionHypothesis =>
      rw [pieces_append_cons, pieces_of_not_mem separator isFirst] at isPiece
      rcases List.mem_cons.mp isPiece with rfl | inRest
      · exact isFirst
      · exact inductionHypothesis inRest

/-- Behind a separator the pieces that are ended go on. -/
theorem endedPieces_append_cons
    (front back : List Char) :
    endedPieces separator (front ++ separator :: back) =
      pieces separator front ++ endedPieces separator back := by
  have nonempty := pieces_ne_nil separator back
  unfold endedPieces
  dsimp only
  rw [pieces_append_cons, List.getLast?_append_of_ne_nil _ nonempty]
  split
  · rw [List.dropLast_append_of_ne_nil nonempty]
  · rfl

/-- A text that ends with no separator has no piece more than those that are ended. -/
theorem endedPieces_of_open
    {text : List Char}
    (nonempty : text ≠ [])
    (isOpen : text.getLast? ≠ some separator) :
    endedPieces separator text = pieces separator text := by
  unfold endedPieces
  dsimp only
  rw [if_neg]
  intro ends
  obtain ⟨init, arePieces⟩ := List.getLast?_eq_some_iff.mp (beq_iff_eq.mp ends)
  have whole := intercalate_pieces separator text
  rw [arePieces] at whole
  by_cases isFirst : init = []
  · rw [isFirst] at whole
    exact nonempty whole.symm
  · have joined := joinedBy_concat separator isFirst []
    unfold joinedBy at joined
    rw [joined] at whole
    exact isOpen (by rw [← whole, List.getLast?_append_cons]; rfl)

/-- The pieces of a text, each with a separator behind it. -/
theorem flatMap_pieces
    (text : List Char) :
    (pieces separator text).flatMap (· ++ [separator]) = text ++ [separator] := by
  induction text using pieces_induction separator with
  | last only isOnly => rw [pieces_of_not_mem separator isOnly, List.flatMap_singleton]
  | earlier first isFirst rest inductionHypothesis =>
      rw [pieces_append_cons, pieces_of_not_mem separator isFirst, List.flatMap_append,
        List.flatMap_singleton, inductionHypothesis]
      simp

end Text

namespace Path

/-! ## Steps -/

/-- The steps of a path. -/
def steps (path : Path) : List (List Char) :=
  Text.endedPieces '/' (if isAbsolute path then path.drop 1 else path)

theorem steps_eq_of_isAbsolute
    {path : Path}
    (absolute : isAbsolute path = true) :
    steps path = Text.endedPieces '/' (path.drop 1) := by
  rw [steps, if_pos absolute]

theorem steps_eq_of_isRelative
    {path : Path}
    (relative : isAbsolute path = false) :
    steps path = Text.endedPieces '/' path := by
  rw [steps, relative, if_neg Bool.false_ne_true]

theorem exists_eq_of_isAbsolute
    {path : Path}
    (absolute : isAbsolute path = true) :
    ∃ body, path = '/' :: body := by
  cases path with
  | nil => cases absolute
  | cons first body => exact ⟨body, by rw [Option.some.inj (beq_iff_eq.mp absolute)]⟩

/-- No step of a path holds a slash. -/
theorem slash_notMem_of_mem_steps
    {path : Path}
    {step : List Char}
    (isStep : step ∈ steps path) :
    '/' ∉ step := by
  have isPiece {text : List Char} (isEnded : step ∈ Text.endedPieces '/' text) :
      step ∈ Text.pieces '/' text := by
    unfold Text.endedPieces at isEnded
    dsimp only at isEnded
    split at isEnded
    · exact List.dropLast_subset _ isEnded
    · exact isEnded
  exact Text.separator_notMem_of_mem_pieces (isPiece isStep)

/-- In front of a relative path a text is empty, or it ends with a slash and the pieces in front of
that are those that are ended. -/
theorem opened_cases
    (text : List Char) :
    text = [] ∨
      ∃ front,
        opened text = front ++ ['/'] ∧ Text.endedPieces '/' text = Text.pieces '/' front := by
  by_cases isEmpty : text = []
  · exact .inl isEmpty
  · refine .inr ?_
    by_cases ends : text.getLast? = some '/'
    · obtain ⟨front, rfl⟩ := List.getLast?_eq_some_iff.mp ends
      refine ⟨front, ?_, ?_⟩
      · rw [opened, ends, beq_self_eq_true, Bool.or_true, if_pos rfl]
      · rw [Text.endedPieces_append_cons]
        exact List.append_nil _
    · refine ⟨text, ?_, Text.endedPieces_of_open isEmpty ends⟩
      rw [opened, if_neg]
      rw [Bool.or_eq_true, List.isEmpty_iff, beq_iff_eq]
      exact not_or.mpr ⟨isEmpty, ends⟩

theorem opened_cons_slash
    (body : List Char) :
    opened ('/' :: body) = '/' :: opened body := by
  cases body with
  | nil => rfl
  | cons first rest =>
      unfold opened
      rw [List.getLast?_cons_cons]
      simp only [List.isEmpty_cons, Bool.false_or]
      split <;> rfl

/-- A path from the top is told by its steps, but for a slash at its end. -/
theorem opened_eq_flatMap_steps
    {path : Path}
    (absolute : isAbsolute path = true) :
    path.opened = '/' :: path.steps.flatMap (· ++ ['/']) := by
  rw [steps_eq_of_isAbsolute absolute]
  obtain ⟨body, rfl⟩ := exists_eq_of_isAbsolute absolute
  rw [opened_cons_slash]
  rcases opened_cases body with rfl | ⟨front, isOpened, areSteps⟩
  · rfl
  · rw [isOpened, List.drop_one, List.tail_cons, areSteps, Text.flatMap_pieces]

/-- Joined to an absolute path, every path is absolute. -/
theorem isAbsolute_join
    {folder : Path}
    (absolute : isAbsolute folder = true)
    (path : Path) :
    isAbsolute (folder.join path) = true := by
  cases isPath : isAbsolute path with
  | true => rw [join, if_pos isPath, isPath]
  | false =>
      obtain ⟨body, rfl⟩ := exists_eq_of_isAbsolute absolute
      rw [join_eq_opened_append isPath, opened_cons_slash]
      rfl

/-- A relative path adds its steps to those of a folder. -/
theorem steps_join
    {folder path : Path}
    (absolute : isAbsolute folder = true)
    (relative : isAbsolute path = false) :
    (folder.join path).steps = folder.steps ++ path.steps := by
  rw [steps_eq_of_isAbsolute (isAbsolute_join absolute path), steps_eq_of_isAbsolute absolute,
    steps_eq_of_isRelative relative, join_eq_opened_append relative]
  obtain ⟨body, rfl⟩ := exists_eq_of_isAbsolute absolute
  rw [opened_cons_slash]
  rcases opened_cases body with rfl | ⟨front, isOpened, areSteps⟩
  · rfl
  · change Text.endedPieces '/' (opened body ++ path) = Text.endedPieces '/' body ++ _
    rw [isOpened, areSteps, List.append_assoc, List.singleton_append, Text.endedPieces_append_cons]

/-- A name is one step. -/
theorem steps_of_isName
    {name : List Char}
    (isName : Tree.IsName name) :
    steps name = [name] := by
  have nonempty : name ≠ [] := by
    rintro rfl
    exact absurd isName.busy (by decide)
  have isOpen : name.getLast? ≠ some '/' :=
    fun ends => isName.plain (List.mem_of_getLast? ends)
  rw [steps_eq_of_isRelative isName.isAbsolute_eq_false, Text.endedPieces_of_open nonempty isOpen,
    Text.pieces_of_not_mem '/' isName.plain]

end Path

namespace Discovery

/-! ## Along names -/

theorem along_cons
    (path : Path)
    (name : List Char)
    (names : Location) :
    along path (name :: names) = along (path.join name) names := rfl

theorem along_append
    (path : Path)
    (front back : Location) :
    along path (front ++ back) = along (along path front) back :=
  List.foldl_append

theorem isAbsolute_along
    {path : Path}
    (absolute : path.isAbsolute = true)
    (names : Location) :
    (along path names).isAbsolute = true := by
  induction names generalizing path with
  | nil => exact absolute
  | cons name names inductionHypothesis =>
      exact inductionHypothesis (Path.isAbsolute_join absolute name)

/-- Names along a path add one step each. -/
theorem steps_along
    {path : Path}
    (absolute : path.isAbsolute = true)
    {names : Location}
    (areNames : ∀ name ∈ names, Tree.IsName name) :
    (along path names).steps = path.steps ++ names := by
  induction names generalizing path with
  | nil => exact (List.append_nil _).symm
  | cons name names inductionHypothesis =>
      obtain ⟨isName, others⟩ := List.forall_mem_cons.mp areNames
      rw [along_cons, inductionHypothesis (Path.isAbsolute_join absolute name) others,
        Path.steps_join absolute isName.isAbsolute_eq_false, Path.steps_of_isName isName,
        List.append_assoc, List.singleton_append]

end Discovery

namespace Tree

/-! ## Where steps lead -/

variable
    {tree : Tree α}
    {path : Path}
    {location : Location}

/-- The location to which names lead from another one, if they lead anywhere. -/
theorem eq_foldl_of_locateFrom
    {names : List (List Char)}
    {reached : Location}
    (leads : (tree.locateFrom location names).toOption = some reached) :
    reached = names.foldl goOn location := by
  induction names generalizing location with
  | nil => exact (Option.some.inj leads).symm
  | cons name names inductionHypothesis =>
      have isFolder := isFolder_of_locateFrom leads
      rw [locateFrom_cons_of_isFolder isFolder] at leads
      exact inductionHypothesis leads

theorem goOn_nil
    (location : Location) :
    goOn location [] = location := rfl

/-- An empty piece at the end of a path leads nowhere else. -/
theorem foldl_goOn_endedPieces
    (location : Location)
    (text : List Char) :
    (Text.endedPieces '/' text).foldl goOn location =
      (Text.pieces '/' text).foldl goOn location := by
  unfold Text.endedPieces
  dsimp only
  split
  · next ends =>
      obtain ⟨init, arePieces⟩ := List.getLast?_eq_some_iff.mp (beq_iff_eq.mp ends)
      rw [arePieces, List.dropLast_concat, List.foldl_append]
      rfl
  · rfl

/-- A path leads where its steps lead, if it leads anywhere. -/
theorem eq_foldl_steps_of_place?
    (leads : tree.place? path = some location) :
    location = path.steps.foldl goOn [] := by
  rw [eq_foldl_of_locateFrom leads]
  unfold Path.steps
  split
  · next absolute =>
      obtain ⟨body, rfl⟩ := Path.exists_eq_of_isAbsolute absolute
      rw [foldl_goOn_endedPieces, Text.pieces_cons_self]
      rfl
  · rw [foldl_goOn_endedPieces]

/-- A name goes one level down. -/
theorem goOn_of_isName
    {name : List Char}
    (isName : IsName name)
    (location : Location) :
    goOn location name = location ++ [name] := by
  unfold goOn
  rw [isName.busy, if_neg Bool.false_ne_true, if_neg (mt beq_iff_eq.mp isName.notAbove)]

/-- Names go one level down each. -/
theorem foldl_goOn_of_areNames
    {names : List (List Char)}
    (areNames : ∀ name ∈ names, IsName name)
    (location : Location) :
    names.foldl goOn location = location ++ names := by
  induction names generalizing location with
  | nil => exact (List.append_nil _).symm
  | cons name names inductionHypothesis =>
      obtain ⟨isName, others⟩ := List.forall_mem_cons.mp areNames
      rw [List.foldl_cons, inductionHypothesis others, goOn_of_isName isName, List.append_assoc,
        List.singleton_append]

/-! ## Going on -/

/-- The way of a path goes on where the way of its front ends. -/
theorem locateFrom_append
    (front back : List (List Char)) :
    (tree.locateFrom location (front ++ back)).toOption =
      (tree.locateFrom location front).toOption.bind fun reached =>
        (tree.locateFrom reached back).toOption := by
  induction front generalizing location with
  | nil => rfl
  | cons name front inductionHypothesis =>
      rw [List.cons_append]
      by_cases isFolder : tree.IsFolder location
      · rw [locateFrom_cons_of_isFolder isFolder, locateFrom_cons_of_isFolder isFolder,
          inductionHypothesis]
      · rw [locateFrom_cons_of_not_isFolder isFolder, locateFrom_cons_of_not_isFolder isFolder]
        rfl

/-- One step leads on from a folder. -/
theorem locateFrom_singleton_eq_some_iff
    {name : List Char}
    {reached : Location} :
    (tree.locateFrom location [name]).toOption = some reached ↔
      tree.IsFolder location ∧ goOn location name = reached := by
  by_cases isFolder : tree.IsFolder location
  · rw [locateFrom_cons_of_isFolder isFolder]
    exact ⟨fun leads => ⟨isFolder, Option.some.inj leads⟩, fun leads => congrArg some leads.2⟩
  · rw [locateFrom_cons_of_not_isFolder isFolder]
    exact iff_of_false nofun fun leads => isFolder leads.1

/-- A path leads somewhere by its last step from the folder of its front. -/
theorem place?_append_cons_eq_some_iff
    {front : Path}
    {name : List Char}
    (plain : '/' ∉ name) :
    tree.place? (front ++ '/' :: name) = some location ↔
      ∃ reached, tree.place? front = some reached ∧
        tree.IsFolder reached ∧ goOn reached name = location := by
  unfold place? locate
  rw [Text.pieces_append_cons, Text.pieces_of_not_mem '/' plain, locateFrom_append,
    Option.bind_eq_some_iff]
  simp only [locateFrom_singleton_eq_some_iff]

/-- A path leads on along a name, and out of a folder alone. -/
theorem place?_join_eq_some_iff
    {name : List Char}
    (plain : '/' ∉ name) :
    tree.place? (path.join name) = some location ↔
      ∃ reached, tree.place? path = some reached ∧
        tree.IsFolder reached ∧ goOn reached name = location := by
  have relative : Path.isAbsolute name = false := by
    cases isName : Path.isAbsolute name with
    | false => rfl
    | true =>
        obtain ⟨body, rfl⟩ := Path.exists_eq_of_isAbsolute isName
        exact absurd List.mem_cons_self plain
  rw [Path.join_eq_opened_append relative, Path.opened]
  split
  · next isOpen =>
      rw [Bool.or_eq_true, List.isEmpty_iff, beq_iff_eq] at isOpen
      rcases isOpen with rfl | ends
      · have ofName := Text.pieces_of_not_mem '/' plain
        have ofNothing : Text.pieces '/' [] = [[]] := rfl
        unfold place? locate
        rw [List.nil_append, ofName, ofNothing]
        simp only [locateFrom_singleton_eq_some_iff]
        constructor
        · exact fun leads => ⟨[], ⟨leads.1, rfl⟩, leads⟩
        · rintro ⟨_, ⟨-, rfl⟩, leads⟩
          exact leads
      · obtain ⟨front, rfl⟩ := List.getLast?_eq_some_iff.mp ends
        rw [List.append_assoc, List.singleton_append, place?_append_cons_eq_some_iff plain]
        simp only [place?_append_cons_eq_some_iff List.not_mem_nil, goOn_nil]
        constructor
        · rintro ⟨reached, leads, isFolder, same⟩
          exact ⟨reached, ⟨reached, leads, isFolder, rfl⟩, isFolder, same⟩
        · rintro ⟨_, ⟨reached, leads, isFolder, rfl⟩, -, same⟩
          exact ⟨reached, leads, isFolder, same⟩
  · rw [List.append_assoc, List.singleton_append, place?_append_cons_eq_some_iff plain]

end Tree
end KeyedText
