import KeyedText.Proofs.Files.Proper
import Mathlib.Data.List.Infix

/-!
# Ways up

The path above a path from the top has the names of that path but for the last
one.  So the way up goes through all fronts of the names, the longest first, and
ends at the top, which has no names.

Where no name of a path leads back, its names are the location that it leads to,
however it is spelled.
-/

namespace KeyedText
namespace Path

/-! ## Names -/

/-- Behind a slash the names go on. -/
theorem names_append_cons
    (front back : Path) :
    names (front ++ '/' :: back) = names front ++ names back := by
  unfold names
  rw [Text.pieces_append_cons, List.filter_append]

theorem names_of_isIdle
    {name : List Char}
    (plain : '/' ∉ name)
    (isIdle : isIdle name = true) :
    names name = [] := by
  unfold names
  rw [Text.pieces_of_not_mem '/' plain, List.filter_singleton, isIdle, Bool.not_true]
  rfl

theorem names_of_isBusy
    {name : List Char}
    (plain : '/' ∉ name)
    (isBusy : isIdle name = false) :
    names name = [name] := by
  unfold names
  rw [Text.pieces_of_not_mem '/' plain, List.filter_singleton, isBusy, Bool.not_false]
  rfl

theorem names_append_slash
    (front : Path) :
    names (front ++ ['/']) = names front := by
  rw [names_append_cons, names_of_isIdle List.not_mem_nil rfl, List.append_nil]

theorem names_opened
    (folder : Path) :
    names folder.opened = names folder := by
  unfold opened
  split
  · rfl
  · exact names_append_slash folder

/-- A name in a folder comes behind the names of the folder. -/
theorem names_join
    {name : List Char}
    (isName : Tree.IsName name)
    (folder : Path) :
    names (folder.join name) = names folder ++ [name] := by
  have ofName := names_of_isBusy isName.plain isName.busy
  rw [join_eq_opened_append isName.isAbsolute_eq_false, ← names_opened folder]
  rcases opened_cases folder with rfl | ⟨front, isOpened, -⟩
  · exact ofName
  · rw [isOpened, List.append_assoc, List.singleton_append, names_append_cons, ofName,
      names_append_slash]

/-- A path from the top has no more names than characters. -/
theorem length_names_le
    {path : Path}
    (absolute : isAbsolute path = true) :
    (names path).length ≤ path.length := by
  obtain ⟨body, rfl⟩ := exists_eq_of_isAbsolute absolute
  calc (names ('/' :: body)).length
      = (names body).length := by rw [← List.nil_append ('/' :: body), names_append_cons]; rfl
    _ ≤ (Text.pieces '/' body).length := List.length_filter_le _ _
    _ = body.count '/' + 1 := Text.length_pieces '/' body
    _ ≤ body.length + 1 := Nat.succ_le_succ List.count_le_length

/-! ## The end of a path -/

theorem names_reverse_dropIdleBack
    (back : List Char) :
    names (dropIdleBack back).reverse = names back.reverse := by
  fun_induction dropIdleBack back with
  | case1 rest inductionHypothesis =>
      rw [inductionHypothesis, List.reverse_cons, names_append_slash]
  | case2 rest inductionHypothesis =>
      have ofDot : names ['.'] = [] := names_of_isIdle (by decide) rfl
      rw [inductionHypothesis, List.reverse_cons, List.reverse_cons, List.append_assoc,
        List.singleton_append, names_append_cons, ofDot, List.append_nil]
  | case3 => rfl

/-- Dropping what counts for nothing leaves the names. -/
theorem names_trimmedEnd
    (path : Path) :
    names (trimmedEnd path) = names path := by
  have kept := names_reverse_dropIdleBack path.reverse
  rw [List.reverse_reverse] at kept
  unfold trimmedEnd
  dsimp only
  split
  · next isTop =>
      rw [Bool.and_eq_true, List.isEmpty_iff] at isTop
      rw [← kept, isTop.1]
      rfl
  · exact kept

/-- What is left does not end with something that counts for nothing. -/
theorem dropIdleBack_ends
    (back : List Char) :
    (∀ rest, dropIdleBack back ≠ '/' :: rest) ∧
      ∀ rest, dropIdleBack back ≠ '.' :: '/' :: rest := by
  fun_induction dropIdleBack back with
  | case1 rest inductionHypothesis => exact inductionHypothesis
  | case2 rest inductionHypothesis => exact inductionHypothesis
  | case3 back notSlash notDot => exact ⟨notSlash, notDot⟩

theorem dropIdleBack_suffix
    (back : List Char) :
    dropIdleBack back <:+ back := by
  fun_induction dropIdleBack back with
  | case1 rest inductionHypothesis =>
      exact inductionHypothesis.trans (List.suffix_cons _ rest)
  | case2 rest inductionHypothesis =>
      exact inductionHypothesis.trans ((List.suffix_cons _ rest).trans (List.suffix_cons _ _))
  | case3 back => exact List.suffix_refl back

theorem isAbsolute_of_prefix
    {front path : Path}
    (nonempty : front ≠ [])
    (isFront : front <+: path)
    (absolute : isAbsolute path = true) :
    isAbsolute front = true := by
  obtain ⟨back, rfl⟩ := isFront
  rwa [isAbsolute_append nonempty] at absolute

theorem isAbsolute_trimmedEnd
    {path : Path}
    (absolute : isAbsolute path = true) :
    isAbsolute (trimmedEnd path) = true := by
  have isFront := List.reverse_prefix.mpr (dropIdleBack_suffix path.reverse)
  rw [List.reverse_reverse] at isFront
  unfold trimmedEnd
  dsimp only
  split
  · rfl
  · next notTop =>
      rw [absolute, Bool.and_true, List.isEmpty_iff] at notTop
      exact isAbsolute_of_prefix notTop isFront absolute

/-- Trimmed, a path from the top is the top, or it ends with a name that counts. -/
theorem trimmedEnd_cases
    {path : Path}
    (absolute : isAbsolute path = true) :
    trimmedEnd path = ['/'] ∨
      ∃ front last,
        trimmedEnd path = front ++ '/' :: last ∧ '/' ∉ last ∧ isIdle last = false := by
  obtain ⟨notSlash, notDot⟩ := dropIdleBack_ends path.reverse
  have trims := isAbsolute_trimmedEnd absolute
  unfold trimmedEnd at trims ⊢
  dsimp only at trims ⊢
  split at trims
  · next isTop =>
      rw [if_pos isTop]
      exact .inl rfl
  · next notTop =>
      rw [if_neg notTop]
      generalize dropIdleBack path.reverse = back at *
      obtain ⟨body, isBody⟩ := exists_eq_of_isAbsolute trims
      have hasSlash : '/' ∈ back := List.mem_reverse.mp (isBody ▸ List.mem_cons_self)
      obtain ⟨last, front, rfl, plain⟩ := List.eq_append_cons_of_mem hasSlash
      refine .inr ⟨front.reverse, last.reverse, by simp, mt List.mem_reverse.mp plain, ?_⟩
      rw [isIdle, Bool.or_eq_false_iff, List.isEmpty_eq_false_iff, beq_eq_false_iff_ne]
      constructor
      · intro isNone
        rw [List.reverse_eq_nil_iff.mp isNone] at notSlash
        exact notSlash front rfl
      · intro isDot
        rw [List.reverse_eq_iff.mp isDot] at notDot
        exact notDot front rfl

/-! ## One step up -/

/-- There is nothing above the top. -/
theorem parent?_of_names_eq_nil
    {path : Path}
    (absolute : isAbsolute path = true)
    (isTop : names path = []) :
    parent? path = none := by
  unfold parent?
  rcases trimmedEnd_cases absolute with trimmed | ⟨front, last, trimmed, plain, isBusy⟩
  · rw [trimmed]
    rfl
  · have kept := names_trimmedEnd path
    rw [trimmed, names_append_cons, names_of_isBusy plain isBusy, isTop] at kept
    exact absurd (List.append_eq_nil_iff.mp kept).2 (List.cons_ne_nil _ _)

/-- Above every other path from the top there is one without its last name. -/
theorem exists_parent?_eq
    {path : Path}
    (absolute : isAbsolute path = true)
    (notTop : names path ≠ []) :
    ∃ above,
      parent? path = some above ∧ isAbsolute above = true ∧
        names above = (names path).dropLast := by
  have kept := names_trimmedEnd path
  have trims := isAbsolute_trimmedEnd absolute
  unfold parent?
  rcases trimmedEnd_cases absolute with trimmed | ⟨front, last, trimmed, plain, isBusy⟩
  · rw [trimmed] at kept
    exact absurd kept.symm notTop
  · rw [trimmed] at trims kept ⊢
    have notSlash : front ++ '/' :: last ≠ ['/'] := by
      intro same
      rw [same] at kept
      exact notTop kept.symm
    have nonempty : front ++ '/' :: last ≠ [] :=
      List.append_ne_nil_of_right_ne_nil _ (List.cons_ne_nil _ _)
    have isOpen : (front ++ '/' :: last).reverse.dropWhile (· != '/') = '/' :: front.reverse := by
      rw [List.reverse_append, List.reverse_cons, List.append_assoc, List.singleton_append,
        List.dropWhile_append_of_pos]
      · rfl
      · intro character isIn
        refine bne_iff_ne.mpr ?_
        rintro rfl
        exact plain (List.mem_reverse.mp isIn)
    refine ⟨trimmedEnd (front ++ ['/']), ?_, isAbsolute_trimmedEnd ?_, ?_⟩
    · dsimp only
      rw [isOpen, if_neg, List.reverse_cons, List.reverse_reverse]
      rw [Bool.or_eq_true, List.isEmpty_iff, beq_iff_eq]
      exact not_or.mpr ⟨nonempty, notSlash⟩
    · refine isAbsolute_of_prefix ?_ ⟨last, ?_⟩ trims
      · exact List.append_ne_nil_of_right_ne_nil _ (List.cons_ne_nil _ _)
      · rw [List.append_assoc, List.singleton_append]
    · rw [names_trimmedEnd, names_append_slash, ← kept, names_append_cons,
        names_of_isBusy plain isBusy, List.dropLast_concat]

/-! ## All steps up -/

/-- The way up from a path: all paths from that one to the top, the nearest first. -/
structure LeadsUp (path : Path) (way : List Path) : Prop where
  /-- The way starts with the path itself. -/
  starts : way.head? = some path
  /-- It goes on from each path to the one without the last name, and ends without names. -/
  climbs : way.map names = (names path).inits.reverse
  /-- It leads through paths from the top. -/
  absolute : ∀ above ∈ way, isAbsolute above = true

theorem leadsUp_top
    {path : Path}
    (absolute : isAbsolute path = true)
    (isTop : names path = []) :
    LeadsUp path [path] where
  starts := rfl
  climbs := by
    rw [List.map_singleton, isTop]
    rfl
  absolute := List.forall_mem_singleton.mpr absolute

/-- One step and the way up from there are a way up. -/
theorem LeadsUp.step
    {path above : Path}
    {way : List Path}
    (absolute : isAbsolute path = true)
    (notTop : names path ≠ [])
    (isAbove : names above = (names path).dropLast)
    (leadsUp : LeadsUp above way) :
    LeadsUp path (path :: way) where
  starts := rfl
  climbs := by
    rw [List.map_cons, leadsUp.climbs, isAbove]
    generalize names path = whole at notTop
    obtain ⟨front, last, rfl⟩ := (List.eq_nil_or_concat whole).resolve_left notTop
    rw [List.concat_eq_append, List.dropLast_concat, List.inits_append, List.reverse_append]
    rfl
  absolute := List.forall_mem_cons.mpr ⟨absolute, leadsUp.absolute⟩

theorem leadsUp_upwardsFor
    {fuel : Nat}
    {path : Path}
    (absolute : isAbsolute path = true)
    (enough : (names path).length ≤ fuel) :
    LeadsUp path (upwardsFor fuel path) := by
  induction fuel generalizing path with
  | zero => exact leadsUp_top absolute (List.length_eq_zero_iff.mp (Nat.le_zero.mp enough))
  | succ fuel inductionHypothesis =>
      rw [upwardsFor]
      by_cases isTop : names path = []
      · rw [parent?_of_names_eq_nil absolute isTop]
        exact leadsUp_top absolute isTop
      · obtain ⟨above, isParent, isAbsolute, isAbove⟩ := exists_parent?_eq absolute isTop
        rw [isParent]
        refine .step absolute isTop isAbove (inductionHypothesis isAbsolute ?_)
        rw [isAbove, List.length_dropLast]
        omega

/-- Upwards from a path from the top, all is gone through up to the top. -/
theorem leadsUp_upwards
    {path : Path}
    (absolute : isAbsolute path = true) :
    LeadsUp path path.upwards :=
  leadsUp_upwardsFor absolute (length_names_le absolute)

section Places

variable
    {path : Path}
    {way : List Path}
    {above : Path}
    {index : Nat}

/-- So many steps up, so many names are gone. -/
theorem LeadsUp.names_getElem?
    (leadsUp : LeadsUp path way)
    (isAbove : way[index]? = some above) :
    index ≤ (names path).length ∧
      names above = (names path).take ((names path).length - index) := by
  have isFront : (names path).inits.reverse[index]? = some (names above) := by
    rw [← leadsUp.climbs, List.getElem?_map, isAbove]
    rfl
  obtain ⟨inBounds, isEntry⟩ := List.getElem?_eq_some_iff.mp isFront
  rw [List.length_reverse, List.length_inits] at inBounds
  rw [List.getElem_reverse, List.getElem_inits, List.length_inits] at isEntry
  exact ⟨by omega, isEntry.symm⟩

/-- At the end of the way up there is the top. -/
theorem LeadsUp.ends
    (leadsUp : LeadsUp path way) :
    way.getLast?.map names = some [] := by
  rw [← List.getLast?_map, leadsUp.climbs, List.getLast?_reverse]
  cases names path <;> rfl

/-- Paths at different places of a way up have different names. -/
theorem LeadsUp.eq_of_names_eq
    (leadsUp : LeadsUp path way)
    {other : Path}
    {place : Nat}
    (isAbove : way[index]? = some above)
    (isOther : way[place]? = some other)
    (same : names above = names other) :
    index = place := by
  obtain ⟨inFirst, ofFirst⟩ := leadsUp.names_getElem? isAbove
  obtain ⟨inSecond, ofSecond⟩ := leadsUp.names_getElem? isOther
  have sameLength : (names above).length = (names other).length := congrArg List.length same
  rw [ofFirst, ofSecond, List.length_take, List.length_take] at sameLength
  omega

end Places
end Path

namespace Tree

/-! ## Names as locations -/

variable
    {tree : Tree α}
    {path : Path}

/-- What counts for nothing leads nowhere else. -/
theorem foldl_goOn_filter
    (location : Location)
    (names : List (List Char)) :
    (names.filter fun name => !Path.isIdle name).foldl goOn location =
      names.foldl goOn location := by
  induction names generalizing location with
  | nil => rfl
  | cons name names inductionHypothesis =>
      cases isIdle : Path.isIdle name with
      | true =>
          have stays : goOn location name = location := by rw [goOn, if_pos isIdle]
          rw [List.filter_cons_of_neg (by rw [isIdle]; decide), inductionHypothesis,
            List.foldl_cons, stays]
      | false =>
          rw [List.filter_cons_of_pos (by rw [isIdle]; decide), List.foldl_cons,
            inductionHypothesis, List.foldl_cons]

theorem eq_foldl_names_of_place?
    {location : Location}
    (leads : tree.place? path = some location) :
    location = path.names.foldl goOn [] := by
  rw [Path.names, foldl_goOn_filter]
  exact eq_foldl_of_locateFrom leads

theorem isName_of_mem_names
    (forth : ∀ name ∈ path.names, name ≠ ['.', '.']) :
    ∀ name ∈ path.names, IsName name := by
  intro name isIn
  obtain ⟨isPiece, isBusy⟩ := List.mem_filter.mp isIn
  refine ⟨Text.separator_notMem_of_mem_pieces isPiece, ?_, forth name isIn⟩
  rwa [Bool.not_eq_true'] at isBusy

/-- A path without names that lead back leads to its names. -/
theorem eq_names_of_place?
    (forth : ∀ name ∈ path.names, name ≠ ['.', '.'])
    {location : Location}
    (leads : tree.place? path = some location) :
    location = path.names := by
  rw [eq_foldl_names_of_place? leads, foldl_goOn_of_areNames (isName_of_mem_names forth),
    List.nil_append]

/-- Unless names lead back, they lead further into a tree. -/
theorem prefix_foldl_goOn
    {names : List (List Char)}
    (forth : ∀ name ∈ names, name ≠ ['.', '.'])
    (location : Location) :
    location <+: names.foldl goOn location := by
  induction names generalizing location with
  | nil => exact List.prefix_refl location
  | cons name names inductionHypothesis =>
      obtain ⟨notBack, others⟩ := List.forall_mem_cons.mp forth
      have further : location <+: goOn location name := by
        unfold goOn
        rw [if_neg (mt beq_iff_eq.mp notBack)]
        split
        · exact List.prefix_refl location
        · exact List.prefix_append location [name]
      exact further.trans (inductionHypothesis others _)

/-- Names that lead to no other folder than one of the tree do lead there. -/
theorem locateFrom_of_isFolder
    {location : Location}
    {names : List (List Char)}
    (forth : ∀ name ∈ names, name ≠ ['.', '.'])
    (isFolder : tree.IsFolder (names.foldl goOn location)) :
    (tree.locateFrom location names).toOption = some (names.foldl goOn location) := by
  induction names generalizing location with
  | nil => rfl
  | cons name names inductionHypothesis =>
      have isHere : tree.IsFolder location := by
        obtain ⟨back, isWhole⟩ := prefix_foldl_goOn forth location
        rw [← isWhole] at isFolder
        exact isFolder.of_append
      rw [locateFrom_cons_of_isFolder isHere]
      exact inductionHypothesis (List.forall_mem_cons.mp forth).2 isFolder

/-- A path whose names lead to a folder, and never back, leads to that folder. -/
theorem place?_of_isFolder
    (forth : ∀ name ∈ path.names, name ≠ ['.', '.'])
    (isFolder : tree.IsFolder path.names) :
    tree.place? path = some path.names := by
  have isReached : (Text.pieces '/' path).foldl goOn [] = path.names := by
    rw [← foldl_goOn_filter]
    exact foldl_goOn_of_areNames (isName_of_mem_names forth) []
  have onward : ∀ name ∈ Text.pieces '/' path, name ≠ ['.', '.'] := by
    rintro name isPiece rfl
    exact forth _ (List.mem_filter.mpr ⟨isPiece, rfl⟩) rfl
  unfold place? locate
  rw [locateFrom_of_isFolder onward (by rwa [isReached]), isReached]

/-! ## Entries of folders -/

/-- A path leads to a folder with an entry of a name. -/
def Contains (tree : Tree α) (path : Path) (name : List Char) : Prop :=
  ∃ location, tree.place? path = some location ∧ (tree.get? (location ++ [name])).isSome

instance (tree : Tree α) (path : Path) (name : List Char) :
    Decidable (tree.Contains path name) :=
  decidable_of_iff (∃ location ∈ tree.place? path, (tree.get? (location ++ [name])).isSome)
    (exists_congr fun _ => and_congr_left fun _ => Option.mem_def)

/-- There is something at a name in a folder exactly if the folder has such an entry. -/
theorem isSome_find?_join
    {name : List Char}
    (isName : IsName name) :
    (tree.find? (path.join name)).isSome ↔ tree.Contains path name := by
  rw [Option.isSome_iff_exists]
  simp only [find?_eq_some_iff, place?_join_eq_some_iff isName.plain, goOn_of_isName isName]
  constructor
  · rintro ⟨part, _, ⟨location, leads, -, rfl⟩, isThere⟩
    exact ⟨location, leads, Option.isSome_iff_exists.mpr ⟨part, isThere⟩⟩
  · rintro ⟨location, leads, isThere⟩
    obtain ⟨part, isPart⟩ := Option.isSome_iff_exists.mp isThere
    exact ⟨part, _, ⟨location, leads, isFolder_of_isSome_get? isThere, rfl⟩, isPart⟩

/-- Where no name of a path leads back, its names tell which folder has the entry. -/
theorem contains_iff
    (forth : ∀ name ∈ path.names, name ≠ ['.', '.'])
    (name : List Char) :
    tree.Contains path name ↔ (tree.get? (path.names ++ [name])).isSome := by
  constructor
  · rintro ⟨location, leads, isThere⟩
    rwa [eq_names_of_place? forth leads] at isThere
  · exact fun isThere =>
      ⟨path.names, place?_of_isFolder forth (isFolder_of_isSome_get? isThere), isThere⟩

/-- On a way up from a path without names that lead back, each path is the folder so many steps
above the location that the names tell. -/
theorem contains_iff_of_leadsUp
    {way : List Path}
    (leadsUp : path.LeadsUp way)
    (forth : ∀ name ∈ path.names, name ≠ ['.', '.'])
    {index : Nat}
    {above : Path}
    (isAbove : way[index]? = some above)
    (name : List Char) :
    tree.Contains above name ↔
      (tree.get? (path.names.take (path.names.length - index) ++ [name])).isSome := by
  obtain ⟨-, areNames⟩ := leadsUp.names_getElem? isAbove
  rw [contains_iff, areNames]
  rw [areNames]
  exact fun other isIn => forth other (List.mem_of_mem_take isIn)

end Tree
end KeyedText
