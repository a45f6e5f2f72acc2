import KeyedText.Proofs.Files.Place

/-!
# Folders above paths

A name in a folder gives a path above which there is the folder, and along two
names a path leads as along one after the other.
-/

namespace KeyedText
namespace Path

/-- A name at the end of a path counts for something. -/
theorem dropIdleBack_reverse_append
    {name : List Char}
    (isName : Tree.IsName name)
    (behind : List Char) :
    dropIdleBack (name.reverse ++ behind) = name.reverse ++ behind := by
  have plain : '/' ∉ name.reverse := mt List.mem_reverse.mp isName.plain
  have busy : name.reverse ≠ [] ∧ name.reverse ≠ ['.'] := by
    have isBusy := isName.busy
    rw [isIdle, Bool.or_eq_false_iff, List.isEmpty_eq_false_iff, beq_eq_false_iff_ne] at isBusy
    exact ⟨mt List.reverse_eq_nil_iff.mp isBusy.1, mt List.reverse_eq_iff.mp isBusy.2⟩
  generalize name.reverse = back at *
  unfold dropIdleBack
  split
  · next same =>
      cases back with
      | nil => exact absurd rfl busy.1
      | cons last others =>
          cases same
          exact absurd List.mem_cons_self plain
  · next same =>
      match back with
      | [] => exact absurd rfl busy.1
      | [last] =>
          cases same
          exact absurd rfl busy.2
      | last :: next :: others =>
          cases same
          exact absurd (List.mem_cons_of_mem _ List.mem_cons_self) plain
  · rfl

theorem isAbsolute_append
    {front : Path}
    (nonempty : front ≠ [])
    (back : List Char) :
    isAbsolute (front ++ back) = isAbsolute front := by
  unfold isAbsolute
  rw [List.head?_append_of_ne_nil _ nonempty]

theorem trimmedEnd_append_slash
    {folder : Path}
    (nonempty : folder ≠ []) :
    trimmedEnd (folder ++ ['/']) = trimmedEnd folder := by
  unfold trimmedEnd
  rw [isAbsolute_append nonempty, List.reverse_append]
  rfl

/-- A folder as it stands in front of a relative path. -/
def opened (folder : Path) : Path :=
  if folder.isEmpty || folder.getLast? == some '/' then folder else folder ++ ['/']

theorem join_eq_opened_append
    {path : Path}
    (isRelative : isAbsolute path = false)
    (folder : Path) :
    folder.join path = folder.opened ++ path := by
  unfold join opened
  rw [if_neg (by rw [isRelative]; exact Bool.false_ne_true)]
  split
  · rfl
  · rw [List.append_assoc, List.singleton_append]

/-- In front of a relative path there is nothing or a slash. -/
theorem dropWhile_opened
    (folder : Path) :
    folder.opened.reverse.dropWhile (· != '/') = folder.opened.reverse := by
  unfold opened
  split
  · next isOpen =>
      rw [Bool.or_eq_true, List.isEmpty_iff, beq_iff_eq] at isOpen
      rcases isOpen with rfl | ends
      · rfl
      · obtain ⟨front, rfl⟩ := List.getLast?_eq_some_iff.mp ends
        rw [List.reverse_append]
        rfl
  · rw [List.reverse_append]
    rfl

theorem trimmedEnd_opened
    (folder : Path) :
    trimmedEnd folder.opened = trimmedEnd folder := by
  unfold opened
  split
  · rfl
  · next isClosed =>
      rw [Bool.or_eq_true, not_or, List.isEmpty_iff] at isClosed
      exact trimmedEnd_append_slash isClosed.1

theorem isEmpty_append_name
    {name : List Char}
    (isName : Tree.IsName name)
    (front : Path) :
    (front ++ name).isEmpty = false := by
  rw [List.isEmpty_eq_false_iff]
  intro isNone
  have busy := isName.busy
  rw [(List.append_eq_nil_iff.mp isNone).2] at busy
  cases busy

theorem trimmedEnd_append
    {name : List Char}
    (isName : Tree.IsName name)
    (front : Path) :
    trimmedEnd (front ++ name) = front ++ name := by
  unfold trimmedEnd
  rw [List.reverse_append, dropIdleBack_reverse_append isName, ← List.reverse_append,
    List.reverse_reverse]
  dsimp only
  rw [isEmpty_append_name isName, Bool.false_and, if_neg Bool.false_ne_true]

/-- Above a name in a folder there is the folder. -/
theorem parent?_join
    {name : List Char}
    (isName : Tree.IsName name)
    {folder : Path}
    (isTrimmed : folder.trimmedEnd = folder) :
    (folder.join name).parent? = some folder := by
  have notTop : ((folder.opened ++ name).isEmpty || folder.opened ++ name == ['/']) = false := by
    rw [Bool.or_eq_false_iff, isEmpty_append_name isName, beq_eq_false_iff_ne]
    refine ⟨rfl, fun same => ?_⟩
    rcases List.append_eq_singleton_iff.mp same with ⟨-, rfl⟩ | ⟨-, rfl⟩
    · exact isName.plain List.mem_cons_self
    · exact absurd isName.busy (by decide)
  have drops : (folder.opened ++ name).reverse.dropWhile (· != '/') = folder.opened.reverse := by
    rw [List.reverse_append, List.dropWhile_append_of_pos, dropWhile_opened]
    intro character isIn
    refine bne_iff_ne.mpr ?_
    rintro rfl
    exact isName.plain (List.mem_reverse.mp isIn)
  unfold parent?
  rw [join_eq_opened_append isName.isAbsolute_eq_false, trimmedEnd_append isName]
  dsimp only
  rw [notTop, if_neg Bool.false_ne_true, drops, List.reverse_reverse, trimmedEnd_opened, isTrimmed]

theorem exists_upwards_eq
    (folder : Path) :
    ∃ above, folder.upwards = folder :: above := by
  unfold upwards
  cases folder.length with
  | zero => exact ⟨[], rfl⟩
  | succ fuel => exact ⟨_, rfl⟩

/-- A path of two names leads along the first one. -/
theorem join_join
    {first second : List Char}
    (isFirst : Tree.IsName first)
    (isSecond : Tree.IsName second)
    (folder : Path) :
    (folder.join first).join second = folder.join (first ++ '/' :: second) := by
  have nonempty : first ≠ [] := by
    rintro rfl
    exact absurd isFirst.busy (by decide)
  have isRelative : isAbsolute (first ++ '/' :: second) = false := by
    rw [isAbsolute_append nonempty, isFirst.isAbsolute_eq_false]
  have isClosed : ((folder.opened ++ first).getLast? == some '/') = false := by
    rw [List.getLast?_append_of_ne_nil _ nonempty, beq_eq_false_iff_ne]
    exact fun isSlash => isFirst.plain (List.mem_of_getLast? isSlash)
  rw [join_eq_opened_append isRelative, join_eq_opened_append isFirst.isAbsolute_eq_false,
    join_eq_opened_append isSecond.isAbsolute_eq_false, opened, isEmpty_append_name isFirst,
    isClosed]
  simp

end Path
end KeyedText
