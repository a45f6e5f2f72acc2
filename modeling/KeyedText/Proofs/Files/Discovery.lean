import KeyedText.Files.Discovery
import KeyedText.Proofs.Files.Observation
import Mathlib.Data.Char
import Mathlib.Data.List.Lex
import Mathlib.Data.List.Sort

/-!
# Discovery of source files

Looking for source files changes none.  What is found is in order, and each
path is found once.
-/

namespace KeyedText
namespace Discovery

open World

/-! ## Order -/

/-- Dropping repetitions from what is in order leaves it strictly in order; `kept` is what stands
in front, the latest first. -/
theorem pairwise_loop
    {first : Path}
    {rest kept : List Path}
    (sorted : (first :: rest).Pairwise (· ≤ ·))
    (strict : (kept.reverse ++ [first]).Pairwise (· < ·)) :
    (List.eraseRepsBy.loop (· == ·) first rest kept).Pairwise (· < ·) := by
  induction rest generalizing first kept with
  | nil => simpa [List.eraseRepsBy.loop] using strict
  | cons next rest inductionHypothesis =>
      obtain ⟨leads, sortedRest⟩ := List.pairwise_cons.mp sorted
      unfold List.eraseRepsBy.loop
      split
      · exact inductionHypothesis
          (sorted.sublist ((List.sublist_cons_self next rest).cons_cons first)) strict
      · next different =>
          apply inductionHypothesis sortedRest
          rw [List.reverse_cons]
          refine List.pairwise_append.mpr ⟨strict, List.pairwise_singleton _ _, ?_⟩
          intro earlier isEarlier behind isNext
          rw [List.mem_singleton.mp isNext]
          have firstBefore : first < next :=
            lt_of_le_of_ne (leads next List.mem_cons_self) (beq_eq_false_iff_ne.mp different)
          rcases List.mem_append.mp isEarlier with inKept | isFirst
          · have before := (List.pairwise_append.mp strict).2.2 earlier inKept first (by simp)
            exact before.trans firstBefore
          · rwa [List.mem_singleton.mp isFirst]

/-- What is found is in order, each path once. -/
theorem pairwise_inOrder
    (paths : List Path) :
    (inOrder paths).Pairwise (· < ·) := by
  have sorted : (paths.mergeSort fun left right => !(right < left)).Pairwise (· ≤ ·) := by
    have transitive : ∀ first second third : Path,
        (!(second < first)) = true → (!(third < second)) = true → (!(third < first)) = true := by
      intro first second third
      simpa using fun before behind => before.trans behind
    have total : ∀ first second : Path,
        ((!(second < first)) || (!(first < second))) = true := by
      intro first second
      simpa using le_total first second
    simpa using List.pairwise_mergeSort transitive total paths
  unfold inOrder List.eraseReps
  cases ofPaths : paths.mergeSort fun left right => !(right < left) with
  | nil => exact .nil
  | cons first rest =>
      rw [ofPaths] at sorted
      exact pairwise_loop sorted (List.pairwise_singleton _ _)

/-! ## Looking -/

theorem looks_expand :
    ∀ (parts : List Part) (path : Path), Looks (expand (m := StateM World) parts path)
  | [], path => looks_pure _
  | .name text :: rest, path => by
      have goesOn : ∀ isThere : Bool, Looks (if isThere then expand (m := StateM World) rest
          (path.join text) else return []) := by
        intro isThere
        cases isThere with
        | false => exact looks_pure _
        | true => exact looks_expand rest _
      unfold expand
      dsimp only
      split
      · exact looks_bind (looks_isFolder _) goesOn
      · exact looks_bind (looks_has _) goesOn
  | .pattern pattern :: rest, path => by
      refine looks_bind (looks_shape? path) fun shape => ?_
      split
      · exact looks_bind (looks_mapM (fun _ => looks_expand rest _) _) fun _ => looks_pure _
      · exact looks_pure _
  | [.deep], path =>
      looks_bind (looks_shape? path) fun _ => looks_pure _
  | .deep :: part :: rest, path =>
      looks_bind (looks_shape? path) fun _ =>
        looks_bind (looks_mapM (fun _ => looks_expand rest _) _) fun _ => looks_pure _

theorem looks_starts
    (base : Path)
    (text : String) :
    Looks (starts (m := StateM World) base text) := by
  unfold starts
  split
  · split
    · exact looks_bind (looks_expand _ _) fun _ => looks_filterM looks_isFolder _
    · exact looks_bind (looks_tell _) fun _ => looks_pure _
  · refine looks_bind (looks_has _) fun isThere => ?_
    cases isThere with
    | false => exact looks_bind (looks_tell _) fun _ => looks_pure _
    | true => exact looks_pure _

theorem looks_add
    (base : Path)
    (exclusion : Exclusion)
    (text : String) :
    Looks (exclusion.add (m := StateM World) base text) := by
  unfold Exclusion.add
  split
  · split
    · exact looks_pure _
    · exact looks_bind (looks_tell _) fun _ => looks_pure _
  · exact looks_pure _

theorem looks_exclusion
    (scope : Scope)
    (base : Path) :
    Looks (scope.exclusion (m := StateM World) base) :=
  looks_bind (looks_foldlM (looks_add base) _ _) fun _ => looks_pure _

/-- The paths from which a search starts. -/
def roots (base : Path) (scope : Scope) : StateM World (List Path) :=
  if scope.includes.isEmpty then pure [base]
  else List.flatten <$> scope.includes.mapM (starts base)

/-- The paths of the files in the trees at some paths. -/
def walks (paths : List Path) : StateM World (List (List Path)) :=
  paths.mapM fun path => do
    let shape? ← Host.shape? path
    return (shape?.map (walk path)).getD []

/-- A search in three steps. -/
theorem find_eq
    (base : Path)
    (scope : Scope) :
    find (m := StateM World) base scope = do
      let exclusion ← scope.exclusion base
      let found ← walks (← roots base scope)
      return inOrder
        (found.flatten.filter fun path => isSource path && !exclusion.covers path) := by
  unfold find roots
  cases scope.includes.isEmpty with
  | false => rfl
  | true => rfl

theorem looks_roots
    (base : Path)
    (scope : Scope) :
    Looks (roots base scope) := by
  unfold roots
  split
  · exact looks_pure _
  · exact looks_map (looks_mapM (looks_starts base) _) _

theorem looks_walks
    (paths : List Path) :
    Looks (walks paths) :=
  looks_mapM (fun path => looks_bind (looks_shape? path) fun _ => looks_pure _) paths

theorem looks_find
    (base : Path)
    (scope : Scope) :
    Looks (find (m := StateM World) base scope) := by
  rw [find_eq]
  exact looks_bind (looks_exclusion scope base) fun _ =>
    looks_bind (looks_roots base scope) fun _ =>
      looks_bind (looks_walks _) fun _ => looks_pure _

/-- The source files are found in order, each of them once. -/
theorem pairwise_find
    (tree : FileTree)
    (base : Path)
    (scope : Scope) :
    (answer tree (find base scope)).Pairwise (· < ·) := by
  rw [find_eq]
  exact pairwise_inOrder _

end Discovery
end KeyedText
