import KeyedText.Proofs.Text.Pieces
import KeyedText.Report.Diff

/-!
# Lines that a diff shows

The lines of two texts are paired by their index.  What a diff shows of an index
depends only on the pieces that the two texts have there, and on whether they are
the last: where these agree, nothing is shown.
-/

namespace KeyedText
namespace Report

/-! ## Lines -/

/-- A piece of a text as a line; the last one is no line if it is empty. -/
def lineOf? (isLast : Bool) (piece : List Char) : Option (List Char) :=
  if isLast then if piece.isEmpty then none else some piece else some (withoutReturn piece)

theorem getElem?_linesOf
    (text : List Char)
    (index : Nat) :
    (linesOf text)[index]? =
      (Text.pieces '\n' text)[index]?.bind (lineOf? (index == text.count '\n')) := by
  obtain ⟨init, last, cut⟩ :=
    (List.eq_nil_or_concat' _).resolve_left (Text.pieces_ne_nil '\n' text)
  have count := Text.length_pieces '\n' text
  rw [cut, List.length_append, List.length_singleton] at count
  have isCount : text.count '\n' = init.length := by omega
  unfold linesOf
  rw [cut, isCount]
  simp only [List.getLastD_concat, List.dropLast_concat]
  rcases Nat.lt_trichotomy index init.length with before | rfl | behind
  · have notLast : (index == init.length) = false := beq_false_of_ne (Nat.ne_of_lt before)
    rw [List.getElem?_append_left (by simpa using before), List.getElem?_append_left before,
      List.getElem?_map, List.getElem?_eq_getElem before, notLast]
    rfl
  · rw [List.getElem?_append_right (by simp), List.getElem?_concat_length, List.length_map,
      Nat.sub_self, beq_self_eq_true]
    unfold lineOf?
    cases last <;> rfl
  · have noPiece : (init ++ [last]).length ≤ index := by
      rw [List.length_append, List.length_singleton]
      exact behind
    rw [List.getElem?_eq_none noPiece, List.getElem?_eq_none]
    · rfl
    · rw [List.length_append, List.length_map]
      split
      · exact Nat.le_of_lt behind
      · exact behind

/-! ## Pairs -/

/-- Elements are paired by their index. -/
theorem eq_of_getElem?_paired
    {left right : List α}
    {index : Nat}
    {pair : Option α × Option α}
    (isPair : (paired left right)[index]? = some pair) :
    pair = (left[index]?, right[index]?) := by
  induction left, right using paired.induct generalizing index with
  | case1 => simp [paired] at isPair
  | case2 first lefts inductionHypothesis =>
      cases index with
      | zero => simpa [paired] using isPair.symm
      | succ index => simpa [paired] using inductionHypothesis (by simpa [paired] using isPair)
  | case3 first rights inductionHypothesis =>
      cases index with
      | zero => simpa [paired] using isPair.symm
      | succ index => simpa [paired] using inductionHypothesis (by simpa [paired] using isPair)
  | case4 first lefts other rights inductionHypothesis =>
      cases index with
      | zero => simpa [paired] using isPair.symm
      | succ index => simpa [paired] using inductionHypothesis (by simpa [paired] using isPair)

/-! ## Diffs -/

/-- What a diff shows behind its head are the lines of the texts at an index at which these
differ. -/
theorem exists_index_of_mem_diffLines
    {colored : Bool}
    {file : String}
    {before after : List Char}
    {line : String}
    (shown : line ∈ (diffLines colored file before after).drop 2) :
    ∃ index : Nat, (linesOf before)[index]? ≠ (linesOf after)[index]? ∧
      line ∈ changeLines colored ((linesOf before)[index]?, (linesOf after)[index]?) := by
  obtain ⟨pair, isChanged, inChange⟩ := List.mem_flatMap.mp shown
  obtain ⟨inPairs, differs⟩ := List.mem_filter.mp isChanged
  obtain ⟨index, isPair⟩ := List.mem_iff_getElem?.mp inPairs
  obtain rfl := eq_of_getElem?_paired isPair
  exact ⟨index, bne_iff_ne.mp differs, inChange⟩

/-- Texts with as many line feeds have the same line wherever they have the same piece. -/
theorem getElem?_linesOf_congr
    {before after : List Char}
    (sameCount : after.count '\n' = before.count '\n')
    {index : Nat}
    (samePiece : (Text.pieces '\n' after)[index]? = (Text.pieces '\n' before)[index]?) :
    (linesOf before)[index]? = (linesOf after)[index]? := by
  rw [getElem?_linesOf, getElem?_linesOf, sameCount, samePiece]

end Report
end KeyedText
