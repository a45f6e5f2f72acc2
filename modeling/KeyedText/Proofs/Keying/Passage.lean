import KeyedText.Proofs.Keying.Splicing
import Mathlib.Data.List.Nodup
import Mathlib.Data.List.Perm.Basic

/-!
# Passages of edits through a text

Edits may overlap, lie in each other, be empty, end before they start or reach past the text, and
they come in any order.  Splicing goes through them by start and then by end, and applies an edit
unless it starts before the end of the last one that was applied or does not fit into the text.  A
passage lists the edits as they are gone through, each with whether it is applied; what splicing
gives is read off it.
-/

namespace KeyedText
namespace Keying

open Source

variable {text : List Char} {cursor : Nat} {edit : Edit} {edits : List Edit}

/-! ## The order of edits -/

/-- An edit comes before another one if it starts first, or starts with it and ends no later. -/
theorem Edit.precedes_iff {left right : Edit} :
    left.precedes right = true ↔
      left.span.start < right.span.start ∨
        left.span.start = right.span.start ∧ left.span.stop ≤ right.span.stop := by
  simp [Edit.precedes]

theorem Edit.precedes_trans
    (first second third : Edit)
    (left : first.precedes second = true)
    (right : second.precedes third = true) :
    first.precedes third = true := by
  rw [Edit.precedes_iff] at left right ⊢
  omega

theorem Edit.precedes_total (left right : Edit) :
    (left.precedes right || right.precedes left) = true := by
  rw [Bool.or_eq_true, Edit.precedes_iff, Edit.precedes_iff]
  omega

theorem Edit.precedes_of_span_eq
    {left right : Edit}
    (same : left.span = right.span) :
    left.precedes right = true := by
  simp [Edit.precedes_iff, same]

/-- Edits that come before each other have the same span. -/
theorem Edit.span_eq_of_precedes
    {left right : Edit}
    (before : left.precedes right = true)
    (after : right.precedes left = true) :
    left.span = right.span := by
  rw [Edit.precedes_iff] at before after
  have starts : left.span.start = right.span.start := by omega
  have stops : left.span.stop = right.span.stop := by omega
  calc
    left.span = ⟨left.span.start, left.span.stop⟩ := rfl
    _ = right.span := by rw [starts, stops]

/-- The edits of one span, in their order. -/
def ofSpan (span : Span) (edits : List Edit) : List Edit :=
  edits.filter fun edit => edit.span == span

/-- Edits with the same span stay in their order. -/
theorem ofSpan_mergeSort
    (span : Span)
    (edits : List Edit) :
    ofSpan span (edits.mergeSort Edit.precedes) = ofSpan span edits := by
  have sorted : (ofSpan span edits).Pairwise fun left right => left.precedes right = true := by
    refine List.pairwise_of_forall_mem_list fun left leftMember right rightMember => ?_
    simp only [ofSpan, List.mem_filter, beq_iff_eq] at leftMember rightMember
    exact Edit.precedes_of_span_eq (leftMember.2.trans rightMember.2.symm)
  have inside : (ofSpan span edits).Sublist (edits.mergeSort Edit.precedes) :=
    List.sublist_mergeSort Edit.precedes_trans Edit.precedes_total sorted List.filter_sublist
  have filtered : (ofSpan span edits).Sublist (ofSpan span (edits.mergeSort Edit.precedes)) := by
    have both := inside.filter fun edit => edit.span == span
    simp only [ofSpan, List.filter_filter, Bool.and_self] at both
    exact both
  have lengths := ((List.mergeSort_perm edits Edit.precedes).filter
    fun edit => edit.span == span).length_eq
  exact (filtered.eq_of_length lengths.symm).symm

/-- Of ordered edits that are the same up to their order, the first ones have the same span. -/
theorem span_eq_of_sorted_cons
    {first second : Edit}
    {left right : List Edit}
    (leftSorted : (first :: left).Pairwise fun first second => first.precedes second = true)
    (rightSorted : (second :: right).Pairwise fun first second => first.precedes second = true)
    (complete : (first :: left).Perm (second :: right)) :
    first.span = second.span := by
  have firstMember : first ∈ second :: right := complete.subset List.mem_cons_self
  have secondMember : second ∈ first :: left := complete.symm.subset List.mem_cons_self
  rcases List.mem_cons.mp firstMember with rfl | firstLater
  · rfl
  rcases List.mem_cons.mp secondMember with rfl | secondLater
  · rfl
  exact Edit.span_eq_of_precedes (List.rel_of_pairwise_cons leftSorted secondLater)
    (List.rel_of_pairwise_cons rightSorted firstLater)

/-- The order of edits is the only one in which they come before each other and those with the same
span stay in their order. -/
theorem eq_of_sorted_of_ofSpan
    {left right : List Edit}
    (leftSorted : left.Pairwise fun first second => first.precedes second = true)
    (rightSorted : right.Pairwise fun first second => first.precedes second = true)
    (complete : left.Perm right)
    (stable : ∀ span, ofSpan span left = ofSpan span right) :
    left = right := by
  induction left generalizing right with
  | nil => exact complete.nil_eq
  | cons first leftRest inductionHypothesis =>
      cases right with
      | nil => exact complete.eq_nil
      | cons second rightRest =>
          have sameSpan := span_eq_of_sorted_cons leftSorted rightSorted complete
          obtain rfl : first = second := by
            have heads := stable second.span
            simp only [ofSpan, List.filter_cons, sameSpan, beq_self_eq_true, if_true] at heads
            exact (List.cons.inj heads).1
          have restStable : ∀ span, ofSpan span leftRest = ofSpan span rightRest := by
            intro span
            have whole := stable span
            simp only [ofSpan, List.filter_cons] at whole
            split at whole
            · exact (List.cons.inj whole).2
            · exact whole
          rw [inductionHypothesis leftSorted.of_cons rightSorted.of_cons complete.cons_inv
            restStable]

/-! ## Passages -/

/-- Where the text is copied from behind an edit: the end of the edit if it is applied. -/
def Edit.reached (edit : Edit) (text : List Char) (cursor : Nat) : Nat :=
  if edit.fits text cursor then edit.span.stop else cursor

/-- How ordered edits are gone through from a position on: each with whether it is applied. -/
def passage (text : List Char) (cursor : Nat) : List Edit → List (Edit × Bool)
  | [] => []
  | edit :: rest => (edit, edit.fits text cursor) :: passage text (edit.reached text cursor) rest

/-- The edits of a passage that are applied. -/
def applied (steps : List (Edit × Bool)) : List Edit :=
  (steps.filter (·.2)).map (·.1)

/-- Where the last of some edits ends; a position of its own if there are none. -/
def lastStop (cursor : Nat) (edits : List Edit) : Nat :=
  (edits.getLast?.map (·.span.stop)).getD cursor

@[simp] theorem applied_nil : applied [] = [] := rfl

@[simp] theorem applied_cons (edit : Edit) (used : Bool) (steps : List (Edit × Bool)) :
    applied ((edit, used) :: steps) = if used then edit :: applied steps else applied steps := by
  cases used <;> rfl

@[simp] theorem lastStop_nil (cursor : Nat) : lastStop cursor [] = cursor := rfl

@[simp] theorem lastStop_cons (cursor : Nat) (edit : Edit) (edits : List Edit) :
    lastStop cursor (edit :: edits) = lastStop edit.span.stop edits := by
  cases isLast : edits.getLast? <;> simp [lastStop, List.getLast?_cons, isLast]

@[simp] theorem map_fst_passage
    (text : List Char)
    (cursor : Nat)
    (edits : List Edit) :
    (passage text cursor edits).map (·.1) = edits := by
  induction edits generalizing cursor with
  | nil => rfl
  | cons edit rest inductionHypothesis => rw [passage, List.map_cons, inductionHypothesis]

/-- An edit moves the position behind the last one that was applied exactly if it is applied. -/
theorem lastStop_applied_cons
    (text : List Char)
    (cursor : Nat)
    (edit : Edit)
    (steps : List (Edit × Bool)) :
    lastStop cursor (applied ((edit, edit.fits text cursor) :: steps)) =
      lastStop (edit.reached text cursor) (applied steps) := by
  by_cases fits : edit.fits text cursor = true
  · simp [Edit.reached, fits]
  · simp [Edit.reached, fits]

/-- An edit is passed over exactly if it starts before the position, ends past the text, or ends
before it starts. -/
theorem Edit.fits_eq_false_iff :
    edit.fits text cursor = false ↔
      edit.span.start < cursor ∨ text.length < edit.span.stop ∨
        edit.span.stop < edit.span.start := by
  simp only [Edit.fits, Bool.and_eq_false_iff, decide_eq_false_iff_not]
  omega

/-- Every step of a passage is decided by the end of the last edit that was applied before it, and a
list of steps that are all so decided is a passage. -/
theorem eq_passage_iff
    {steps : List (Edit × Bool)} :
    steps = passage text cursor (steps.map (·.1)) ↔
      ∀ front edit used back, steps = front ++ (edit, used) :: back →
        used = edit.fits text (lastStop cursor (applied front)) := by
  -- Behind its first edit a passage is one from the position that this edit leads to.
  induction steps generalizing cursor with
  | nil => simp [passage]
  | cons step rest inductionHypothesis =>
      obtain ⟨first, used⟩ := step
      simp only [List.map_cons, passage, List.cons.injEq, Prod.mk.injEq, true_and,
        inductionHypothesis]
      constructor
      · rintro ⟨rfl, later⟩ front edit used back split
        cases front with
        | nil =>
            obtain ⟨same, -⟩ := List.cons.inj split
            obtain ⟨rfl, rfl⟩ := Prod.mk.inj same
            rfl
        | cons head front =>
            obtain ⟨rfl, restSplit⟩ := List.cons.inj split
            rw [lastStop_applied_cons]
            exact later front edit used back restSplit
      · intro decided
        obtain rfl : used = first.fits text cursor := decided [] first used rest rfl
        refine ⟨rfl, fun front edit used back split => ?_⟩
        rw [← lastStop_applied_cons]
        exact decided (_ :: front) edit used back (by rw [split, List.cons_append])

/-- Splicing replaces the spans of the edits that are applied, each by what it is filled with. -/
theorem spliceFrom_eq_replaced_applied
    (text : List Char)
    (cursor : Nat)
    (edits : List Edit) :
    spliceFrom text cursor edits =
      replaced text cursor
        ((applied (passage text cursor edits)).map fun edit => (edit.span, edit.filling text)) := by
  induction edits generalizing cursor with
  | nil => rfl
  | cons edit rest inductionHypothesis =>
      rw [spliceFrom, passage, applied_cons, Edit.reached]
      split
      · rw [List.map_cons, replaced, inductionHypothesis]
      · exact inductionHypothesis cursor

/-- The edits that are applied lie in the text behind the position, side by side and in order. -/
theorem applied_passage
    (text : List Char)
    (cursor : Nat)
    (edits : List Edit) :
    (∀ edit ∈ applied (passage text cursor edits),
        cursor ≤ edit.span.start ∧ edit.span.start ≤ edit.span.stop ∧
          edit.span.stop ≤ text.length) ∧
      (applied (passage text cursor edits)).Pairwise
        fun left right => left.span.before right.span := by
  induction edits generalizing cursor with
  | nil => simp [passage]
  | cons edit rest inductionHypothesis =>
      obtain ⟨laterBounded, laterDisjoint⟩ := inductionHypothesis (edit.reached text cursor)
      rw [passage, applied_cons]
      split
      · next fits =>
          rw [Edit.reached, if_pos fits] at laterBounded laterDisjoint ⊢
          simp only [Edit.fits, Bool.and_eq_true, decide_eq_true_eq] at fits
          refine ⟨List.forall_mem_cons.mpr ⟨by omega, fun other member => ?_⟩,
            List.pairwise_cons.mpr ⟨fun other member => (laterBounded other member).1,
              laterDisjoint⟩⟩
          have := laterBounded other member
          omega
      · next unfit =>
          rw [Edit.reached, if_neg unfit] at laterBounded laterDisjoint ⊢
          exact ⟨laterBounded, laterDisjoint⟩

/-! ## What splicing gives -/

/-- How splicing edits into a text is accounted for by the steps of a passage. -/
structure Splices
    (text : List Char)
    (edits : List Edit)
    (steps : List (Edit × Bool))
    (output : List Char) : Prop where
  /-- Each edit is gone through once. -/
  complete : (steps.map (·.1)).Perm edits
  /-- They are gone through by start, and those with the same start by end. -/
  ordered : (steps.map (·.1)).Pairwise fun left right =>
    left.span.start < right.span.start ∨
      left.span.start = right.span.start ∧ left.span.stop ≤ right.span.stop
  /-- Those with the same span are gone through in the order in which they came. -/
  stable : ∀ span, ofSpan span (steps.map (·.1)) = ofSpan span edits
  /-- An edit is passed over exactly if it starts before the end of the last one that was applied,
  ends past the text, or ends before it starts. -/
  passedOver : ∀ front edit used back, steps = front ++ (edit, used) :: back →
    (used = false ↔
      edit.span.start < lastStop 0 (applied front) ∨ text.length < edit.span.stop ∨
        edit.span.stop < edit.span.start)
  /-- The spans of the applied edits are in bounds. -/
  bounded : ∀ edit ∈ applied steps,
    edit.span.start ≤ edit.span.stop ∧ edit.span.stop ≤ text.length
  /-- They lie side by side, in the order of the text. -/
  disjoint : (applied steps).Pairwise fun left right => left.span.before right.span
  /-- They, and nothing else, are replaced, each by its replacement and the line feeds that this
  lacks. -/
  replaces : output =
    replaced text 0 ((applied steps).map fun edit =>
      (edit.span,
        edit.replacement ++
          List.replicate (lineFeeds (edit.span.slice text) - lineFeeds edit.replacement) '\n'))
  /-- With each of them left as it is, the text would be the one that was given: all that lies
  outside of them is copied once, in order. -/
  copies :
    replaced text 0 ((applied steps).map fun edit => (edit.span, edit.span.slice text)) = text

/-- Splicing is accounted for by the passage of the ordered edits from the start of the text. -/
theorem splices_splice
    (text : List Char)
    (edits : List Edit) :
    Splices text edits (passage text 0 (edits.mergeSort Edit.precedes)) (splice text edits) := by
  obtain ⟨behind, disjoint⟩ := applied_passage text 0 (edits.mergeSort Edit.precedes)
  have bounded := fun edit member => (behind edit member).2
  exact
    { complete := by
        rw [map_fst_passage]
        exact List.mergeSort_perm _ _
      ordered := by
        rw [map_fst_passage]
        refine (List.pairwise_mergeSort Edit.precedes_trans Edit.precedes_total edits).imp ?_
        exact fun before => Edit.precedes_iff.mp before
      stable := by
        intro span
        rw [map_fst_passage, ofSpan_mergeSort]
      passedOver := by
        intro front edit used back split
        rw [eq_passage_iff.mp (by rw [map_fst_passage]) front edit used back split]
        exact Edit.fits_eq_false_iff
      bounded := bounded
      disjoint := disjoint
      replaces := spliceFrom_eq_replaced_applied text 0 _
      copies := by
        have slices := replaced_slices text 0
          ((applied (passage text 0 (edits.mergeSort Edit.precedes))).map (·.span))
          (by simpa using fun edit member => (bounded edit member).1)
          (by simpa [List.pairwise_map] using disjoint) (fun _ _ => Nat.zero_le _)
        rwa [List.map_map, List.drop_zero] at slices }

/-- Whatever accounts for splicing is the passage of the ordered edits. -/
theorem Splices.steps_eq
    {steps : List (Edit × Bool)}
    {output : List Char}
    (splices : Splices text edits steps output) :
    steps = passage text 0 (edits.mergeSort Edit.precedes) := by
  have sorted : steps.map (·.1) = edits.mergeSort Edit.precedes :=
    eq_of_sorted_of_ofSpan
      (splices.ordered.imp fun before => Edit.precedes_iff.mpr before)
      (List.pairwise_mergeSort Edit.precedes_trans Edit.precedes_total edits)
      (splices.complete.trans (List.mergeSort_perm edits Edit.precedes).symm)
      (fun span => (splices.stable span).trans (ofSpan_mergeSort span edits).symm)
  rw [← sorted]
  refine eq_passage_iff.mpr fun front edit used back split => ?_
  rw [Bool.eq_iff_iff, ← not_iff_not, Bool.not_eq_true, Bool.not_eq_true, Edit.fits_eq_false_iff]
  exact splices.passedOver front edit used back split

theorem Splices.output_eq
    {steps : List (Edit × Bool)}
    {output : List Char}
    (splices : Splices text edits steps output) :
    output = splice text edits := by
  rw [splices.replaces, splices.steps_eq]
  exact (spliceFrom_eq_replaced_applied text 0 _).symm

/-- Edits no two of which have the same span are spliced in alike in every order. -/
theorem splice_perm
    {others : List Edit}
    (distinct : (edits.map (·.span)).Nodup)
    (reordered : others.Perm edits) :
    splice text others = splice text edits := by
  have sorted : others.mergeSort Edit.precedes = edits.mergeSort Edit.precedes := by
    have complete : (others.mergeSort Edit.precedes).Perm (edits.mergeSort Edit.precedes) :=
      (List.mergeSort_perm others _).trans (reordered.trans (List.mergeSort_perm edits _).symm)
    refine complete.eq_of_pairwise ?_
      (List.pairwise_mergeSort Edit.precedes_trans Edit.precedes_total others)
      (List.pairwise_mergeSort Edit.precedes_trans Edit.precedes_total edits)
    intro left right leftMember rightMember before after
    have inOthers : left ∈ others := (List.mergeSort_perm others _).subset leftMember
    exact List.inj_on_of_nodup_map distinct (reordered.subset inOthers)
      ((List.mergeSort_perm edits _).subset rightMember) (Edit.span_eq_of_precedes before after)
  rw [splice, sorted, splice]

/-- Splicing gives exactly what some passage accounts for: the text in which the edits that are
applied, and nothing else, are replaced.  In which order the edits come only matters to those with
the same span. -/
theorem splice_accounts
    (text : List Char)
    (edits : List Edit) :
    (∀ output, splice text edits = output ↔ ∃ steps, Splices text edits steps output) ∧
      ((edits.map (·.span)).Nodup →
        ∀ others : List Edit, others.Perm edits → splice text others = splice text edits) := by
  refine ⟨fun output => ⟨?_, ?_⟩, fun distinct others reordered => splice_perm distinct reordered⟩
  · rintro rfl
    exact ⟨_, splices_splice text edits⟩
  · rintro ⟨steps, splices⟩
    exact splices.output_eq.symm

/-- Edits of three words, each on a line: one over a line feed, one inside that, an empty one at its
end, one that ends before it starts, one of the last word, and one that reaches past the text. -/
def overlappingEdits : List Edit :=
  [⟨⟨2, 6⟩, "X".toList⟩, ⟨⟨4, 5⟩, "inside".toList⟩, ⟨⟨6, 6⟩, "-".toList⟩,
    ⟨⟨7, 3⟩, "back".toList⟩, ⟨⟨8, 13⟩, "3".toList⟩, ⟨⟨10, 20⟩, "past".toList⟩]

/-- Of edits that overlap, three are made, in whatever order they come. -/
theorem splice_accounts_for_overlappingEdits :
    (overlappingEdits.map (·.span)).Nodup ∧
      splice "one\ntwo\nthree".toList overlappingEdits.reverse =
          splice "one\ntwo\nthree".toList overlappingEdits ∧
        ∃ steps,
          Splices "one\ntwo\nthree".toList overlappingEdits.reverse steps
            "onX\n-o\n3".toList := by
  have distinct : (overlappingEdits.map (·.span)).Nodup := by decide
  have inOrder : splice "one\ntwo\nthree".toList overlappingEdits = "onX\n-o\n3".toList := by
    rw [splice, List.mergeSort_of_pairwise (by decide)]
    decide
  have reversed := (splice_accounts "one\ntwo\nthree".toList overlappingEdits).2 distinct
    overlappingEdits.reverse (List.reverse_perm overlappingEdits)
  exact ⟨distinct, reversed,
    ((splice_accounts _ overlappingEdits.reverse).1 _).mp (reversed.trans inOrder)⟩

end Keying
end KeyedText
