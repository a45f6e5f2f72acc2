import KeyedText.Proofs.Source.Tree
import KeyedText.Proofs.Text.Spacing
import KeyedText.Site.Situation
import Mathlib.Data.List.Forall2

/-!
# Halves of sentences

A child is one half of a sentence around an element if it is a braced string
and, on one of its sides, the next two children that are not blank are an
element and another braced string.  The indices of the children do not matter
for this, nor do blank children.
-/

namespace KeyedText
namespace Site

open Source

/-! ## Sides of a child -/

/-- Whether the first two children that are not blank, on one side of a child,
are an element and a braced string. -/
def flanked (side : List Node) : Bool :=
  match side.filter (!isBlankText ·) with
  | middle :: far :: _ => isElement middle && isBracedLiteral far
  | _ => false

/-- The same of children with their indices, none of which is blank. -/
def flankedBy : List (Node × Nat) → Bool
  | middle :: far :: _ => isElement middle.1 && isBracedLiteral far.1
  | _ => false

/-- Only the next two children count. -/
theorem flankedBy_append
    {side : List (Node × Nat)}
    (longEnough : 2 ≤ side.length)
    (farther : List (Node × Nat)) :
    flankedBy (side ++ farther) = flankedBy side := by
  match side with
  | _ :: _ :: _ => rfl

theorem isBlankText_eq_false_of_isBracedLiteral
    {node : Node}
    (braced : isBracedLiteral node = true) :
    isBlankText node = false := by
  unfold isBracedLiteral at braced
  split at braced
  · rfl
  · cases braced

/-- The children that are not blank, with their indices counted from a first
one. -/
def shown (first : Nat) (children : List Node) : List (Node × Nat) :=
  (children.zipIdx first).filter fun (child, _) => !isBlankText child

/-- The children that are shown are those that are not blank. -/
theorem map_fst_shown
    (first : Nat)
    (children : List Node) :
    (shown first children).map Prod.fst = children.filter (!isBlankText ·) := by
  have unnumbered := List.zipIdx_map_fst first children
  nth_rewrite 2 [← unnumbered]
  rw [List.filter_map]
  rfl

theorem flankedBy_eq_flanked
    {children : List (Node × Nat)}
    {side : List Node}
    (same : children.map Prod.fst = side.filter (!isBlankText ·)) :
    flankedBy children = flanked side := by
  rw [flanked, ← same]
  match children with
  | [] => rfl
  | [_] => rfl
  | _ :: _ :: _ => rfl

/-! ## Numbered children -/

/-- Halves are among the children. -/
theorem mem_map_snd_of_mem_splitAround
    {children : List (Node × Nat)}
    {index : Nat}
    (member : index ∈ splitAround children) :
    index ∈ children.map Prod.snd := by
  fun_induction splitAround children with
  | case1 before middle after rest here inductionHypothesis =>
      rcases List.mem_append.mp member with inWindow | later
      · simp only [here] at inWindow
        split at inWindow
        · simp only [List.mem_cons, List.not_mem_nil, or_false] at inWindow
          rcases inWindow with rfl | rfl <;> simp
        · cases inWindow
      · exact List.mem_cons_of_mem _ (inductionHypothesis later)
  | case2 => cases member

/-- Halves are found in the first three children or behind the first. -/
theorem mem_splitAround_cons_iff
    {first second third : Node × Nat}
    {others : List (Node × Nat)}
    {index : Nat} :
    index ∈ splitAround (first :: second :: third :: others) ↔
      (isBracedLiteral first.1 = true ∧ isElement second.1 = true ∧
          isBracedLiteral third.1 = true ∧ (index = first.2 ∨ index = third.2)) ∨
        index ∈ splitAround (second :: third :: others) := by
  rw [splitAround, List.mem_append]
  refine or_congr ?_ Iff.rfl
  split
  · next window =>
      simp only [Bool.and_eq_true] at window
      simp [window]
  · next noWindow =>
      simp only [Bool.and_eq_true] at noWindow
      simp only [List.not_mem_nil, false_iff]
      rintro ⟨before, middle, after, _⟩
      exact noWindow ⟨⟨before, middle⟩, after⟩

/-- Among children with different indices, those that are braced strings with an
element and another braced string on one side are the halves. -/
theorem mem_splitAround_iff
    {front back : List (Node × Nat)}
    {child : Node}
    {index : Nat}
    (distinct : ((front ++ (child, index) :: back).map Prod.snd).Nodup) :
    index ∈ splitAround (front ++ (child, index) :: back) ↔
      isBracedLiteral child = true ∧
        (flankedBy front.reverse = true ∨ flankedBy back = true) := by
  induction front with
  | nil =>
      obtain ⟨notLater, -⟩ := List.nodup_cons.mp distinct
      match back with
      | [] => simp [splitAround, flankedBy]
      | [_] => simp [splitAround, flankedBy]
      | middle :: far :: rest =>
          have notInRest := mt mem_map_snd_of_mem_splitAround notLater
          rw [List.nil_append, mem_splitAround_cons_iff, or_iff_left notInRest]
          simp [flankedBy]
  | cons first rest inductionHypothesis =>
      rw [List.cons_append, List.map_cons, List.nodup_cons] at distinct
      obtain ⟨isNew, restDistinct⟩ := distinct
      have inRest := inductionHypothesis restDistinct
      have notFirst : index ≠ first.2 := by
        rintro rfl
        exact isNew (by simp)
      match rest with
      | [] =>
          match back with
          | [] => simp [splitAround, flankedBy]
          | after :: more =>
              have notAfter : index ≠ after.2 := by
                rintro rfl
                simp at restDistinct
              simp only [List.nil_append, List.cons_append] at inRest ⊢
              rw [mem_splitAround_cons_iff, inRest]
              simp [flankedBy, notFirst, notAfter]
      | [second] =>
          simp only [List.nil_append, List.cons_append] at inRest ⊢
          rw [mem_splitAround_cons_iff, inRest]
          simp [flankedBy, notFirst]
          tauto
      | second :: third :: more =>
          have notThird : index ≠ third.2 := by
            rintro rfl
            simp at restDistinct
          have sameSide :
              flankedBy (first :: second :: third :: more).reverse =
                flankedBy (second :: third :: more).reverse := by
            rw [List.reverse_cons, flankedBy_append (by simp)]
          simp only [List.cons_append] at inRest ⊢
          rw [mem_splitAround_cons_iff, inRest, sameSide]
          simp [notFirst, notThird]

/-! ## Children in general -/

theorem nodup_map_snd_shown
    (first : Nat)
    (children : List Node) :
    ((shown first children).map Prod.snd).Nodup := by
  have indices : ((children.zipIdx first).map Prod.snd).Nodup := by
    rw [List.zipIdx_map_snd]
    exact List.nodup_range'
  exact indices.sublist (List.filter_sublist.map _)

/-- A child that is shown stands between those in front and those behind. -/
theorem shown_append_cons
    {child : Node}
    (visible : isBlankText child = false)
    (front back : List Node) :
    shown 0 (front ++ child :: back) =
      shown 0 front ++ (child, front.length) :: shown (front.length + 1) back := by
  simp [shown, List.zipIdx_append, List.filter_append, visible]

theorem snd_ne_of_mem_shown
    (before after : List Node)
    {child : Node}
    (blank : isBlankText child = true) :
    before.length ∉ (shown 0 (before ++ child :: after)).map Prod.snd := by
  intro member
  obtain ⟨⟨found, index⟩, inShown, rfl⟩ := List.mem_map.mp member
  obtain ⟨numbered, visible⟩ := List.mem_filter.mp inShown
  have atIndex := List.mk_mem_zipIdx_iff_getElem?.mp numbered
  rw [List.getElem?_append_right (Nat.le_refl _), Nat.sub_self] at atIndex
  cases atIndex
  simp [blank] at visible

/-- A child is one half of a sentence exactly if it is a braced string and one of
its sides has an element and another braced string next to it. -/
theorem contains_splitChildren
    (before : List Node)
    (child : Node)
    (after : List Node) :
    (splitChildren (before.reverse ++ child :: after)).contains before.length =
      (isBracedLiteral child && (flanked before || flanked after)) := by
  rw [Bool.eq_iff_iff, List.contains_iff_mem, Bool.and_eq_true, Bool.or_eq_true]
  have isShown : splitChildren (before.reverse ++ child :: after) =
      splitAround (shown 0 (before.reverse ++ child :: after)) := rfl
  rw [isShown, ← List.length_reverse]
  cases blank : isBlankText child with
  | true =>
      have notBraced : ¬isBracedLiteral child = true := fun braced =>
        absurd blank (by simp [isBlankText_eq_false_of_isBracedLiteral braced])
      have notHalf := mt mem_map_snd_of_mem_splitAround
        (snd_ne_of_mem_shown before.reverse after blank)
      exact iff_of_false notHalf fun half => notBraced half.1
  | false =>
      have distinct := nodup_map_snd_shown 0 (before.reverse ++ child :: after)
      rw [shown_append_cons blank] at distinct ⊢
      have left : flankedBy (shown 0 before.reverse).reverse = flanked before := by
        apply flankedBy_eq_flanked
        rw [List.map_reverse, map_fst_shown, List.filter_reverse, List.reverse_reverse]
      have right :
          flankedBy (shown (before.reverse.length + 1) after) = flanked after :=
        flankedBy_eq_flanked (map_fst_shown _ after)
      rw [mem_splitAround_iff distinct, left, right]

/-! ## Sentences read off the children -/

/-- Braces around a string, looked at through parentheses. -/
inductive BracedString : Node → Prop
  | intro (span : Span) (inner : Node) (value : Option String)
      (isString : inner.unwrapped.form = .string value) :
      BracedString (.mk .container span [inner])

/-- Text between tags that holds nothing but blanks. -/
inductive BlankText : Node → Prop
  | intro (value : String) (span : Span) (parts : List Node)
      (blank : ∀ character ∈ value.toList, Character.isBlank character = true) :
      BlankText (.mk (.elementText value) span parts)

/-- The indices of two children that are the halves of a sentence: braced strings
with an element between them, and nothing but blank text besides. -/
inductive Halves : List Node → Nat → Nat → Prop
  | around (front gap behind back : List Node) (first middle last : Node) (tag : String)
      (firstBraced : BracedString first)
      (gapBlank : ∀ child ∈ gap, BlankText child)
      (isElement : middle.form = .element tag)
      (behindBlank : ∀ child ∈ behind, BlankText child)
      (lastBraced : BracedString last) :
      Halves (front ++ first :: (gap ++ middle :: (behind ++ last :: back)))
        front.length (front.length + gap.length + behind.length + 2)

/-- Whether a child, given by its index, is one half of a sentence. -/
def IsHalfAmong (children : List Node) (index : Nat) : Prop :=
  ∃ other, Halves children index other ∨ Halves children other index

theorem bracedString_iff
    {node : Node} :
    BracedString node ↔
      ∃ span inner value, node = .mk .container span [inner] ∧
        inner.unwrapped.form = .string value :=
  ⟨fun ⟨span, inner, value, isString⟩ => ⟨span, inner, value, rfl, isString⟩,
    fun ⟨span, inner, value, isNode, isString⟩ => isNode ▸ .intro span inner value isString⟩

/-- Braces around a string are found by their form. -/
theorem isBracedLiteral_iff
    {node : Node} :
    isBracedLiteral node = true ↔ BracedString node := by
  constructor
  · intro braced
    unfold isBracedLiteral Node.literal? at braced
    split at braced
    · next span inner =>
        split at braced
        · next value stringSpan parts isString =>
            exact .intro span inner value (by rw [isString, Node.form_mk])
        · cases braced
    · cases braced
  · rintro ⟨span, inner, value, isString⟩
    unfold isBracedLiteral Node.literal?
    dsimp only
    cases isNode : inner.unwrapped with
    | mk form stringSpan parts =>
        rw [isNode, Node.form_mk] at isString
        rw [isString]
        rfl

theorem isElement_iff
    {node : Node} :
    isElement node = true ↔ ∃ tag, node.form = .element tag := by
  unfold isElement
  split
  · next tag form => exact iff_of_true rfl ⟨tag, form⟩
  · next other => exact iff_of_false nofun fun ⟨tag, form⟩ => other tag form

theorem isBlankText_iff
    {node : Node} :
    isBlankText node = true ↔ BlankText node := by
  obtain ⟨form, span, parts⟩ := node
  constructor
  · intro blank
    unfold isBlankText at blank
    split at blank
    · next value isText =>
        rw [Node.form_mk] at isText
        rw [List.isEmpty_iff, Text.trimmed, Text.trimmedBy_eq_nil_iff] at blank
        rw [isText]
        exact .intro value span parts blank
    · cases blank
  · rintro ⟨value, _, _, blank⟩
    unfold isBlankText
    rw [Node.form_mk]
    dsimp only
    rw [List.isEmpty_iff, Text.trimmed, Text.trimmedBy_eq_nil_iff]
    exact blank

/-- A side starts with an element and, behind it, a braced string, but for blank
text. -/
theorem flanked_iff
    {side : List Node} :
    flanked side = true ↔
      ∃ gap middle behind far back tag,
        side = gap ++ middle :: (behind ++ far :: back) ∧
          (∀ child ∈ gap, BlankText child) ∧ middle.form = .element tag ∧
            (∀ child ∈ behind, BlankText child) ∧ BracedString far := by
  constructor
  · intro isFlanked
    unfold flanked at isFlanked
    split at isFlanked
    · next middle far rest areShown =>
        obtain ⟨gap, afterMiddle, rfl, gapHidden, -, laterShown⟩ :=
          List.filter_eq_cons_iff.mp areShown
        obtain ⟨behind, back, rfl, behindHidden, -, -⟩ := List.filter_eq_cons_iff.mp laterShown
        obtain ⟨element, braced⟩ := Bool.and_eq_true_iff.mp isFlanked
        obtain ⟨tag, isTag⟩ := isElement_iff.mp element
        refine ⟨gap, middle, behind, far, back, tag, rfl, fun child isChild => ?_, isTag,
          fun child isChild => ?_, isBracedLiteral_iff.mp braced⟩
        · exact isBlankText_iff.mp (by simpa using gapHidden child isChild)
        · exact isBlankText_iff.mp (by simpa using behindHidden child isChild)
    · cases isFlanked
  · rintro ⟨gap, middle, behind, far, back, tag, rfl, gapBlank, isTag, behindBlank, braced⟩
    have hidden : ∀ {children : List Node}, (∀ child ∈ children, BlankText child) →
        children.filter (!isBlankText ·) = [] := by
      intro children areBlank
      refine List.filter_eq_nil_iff.mpr fun child isChild => ?_
      simpa using isBlankText_iff.mpr (areBlank child isChild)
    have isBraced := isBracedLiteral_iff.mpr braced
    have middleShown : isBlankText middle = false := by
      rw [isBlankText, isTag]
    have farShown := isBlankText_eq_false_of_isBracedLiteral isBraced
    have isElement : isElement middle = true := isElement_iff.mpr ⟨tag, isTag⟩
    rw [flanked, List.filter_append, hidden gapBlank, List.nil_append,
      List.filter_cons_of_pos (by rw [middleShown]; rfl), List.filter_append, hidden behindBlank,
      List.nil_append, List.filter_cons_of_pos (by rw [farShown]; rfl)]
    dsimp only
    rw [isElement, isBraced]
    rfl

theorem lt_length_of_mem_splitChildren
    {children : List Node}
    {index : Nat}
    (isHalf : index ∈ splitChildren children) :
    index < children.length := by
  obtain ⟨⟨child, place⟩, isShown, rfl⟩ := List.mem_map.mp (mem_map_snd_of_mem_splitAround isHalf)
  have isChild := List.mk_mem_zipIdx_iff_getElem?.mp (List.mem_filter.mp isShown).1
  exact (List.getElem?_eq_some_iff.mp isChild).1

/-- A half is a braced string with an element and another braced string on a side. -/
theorem exists_cut_of_mem_splitChildren
    {children : List Node}
    {index : Nat}
    (isHalf : index ∈ splitChildren children) :
    ∃ before child after,
      children = before.reverse ++ child :: after ∧ before.length = index ∧
        BracedString child ∧ (flanked before = true ∨ flanked after = true) := by
  have inBounds := lt_length_of_mem_splitChildren isHalf
  have cut : children =
      (children.take index).reverse.reverse ++ children[index] :: children.drop (index + 1) := by
    rw [List.reverse_reverse, ← List.drop_eq_getElem_cons inBounds, List.take_append_drop]
  have length : (children.take index).reverse.length = index := by
    rw [List.length_reverse, List.length_take_of_le (Nat.le_of_lt inBounds)]
  have told := contains_splitChildren (children.take index).reverse children[index]
    (children.drop (index + 1))
  rw [← cut, length, List.contains_iff_mem.mpr isHalf] at told
  obtain ⟨braced, sides⟩ := Bool.and_eq_true_iff.mp told.symm
  exact ⟨_, _, _, cut, length, isBracedLiteral_iff.mp braced, (Bool.or_eq_true _ _).mp sides⟩

/-- The halves that are told by numbers are those that the children show. -/
theorem mem_splitChildren_iff
    {children : List Node}
    {index : Nat} :
    index ∈ splitChildren children ↔ IsHalfAmong children index := by
  constructor
  · intro isHalf
    obtain ⟨before, child, after, rfl, rfl, isBraced, inFront | atBack⟩ :=
      exists_cut_of_mem_splitChildren isHalf
    · obtain ⟨gap, middle, behind, far, back, tag, rfl, gapBlank, isTag, behindBlank,
        farBraced⟩ := flanked_iff.mp inFront
      have halves := Halves.around back.reverse behind.reverse gap.reverse after far middle child
        tag farBraced (by simpa using behindBlank) isTag (by simpa using gapBlank) isBraced
      have length : back.reverse.length + behind.reverse.length + gap.reverse.length + 2 =
          (gap ++ middle :: (behind ++ far :: back)).length := by
        simp
        omega
      rw [length] at halves
      exact ⟨back.reverse.length, .inr (by simpa using halves)⟩
    · obtain ⟨gap, middle, behind, far, back, tag, rfl, gapBlank, isTag, behindBlank,
        farBraced⟩ := flanked_iff.mp atBack
      have halves := Halves.around before.reverse gap behind back child middle far tag isBraced
        gapBlank isTag behindBlank farBraced
      rw [List.length_reverse] at halves
      exact ⟨_, .inl halves⟩
  · rintro ⟨other,
      ⟨front, gap, behind, back, first, middle, last, tag, firstBraced, gapBlank, isTag,
        behindBlank, lastBraced⟩ |
      ⟨front, gap, behind, back, first, middle, last, tag, firstBraced, gapBlank, isTag,
        behindBlank, lastBraced⟩⟩
    · have told := contains_splitChildren front.reverse first
        (gap ++ middle :: (behind ++ last :: back))
      rw [isBracedLiteral_iff.mpr firstBraced,
        flanked_iff.mpr ⟨gap, middle, behind, last, back, tag, rfl, gapBlank, isTag, behindBlank,
          lastBraced⟩,
        Bool.or_true, Bool.and_true, List.reverse_reverse, List.length_reverse] at told
      exact List.contains_iff_mem.mp told
    · have told := contains_splitChildren
        (behind.reverse ++ middle :: (gap.reverse ++ first :: front.reverse)) last back
      rw [isBracedLiteral_iff.mpr lastBraced,
        flanked_iff.mpr ⟨behind.reverse, middle, gap.reverse, first, front.reverse, tag, rfl,
          by simpa using behindBlank, isTag, by simpa using gapBlank, firstBraced⟩,
        Bool.true_or, Bool.and_true] at told
      have cut : (behind.reverse ++ middle :: (gap.reverse ++ first :: front.reverse)).reverse ++
          last :: back = front ++ first :: (gap ++ middle :: (behind ++ last :: back)) := by
        simp
      have length : (behind.reverse ++ middle :: (gap.reverse ++ first :: front.reverse)).length =
          front.length + gap.length + behind.length + 2 := by
        simp
        omega
      rw [cut, length] at told
      exact List.contains_iff_mem.mp told

/-! ## Children that are replaced -/

/-- Whether one child can stand for another one at an index without a change to
the halves of sentences: a braced string may be lost, unless it is such a half. -/
structure StandsFor
    (halves : List Nat)
    (index : Nat)
    (other child : Node) : Prop where
  /-- The new child is blank like the old one. -/
  blank : isBlankText other = isBlankText child
  /-- The new child is an element if the old one is. -/
  element : isElement other = isElement child
  /-- The new child is a braced string only if the old one is. -/
  braced : isBracedLiteral other = true → isBracedLiteral child = true
  /-- A half of a sentence stays a braced string. -/
  half : index ∈ halves → isBracedLiteral child = true → isBracedLiteral other = true

theorem splitAround_congr
    {halves : List Nat}
    {children others : List (Node × Nat)}
    (alike : List.Forall₂
      (fun child other => other.2 = child.2 ∧ StandsFor halves child.2 other.1 child.1)
      children others)
    (allHalves : ∀ index ∈ splitAround children, index ∈ halves) :
    splitAround others = splitAround children := by
  induction children using splitAround.induct generalizing others with
  | case1 before middle after rest inductionHypothesis =>
      obtain ⟨newBefore, _, ⟨sameIndex, forBefore⟩, fromMiddle, rfl⟩ :=
        List.forall₂_cons_left_iff.mp alike
      have ofMiddle := fromMiddle
      obtain ⟨newMiddle, _, ⟨-, forMiddle⟩, fromAfter, rfl⟩ :=
        List.forall₂_cons_left_iff.mp fromMiddle
      obtain ⟨newAfter, newRest, ⟨sameLaterIndex, forAfter⟩, -, rfl⟩ :=
        List.forall₂_cons_left_iff.mp fromAfter
      have later := inductionHypothesis ofMiddle fun index member =>
        allHalves index (by rw [splitAround]; exact List.mem_append_right _ member)
      have sameWindow :
          (isBracedLiteral newBefore.1 && isElement newMiddle.1 &&
              isBracedLiteral newAfter.1) =
            (isBracedLiteral before.1 && isElement middle.1 && isBracedLiteral after.1) := by
        rw [Bool.eq_iff_iff, forMiddle.element]
        simp only [Bool.and_eq_true]
        constructor
        · rintro ⟨⟨braced, element⟩, laterBraced⟩
          exact ⟨⟨forBefore.braced braced, element⟩, forAfter.braced laterBraced⟩
        · -- The strings of a window are halves of a sentence, so they stay.
          rintro ⟨⟨braced, element⟩, laterBraced⟩
          have halves : before.2 ∈ halves ∧ after.2 ∈ halves := by
            constructor
            · exact allHalves _ (by simp [splitAround, braced, element, laterBraced])
            · exact allHalves _ (by simp [splitAround, braced, element, laterBraced])
          exact ⟨⟨forBefore.half halves.1 braced, element⟩,
            forAfter.half halves.2 laterBraced⟩
      rw [splitAround, splitAround, later, sameWindow, sameIndex, sameLaterIndex]
  | case2 children short =>
      match children, others, alike, short with
      | [], _, .nil, _ => rfl
      | [_], _, .cons _ .nil, _ => rfl
      | [_, _], _, .cons _ (.cons _ .nil), _ => rfl
      | _ :: _ :: _ :: _, _, _, short => exact (short _ _ _ _ rfl).elim

theorem forall₂_shown
    {halves : List Nat}
    (first : Nat)
    {children others : List Node}
    (sameLength : others.length = children.length)
    (standsFor : ∀ index child other,
      children[index]? = some child → others[index]? = some other →
        StandsFor halves (first + index) other child) :
    List.Forall₂
      (fun child other => other.2 = child.2 ∧ StandsFor halves child.2 other.1 child.1)
      (shown first children) (shown first others) := by
  induction children generalizing first others with
  | nil =>
      rw [List.eq_nil_of_length_eq_zero sameLength]
      exact .nil
  | cons child rest inductionHypothesis =>
      match others with
      | other :: otherRest =>
          have here := standsFor 0 child other rfl rfl
          have restLength : otherRest.length = rest.length := by simpa using sameLength
          have standsLater : ∀ index child other,
              rest[index]? = some child → otherRest[index]? = some other →
                StandsFor halves (first + 1 + index) other child := by
            intro index child other atIndex otherAtIndex
            have shifted : first + 1 + index = first + (index + 1) := by omega
            rw [shifted]
            exact standsFor (index + 1) child other atIndex otherAtIndex
          have later := inductionHypothesis (first + 1) restLength standsLater
          cases blank : isBlankText child with
          | true => simpa [shown, blank, here.blank] using later
          | false => simpa [shown, blank, here.blank] using ⟨here, later⟩

/-- Children that stand for others have the same halves of sentences among
them. -/
theorem splitChildren_congr
    {children others : List Node}
    (sameLength : others.length = children.length)
    (standsFor : ∀ index child other,
      children[index]? = some child → others[index]? = some other →
        StandsFor (splitChildren children) index other child) :
    splitChildren others = splitChildren children := by
  have alike := forall₂_shown 0 sameLength fun index child other => by
    rw [Nat.zero_add]
    exact standsFor index child other
  exact splitAround_congr alike fun _ member => member

end Site
end KeyedText
