import KeyedText.Proofs.Site.Sentence
import KeyedText.Proofs.Site.Visitor.Basic
import KeyedText.Proofs.Source.Subtree

/-!
# Marks that a visitor sets

A visitor marks the halves of sentences by where their strings start.  Spans
tell nodes apart, so a mark stands for one string: with the halves among
children marked, the marks in each child agree with whether it is a half.
-/

namespace KeyedText
namespace Site

open Source

variable
    {source : List Char}
    {visit : Visit}
    {role : Option SiteKind}

/-! ## Marks in a node -/

/-- A string that starts at one of the positions, looked at through braces and
parentheses. -/
inductive MarkedString (marks : List Nat) : Node → Prop
  | string {value : Option String} {span : Span} {parts : List Node}
      (isMarked : span.start ∈ marks) :
      MarkedString marks (.mk (.string value) span parts)
  | inside {form : Form} {span : Span} {inner : Node}
      (looks : form = .container ∨ form = .parentheses)
      (marked : MarkedString marks inner) :
      MarkedString marks (.mk form span [inner])

/-- Marks agree with what is known of a node: one half of a sentence is marked,
and no mark lies in any other node. -/
inductive Agrees (marks : List Nat) (role : Option SiteKind) (node : Node) : Bool → Prop
  | half
      (marked : MarkedString marks node)
      (ofBraces : role = none ∨ role = some .bracedLiteral) :
      Agrees marks role node true
  | whole
      (unmarked : ∀ mark ∈ marks, ¬Encloses node mark) :
      Agrees marks role node false

/-- More marks mark the same strings. -/
theorem MarkedString.mono
    {marks others : List Nat}
    {node : Node}
    (marked : MarkedString marks node)
    (kept : marks ⊆ others) :
    MarkedString others node := by
  induction marked with
  | string isMarked => exact .string (kept isMarked)
  | inside looks _ inductionHypothesis => exact .inside looks inductionHypothesis

/-- A string is found through any number of parentheses. -/
theorem MarkedString.of_unwrapped
    {marks : List Nat}
    {node : Node}
    {value : Option String}
    {span : Span}
    {parts : List Node}
    (isString : node.unwrapped = .mk (.string value) span parts)
    (isMarked : span.start ∈ marks) :
    MarkedString marks node := by
  induction node using Node.induction with
  | step form outer inners inductionHypothesis =>
      by_cases unwraps : form = .parentheses ∧ inners.length = 1
      · obtain ⟨rfl, isOne⟩ := unwraps
        obtain ⟨inner, rfl⟩ := List.length_eq_one_iff.mp isOne
        rw [Node.unwrapped_parentheses] at isString
        exact .inside (.inr rfl)
          (inductionHypothesis inner List.mem_cons_self isString)
      · rw [Node.unwrapped_eq_self unwraps] at isString
        cases isString
        exact .string isMarked

/-- Marks outside a node may be added. -/
theorem Agrees.mono
    {marks others : List Nat}
    {node : Node}
    {split : Bool}
    (agrees : Agrees marks role node split)
    (elsewhere : ∀ mark ∈ others, ¬Encloses node mark) :
    Agrees (marks ++ others) role node split := by
  cases agrees with
  | half marked ofBraces => exact .half (marked.mono (List.subset_append_left _ _)) ofBraces
  | whole unmarked =>
      refine .whole fun mark isMark => ?_
      exact (List.mem_append.mp isMark).elim (unmarked mark) (elsewhere mark)

/-- Where no mark lies in a node, none lies in a part of it. -/
theorem Agrees.part
    {length : Nat}
    {marks : List Nat}
    {form : Form}
    {span : Span}
    {parts : List Node}
    (laid : Node.Laid length (.mk form span parts))
    (unmarked : ∀ mark ∈ marks, ¬Encloses (.mk form span parts) mark)
    {part : Node}
    (isPart : part ∈ parts) :
    Agrees marks role part false := by
  refine .whole fun mark isMark covered => unmarked mark isMark ?_
  obtain ⟨starts, stops⟩ := laid.within part isPart
  exact ⟨Nat.le_trans starts covered.1, Nat.lt_of_lt_of_le covered.2 stops⟩

/-- Only strings, braces and parentheses can be halves of sentences. -/
theorem Agrees.unmarked
    {marks : List Nat}
    {node : Node}
    {split : Bool}
    (agrees : Agrees marks role node split)
    (isOther : ∀ value, node.form ≠ .string value)
    (notAround : node.form ≠ .container ∧ node.form ≠ .parentheses) :
    split = false ∧ ∀ mark ∈ marks, ¬Encloses node mark := by
  cases agrees with
  | half marked ofBraces =>
      cases marked with
      | string isMarked => exact absurd rfl (isOther _)
      | inside looks _ => exact absurd looks (by simpa using notAround)
  | whole unmarked => exact ⟨rfl, unmarked⟩

/-! ## Marks among children -/

/-- A braced string is marked by the position where it starts, which it covers. -/
theorem exists_start_of_bracedString
    {child : Node}
    (placed : child.All (Node.Placed source))
    (braced : BracedString child) :
    ∃ start, stringStart? child = some start ∧ Encloses child start ∧
      ∀ marks : List Nat, start ∈ marks → MarkedString marks child := by
  obtain ⟨span, inner, value, isString⟩ := braced
  have isInner : inner ∈ [inner] := List.mem_cons_self
  have hasString := Node.has_unwrapped inner
  have shows := (placed.inside inner isInner).of_has hasString |>.shows
  have inBraces := Node.within_of_has placed.laid (.inside isInner hasString)
  cases unwraps : inner.unwrapped with
  | mk form stringSpan parts =>
      rw [unwraps] at isString shows inBraces
      rw [Node.form_mk] at isString
      subst isString
      rw [Node.shows, Node.form_mk, decide_eq_true_eq] at shows
      refine ⟨stringSpan.start, ?_, ⟨inBraces.1, Nat.lt_of_lt_of_le shows inBraces.2⟩, ?_⟩
      · simp only [stringStart?, Node.literal?, unwraps, Option.map_some]
      · intro marks isMark
        exact .inside (.inl rfl) (.of_unwrapped unwraps isMark)

/-- The marks among children are the starts of strings in children that are
halves of sentences. -/
theorem mem_halfStarts_iff
    {children : List Node}
    {start : Nat} :
    start ∈ halfStarts children ↔
      ∃ index child, index ∈ splitChildren children ∧ children[index]? = some child ∧
        stringStart? child = some start := by
  simp only [halfStarts, List.mem_filterMap, Option.bind_eq_some_iff]
  exact ⟨fun ⟨index, isHalf, child, isChild, starts⟩ => ⟨index, child, isHalf, isChild, starts⟩,
    fun ⟨index, child, isHalf, isChild, starts⟩ => ⟨index, isHalf, child, isChild, starts⟩⟩

/-- A child that is one half of a sentence is a braced string. -/
theorem bracedString_of_mem_splitChildren
    {children : List Node}
    {index : Nat}
    {child : Node}
    (isHalf : index ∈ splitChildren children)
    (isChild : children[index]? = some child) :
    BracedString child := by
  obtain ⟨before, half, after, rfl, rfl, braced, -⟩ := exists_cut_of_mem_splitChildren isHalf
  have atHalf : (before.reverse ++ half :: after)[before.length]? = some half := by
    rw [← List.length_reverse, List.getElem?_append_right (Nat.le_refl _), Nat.sub_self]
    rfl
  cases Option.some.inj (atHalf.symm.trans isChild)
  exact braced

section Children

variable
    {children : List Node}
    (placed : ∀ child ∈ children, child.All (Node.Placed source))

include placed

/-- A mark among children is covered by the child with the string. -/
theorem encloses_of_mem_halfStarts
    {mark : Nat}
    (isMark : mark ∈ halfStarts children) :
    ∃ index child, index ∈ splitChildren children ∧ children[index]? = some child ∧
      Encloses child mark := by
  obtain ⟨index, child, isHalf, isChild, starts⟩ := mem_halfStarts_iff.mp isMark
  obtain ⟨start, isStart, covered, -⟩ := exists_start_of_bracedString
    (placed child (List.mem_of_getElem? isChild)) (bracedString_of_mem_splitChildren isHalf isChild)
  cases isStart.symm.trans starts
  exact ⟨index, child, isHalf, isChild, covered⟩

/-- Marking the halves among children changes nothing else. -/
theorem givesBack_mark (visit : Visit) :
    GivesBack visit (visit.mark children)
      (fun mark => ∃ child ∈ children, Encloses child mark) [] := by
  refine ⟨rfl, rfl, rfl, rfl, ⟨halfStarts children, rfl, fun mark isMark => ?_⟩,
    (List.append_nil _).symm⟩
  obtain ⟨_, child, _, isChild, covered⟩ := encloses_of_mem_halfStarts placed isMark
  exact ⟨child, List.mem_of_getElem? isChild, covered⟩

/-- With the halves among children marked, the marks agree with each child. -/
theorem agrees_of_mark
    (inOrder : children.Pairwise fun left right => left.span.before right.span)
    (unmarked : ∀ child ∈ children, ∀ mark ∈ visit.halves, ¬Encloses child mark)
    {index : Nat}
    {child : Node}
    (isChild : children[index]? = some child) :
    Agrees (visit.mark children).halves none child ((splitChildren children).contains index) := by
  have memChild := List.mem_of_getElem? isChild
  by_cases isHalf : index ∈ splitChildren children
  · rw [List.contains_iff_mem.mpr isHalf]
    obtain ⟨start, isStart, -, isMarked⟩ := exists_start_of_bracedString (placed child memChild)
      (bracedString_of_mem_splitChildren isHalf isChild)
    refine .half (isMarked _ (List.mem_append_right _ ?_)) (.inl rfl)
    exact mem_halfStarts_iff.mpr ⟨index, child, isHalf, isChild, isStart⟩
  · rw [Bool.eq_false_iff.mpr (mt List.contains_iff_mem.mp isHalf)]
    refine .whole fun mark isMark covered => ?_
    rcases List.mem_append.mp isMark with earlier | new
    · exact unmarked child memChild mark earlier covered
    · -- The mark lies in another child, and children do not overlap.
      obtain ⟨place, other, placeIsHalf, isOther, otherCovers⟩ :=
        encloses_of_mem_halfStarts placed new
      obtain ⟨inBounds, rfl⟩ := List.getElem?_eq_some_iff.mp isChild
      obtain ⟨otherInBounds, rfl⟩ := List.getElem?_eq_some_iff.mp isOther
      have pairs := List.pairwise_iff_getElem.mp inOrder
      rcases Nat.lt_trichotomy index place with first | rfl | second
      · have before := pairs index place inBounds otherInBounds first
        exact absurd (Nat.lt_of_lt_of_le covered.2 before) (Nat.not_lt_of_le otherCovers.1)
      · exact isHalf placeIsHalf
      · have before := pairs place index otherInBounds inBounds second
        exact absurd (Nat.lt_of_lt_of_le otherCovers.2 before) (Nat.not_lt_of_le covered.1)

end Children

end Site
end KeyedText
