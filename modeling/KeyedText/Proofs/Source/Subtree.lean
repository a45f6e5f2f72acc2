import KeyedText.Proofs.Site.Span
import Mathlib.Data.List.Pairwise

/-!
# Nodes of a tree

Two nodes of a tree lie side by side unless they are the same or one of them is inside the
other.  What holds text ends behind its parts, so the text of a node is found by its span:
no other node has its text there.
-/

namespace KeyedText
namespace Source

/-- Whether a node is in a tree. -/
inductive Node.Has : Node → Node → Prop
  /-- A tree is in itself. -/
  | self (node : Node) : node.Has node
  /-- What is in a part is in the tree. -/
  | inside {form : Form} {span : Span} {parts : List Node} {part node : Node}
      (isPart : part ∈ parts) (has : part.Has node) : (mk form span parts).Has node

namespace Node

theorem Has.trans
    {tree node inner : Node}
    (has : tree.Has node)
    (hasInner : node.Has inner) :
    tree.Has inner := by
  induction has with
  | self node => exact hasInner
  | inside isPart _ inductionHypothesis => exact .inside isPart (inductionHypothesis hasInner)

/-- A part of a node in a tree is in the tree. -/
theorem Has.part
    {tree node part : Node}
    (has : tree.Has node)
    (isPart : part ∈ node.parts) :
    tree.Has part := by
  obtain ⟨form, span, parts⟩ := node
  exact has.trans (.inside isPart (.self part))

theorem has_unwrapped
    (node : Node) :
    node.Has node.unwrapped := by
  induction node using Node.induction with
  | step form span parts inside =>
      by_cases wrapped : form = .parentheses ∧ parts.length = 1
      · obtain ⟨rfl, single⟩ := wrapped
        obtain ⟨inner, rfl⟩ := List.length_eq_one_iff.mp single
        rw [Node.unwrapped_parentheses]
        exact .inside List.mem_cons_self (inside inner List.mem_cons_self)
      · rw [Node.unwrapped_eq_self wrapped]
        exact .self _

/-- A condition holds at every node of a tree if it holds of all that the tree has. -/
theorem all_of_has
    {condition : Node → Prop}
    {tree : Node}
    (holds : ∀ node, tree.Has node → condition node) :
    tree.All condition := by
  induction tree using Node.induction with
  | step form span parts inside =>
      exact .mk (holds _ (.self _)) fun part isPart =>
        inside part isPart fun node has => holds node (.inside isPart has)

/-- A condition that holds at every node of a tree does so of what the tree has. -/
theorem All.subtree
    {condition : Node → Prop}
    {tree node : Node}
    (holds : tree.All condition)
    (has : tree.Has node) :
    node.All condition := by
  induction has with
  | self node => exact holds
  | inside isPart _ inductionHypothesis => exact inductionHypothesis (holds.inside _ isPart)

theorem All.of_has
    {condition : Node → Prop}
    {tree node : Node}
    (holds : tree.All condition)
    (has : tree.Has node) :
    condition node :=
  (holds.subtree has).here

section Laid

variable
    {length : Nat}
    {tree : Node}
    (laid : tree.All (Node.Laid length))

include laid

/-- What a tree has lies inside it. -/
theorem within_of_has
    {node : Node}
    (has : tree.Has node) :
    node.span.within tree.span := by
  induction has with
  | self node => exact Span.within_refl _
  | inside isPart _ inductionHypothesis =>
      exact (inductionHypothesis (laid.inside _ isPart)).trans (laid.here.within _ isPart)

/-- Two nodes of a tree are the same, or one is inside the other, or they lie side by side. -/
theorem eq_or_inside_or_apart
    {left right : Node}
    (hasLeft : tree.Has left)
    (hasRight : tree.Has right) :
    left = right ∨ (∃ part ∈ left.parts, part.Has right) ∨
      (∃ part ∈ right.parts, part.Has left) ∨ left.span.Apart right.span := by
  induction hasLeft with
  | self node =>
      cases hasRight with
      | self => exact Or.inl rfl
      | inside isPart has => exact Or.inr (Or.inl ⟨_, isPart, has⟩)
  | @inside form span parts leftPart left isLeft inLeft inductionHypothesis =>
      cases hasRight with
      | self => exact Or.inr (Or.inr (Or.inl ⟨leftPart, isLeft, inLeft⟩))
      | @inside _ _ _ rightPart _ isRight inRight =>
          by_cases same : leftPart = rightPart
          · subst same
            exact inductionHypothesis (laid.inside _ isLeft) inRight
          · have symmetric : Std.Symm fun left right : Node => left.span.Apart right.span :=
              ⟨fun _ _ => Span.Apart.symm⟩
            have apart := laid.here.apart.forall isLeft isRight same
            exact Or.inr (Or.inr (Or.inr (apart.of_within
              (within_of_has (laid.inside _ isLeft) inLeft)
              (within_of_has (laid.inside _ isRight) inRight))))

end Laid

/-! ## Nodes that hold text -/

section Placed

variable
    {source : List Char}
    {tree : Node}
    (placed : tree.All (Node.Placed source))

include placed

/-- What is inside a node that holds text ends in front of the end of its text, and starts behind
the start. -/
theorem inside_textSpan
    {outer inner part : Node}
    (hasOuter : tree.Has outer)
    (holdsText : outer.form.holdsText = true)
    (isPart : part ∈ outer.parts)
    (hasInner : part.Has inner) :
    (Site.textSpan source outer.form outer.span).start ≤ inner.span.start ∧
      inner.span.stop < (Site.textSpan source outer.form outer.span).stop := by
  have here := placed.of_has hasOuter
  have isWhole : outer.form.isElementText = false := here.toLaid.isElementText_eq_false isPart
  obtain ⟨form, span, parts⟩ := outer
  have inPart := within_of_has (placed.subtree (hasOuter.part isPart)).laid hasInner
  have partInside := here.within part isPart
  have closed := here.closed holdsText part isPart
  rw [Site.textSpan, isWhole, if_neg Bool.false_ne_true]
  exact ⟨Nat.le_trans partInside.1 inPart.1, Nat.lt_of_le_of_lt inPart.2 closed⟩

/-- No two nodes have their text at the same place. -/
theorem eq_of_textSpan_eq
    {left right : Node}
    (hasLeft : tree.Has left)
    (hasRight : tree.Has right)
    (leftHolds : left.form.holdsText = true)
    (rightHolds : right.form.holdsText = true)
    (same : Site.textSpan source left.form left.span = Site.textSpan source right.form right.span)
    (nonempty : (Site.textSpan source left.form left.span).start <
      (Site.textSpan source left.form left.span).stop) :
    left = right := by
  have leftWithin := Site.textSpan_within source left.form
    ((placed.of_has hasLeft).ordered leftHolds)
  have rightWithin := Site.textSpan_within source right.form
    ((placed.of_has hasRight).ordered rightHolds)
  rcases eq_or_inside_or_apart placed.laid hasLeft hasRight with
    equal | ⟨part, isPart, hasInner⟩ | ⟨part, isPart, hasInner⟩ | apart
  · exact equal
  · have ends := (inside_textSpan placed hasLeft leftHolds isPart hasInner).2
    rw [same] at ends
    exact absurd rightWithin.2 (Nat.not_le_of_lt ends)
  · have ends := (inside_textSpan placed hasRight rightHolds isPart hasInner).2
    rw [← same] at ends
    exact absurd leftWithin.2 (Nat.not_le_of_lt ends)
  · have textApart := apart.of_within leftWithin rightWithin
    rw [← same, Span.Apart, or_self, Span.before] at textApart
    exact absurd textApart (Nat.not_le_of_lt nonempty)

/-- Text beside that of a text between tags is beside its layout as well. -/
theorem apart_of_textSpan_apart
    {text other : Node}
    (hasText : tree.Has text)
    (hasOther : tree.Has other)
    (isText : text.form.isElementText = true)
    (otherHolds : other.form.holdsText = true)
    (nonempty : (Site.textSpan source text.form text.span).start <
      (Site.textSpan source text.form text.span).stop)
    (apart : (Site.textSpan source text.form text.span).Apart
      (Site.textSpan source other.form other.span)) :
    text.span.Apart (Site.textSpan source other.form other.span) := by
  have textHolds : text.form.holdsText = true := Form.holdsText_of_isElementText isText
  have textWithin := Site.textSpan_within source text.form
    ((placed.of_has hasText).ordered textHolds)
  have otherWithin := Site.textSpan_within source other.form
    ((placed.of_has hasOther).ordered otherHolds)
  rcases eq_or_inside_or_apart placed.laid hasText hasOther with
    rfl | ⟨part, isPart, -⟩ | ⟨part, isPart, hasInner⟩ | spansApart
  · rw [Span.Apart, or_self, Span.before] at apart
    exact absurd apart (Nat.not_le_of_lt nonempty)
  · rw [(placed.of_has hasText).leaf isText] at isPart
    cases isPart
  · -- What holds the text covers it, so its own text is not beside it.
    obtain ⟨startsBehind, endsBefore⟩ := inside_textSpan placed hasOther otherHolds isPart hasInner
    simp only [Span.Apart, Span.before, Span.within] at apart textWithin
    omega
  · exact spansApart.of_within (Span.within_refl _) otherWithin

end Placed

end Node
end Source

namespace Site

open Source

/-- A collected site is that of a node of the program. -/
theorem exists_node_of_mem_collect
    {interest : Interest}
    {source : List Char}
    {program : Node}
    {site : Site}
    (isSite : site ∈ collect interest source program) :
    ∃ node, program.Has node ∧
      ∃ situation, own? source situation node.form node.span node.parts = some site := by
  have inherited {form : Form} {span : Span} {parts : List Node}
      (hasHere : program.Has (.mk form span parts)) : ∀ part ∈ parts, program.Has part :=
    fun _ isPart => hasHere.part isPart
  obtain ⟨form, span, parts, situation, hasHere, own⟩ :=
    exists_own_of_mem_sites inherited (.self program) (List.mem_mergeSort.mp isSite)
  exact ⟨.mk form span parts, hasHere, situation, own⟩

end Site
end KeyedText
