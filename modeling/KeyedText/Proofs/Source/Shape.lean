import KeyedText.Proofs.Source.Tree
import KeyedText.Text.Runs

/-!
# Shapes

The shape of a tree is what remains of it without positions and without the
layout between tags.  Two source texts that differ in their layout only can have
trees of one shape.
-/

namespace KeyedText
namespace Source

/-- A form without the positions that it carries. -/
def Form.shape : Form → Form
  | .object _ => .object none
  | .array _ => .array none
  | other => other

theorem Form.eq_sequence_of_shape
    {form : Form}
    (same : form.shape = Form.sequence.shape) :
    form = .sequence := by
  cases form <;> cases same
  rfl

namespace Node

mutual

/-- A tree without positions, with the layout between its tags. -/
def bare : Node → Node
  | mk form _ parts => mk form.shape ⟨0, 0⟩ (bareAll parts)
termination_by structural node => node

/-- Several trees without positions. -/
def bareAll : List Node → List Node
  | [] => []
  | node :: rest => bare node :: bareAll rest
termination_by structural nodes => nodes

end

@[simp] theorem form_bare (node : Node) : node.bare.form = node.form.shape := by
  obtain ⟨form, span, parts⟩ := node
  rfl

/-- Whether a node is text between tags that holds layout only. -/
def isLayout : Node → Bool
  | mk (.elementText value) _ [] => value.toList.all Character.isLayout
  | _ => false

/-- The parts of a node of a form, without the layout between its children. -/
def arranged : Form → List Node → List Node
  | .element _, opening :: children => opening :: children.filter (!·.isLayout)
  | .fragment, children => children.filter (!·.isLayout)
  | _, parts => parts

mutual

/-- The shape of a tree. -/
def shape : Node → Node
  | mk form _ parts => mk form.shape ⟨0, 0⟩ (arranged form (shapes parts))
termination_by structural node => node

/-- The shapes of several trees. -/
def shapes : List Node → List Node
  | [] => []
  | node :: rest => shape node :: shapes rest
termination_by structural nodes => nodes

end

theorem shapes_eq_map (nodes : List Node) : shapes nodes = nodes.map shape := by
  induction nodes with
  | nil => rfl
  | cons node rest inductionHypothesis =>
      rw [shapes, List.map_cons, inductionHypothesis]

theorem shape_mk
    (form : Form)
    (span : Span)
    (parts : List Node) :
    (mk form span parts).shape =
      mk form.shape ⟨0, 0⟩ (arranged form (parts.map shape)) := by
  rw [shape, shapes_eq_map]

@[simp] theorem form_shape (node : Node) : node.shape.form = node.form.shape := by
  obtain ⟨form, span, parts⟩ := node
  rw [shape_mk]
  rfl

@[simp] theorem isLayout_shape (node : Node) : node.shape.isLayout = node.isLayout := by
  obtain ⟨form, span, parts⟩ := node
  cases form <;> cases parts <;> simp [shape_mk, Form.shape, arranged, isLayout]

/-- Parentheses can be looked through before or after positions are erased. -/
theorem unwrapped_shape (node : Node) : node.shape.unwrapped = node.unwrapped.shape := by
  induction node using Node.induction with
  | step form span parts inside =>
      by_cases wraps : form = .parentheses ∧ parts.length = 1
      · obtain ⟨rfl, single⟩ := wraps
        obtain ⟨inner, rfl⟩ := List.length_eq_one_iff.mp single
        have shaped : (mk .parentheses span [inner]).shape =
            mk .parentheses ⟨0, 0⟩ [inner.shape] := shape_mk _ _ _
        rw [shaped, unwrapped_parentheses, unwrapped_parentheses]
        exact inside inner (by simp)
      · have shapeStays :
            ¬(form.shape = .parentheses ∧ (arranged form (parts.map shape)).length = 1) := by
          cases form with
          | parentheses => simpa [Form.shape, arranged] using wraps
          | _ => simp [Form.shape]
        rw [unwrapped_eq_self wraps, shape_mk, unwrapped_eq_self shapeStays]

mutual

/-- Two trees are compared form by form and span by span. -/
def decideEq : (left right : Node) → Decidable (left = right)
  | mk form span parts, mk otherForm otherSpan otherParts =>
    have := decideEqs parts otherParts
    decidable_of_iff (form = otherForm ∧ span = otherSpan ∧ parts = otherParts) (by simp)
termination_by structural left => left

/-- Two lists of trees are compared tree by tree. -/
def decideEqs : (left right : List Node) → Decidable (left = right)
  | [], [] => .isTrue rfl
  | [], _ :: _ => .isFalse nofun
  | _ :: _, [] => .isFalse nofun
  | left :: lefts, right :: rights =>
    have := decideEq left right
    have := decideEqs lefts rights
    decidable_of_iff (left = right ∧ lefts = rights) (by simp)
termination_by structural left => left

end

instance : DecidableEq Node :=
  decideEq

end Node
end Source
end KeyedText
