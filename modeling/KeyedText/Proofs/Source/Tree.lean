import KeyedText.Character.Blank
import KeyedText.Source.Node
import Mathlib.Data.List.Basic

/-!
# Trees and the spans of their nodes

A statement about every node of a syntax tree is a local condition that holds
at each of them.  The condition of this module says that the spans of a tree
belong to a text: they are in bounds, the parts of a node lie inside it, and
they lie side by side.  A stronger one says that they stand in order.
-/

namespace KeyedText
namespace Source

/-! ## Spans -/

/-- Whether two spans lie side by side, in either order. -/
def Span.Apart (left right : Span) : Prop :=
  left.before right ∨ right.before left

/-- Whether two spans are nested or lie side by side. -/
def Span.Laminar (left right : Span) : Prop :=
  left.within right ∨ right.within left ∨ left.Apart right

/-- Whether a span lies inside the half-open range of another one.  An empty
span at the end of a range is behind it, not inside. -/
def Span.Inside (inner outer : Span) : Prop :=
  inner.within outer ∧ inner.start < outer.stop

instance (left right : Span) : Decidable (left.within right) :=
  inferInstanceAs (Decidable (_ ∧ _))

instance (left right : Span) : Decidable (left.before right) :=
  inferInstanceAs (Decidable (_ ≤ _))

instance (left right : Span) : Decidable (left.Apart right) :=
  inferInstanceAs (Decidable (_ ∨ _))

namespace Span

theorem within.trans
    {inner middle outer : Span}
    (left : inner.within middle)
    (right : middle.within outer) :
    inner.within outer :=
  ⟨Nat.le_trans right.1 left.1, Nat.le_trans left.2 right.2⟩

theorem within_refl (span : Span) : span.within span :=
  ⟨Nat.le_refl _, Nat.le_refl _⟩

theorem Apart.symm
    {left right : Span}
    (apart : left.Apart right) :
    right.Apart left :=
  Or.symm apart

theorem Laminar.symm
    {left right : Span}
    (laminar : left.Laminar right) :
    right.Laminar left := by
  rcases laminar with within | within | apart
  · exact Or.inr (Or.inl within)
  · exact Or.inl within
  · exact Or.inr (Or.inr apart.symm)

/-- What lies inside spans that are side by side is side by side. -/
theorem Apart.of_within
    {left right outerLeft outerRight : Span}
    (apart : outerLeft.Apart outerRight)
    (leftWithin : left.within outerLeft)
    (rightWithin : right.within outerRight) :
    left.Apart right := by
  rcases apart with before | before
  · exact Or.inl (Nat.le_trans leftWithin.2 (Nat.le_trans before rightWithin.1))
  · exact Or.inr (Nat.le_trans rightWithin.2 (Nat.le_trans before leftWithin.1))

/-- Of two laminar spans, the one that starts inside the other lies inside it,
unless it reaches as far from the same start. -/
theorem Laminar.inside_of_starts
    {inner outer : Span}
    (laminar : inner.Laminar outer)
    (startsBehind : outer.start ≤ inner.start)
    (startsInside : inner.start < outer.stop)
    (shorter : inner.start = outer.start → inner.stop ≤ outer.stop) :
    inner.Inside outer := by
  refine ⟨?_, startsInside⟩
  rcases laminar with within | within | before | before
  · exact within
  · have sameStart : inner.start = outer.start :=
      Nat.le_antisymm within.1 startsBehind
    exact ⟨startsBehind, shorter sameStart⟩
  · simp only [Span.before] at before
    exact ⟨startsBehind, by omega⟩
  · simp only [Span.before] at before
    omega

theorem length_slice_le
    (span : Span)
    (text : List Char) :
    (span.slice text).length ≤ span.stop - span.start := by
  simp only [slice, List.length_take]
  omega

theorem getElem?_slice
    {span : Span}
    {offset : Nat}
    (inside : offset < span.stop - span.start)
    (text : List Char) :
    (span.slice text)[offset]? = text[span.start + offset]? := by
  rw [slice, List.getElem?_take_of_lt inside, List.getElem?_drop]

end Span

/-! ## Induction over trees -/

/-- A statement holds of every tree if it holds of a node whenever it holds of
all its parts. -/
theorem Node.induction
    {motive : Node → Prop}
    (step : ∀ form span parts,
      (∀ part ∈ parts, motive part) → motive (.mk form span parts))
    (node : Node) :
    motive node := by
  refine Node.rec (motive_1 := motive)
    (motive_2 := fun parts => ∀ part ∈ parts, motive part)
    (fun form span parts inside => step form span parts inside) ?_ ?_ node
  · simp
  · intro head tail headHolds tailHolds part member
    rcases List.mem_cons.mp member with rfl | inTail
    · exact headHolds
    · exact tailHolds part inTail

/-- Whether a condition holds at every node of a tree. -/
inductive Node.All (condition : Node → Prop) : Node → Prop
  | mk {form : Form} {span : Span} {parts : List Node}
      (here : condition (.mk form span parts))
      (inside : ∀ part ∈ parts, Node.All condition part) :
      Node.All condition (.mk form span parts)

namespace Node

theorem all_mk_iff
    {condition : Node → Prop}
    {form : Form}
    {span : Span}
    {parts : List Node} :
    Node.All condition (.mk form span parts) ↔
      condition (.mk form span parts) ∧
        ∀ part ∈ parts, Node.All condition part :=
  ⟨fun ⟨here, inside⟩ => ⟨here, inside⟩,
    fun ⟨here, inside⟩ => ⟨here, inside⟩⟩

theorem All.here
    {condition : Node → Prop}
    {node : Node}
    (holds : node.All condition) :
    condition node := by
  cases holds with
  | mk here _ => exact here

theorem All.inside
    {condition : Node → Prop}
    {form : Form}
    {span : Span}
    {parts : List Node}
    (holds : Node.All condition (.mk form span parts)) :
    ∀ part ∈ parts, part.All condition :=
  (all_mk_iff.mp holds).2

theorem All.mono
    {weaker stronger : Node → Prop}
    (implies : ∀ node, stronger node → weaker node)
    {node : Node}
    (holds : node.All stronger) :
    node.All weaker := by
  induction node using Node.induction with
  | step form span parts inside =>
      exact .mk (implies _ holds.here) fun part member =>
        inside part member (holds.inside part member)

mutual

/-- A decidable condition is decided at every node in turn. -/
def decideAll (condition : Node → Prop) [DecidablePred condition] :
    (node : Node) → Decidable (node.All condition)
  | .mk _ _ parts =>
    have := decideAllOf condition parts
    decidable_of_iff _ all_mk_iff.symm
termination_by structural node => node

/-- A decidable condition is decided at every node of several trees. -/
def decideAllOf (condition : Node → Prop) [DecidablePred condition] :
    (parts : List Node) → Decidable (∀ part ∈ parts, part.All condition)
  | [] => .isTrue (by simp)
  | part :: rest =>
    have := decideAll condition part
    have := decideAllOf condition rest
    decidable_of_iff (part.All condition ∧ ∀ other ∈ rest, other.All condition) (by simp)
termination_by structural parts => parts

end

instance (condition : Node → Prop) [DecidablePred condition] (node : Node) :
    Decidable (node.All condition) :=
  decideAll condition node

end Node

/-! ## Parentheses -/

namespace Node

theorem unwrapped_parentheses
    (span : Span)
    (inner : Node) :
    (mk .parentheses span [inner]).unwrapped = inner.unwrapped := by
  rw [unwrapped]

theorem unwrapped_eq_self
    {form : Form}
    {span : Span}
    {parts : List Node}
    (unwraps : ¬(form = .parentheses ∧ parts.length = 1)) :
    (mk form span parts).unwrapped = mk form span parts := by
  unfold unwrapped
  split
  · next isWrapped =>
      cases isWrapped
      exact absurd ⟨rfl, rfl⟩ unwraps
  · rfl

end Node

/-! ## Trees that belong to a text -/

/-- Whether a node of a form can hold text for people. -/
def Form.holdsText : Form → Bool
  | .string _ | .template _ | .elementText _ => true
  | _ => false

/-- Whether a form is that of text between tags. -/
def Form.isElementText : Form → Bool
  | .elementText _ => true
  | _ => false

/-- Whether the span of a node fits a text of some length and the spans of its
parts: it is in bounds, and its parts lie inside it, side by side. -/
structure Node.Laid (length : Nat) (node : Node) : Prop where
  /-- A node that can hold text does not end before it starts. -/
  ordered : node.form.holdsText = true → node.span.start ≤ node.span.stop
  /-- The node ends inside the text. -/
  bounded : node.span.stop ≤ length
  /-- The parts lie inside the node. -/
  within : ∀ part ∈ node.parts, part.span.within node.span
  /-- The parts lie side by side. -/
  apart : node.parts.Pairwise fun left right => left.span.Apart right.span
  /-- Text between tags has no parts. -/
  leaf : node.form.isElementText = true → node.parts = []

instance (length : Nat) (node : Node) : Decidable (node.Laid length) :=
  decidable_of_iff
    ((node.form.holdsText = true → node.span.start ≤ node.span.stop) ∧
      node.span.stop ≤ length ∧
      (∀ part ∈ node.parts, part.span.within node.span) ∧
      (node.parts.Pairwise fun left right => left.span.Apart right.span) ∧
      (node.form.isElementText = true → node.parts.length = 0))
    ⟨fun ⟨ordered, bounded, within, apart, leaf⟩ =>
        ⟨ordered, bounded, within, apart, fun isText => List.length_eq_zero_iff.mp (leaf isText)⟩,
      fun laid =>
        ⟨laid.ordered, laid.bounded, laid.within, laid.apart,
          fun isText => List.length_eq_zero_iff.mpr (laid.leaf isText)⟩⟩

/-- What has a part is no text between tags. -/
theorem Node.Laid.isElementText_eq_false
    {length : Nat}
    {node part : Node}
    (laid : node.Laid length)
    (isPart : part ∈ node.parts) :
    node.form.isElementText = false := by
  rw [Bool.eq_false_iff]
  intro isText
  rw [laid.leaf isText] at isPart
  cases isPart

/-- Text between tags holds text. -/
theorem Form.holdsText_of_isElementText
    {form : Form}
    (isText : form.isElementText = true) :
    form.holdsText = true := by
  cases form with
  | elementText value => rfl
  | _ => cases isText

/-! ## Trees as a reader leaves them -/

/-- Whether a node shows something in a text if it can hold text for people: a
string or template is not empty, and the source of text between tags is more than
layout if its value is. -/
def Node.shows (source : List Char) (node : Node) : Bool :=
  match node.form with
  | .string _ | .template _ => node.span.start < node.span.stop
  | .elementText value =>
    value.toList.all Character.isLayout
      || (node.span.slice source).any (!Character.isLayout ·)
  | _ => true

/-- Whether the span of a node fits a text as a reader leaves it: its parts stand
in their order, and one that holds text ends behind them. -/
structure Node.Placed (source : List Char) (node : Node) : Prop
    extends node.Laid source.length where
  /-- The parts stand in their order. -/
  inOrder : node.parts.Pairwise fun left right => left.span.before right.span
  /-- What holds text is closed behind its parts. -/
  closed : node.form.holdsText = true → ∀ part ∈ node.parts, part.span.stop < node.span.stop
  /-- What holds text shows it. -/
  shows : node.shows source = true

instance (source : List Char) (node : Node) : Decidable (node.Placed source) :=
  decidable_of_iff
    (node.Laid source.length ∧
      (node.parts.Pairwise fun left right => left.span.before right.span) ∧
      (node.form.holdsText = true → ∀ part ∈ node.parts, part.span.stop < node.span.stop) ∧
      node.shows source = true)
    ⟨fun ⟨laid, inOrder, closed, shows⟩ => ⟨laid, inOrder, closed, shows⟩,
      fun placed => ⟨placed.toLaid, placed.inOrder, placed.closed, placed.shows⟩⟩

theorem Node.All.laid
    {source : List Char}
    {node : Node}
    (placed : node.All (Node.Placed source)) :
    node.All (Node.Laid source.length) :=
  placed.mono fun _ here => here.toLaid

/-! ## Trees that are read -/

/-- A check that succeeds on what a reading gives shows that it gives something. -/
theorem exists_ok_of_any
    (result : Except ε α)
    (check : α → Bool)
    (checked : result.toOption.any check = true) :
    ∃ value, result = .ok value ∧ check value = true := by
  cases result with
  | error fault => simp [Except.toOption] at checked
  | ok value => exact ⟨value, rfl, checked⟩

end Source
end KeyedText
