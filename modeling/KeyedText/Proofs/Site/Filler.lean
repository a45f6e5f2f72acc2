import KeyedText.Proofs.Site.Outline

/-!
# Children that are filled in

Braces around nothing but a comment, and braces around a blank string, can stand anywhere between
children.  They are no blank text, so they count when a side of a child is looked at: as the nearest
sibling they hide the element behind them, and as the second one they stand where the other half of
the sentence would be.  Farther off they change nothing.
-/

namespace KeyedText
namespace Site

open Source

/-- Whether a child is braces around nothing or around a blank string. -/
def isFiller (node : Node) : Bool :=
  match node with
  | .mk .container _ [] => true
  | .mk .container _ [inner] =>
    inner.literal?.any fun (value, _) => value.any fun text => (Text.trimmed text.toList).isEmpty
  | _ => false

/-- A child beside another one, and whether it was filled in. -/
structure Sibling where
  /-- The child. -/
  node : Node
  /-- Whether it was filled in. -/
  filled : Bool

/-- The children on a side with those that were filled in. -/
def withFillers (side : List Sibling) : List Node :=
  side.map (·.node)

/-- The children on a side without those that were filled in. -/
def withoutFillers (side : List Sibling) : List Node :=
  (side.filter (!·.filled)).map (·.node)

/-- The siblings that are no blank text. -/
def visible (side : List Sibling) : List Sibling :=
  side.filter (!isBlankText ·.node)

/-- Whether none of the next two siblings that are no blank text was filled in. -/
def Undisturbed (side : List Sibling) : Prop :=
  ∀ sibling ∈ (visible side).take 2, sibling.filled = false

/-- Whether an element and another braced string follow on a side in which some children were filled
in. -/
def flankedAmid (side : List Sibling) : Bool :=
  match visible side with
  | middle :: far :: _ =>
    if middle.filled then false
    else if far.filled then isElement middle.node && isBracedLiteral far.node
    else flanked (withoutFillers side)
  | _ => false

theorem isElement_of_isFiller
    {node : Node}
    (filler : isFiller node = true) :
    isElement node = false := by
  unfold isFiller at filler
  split at filler
  · rfl
  · rfl
  · cases filler

theorem filter_withFillers (side : List Sibling) :
    (withFillers side).filter (!isBlankText ·) = (visible side).map (·.node) := by
  rw [withFillers, List.filter_map]
  rfl

theorem filter_withoutFillers (side : List Sibling) :
    (withoutFillers side).filter (!isBlankText ·) =
      ((visible side).filter (!·.filled)).map (·.node) := by
  rw [withoutFillers, List.filter_map, visible, List.filter_filter, List.filter_filter]
  congr 1
  exact List.filter_congr fun _ _ => Bool.and_comm _ _

/-- What a side is with all its children follows from which of the next two were filled in. -/
theorem flanked_withFillers
    {side : List Sibling}
    (fillers : ∀ sibling ∈ side, sibling.filled = true → isFiller sibling.node = true) :
    flanked (withFillers side) = flankedAmid side := by
  unfold flankedAmid flanked
  rw [filter_withFillers, filter_withoutFillers]
  cases isVisible : visible side with
  | nil => rfl
  | cons middle others =>
      cases others with
      | nil => rfl
      | cons far farther =>
          have inSide : middle ∈ side := by
            have inVisible : middle ∈ visible side := by simp [isVisible]
            exact List.mem_of_mem_filter inVisible
          cases ofMiddle : middle.filled with
          | true => simp [isElement_of_isFiller (fillers middle inSide ofMiddle), ofMiddle]
          | false => cases ofFar : far.filled <;> simp [ofMiddle, ofFar]

/-- Children that are filled in farther off leave a side as it is. -/
theorem flankedAmid_of_undisturbed
    {side : List Sibling}
    (undisturbed : Undisturbed side) :
    flankedAmid side = flanked (withoutFillers side) := by
  have others := filter_withoutFillers side
  unfold Undisturbed at undisturbed
  unfold flankedAmid
  cases isVisible : visible side with
  | nil =>
      rw [isVisible] at others
      simp [flanked, others]
  | cons middle rest =>
      rw [isVisible] at others undisturbed
      cases rest with
      | nil => cases ofMiddle : middle.filled <;> simp [flanked, others, ofMiddle]
      | cons far farther => simp [undisturbed middle (by simp), undisturbed far (by simp)]

/-! ## Sides of one shape -/

theorem flanked_congr
    {side other : List Node}
    (same : shapedChildren other = shapedChildren side) :
    flanked other = flanked side := by
  rw [← flanked_shapedChildren, same, flanked_shapedChildren]

theorem shapedChildren_reverse (children : List Node) :
    shapedChildren children.reverse = (shapedChildren children).reverse := by
  rw [shapedChildren, shapedChildren, List.map_reverse, List.filter_reverse]

end Site
end KeyedText
