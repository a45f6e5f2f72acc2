import KeyedText.Proofs.Keying.Idempotence
import KeyedText.Proofs.Site.Filler

/-!
# Decisions amid fillers

What becomes of a braced string depends on its text, on what surrounds the list of children, and on
whether it is one half of a sentence.  Comments and blank strings that are filled in between the
children bear on nothing but the last, and on that only where they are one of the next two children.
-/

namespace KeyedText
namespace Keying

open Source Site

/-- The decisions on the sites in a child with others in front of it and behind it. -/
def Converter.childDecisions
    (converter : Converter)
    (group : String)
    (source : List Char)
    (around : Situation)
    (front : List Node)
    (child : Node)
    (back : List Node) : List Decision :=
  (sites converter.interest source (around.ofChild (front ++ child :: back) front.length) child).map
    (converter.decide group)

/-- What becomes of a text for people that is no half of a sentence. -/
def Converter.decideWhole
    (converter : Converter)
    (group : String)
    (text : List Char) : Decision :=
  let derivation := converter.generator.derive group text
  if derivation.slug.isEmpty then .review .emptyKey
  else .converted (String.ofList derivation.slug) derivation.rule

/-- What becomes of a braced string, which may be one half of a sentence. -/
def Converter.decideBraced
    (converter : Converter)
    (group : String)
    (holder : Option String)
    (text : List Char)
    (half : Bool) : Decision :=
  let verdict := Verdict.on converter.criteria holder text
  if !verdict.accepted then .rejected verdict.rule
  else if half then .review .splitAroundTag
  else converter.decideWhole group text

theorem decideWhole_ne
    (converter : Converter)
    (group : String)
    (text : List Char) :
    converter.decideWhole group text ≠ .review .splitAroundTag := by
  unfold Converter.decideWhole
  dsimp only
  split <;> nofun

/-- Whether a string is one half of a sentence matters exactly if it is meant for people. -/
theorem decideBraced_eq_iff
    (converter : Converter)
    (group : String)
    (holder : Option String)
    (text : List Char)
    (half wasHalf : Bool) :
    converter.decideBraced group holder text half =
        converter.decideBraced group holder text wasHalf ↔
      (Verdict.on converter.criteria holder text).accepted = false ∨ half = wasHalf := by
  have isOther := decideWhole_ne converter group text
  unfold Converter.decideBraced
  dsimp only
  cases (Verdict.on converter.criteria holder text).accepted with
  | false => simp
  | true => cases half <;> cases wasHalf <;> simp [isOther, isOther.symm]

/-- Whether a child is braces around a string with a value. -/
def IsBracedText (value : String) (child : Node) : Prop :=
  ∃ span inner literalSpan,
    child = .mk .container span [inner] ∧
      inner.unwrapped = .mk (.string (some value)) literalSpan []

theorem IsBracedText.isBracedLiteral
    {value : String}
    {child : Node}
    (braced : IsBracedText value child) :
    isBracedLiteral child = true := by
  obtain ⟨span, inner, literalSpan, rfl, isString⟩ := braced
  exact isBracedLiteral_iff.mpr
    (.intro span inner (some value) (by rw [isString, Node.form_mk]))

variable
    {converter : Converter}
    {group : String}
    {source : List Char}

/-- Decisions follow from the shape of a tree. -/
theorem map_decide_sites_congr
    {node other : Node}
    (same : other.shape = node.shape)
    (otherSource : List Char)
    (situation : Situation) :
    (sites converter.interest otherSource situation other).map (converter.decide group) =
      (sites converter.interest source situation node).map (converter.decide group) := by
  have ofOutlines (text : List Char) (tree : Node) :
      (sites converter.interest text situation tree).map (converter.decide group) =
        ((sites converter.interest [] situation tree.shape).map outline).map
          (converter.decide group) := by
    rw [outline_sites_shape, List.map_map]
    exact List.map_congr_left fun site _ => (decide_outline group site).symm
  rw [ofOutlines otherSource, ofOutlines source, same]

/-- A child is decided by its own text and by whether it is one half of a sentence. -/
theorem childDecisions_eq
    (around : Situation)
    (front : List Node)
    (child : Node)
    (back : List Node) :
    converter.childDecisions group source around front child back =
      (sites converter.interest source
        { around with split := isBracedLiteral child && (flanked front.reverse || flanked back) }
        child).map (converter.decide group) := by
  have isHalf := contains_splitChildren front.reverse child back
  rw [List.reverse_reverse, List.length_reverse] at isHalf
  rw [Converter.childDecisions, Situation.ofChild, isHalf]

/-- A string with a role is a site of its own where strings are looked at, parentheses aside. -/
theorem sites_of_unwrapped
    (interest : Interest)
    (source : List Char)
    {situation : Situation}
    {kind : SiteKind}
    (role : situation.role = some kind)
    {value : String}
    {span : Span}
    {node : Node}
    (isString : node.unwrapped = .mk (.string (some value)) span []) :
    sites interest source situation node =
      if situation.suppressed then []
      else
        [{ plainSite source situation kind value.toList span with
            review := if situation.split then some .splitAroundTag else none }] := by
  induction node using Node.induction with
  | step form nodeSpan parts inside =>
      by_cases wraps : form = .parentheses ∧ parts.length = 1
      · obtain ⟨rfl, single⟩ := wraps
        obtain ⟨inner, rfl⟩ := List.length_eq_one_iff.mp single
        rw [Node.unwrapped_parentheses] at isString
        rw [sites_mk, own?_eq_none rfl, Option.toList_none, List.nil_append]
        change sites interest source situation inner ++ [] = _
        rw [List.append_nil, inside inner List.mem_cons_self isString]
      · rw [Node.unwrapped_eq_self wraps] at isString
        obtain ⟨rfl, rfl, rfl⟩ := Node.mk.inj isString
        rw [sites_mk, sitesFrom, List.append_nil]
        unfold own?
        rw [role]
        cases situation.suppressed <;> cases situation.split <;> rfl

/-- A braced string has one decision where strings are looked at. -/
theorem map_decide_sites_of_isBracedText
    {value : String}
    {child : Node}
    (braced : IsBracedText value child)
    (around : Situation)
    (half : Bool) :
    (sites converter.interest source { around with split := half } child).map
        (converter.decide group) =
      if around.suppressed then []
      else [converter.decideBraced group around.holder value.toList half] := by
  obtain ⟨span, inner, literalSpan, rfl, isString⟩ := braced
  let within : Situation := { around with role := some .bracedLiteral, split := half }
  have role : within.role = some .bracedLiteral := rfl
  have ofInner := sites_of_unwrapped converter.interest source role isString
  rw [sites_mk, own?_eq_none rfl, Option.toList_none, List.nil_append]
  change (sites converter.interest source within inner ++ []).map _ = _
  rw [List.append_nil, ofInner]
  change (if around.suppressed then [] else _ : List Site).map _ = _
  cases around.suppressed with
  | true => rfl
  | false =>
      refine congrArg (fun decision => [decision]) ?_
      unfold Converter.decide Converter.decideBraced
      cases half <;> rfl

/-- Children are filled in among others, which may move in the source text.  If none of those filled
in is one of the next two children on either side of a child, then this child is half of a sentence
exactly if it was before; and then the decisions on it stay.  In general a braced string is decided
by what the fillers make of its sides, so its decision stays exactly if strings are not looked at
there, or it is not meant for people, or it is half of a sentence as before. -/
theorem decisions_amid_fillers
    (converter : Converter)
    (group : String)
    (around : Situation)
    {front back : List Sibling}
    (fillers : ∀ sibling ∈ front ++ back, sibling.filled = true → isFiller sibling.node = true)
    {child oldChild : Node}
    (sameChild : oldChild.shape = child.shape)
    {oldFront oldBack : List Node}
    (sameFront : shapedChildren oldFront = shapedChildren (withoutFillers front))
    (sameBack : shapedChildren oldBack = shapedChildren (withoutFillers back))
    (source oldSource : List Char) :
    let now := converter.childDecisions group source around (withFillers front) child
      (withFillers back)
    let once := converter.childDecisions group oldSource around oldFront oldChild oldBack
    let half := flankedAmid front.reverse || flankedAmid back
    let wasHalf := flanked oldFront.reverse || flanked oldBack
    (Undisturbed front.reverse → Undisturbed back → half = wasHalf) ∧
      (half = wasHalf → now = once) ∧
      ∀ value, IsBracedText value child →
        let decided (isHalf : Bool) : List Decision :=
          if around.suppressed then []
          else [converter.decideBraced group around.holder value.toList isHalf]
        now = decided half ∧ once = decided wasHalf ∧
          (now = once ↔
            around.suppressed = true ∨
              (Verdict.on converter.criteria around.holder value.toList).accepted = false ∨
                half = wasHalf) := by
  intro now once half wasHalf
  have inFront : ∀ sibling ∈ front.reverse, sibling.filled = true → isFiller sibling.node = true :=
    fun sibling member => fillers sibling (List.mem_append_left _ (List.mem_reverse.mp member))
  have behind : ∀ sibling ∈ back, sibling.filled = true → isFiller sibling.node = true :=
    fun sibling member => fillers sibling (List.mem_append_right _ member)
  have isNow : now = (sites converter.interest source
      { around with split := isBracedLiteral child && half } child).map
        (converter.decide group) := by
    have reversed : (withFillers front).reverse = withFillers front.reverse :=
      List.map_reverse.symm
    refine (childDecisions_eq around (withFillers front) child (withFillers back)).trans ?_
    rw [reversed, flanked_withFillers inFront, flanked_withFillers behind]
  have isOnce : once = (sites converter.interest source
      { around with split := isBracedLiteral child && wasHalf } child).map
        (converter.decide group) := by
    have sameKind : isBracedLiteral oldChild = isBracedLiteral child := by
      rw [← isBracedLiteral_shape, sameChild, isBracedLiteral_shape]
    rw [← map_decide_sites_congr sameChild oldSource, ← sameKind]
    exact childDecisions_eq around oldFront oldChild oldBack
  refine ⟨?_, ?_, ?_⟩
  · intro farInFront farBehind
    have sameReversed : shapedChildren oldFront.reverse =
        shapedChildren (withoutFillers front.reverse) := by
      have reversed : withoutFillers front.reverse = (withoutFillers front).reverse := by
        rw [withoutFillers, withoutFillers, List.filter_reverse, List.map_reverse]
      rw [reversed, shapedChildren_reverse, shapedChildren_reverse, sameFront]
    exact congrArg₂ (· || ·)
      ((flankedAmid_of_undisturbed farInFront).trans (flanked_congr sameReversed).symm)
      ((flankedAmid_of_undisturbed farBehind).trans (flanked_congr sameBack).symm)
  · intro sameHalf
    rw [isNow, isOnce, sameHalf]
  · intro value braced decided
    rw [braced.isBracedLiteral, Bool.true_and, map_decide_sites_of_isBracedText braced]
      at isNow isOnce
    refine ⟨isNow, isOnce, ?_⟩
    rw [isNow, isOnce]
    cases around.suppressed with
    | true => simp
    | false =>
        rw [if_neg Bool.false_ne_true, if_neg Bool.false_ne_true, List.cons.injEq,
          and_iff_left rfl, decideBraced_eq_iff]
        simp

/-! ## A comment inside a sentence -/

/-- Braces around a string. -/
def bracedText (value : String) : Node :=
  .mk .container ⟨0, 0⟩ [.mk (.string (some value)) ⟨0, 0⟩ []]

/-- The children `{'Click '}<b/>{' to continue'}` behind the first one, with a comment between the
two. -/
def commentedSide : List Sibling :=
  [⟨.mk .container ⟨0, 0⟩ [], true⟩, ⟨.mk (.element "b") ⟨0, 0⟩ [.mk .opening ⟨0, 0⟩ []], false⟩,
    ⟨bracedText " to continue", false⟩]

/-- The first half of a sentence is left to a person, but with a comment behind it, it is
converted. -/
theorem decisions_amid_fillers_for_comment :
    plainConverter.childDecisions "room" [] .outermost [] (bracedText "Click ")
        (withFillers commentedSide) = [.converted "click" .fallback] ∧
      plainConverter.childDecisions "room" [] .outermost [] (bracedText "Click ")
        (withoutFillers commentedSide) = [.review .splitAroundTag] := by
  have fillers : ∀ sibling ∈ [] ++ commentedSide,
      sibling.filled = true → isFiller sibling.node = true := by
    decide
  have sameChild : (bracedText "Click ").shape = (bracedText "Click ").shape := rfl
  obtain ⟨-, -, ofText⟩ := decisions_amid_fillers plainConverter "room" .outermost fillers
    sameChild rfl rfl [] []
  obtain ⟨now, once, -⟩ := ofText "Click " ⟨_, _, _, rfl, rfl⟩
  refine ⟨now.trans ?_, once.trans ?_⟩
  · decide +kernel
  · decide +kernel

end Keying
end KeyedText
