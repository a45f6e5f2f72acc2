import KeyedText.Proofs.Site.Naming
import KeyedText.Proofs.Site.Sentence
import KeyedText.Proofs.Site.Span
import KeyedText.Proofs.Source.Shape
import KeyedText.Proofs.Text.Spacing

/-!
# Outlines

The outline of a site is what remains of it without positions.  The outlines of
the sites in a tree depend on the shape of the tree alone.
-/

namespace KeyedText
namespace Site

open Source

/-- A site without its positions and without the text of the expressions that it
interpolates. -/
def outline (site : Site) : Site :=
  { site with interpolations := [], span := ⟨0, 0⟩, line := 0 }

/-! ## Nodes and their shapes -/

@[simp] theorem isVariable_unwrapped_shape
    (name : String)
    (node : Node) :
    isVariable name node.shape.unwrapped = isVariable name node.unwrapped := by
  rw [Node.unwrapped_shape, isVariable, isVariable, Node.form_shape]
  cases node.unwrapped.form <;> rfl

@[simp] theorem suggestedName?_shape (node : Node) :
    suggestedName? node.shape = suggestedName? node := by
  rw [suggestedName?, suggestedName?, Node.unwrapped_shape, Node.form_shape]
  cases node.unwrapped.form <;> rfl

@[simp] theorem keepsText_shape
    (lookup : String)
    (callee : Node) :
    keepsText lookup callee.shape = keepsText lookup callee := by
  rw [keepsText, keepsText, Node.unwrapped_shape]
  obtain ⟨form, span, parts⟩ := callee.unwrapped
  rw [Node.shape_mk]
  cases form with
  | identifier name => rfl
  | member name =>
      cases parts with
      | nil => rfl
      | cons owner others => simp [Form.shape, Node.arranged]
  | otherMember =>
      cases parts with
      | nil => rfl
      | cons owner others => simp [Form.shape, Node.arranged]
  | _ => rfl

@[simp] theorem isElement_shape (node : Node) : isElement node.shape = isElement node := by
  rw [isElement, isElement, Node.form_shape]
  cases node.form <;> rfl

@[simp] theorem isBlankText_shape (node : Node) :
    isBlankText node.shape = isBlankText node := by
  rw [isBlankText, isBlankText, Node.form_shape]
  cases node.form <;> rfl

@[simp] theorem isBracedLiteral_shape (node : Node) :
    isBracedLiteral node.shape = isBracedLiteral node := by
  obtain ⟨form, span, parts⟩ := node
  rw [Node.shape_mk]
  cases form with
  | container =>
      match parts with
      | [] => rfl
      | [inner] =>
          have literal : inner.shape.literal?.isSome = inner.literal?.isSome := by
            rw [Node.literal?, Node.literal?, Node.unwrapped_shape]
            obtain ⟨form, span, parts⟩ := inner.unwrapped
            rw [Node.shape_mk]
            cases form <;> rfl
          exact literal
      | _ :: _ :: _ => rfl
  | _ => rfl

/-- Layout between tags is blank. -/
theorem isBlankText_of_isLayout
    {node : Node}
    (layout : node.isLayout = true) :
    isBlankText node = true := by
  unfold Node.isLayout at layout
  split at layout
  · next value span =>
      rw [List.all_eq_true] at layout
      simp only [isBlankText, Node.form_mk, Text.trimmed_isEmpty_iff]
      exact fun character member => Character.isBlank_of_isLayout (layout character member)
  · cases layout

/-- The site of a template follows from the spans of its expressions and the
names that these suggest. -/
theorem template?_congr
    (source : List Char)
    (situation : Situation)
    (chunks : List (Option String))
    (span : Span)
    {left right : List Node}
    (sameNames : left.map suggestedName? = right.map suggestedName?)
    (sameSpans : left.map Node.span = right.map Node.span) :
    template? source situation chunks span left =
      template? source situation chunks span right := by
  have interpolated (names : List String) :
      (names.zip left).map
          (fun named => Interpolation.mk named.1 (named.2.span.slice source)) =
        (names.zip right).map
          fun named => Interpolation.mk named.1 (named.2.span.slice source) := by
    have fromSpans (expressions : List Node) :
        (names.zip expressions).map
            (fun named => Interpolation.mk named.1 (named.2.span.slice source)) =
          (names.zip (expressions.map Node.span)).map
            fun named => Interpolation.mk named.1 (named.2.slice source) := by
      rw [List.zip_map_right, List.map_map]
      rfl
    rw [fromSpans, fromSpans, sameSpans]
  unfold template?
  rw [templateNames_congr sameNames]
  generalize templateNames right = known
  obtain ⟨kind, names⟩ := known
  cases chunks.mapM id with
  | none => rfl
  | some valid =>
      cases left with
      | nil =>
          cases right with
          | nil => rfl
          | cons other others => cases sameNames
      | cons first rest =>
          cases right with
          | nil => cases sameNames
          | cons other others =>
              exact congrArg
                (fun interpolations => some
                  { plainSite source situation kind
                      (filledWith (valid.map String.toList) names) span with
                    interpolations := interpolations
                    chunks := valid.map String.toList })
                (interpolated names)

/-- The outline of the site of a template follows from its shape. -/
theorem template?_shape
    (source : List Char)
    (situation : Situation)
    (chunks : List (Option String))
    (span : Span)
    (expressions : List Node) :
    (template? [] situation chunks ⟨0, 0⟩ (expressions.map Node.shape)).map outline =
      (template? source situation chunks span expressions).map outline := by
  have names : templateNames (expressions.map Node.shape) = templateNames expressions := by
    apply templateNames_congr
    rw [List.map_map]
    exact List.map_congr_left fun expression _ => suggestedName?_shape expression
  unfold template?
  rw [names]
  cases chunks.mapM id with
  | none => rfl
  | some valid =>
      cases expressions with
      | nil => rfl
      | cons first others => rfl

/-- The outline of the site of a node follows from its shape. -/
theorem own?_shape
    (source : List Char)
    (situation : Situation)
    (form : Form)
    (span : Span)
    (parts : List Node) :
    (own? [] situation form.shape ⟨0, 0⟩ (Node.arranged form (parts.map Node.shape))).map outline =
      (own? source situation form span parts).map outline := by
  unfold own?
  by_cases suppressed : situation.suppressed = true
  · simp [suppressed]
  · simp only [suppressed, if_false, Bool.false_eq_true]
    cases form with
    | string value =>
        cases value with
        | none => rfl
        | some value =>
            cases situation.role with
            | none => rfl
            | some kind => cases situation.split <;> rfl
    | elementText value =>
        simp only [Form.shape]
        split <;> rfl
    | template chunks => exact template?_shape source situation chunks span parts
    | _ => rfl

/-! ## Children -/

/-- Children without the layout between them, each reduced to its shape. -/
def shapedChildren (children : List Node) : List Node :=
  (children.map Node.shape).filter (!·.isLayout)

/-- What stands on a side of a child follows from the shapes there. -/
theorem flanked_shapedChildren (side : List Node) :
    flanked (shapedChildren side) = flanked side := by
  have visible :
      (shapedChildren side).filter (!isBlankText ·) =
        (side.filter (!isBlankText ·)).map Node.shape := by
    rw [shapedChildren, List.filter_filter, List.filter_map]
    congr 1
    apply List.filter_congr
    intro child _
    simp only [Function.comp_apply, isBlankText_shape, Node.isLayout_shape]
    cases layout : child.isLayout with
    | false => simp
    | true => simp [isBlankText_of_isLayout layout]
  unfold flanked
  rw [visible]
  match side.filter (!isBlankText ·) with
  | [] => rfl
  | [_] => rfl
  | _ :: _ :: _ => simp

/-- The sites in children with some others in front of them, which are given
last first. -/
def childSites (interest : Interest) (source : List Char) (around : Situation) :
    List Node → List Node → List Site
  | _, [] => []
  | before, child :: after =>
    let half := isBracedLiteral child && (flanked before || flanked after)
    sites interest source { around with split := half } child
      ++ childSites interest source around (child :: before) after

variable {interest : Interest} {source : List Char}

/-- Whether a child is half of a sentence can be told without its index. -/
theorem sitesFrom_eq_childSites
    {descend : Nat → Option Situation}
    {around : Situation}
    (offset : Nat)
    (before : List Node)
    {after : List Node}
    (looked : ∀ index,
      descend (offset + index) = some (around.ofChild (before.reverse ++ after) index)) :
    sitesFrom interest source descend (offset + before.length) after =
      childSites interest source around before after := by
  induction after generalizing before with
  | nil => rfl
  | cons child rest inductionHypothesis =>
      have later := inductionHypothesis (child :: before) (by simpa using looked)
      rw [List.length_cons, ← Nat.add_assoc] at later
      rw [sitesFrom, childSites, later, looked, Situation.ofChild, contains_splitChildren]

/-- The sites in an element are those of its opening and of its children. -/
theorem sitesFrom_element
    (situation : Situation)
    (tag : String)
    (opening : Node)
    (children : List Node) :
    sitesFrom interest source
        (situation.descend interest (.element tag) (opening :: children)) 0
        (opening :: children) =
      sites interest source (situation.inElement interest tag) opening ++
        if interest.skippedTags.contains tag then []
        else childSites interest source (situation.inElement interest tag) [] children := by
  rw [sitesFrom]
  refine congrArg₂ (· ++ ·) rfl ?_
  split
  · next skipped =>
      apply sitesFrom_eq_nil
      intro offset
      have notOpening : (0 + 1 + offset == 0) = false := beq_eq_false_iff_ne.mpr (by omega)
      simp only [Situation.descend, skipped, notOpening, if_true, if_false, Bool.false_eq_true]
  · next visited =>
      apply sitesFrom_eq_childSites (0 + 1) []
      intro index
      have notOpening : (0 + 1 + index == 0) = false := beq_eq_false_iff_ne.mpr (by omega)
      have childIndex : 0 + 1 + index - 1 = index := by omega
      simp only [Situation.descend, visited, notOpening, if_false, Bool.false_eq_true, childIndex]
      rfl

/-- The sites in a fragment are those of its children. -/
theorem sitesFrom_fragment
    (situation : Situation)
    (children : List Node) :
    sitesFrom interest source (situation.descend interest .fragment children) 0 children =
      childSites interest source { situation.plain with holder := none, foreign := false } []
        children := by
  apply sitesFrom_eq_childSites 0 []
  intro index
  rw [Nat.zero_add]
  rfl

/-! ## Trees -/

theorem sites_eq_nil_of_isLayout
    (situation : Situation)
    {node : Node}
    (layout : node.isLayout = true) :
    sites interest source situation node = [] := by
  unfold Node.isLayout at layout
  split at layout
  · next value span =>
      have collapsed : Text.collapseSpacing value.toList = [] :=
        Text.collapseSpacing_eq_nil_iff.mpr (List.all_eq_true.mp layout)
      simp [sites_mk, own?, collapsed, sitesFrom]
  · cases layout

/-- The outlines of the sites in children follow from their shapes. -/
theorem outline_childSites
    {children : List Node}
    (inChildren : ∀ child ∈ children, ∀ situation,
      (sites interest [] situation child.shape).map outline =
        (sites interest source situation child).map outline)
    (around : Situation)
    (before : List Node) :
    (childSites interest [] around (shapedChildren before) (shapedChildren children)).map
        outline =
      (childSites interest source around before children).map outline := by
  induction children generalizing before with
  | nil => rfl
  | cons child rest inductionHypothesis =>
      have later := inductionHypothesis
        (fun other inRest => inChildren other (List.mem_cons_of_mem _ inRest)) (child :: before)
      rw [childSites, List.map_append]
      cases layout : child.isLayout with
      | true =>
          have dropped (others : List Node) :
              shapedChildren (child :: others) = shapedChildren others := by
            simp [shapedChildren, layout]
          rw [dropped] at later ⊢
          rw [later, sites_eq_nil_of_isLayout _ layout]
          rfl
      | false =>
          have kept (others : List Node) :
              shapedChildren (child :: others) = child.shape :: shapedChildren others := by
            simp [shapedChildren, layout]
          rw [kept] at later ⊢
          rw [childSites, List.map_append, later, flanked_shapedChildren,
            flanked_shapedChildren, isBracedLiteral_shape,
            inChildren child List.mem_cons_self]

/-- The outlines of the sites in parts follow from their shapes. -/
theorem outline_sitesFrom
    {parts : List Node}
    (inParts : ∀ part ∈ parts, ∀ situation,
      (sites interest [] situation part.shape).map outline =
        (sites interest source situation part).map outline)
    (descend : Nat → Option Situation)
    (index : Nat) :
    (sitesFrom interest [] descend index (parts.map Node.shape)).map outline =
      (sitesFrom interest source descend index parts).map outline := by
  induction parts generalizing index with
  | nil => rfl
  | cons part rest inductionHypothesis =>
      have later := inductionHypothesis
        (fun other inRest => inParts other (List.mem_cons_of_mem _ inRest)) (index + 1)
      rw [List.map_cons, sitesFrom, sitesFrom, List.map_append, List.map_append, later]
      cases descend index with
      | none => rfl
      | some situation => exact congrArg (· ++ _) (inParts part List.mem_cons_self situation)

theorem outline_sitesFrom_arranged
    {form : Form}
    {parts : List Node}
    (inParts : ∀ part ∈ parts, ∀ situation,
      (sites interest [] situation part.shape).map outline =
        (sites interest source situation part).map outline)
    (situation : Situation) :
    (sitesFrom interest []
        (situation.descend interest form.shape (Node.arranged form (parts.map Node.shape))) 0
        (Node.arranged form (parts.map Node.shape))).map outline =
      (sitesFrom interest source (situation.descend interest form parts) 0 parts).map
        outline := by
  cases form with
  | element tag =>
      cases parts with
      | nil => rfl
      | cons opening children =>
          have arranged : Node.arranged (.element tag) ((opening :: children).map Node.shape) =
              opening.shape :: shapedChildren children := rfl
          have sameForm : Form.shape (.element tag) = .element tag := rfl
          have ofOpening := inParts opening List.mem_cons_self (situation.inElement interest tag)
          have ofChildren := outline_childSites
            (fun child inRest => inParts child (List.mem_cons_of_mem opening inRest))
            (situation.inElement interest tag) []
          rw [arranged, sameForm, sitesFrom_element, sitesFrom_element, List.map_append,
            List.map_append, ofOpening]
          split
          · rfl
          · exact congrArg (_ ++ ·) ofChildren
  | fragment =>
      have arranged : Node.arranged .fragment (parts.map Node.shape) = shapedChildren parts := rfl
      have sameForm : Form.shape .fragment = .fragment := rfl
      rw [arranged, sameForm, sitesFrom_fragment, sitesFrom_fragment]
      exact outline_childSites inParts _ []
  | call =>
      have sameDescend : situation.descend interest .call (parts.map Node.shape) =
          situation.descend interest .call parts := by
        funext index
        have sameCallee : (parts.map Node.shape).head?.any (keepsText interest.lookup) =
            parts.head?.any (keepsText interest.lookup) := by
          cases parts with
          | nil => rfl
          | cons callee others => exact keepsText_shape interest.lookup callee
        simp only [Situation.descend, sameCallee]
      have sameForm : Form.shape .call = .call := rfl
      have arranged : Node.arranged .call (parts.map Node.shape) = parts.map Node.shape := rfl
      rw [arranged, sameForm, sameDescend]
      exact outline_sitesFrom inParts _ 0
  | _ => exact outline_sitesFrom inParts _ 0

/-- The outlines of the sites in a tree follow from its shape. -/
theorem outline_sites_shape
    (interest : Interest)
    (source : List Char)
    (situation : Situation)
    (node : Node) :
    (sites interest [] situation node.shape).map outline =
      (sites interest source situation node).map outline := by
  induction node using Node.induction generalizing situation with
  | step form span parts inside =>
      rw [Node.shape_mk, sites_mk, sites_mk, List.map_append, List.map_append,
        outline_sitesFrom_arranged inside, ← Option.toList_map, ← Option.toList_map,
        own?_shape]

end Site
end KeyedText
