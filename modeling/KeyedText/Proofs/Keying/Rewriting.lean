import KeyedText.Keying.Conversion
import KeyedText.Proofs.Site.Outline

/-!
# Rewriting trees

A conversion can be told on the tree of a source text: the node of every
converted site becomes a lookup, and all other nodes stay.  The sites in the new
tree are those of the old one that were decided but not converted.
-/

namespace KeyedText
namespace Keying

open Source Site

/-! ## Lookups -/

/-- The lookup of a key with the text of a site and the expressions that it
interpolates. -/
def lookupNode
    (lookup key : String)
    (site : Site)
    (expressions : List Node)
    (span : Span) : Node :=
  let property (name : String) (value : Node) : Node :=
    .mk (.property (some name)) span [.mk (.identifier name) span [], value]
  let text : Node := .mk (.string (some (String.ofList site.text))) span []
  let further := List.zipWith (fun interpolation => property interpolation.name)
    site.interpolations expressions
  let options : Node := .mk (.object none) span (property textOption text :: further)
  .mk .call span [.mk (.identifier lookup) span [], .mk (.string (some key)) span [], options]

/-- What the node of a converted site becomes: a lookup, in braces where the site
needs them. -/
def replacementNode
    (lookup key : String)
    (site : Site)
    (expressions : List Node)
    (span : Span) : Node :=
  let call := lookupNode lookup key site expressions span
  if site.kind.needsBraces then .mk .container span [call] else call

/-! ## Decided trees -/

/-- The slug under which a site is converted, if it is. -/
def Converter.slug? (converter : Converter) (place : Key.Place) (site : Site) : Option String :=
  match converter.decide place.group site with
  | .converted slug _ => some slug
  | _ => none

/-- The site of a node that is converted, with its slug. -/
def Converter.converted?
    (converter : Converter)
    (place : Key.Place)
    (source : List Char)
    (situation : Situation)
    (form : Form)
    (span : Span)
    (parts : List Node) : Option (Site × String) :=
  (own? source situation form span parts).bind fun site =>
    (converter.slug? place site).map (site, ·)

mutual

/-- A tree in which the node of every converted site has become a lookup. -/
def Converter.rewritten (converter : Converter) (place : Key.Place) (source : List Char)
    (situation : Situation) : Node → Node
  | .mk form span parts =>
    match converter.converted? place source situation form span parts with
    | some (site, slug) =>
      replacementNode converter.interest.lookup (place.key slug) site parts span
    | none =>
      .mk form span
        (converter.rewrittenFrom place source (situation.descend converter.interest form parts) 0
          parts)
termination_by structural node => node

/-- The parts of a node from an index on, rewritten where they are looked at. -/
def Converter.rewrittenFrom (converter : Converter) (place : Key.Place) (source : List Char)
    (descend : Nat → Option Situation) (index : Nat) : List Node → List Node
  | [] => []
  | part :: rest =>
    let here :=
      match descend index with
      | some situation => converter.rewritten place source situation part
      | none => part
    here :: converter.rewrittenFrom place source descend (index + 1) rest
termination_by structural parts => parts

end

mutual

/-- The sites in a tree that are decided but not converted. -/
def Converter.remaining (converter : Converter) (place : Key.Place) (source : List Char)
    (situation : Situation) : Node → List Site
  | .mk form span parts =>
    match converter.converted? place source situation form span parts with
    | some _ => []
    | none =>
      (own? source situation form span parts).toList
        ++ converter.remainingFrom place source (situation.descend converter.interest form parts)
          0 parts
termination_by structural node => node

/-- The remaining sites in the parts of a node from an index on. -/
def Converter.remainingFrom (converter : Converter) (place : Key.Place) (source : List Char)
    (descend : Nat → Option Situation) (index : Nat) : List Node → List Site
  | [] => []
  | part :: rest =>
    let here :=
      match descend index with
      | some situation => converter.remaining place source situation part
      | none => []
    here ++ converter.remainingFrom place source descend (index + 1) rest
termination_by structural parts => parts

end

variable {converter : Converter} {place : Key.Place} {source : List Char}

/-! ## Sites that are never converted -/

/-- A site that is left to a person is not converted. -/
theorem slug?_of_review
    {site : Site}
    {reason : ReviewReason}
    (review : site.review = some reason) :
    converter.slug? place site = none := by
  unfold Converter.slug? Converter.decide
  split
  · next decided =>
      split at decided
      · cases decided
      · dsimp only at decided
        split at decided
        · cases decided
        · simp [review] at decided
  · rfl

/-- A blank text has an empty slug, whatever the tables of the generator. -/
theorem slug_derive_of_blank
    (generator : Key.Generator)
    (group : String)
    {text : List Char}
    (blank : ∀ character ∈ text, Character.isBlank character = true) :
    (generator.derive group text).slug = [] := by
  have trimmed : Text.trimmed text = [] :=
    List.isEmpty_iff.mp (Text.trimmed_isEmpty_iff.mpr blank)
  have short : Key.SlugRule.derive? generator (generator.subject group text) .shortText =
      some [] := by
    rw [Key.SlugRule.derive?, Key.Generator.subject]
    dsimp only
    rw [trimmed]
    rfl
  have noSlug : Key.slugOf generator.limit [] = [] := by
    simp [Key.slugOf, Key.slugWords, Text.joinedBy, Key.dropTrailing]
  rw [Key.Generator.derive, Key.SlugRule.chain, List.findSome?_cons, short]
  exact noSlug

/-- A site with a blank text is not converted. -/
theorem slug?_of_blank
    {site : Site}
    (blank : ∀ character ∈ site.text, Character.isBlank character = true) :
    converter.slug? place site = none := by
  have empty := slug_derive_of_blank converter.generator place.group blank
  unfold Converter.slug? Converter.decide
  split
  · next decided =>
      split at decided
      · cases decided
      · dsimp only at decided
        split at decided
        · cases decided
        · split at decided
          · cases decided
          · simp [empty] at decided
  · rfl

/-! ## Rewritten nodes -/

/-- A node that is converted becomes its call. -/
theorem rewritten_of_converted
    {situation : Situation}
    {form : Form}
    {span : Span}
    {parts : List Node}
    {site : Site}
    {slug : String}
    (converted : converter.converted? place source situation form span parts =
      some (site, slug)) :
    converter.rewritten place source situation (.mk form span parts) =
      replacementNode converter.interest.lookup (place.key slug) site parts span := by
  rw [Converter.rewritten, converted]

/-- A node that is kept has its parts rewritten. -/
theorem rewritten_of_kept
    {situation : Situation}
    {form : Form}
    {span : Span}
    {parts : List Node}
    (kept : converter.converted? place source situation form span parts = none) :
    converter.rewritten place source situation (.mk form span parts) =
      .mk form span
        (converter.rewrittenFrom place source
          (situation.descend converter.interest form parts) 0 parts) := by
  rw [Converter.rewritten, kept]

/-- A node is converted if its site is given a key. -/
theorem converted?_eq_some_iff
    {situation : Situation}
    {form : Form}
    {span : Span}
    {parts : List Node}
    {site : Site}
    {slug : String} :
    converter.converted? place source situation form span parts = some (site, slug) ↔
      own? source situation form span parts = some site ∧
        converter.slug? place site = some slug := by
  simp only [Converter.converted?, Option.bind_eq_some_iff, Option.map_eq_some_iff,
    Prod.mk.injEq]
  constructor
  · rintro ⟨_, own, _, slugged, rfl, rfl⟩
    exact ⟨own, slugged⟩
  · rintro ⟨own, slugged⟩
    exact ⟨site, own, slug, slugged, rfl, rfl⟩

/-- Only nodes that hold text are converted. -/
theorem holdsText_of_converted?
    {situation : Situation}
    {form : Form}
    {span : Span}
    {parts : List Node}
    {conversion : Site × String}
    (converted : converter.converted? place source situation form span parts =
      some conversion) :
    form.holdsText = true :=
  (form_and_span_of_own? (converted?_eq_some_iff.mp converted).1).1

/-- What holds no text is not converted. -/
theorem converted?_eq_none
    {situation : Situation}
    {form : Form}
    {span : Span}
    {parts : List Node}
    (noText : form.holdsText = false) :
    converter.converted? place source situation form span parts = none := by
  rw [Converter.converted?, own?_eq_none noText, Option.bind_none]

/-- What replaces a node is a call, in braces or not. -/
theorem form_replacementNode
    (lookup key : String)
    (site : Site)
    (expressions : List Node)
    (span : Span) :
    (replacementNode lookup key site expressions span).form = .call ∨
      (replacementNode lookup key site expressions span).form = .container := by
  unfold replacementNode
  dsimp only
  split
  · exact Or.inr rfl
  · exact Or.inl rfl

@[simp] theorem span_rewritten
    (situation : Situation)
    (node : Node) :
    (converter.rewritten place source situation node).span = node.span := by
  obtain ⟨form, span, parts⟩ := node
  cases converted : converter.converted? place source situation form span parts with
  | none => rw [rewritten_of_kept converted, Node.span_mk, Node.span_mk]
  | some conversion =>
      rw [rewritten_of_converted converted, replacementNode]
      split <;> rfl

@[simp] theorem length_rewrittenFrom
    (descend : Nat → Option Situation)
    (index : Nat)
    (parts : List Node) :
    (converter.rewrittenFrom place source descend index parts).length = parts.length := by
  induction parts generalizing index with
  | nil => rfl
  | cons part rest inductionHypothesis =>
      rw [Converter.rewrittenFrom, List.length_cons, List.length_cons, inductionHypothesis]

/-- A part is rewritten in the situation that it is looked at in. -/
theorem getElem?_rewrittenFrom
    (descend : Nat → Option Situation)
    (first index : Nat)
    (parts : List Node) :
    (converter.rewrittenFrom place source descend first parts)[index]? =
      parts[index]?.map fun part =>
        match descend (first + index) with
        | some situation => converter.rewritten place source situation part
        | none => part := by
  induction parts generalizing first index with
  | nil => rfl
  | cons part rest inductionHypothesis =>
      rw [Converter.rewrittenFrom]
      cases index with
      | zero => rfl
      | succ index =>
          have shifted : first + 1 + index = first + (index + 1) := by omega
          rw [List.getElem?_cons_succ, List.getElem?_cons_succ, inductionHypothesis, shifted]

/-- Parentheses can be looked through before or after a tree is rewritten. -/
theorem unwrapped_rewritten
    (situation : Situation)
    (node : Node) :
    (converter.rewritten place source situation node).unwrapped =
      converter.rewritten place source situation node.unwrapped := by
  induction node using Node.induction with
  | step form span parts inside =>
      by_cases wraps : form = .parentheses ∧ parts.length = 1
      · obtain ⟨rfl, single⟩ := wraps
        obtain ⟨inner, rfl⟩ := List.length_eq_one_iff.mp single
        have rewrites :
            converter.rewritten place source situation (.mk .parentheses span [inner]) =
              .mk .parentheses span [converter.rewritten place source situation inner] :=
          rewritten_of_kept (converted?_eq_none rfl)
        rw [rewrites, Node.unwrapped_parentheses, Node.unwrapped_parentheses]
        exact inside inner (by simp)
      · rw [Node.unwrapped_eq_self wraps]
        cases converted : converter.converted? place source situation form span parts with
        | none =>
            rw [rewritten_of_kept converted]
            exact Node.unwrapped_eq_self (by simpa using wraps)
        | some conversion =>
            rw [rewritten_of_converted converted, replacementNode]
            split
            · exact Node.unwrapped_eq_self (by simp)
            · exact Node.unwrapped_eq_self (by simp)

/-- A node keeps its form, unless it held text and has become a call or braces. -/
theorem form_rewritten
    (situation : Situation)
    (node : Node) :
    (converter.rewritten place source situation node).form = node.form ∨
      node.form.holdsText = true ∧
        ((converter.rewritten place source situation node).form = .call ∨
          (converter.rewritten place source situation node).form = .container) := by
  obtain ⟨form, span, parts⟩ := node
  cases converted : converter.converted? place source situation form span parts with
  | none =>
      rw [rewritten_of_kept converted]
      exact Or.inl rfl
  | some conversion =>
      rw [rewritten_of_converted converted]
      exact Or.inr ⟨holdsText_of_converted? converted, form_replacementNode _ _ _ _ _⟩

@[simp] theorem isVariable_rewritten
    (name : String)
    (situation : Situation)
    (node : Node) :
    isVariable name (converter.rewritten place source situation node) =
      isVariable name node := by
  rcases form_rewritten situation node with same | ⟨holdsText, becomes⟩
  · rw [isVariable, isVariable, same]
  · have notBefore : isVariable name node = false := by
      unfold isVariable
      split
      · next found form => simp [form, Form.holdsText] at holdsText
      · rfl
    rw [notBefore]
    unfold isVariable
    rcases becomes with form | form
    · rw [form]
    · rw [form]

@[simp] theorem suggestedName?_rewritten
    (situation : Situation)
    (node : Node) :
    suggestedName? (converter.rewritten place source situation node) =
      suggestedName? node := by
  unfold suggestedName?
  rw [unwrapped_rewritten]
  rcases form_rewritten situation node.unwrapped with same | ⟨holdsText, becomes⟩
  · rw [same]
  · have noName : suggestedName? node = none := by
      unfold suggestedName?
      split
      · next name form => simp [form, Form.holdsText] at holdsText
      · next name form => simp [form, Form.holdsText] at holdsText
      · rfl
    rw [suggestedName?] at noName
    rw [noName]
    rcases becomes with form | form
    · rw [form]
    · rw [form]

@[simp] theorem keepsText_rewritten
    (lookup : String)
    (situation : Situation)
    (callee : Node) :
    keepsText lookup (converter.rewritten place source situation callee) =
      keepsText lookup callee := by
  rw [keepsText, keepsText, unwrapped_rewritten]
  obtain ⟨form, span, parts⟩ := callee.unwrapped
  cases converted : converter.converted? place source situation form span parts with
  | none =>
      rw [rewritten_of_kept converted]
      have ownerStays (owner : Node) :
          isVariable "console"
              (converter.rewritten place source situation.plain owner).unwrapped =
            isVariable "console" owner.unwrapped := by
        rw [unwrapped_rewritten, isVariable_rewritten]
      cases form with
      | member name =>
          cases parts with
          | nil => rfl
          | cons owner others => exact congrArg (name == lookup || ·) (ownerStays owner)
      | otherMember =>
          cases parts with
          | nil => rfl
          | cons owner others => exact ownerStays owner
      | _ => rfl
  | some conversion =>
      have holdsText := holdsText_of_converted? converted
      rw [rewritten_of_converted converted, replacementNode]
      cases form with
      | string value => cases conversion.1.kind.needsBraces <;> rfl
      | template chunks => cases conversion.1.kind.needsBraces <;> rfl
      | elementText value => cases conversion.1.kind.needsBraces <;> rfl
      | _ => cases holdsText

@[simp] theorem isElement_rewritten
    (situation : Situation)
    (node : Node) :
    isElement (converter.rewritten place source situation node) = isElement node := by
  rcases form_rewritten situation node with same | ⟨holdsText, becomes⟩
  · rw [isElement, isElement, same]
  · have notBefore : isElement node = false := by
      unfold isElement
      split
      · next tag form => simp [form, Form.holdsText] at holdsText
      · rfl
    rw [notBefore, isElement]
    rcases becomes with form | form
    · rw [form]
    · rw [form]

/-- Blank text between tags is not converted. -/
theorem converted?_of_blank
    {situation : Situation}
    {value : String}
    {span : Span}
    {parts : List Node}
    (blank : ∀ character ∈ value.toList, Character.isBlank character = true) :
    converter.converted? place source situation (.elementText value) span parts = none := by
  cases converted :
      converter.converted? place source situation (.elementText value) span parts with
  | none => rfl
  | some conversion =>
      obtain ⟨site, slug⟩ := conversion
      obtain ⟨own, slugged⟩ := converted?_eq_some_iff.mp converted
      obtain ⟨-, text, -⟩ := site_of_elementText own
      have blankText : ∀ character ∈ site.text,
          Character.isBlank character = true := by
        intro character member
        rw [text] at member
        rcases Text.mem_collapseSpacing member with rfl | inValue
        · rfl
        · exact blank character inValue
      rw [slug?_of_blank blankText] at slugged
      cases slugged

@[simp] theorem isBlankText_rewritten
    (situation : Situation)
    (node : Node) :
    isBlankText (converter.rewritten place source situation node) = isBlankText node := by
  obtain ⟨form, span, parts⟩ := node
  cases converted : converter.converted? place source situation form span parts with
  | none =>
      rw [rewritten_of_kept converted]
      rfl
  | some conversion =>
      rw [rewritten_of_converted converted]
      have notAfter : isBlankText (replacementNode converter.interest.lookup
          (place.key conversion.2) conversion.1 parts span) = false := by
        unfold isBlankText
        rcases form_replacementNode converter.interest.lookup (place.key conversion.2)
          conversion.1 parts span with form | form
        · rw [form]
        · rw [form]
      rw [notAfter]
      cases blank : isBlankText (.mk form span parts) with
      | false => rfl
      | true =>
          cases form with
          | elementText value =>
              rw [converted?_of_blank (Text.trimmed_isEmpty_iff.mp blank)] at converted
              cases converted
          | _ => cases blank

/-! ## Braced strings -/

/-- Braces stay braces around what was in them. -/
theorem rewritten_container
    (converter : Converter)
    (place : Key.Place)
    (source : List Char)
    (situation : Situation)
    (span : Span)
    (inner : Node) :
    converter.rewritten place source situation (.mk .container span [inner]) =
      .mk .container span
        [converter.rewritten place source { situation with role := some .bracedLiteral }
          inner] :=
  rewritten_of_kept (converted?_eq_none rfl)

/-- Rewriting brings in no braced string. -/
theorem isBracedLiteral_of_rewritten
    {situation : Situation}
    {node : Node}
    (braced : isBracedLiteral (converter.rewritten place source situation node) = true) :
    isBracedLiteral node = true := by
  obtain ⟨span, inner, value, rewrites, form⟩ :=
    bracedString_iff.mp (isBracedLiteral_iff.mp braced)
  obtain ⟨oldForm, oldSpan, parts⟩ := node
  cases converted : converter.converted? place source situation oldForm oldSpan parts with
  | none =>
      have kept := rewritten_of_kept converted
      rw [rewrites, Node.mk.injEq] at kept
      obtain ⟨rfl, rfl, newParts⟩ := kept
      have single : parts.length = 1 := by
        have sameLength := congrArg List.length newParts
        rw [length_rewrittenFrom] at sameLength
        exact sameLength.symm
      obtain ⟨old, rfl⟩ := List.length_eq_one_iff.mp single
      have ofInner := rewritten_container converter place source situation span old
      rw [rewrites, Node.mk.injEq, List.cons.injEq] at ofInner
      rw [ofInner.2.2.1, unwrapped_rewritten] at form
      refine isBracedLiteral_iff.mpr (.intro span old value ?_)
      rcases form_rewritten _ old.unwrapped with same | ⟨-, becomes⟩
      · exact same ▸ form
      · rw [form] at becomes
        rcases becomes with isCall | isContainer
        · cases isCall
        · cases isContainer
  | some conversion =>
      rw [rewritten_of_converted converted, replacementNode] at braced
      split at braced
      · cases braced
      · cases braced

/-- Halves of sentences are not converted. -/
theorem converted?_of_split
    (converter : Converter)
    (place : Key.Place)
    (source : List Char)
    {situation : Situation}
    (split : situation.split = true)
    (value : Option String)
    (span : Span)
    (parts : List Node) :
    converter.converted? place source situation (.string value) span parts = none := by
  cases converted :
      converter.converted? place source situation (.string value) span parts with
  | none => rfl
  | some conversion =>
      obtain ⟨site, slug⟩ := conversion
      obtain ⟨own, slugged⟩ := converted?_eq_some_iff.mp converted
      have review : site.review = some .splitAroundTag := by
        cases suppressed : situation.suppressed with
        | true => simp [own?, suppressed] at own
        | false =>
            cases value with
            | none => simp [own?, suppressed] at own
            | some value =>
                cases role : situation.role with
                | none => simp [own?, suppressed, role] at own
                | some kind =>
                    simp only [own?, suppressed, role, split, if_true, if_false,
                      Bool.false_eq_true, Option.some.injEq] at own
                    rw [← own]
      rw [slug?_of_review review] at slugged
      cases slugged

/-- A braced string that is half of a sentence stays. -/
theorem isBracedLiteral_rewritten
    {situation : Situation}
    (split : situation.split = true)
    {node : Node}
    (braced : isBracedLiteral node = true) :
    isBracedLiteral (converter.rewritten place source situation node) = true := by
  obtain ⟨span, inner, value, form⟩ := isBracedLiteral_iff.mp braced
  rw [rewritten_container]
  refine isBracedLiteral_iff.mpr (.intro span _ value ?_)
  rw [unwrapped_rewritten]
  cases unwrapped : inner.unwrapped with
  | mk _ stringSpan parts =>
      rw [unwrapped] at form
      cases form
      let inBraces : Situation := { situation with role := some .bracedLiteral }
      have stillSplit : inBraces.split = true := split
      have kept := converted?_of_split converter place source stillSplit value stringSpan parts
      rw [rewritten_of_kept kept, Node.form_mk]

/-! ## Going down -/

/-- Rewritten children have the same halves of sentences among them. -/
theorem splitChildren_rewrittenFrom
    (converter : Converter)
    (place : Key.Place)
    (source : List Char)
    {descend : Nat → Option Situation}
    (first : Nat)
    {around : Situation}
    {children : List Node}
    (looked : ∀ index, descend (first + index) = some (around.ofChild children index)) :
    splitChildren (converter.rewrittenFrom place source descend first children) =
      splitChildren children := by
  apply splitChildren_congr (length_rewrittenFrom descend first children)
  intro index child other atIndex otherAtIndex
  rw [getElem?_rewrittenFrom, atIndex, looked, Option.map_some, Option.some.injEq]
    at otherAtIndex
  rw [← otherAtIndex]
  exact
    { blank := isBlankText_rewritten _ child
      element := isElement_rewritten _ child
      braced := isBracedLiteral_of_rewritten
      half := fun isHalf braced =>
        isBracedLiteral_rewritten (List.contains_iff_mem.mpr isHalf) braced }

/-- The parts of a node are looked at in the same situations before and after
they are rewritten. -/
theorem descend_rewrittenFrom
    (situation : Situation)
    (form : Form)
    (parts : List Node) :
    situation.descend converter.interest form
        (converter.rewrittenFrom place source
          (situation.descend converter.interest form parts) 0 parts) =
      situation.descend converter.interest form parts := by
  funext index
  cases form with
  | element tag =>
      cases skipped : converter.interest.skippedTags.contains tag with
      | true => simp only [Situation.descend, skipped, if_true]
      | false =>
          cases parts with
          | nil => rfl
          | cons opening children =>
              have looked (index : Nat) :
                  situation.descend converter.interest (.element tag) (opening :: children)
                      (1 + index) =
                    some ((situation.inElement converter.interest tag).ofChild children
                      index) := by
                have notOpening : (1 + index == 0) = false :=
                  beq_eq_false_iff_ne.mpr (by omega)
                have childIndex : 1 + index - 1 = index := by omega
                simp only [Situation.descend, skipped, notOpening, childIndex, if_false,
                  Bool.false_eq_true, List.tail_cons]
              have sameHalves := splitChildren_rewrittenFrom converter place source 1 looked
              rw [Converter.rewrittenFrom]
              simp only [Situation.descend, skipped, if_false, Bool.false_eq_true,
                List.tail_cons, Situation.ofChild] at sameHalves ⊢
              rw [sameHalves]
  | fragment =>
      have looked (index : Nat) :
          situation.descend converter.interest .fragment parts (0 + index) =
            some ({ situation.plain with holder := none, foreign := false }.ofChild parts
              index) := by
        rw [Nat.zero_add]
        rfl
      have sameHalves := splitChildren_rewrittenFrom converter place source 0 looked
      simp only [Situation.descend, Situation.ofChild] at sameHalves ⊢
      rw [sameHalves]
  | call =>
      have sameCallee :
          (converter.rewrittenFrom place source
              (situation.descend converter.interest .call parts) 0 parts).head?.any
              (keepsText converter.interest.lookup) =
            parts.head?.any (keepsText converter.interest.lookup) := by
        cases parts with
        | nil => rfl
        | cons callee others =>
            rw [Converter.rewrittenFrom]
            simp only [List.head?_cons, Option.any_some]
            split
            · exact keepsText_rewritten _ _ callee
            · rfl
      simp only [Situation.descend] at sameCallee ⊢
      rw [sameCallee]
  | _ => rfl

/-! ## Sites of rewritten trees -/

/-- No text is looked for in a lookup. -/
theorem sites_replacementNode
    (situation : Situation)
    (key : String)
    (site : Site)
    (expressions : List Node)
    (span : Span) :
    sites converter.interest source situation
        (replacementNode converter.interest.lookup key site expressions span) = [] := by
  have inCall (around : Situation) :
      sites converter.interest source around
        (lookupNode converter.interest.lookup key site expressions span) = [] := by
    rw [lookupNode, sites_mk, own?_eq_none rfl, Option.toList_none, List.nil_append]
    apply sitesFrom_eq_nil
    intro index
    simp [Situation.descend, keepsText, Node.unwrapped]
  rw [replacementNode]
  split
  · rw [sites_mk, own?_eq_none rfl, Option.toList_none, List.nil_append]
    simp only [Situation.descend, sitesFrom, inCall, List.nil_append]
  · exact inCall situation

/-- A property that rewriting keeps is kept of all parts. -/
theorem map_rewrittenFrom
    (converter : Converter)
    (place : Key.Place)
    (source : List Char)
    {property : Node → α}
    (stays : ∀ situation part,
      property (converter.rewritten place source situation part) = property part)
    (descend : Nat → Option Situation)
    (index : Nat)
    (parts : List Node) :
    (converter.rewrittenFrom place source descend index parts).map property =
      parts.map property := by
  induction parts generalizing index with
  | nil => rfl
  | cons part rest inductionHypothesis =>
      rw [Converter.rewrittenFrom, List.map_cons, List.map_cons, inductionHypothesis]
      cases descend index with
      | none => rfl
      | some situation => exact congrArg (· :: _) (stays situation part)

/-- The site of a node does not depend on whether its parts are rewritten. -/
theorem own?_rewrittenFrom
    (situation : Situation)
    (form : Form)
    (span : Span)
    (descend : Nat → Option Situation)
    (parts : List Node) :
    own? source situation form span
        (converter.rewrittenFrom place source descend 0 parts) =
      own? source situation form span parts := by
  cases form with
  | template chunks =>
      have sameTemplate := template?_congr source situation chunks span
        (map_rewrittenFrom converter place source suggestedName?_rewritten descend 0 parts)
        (map_rewrittenFrom converter place source span_rewritten descend 0 parts)
      simp only [own?, sameTemplate]
  | string value =>
      unfold own?
      cases value with
      | none => rfl
      | some value => cases situation.role <;> rfl
  | _ => rfl

/-- The sites in rewritten parts are those that remain. -/
theorem sitesFrom_rewrittenFrom
    {parts : List Node}
    (inParts : ∀ part ∈ parts, ∀ situation,
      sites converter.interest source situation
          (converter.rewritten place source situation part) =
        converter.remaining place source situation part)
    (descend : Nat → Option Situation)
    (index : Nat) :
    sitesFrom converter.interest source descend index
        (converter.rewrittenFrom place source descend index parts) =
      converter.remainingFrom place source descend index parts := by
  induction parts generalizing index with
  | nil => rfl
  | cons part rest inductionHypothesis =>
      have later := inductionHypothesis
        (fun other inRest => inParts other (List.mem_cons_of_mem _ inRest)) (index + 1)
      rw [Converter.rewrittenFrom, sitesFrom, Converter.remainingFrom, later]
      cases descend index with
      | none => rfl
      | some situation => exact congrArg (· ++ _) (inParts part List.mem_cons_self situation)

/-- The sites of a rewritten tree are those that remain in the tree. -/
theorem sites_rewritten
    (situation : Situation)
    (node : Node) :
    sites converter.interest source situation
        (converter.rewritten place source situation node) =
      converter.remaining place source situation node := by
  induction node using Node.induction generalizing situation with
  | step form span parts inside =>
      rw [Converter.remaining]
      cases converted : converter.converted? place source situation form span parts with
      | none =>
          rw [rewritten_of_kept converted, sites_mk, own?_rewrittenFrom, descend_rewrittenFrom,
            sitesFrom_rewrittenFrom inside]
      | some conversion =>
          rw [rewritten_of_converted converted, sites_replacementNode]

end Keying
end KeyedText
