import KeyedText.Proofs.Keying.Fusion
import KeyedText.Proofs.Text.Collapse

/-!
# What is displayed between tags

A call stands for its text, and the layout around a converted text stays, with the line
feeds that the call lacks in front of what is behind it.  So the words of the text stay,
and a space at one of its ends stays if layout is displayed there before and after.
-/

namespace KeyedText
namespace Keying

open Source

/-! ## Children -/

/-- The children of an element or of a fragment. -/
def children : Node → List Node
  | .mk (.element _) _ parts => parts.tail
  | .mk .fragment _ parts => parts
  | _ => []

/-- What is shown between tags: characters, and nodes that are no text. -/
inductive Shown where
  /-- A character. -/
  | character (letter : Char)
  /-- A child that stands for itself. -/
  | child (node : Node)

/-- Whether a thing shown between tags is layout. -/
def Shown.isLayout : Shown → Bool
  | character letter => Character.isLayout letter
  | child _ => false

/-- The text of a string or template; in a template names stand for the expressions. -/
def writtenText? : Node → Option (List Char)
  | .mk (.string (some value)) _ _ => some value.toList
  | .mk (.template chunks) _ expressions =>
    (chunks.mapM id).map fun valid =>
      Site.filledWith (valid.map String.toList) (Site.templateNames expressions).2
  | _ => none

/-- What a child shows, given what is displayed of text between tags at a span, and what a string
or template at a span shows. -/
def shown (between : String → Span → List Char) (braced : List Char → Span → List Char) :
    Node → List Shown
  | .mk (.elementText value) span _ => (between value span).map .character
  | .mk .container _ [] => []
  | .mk .container span [inner] =>
    match writtenText? inner.unwrapped with
    | some written => (braced written inner.unwrapped.span).map .character
    | none => [.child (.mk .container span [inner])]
  | node => [.child node]

/-- What a child shows in a source text. -/
def shownBefore : Node → List Shown :=
  shown (fun value _ => Text.displayed value.toList) fun written _ => written

/-- Things shown between tags with every run of layout collapsed to one space. -/
def collapsedShown (things : List Shown) : List Shown :=
  Text.collapsed Shown.isLayout (.character ' ') things

/-! ## Converted children -/

/-- The conversion at a span. -/
def conversionAt? (made : List Conversion) (span : Span) : Option Conversion :=
  made.find? fun conversion => conversion.span = span

/-- The layout in front of a text between tags. -/
def layoutInFront (text : List Char) (span : Span) : List Char :=
  (span.slice text).takeWhile Character.isLayout

section Converter

variable
    (converter : Converter)
    (place : Key.Place)
    (text : List Char)

/-- What stands between tags behind the call that replaces a text: the line feeds that it lacks and
the layout behind the text. -/
def layoutBehind (conversion : Conversion) (span : Span) : List Char :=
  (conversion.edit converter.interest.lookup place).retained text ++
    (span.slice text).rtakeWhile Character.isLayout

/-- What a child shows once conversions are made, each call standing for its text. -/
def shownAfter (made : List Conversion) : Node → List Shown :=
  shown
    (fun value span =>
      match conversionAt? made (Site.proseSpan text span) with
      | some conversion =>
        Text.displayed (layoutInFront text span) ++
          (conversion.site.text ++
            Text.displayed (layoutBehind converter place text conversion span))
      | none => Text.displayed value.toList)
    fun written span =>
      match conversionAt? made span with
      | some conversion => conversion.site.text
      | none => written

/-- Whether layout is displayed at the same ends of a text and of what replaces it.  It is not if
character references spell layout at an end, which is trimmed with the text but not left around the
call, or if line feeds are added in front of layout that is displayed. -/
def KeepsEnds (made : List Conversion) : Node → Prop
  | .mk (.elementText value) span _ =>
    ∀ conversion ∈ conversionAt? made (Site.proseSpan text span),
      Text.isDisplayed (value.toList.takeWhile Character.isLayout) =
          Text.isDisplayed (layoutInFront text span) ∧
        Text.isDisplayed (value.toList.rtakeWhile Character.isLayout) =
          Text.isDisplayed (layoutBehind converter place text conversion span)
  | _ => True

instance (made : List Conversion) (child : Node) :
    Decidable (KeepsEnds converter place text made child) := by
  unfold KeepsEnds
  split <;> infer_instance

end Converter

/-! ## Sites of children -/

section Sites

variable
    {source : List Char}
    {situation : Site.Situation}
    {site : Site}

/-- The site of a string or template has its text. -/
theorem writtenText?_of_own?
    {node : Node}
    (notBetween : node.form.isElementText = false)
    (own : Site.own? source situation node.form node.span node.parts = some site) :
    writtenText? node = some site.text := by
  obtain ⟨form, span, parts⟩ := node
  unfold Site.own? at own
  split at own
  · cases own
  · split at own
    · next isForm _ =>
        cases isForm
        dsimp only at own
        split at own <;>
          · cases own
            rfl
    · next isForm =>
        cases isForm
        cases notBetween
    · next isForm =>
        cases isForm
        unfold Site.template? at own
        split at own
        · next valid _ _ isValid isParts =>
            cases own
            cases isParts
            rw [writtenText?, isValid]
            rfl
        · cases own
    · cases own

variable
    {interest : Site.Interest}
    {program node : Node}
    (placed : program.All (Node.Placed source))
    (has : program.Has node)

include placed has

theorem nonempty_of_own
    (own : Site.own? source situation node.form node.span node.parts = some site) :
    site.span.start < site.span.stop := by
  obtain ⟨form, span, parts⟩ := node
  exact Site.nonempty_of_own? (placed.of_has has) own

/-- A site is found by the node that has its text where the site is. -/
theorem own?_of_span_eq
    (holdsText : node.form.holdsText = true)
    (isSite : site ∈ Site.collect interest source program)
    (covers : site.span = Site.textSpan source node.form node.span) :
    ∃ situation, Site.own? source situation node.form node.span node.parts = some site := by
  obtain ⟨owner, hasOwner, situation, own⟩ := Site.exists_node_of_mem_collect isSite
  obtain ⟨ownerHolds, ownerCovers⟩ := Site.form_and_span_of_own? own
  have nonempty := nonempty_of_own placed hasOwner own
  rw [ownerCovers] at covers nonempty
  have isNode := Node.eq_of_textSpan_eq placed hasOwner has ownerHolds holdsText covers nonempty
  subst isNode
  exact ⟨situation, own⟩

/-- A site beside that of a text between tags is beside the layout of the text as well. -/
theorem beside_of_beside_site
    (isText : node.form.isElementText = true)
    (own : Site.own? source situation node.form node.span node.parts = some site)
    {other : Site}
    (isOther : other ∈ Site.collect interest source program) :
    (other.span.before site.span → other.span.before node.span) ∧
      (site.span.before other.span → node.span.before other.span) := by
  obtain ⟨owner, hasOwner, otherSituation, ownOther⟩ := Site.exists_node_of_mem_collect isOther
  obtain ⟨ownerHolds, ownerCovers⟩ := Site.form_and_span_of_own? ownOther
  obtain ⟨holdsText, covers⟩ := Site.form_and_span_of_own? own
  have nonempty := nonempty_of_own placed has own
  have otherNonempty := nonempty_of_own placed hasOwner ownOther
  have inNode := Site.textSpan_within source node.form ((placed.of_has has).ordered holdsText)
  have outside (apart : site.span.Apart other.span) : node.span.Apart other.span := by
    rw [covers, ownerCovers] at apart
    rw [covers] at nonempty
    rw [ownerCovers]
    exact Node.apart_of_textSpan_apart placed has hasOwner isText ownerHolds nonempty apart
  rw [← covers] at inNode
  simp only [Span.Apart, Span.before, Span.within] at outside inNode ⊢
  omega

end Sites

/-! ## What is shown before and after -/

theorem collapsedShown_characters
    (text : List Char) :
    collapsedShown (text.map .character) =
      (Text.collapsed Character.isLayout ' ' text).map .character :=
  Text.collapsedFrom_map Shown.character rfl false text

theorem collapsedShown_characters_eq_iff
    {first second : List Char} :
    collapsedShown (first.map .character) = collapsedShown (second.map .character) ↔
      Text.collapsed Character.isLayout ' ' first =
        Text.collapsed Character.isLayout ' ' second := by
  rw [collapsedShown_characters, collapsedShown_characters]
  exact (List.map_injective_iff.mpr fun _ _ same => Shown.character.inj same).eq_iff

theorem holdsText_of_writtenText?
    {node : Node}
    {written : List Char}
    (isWritten : writtenText? node = some written) :
    node.form.holdsText = true ∧ node.form.isElementText = false := by
  unfold writtenText? at isWritten
  split at isWritten
  · exact ⟨rfl, rfl⟩
  · exact ⟨rfl, rfl⟩
  · cases isWritten

theorem isLayout_layoutInFront
    (text : List Char)
    (span : Span) :
    ∀ character ∈ layoutInFront text span, Character.isLayout character = true :=
  fun _ isIn => List.mem_takeWhile_imp isIn

theorem isLayout_layoutBehind
    (converter : Converter)
    (place : Key.Place)
    (text : List Char)
    (conversion : Conversion)
    (span : Span) :
    ∀ character ∈ layoutBehind converter place text conversion span,
      Character.isLayout character = true := by
  intro character isIn
  rcases List.mem_append.mp isIn with isFeed | isLayout
  · rw [(List.mem_replicate.mp isFeed).2]
    rfl
  · rw [List.rtakeWhile, List.mem_reverse] at isLayout
    exact List.mem_takeWhile_imp isLayout

section Children

variable
    {converter : Converter}
    {place : Key.Place}
    {text : List Char}
    {program : Node}

theorem conversion_of_conversionAt?
    {made : List Conversion}
    {span : Span}
    {conversion : Conversion}
    (isThere : conversionAt? made span = some conversion) :
    conversion ∈ made ∧ conversion.span = span :=
  ⟨List.mem_of_find?_eq_some isThere,
    of_decide_eq_true
      (List.find?_some (p := fun conversion : Conversion => conversion.span = span) isThere)⟩

variable (placed : program.All (Node.Placed text))

include placed

/-- The conversion at the text of a node is one of its site. -/
theorem own?_of_conversionAt?
    {node : Node}
    (has : program.Has node)
    (holdsText : node.form.holdsText = true)
    {conversion : Conversion}
    (isThere : conversionAt? (converter.made place text program)
      (Site.textSpan text node.form node.span) = some conversion) :
    ∃ situation,
      Site.own? text situation node.form node.span node.parts = some conversion.site := by
  obtain ⟨isMade, covers⟩ := conversion_of_conversionAt? isThere
  exact own?_of_span_eq placed has holdsText (site_mem_of_mem_conversions isMade) covers

/-- What is no text between tags shows the same before and after. -/
theorem shownAfter_eq_shownBefore
    {child : Node}
    (has : program.Has child)
    (notBetween : child.form.isElementText = false) :
    shownAfter converter place text (converter.made place text program) child =
      shownBefore child := by
  fun_cases shown (fun value _ => Text.displayed value.toList) (fun written _ => written) child with
  | case1 value span parts => cases notBetween
  | case2 => rfl
  | case3 span inner written isWritten =>
      obtain ⟨holdsText, isBraced⟩ := holdsText_of_writtenText? isWritten
      have isWhole : Site.textSpan text inner.unwrapped.form inner.unwrapped.span =
          inner.unwrapped.span := by
        rw [Site.textSpan, isBraced, if_neg Bool.false_ne_true]
      simp only [shownAfter, shownBefore, shown, isWritten]
      cases isThere : conversionAt? (converter.made place text program) inner.unwrapped.span with
      | none => rfl
      | some conversion =>
          have hasInner := (has.part List.mem_cons_self).trans (Node.has_unwrapped inner)
          rw [← isWhole] at isThere
          obtain ⟨situation, own⟩ := own?_of_conversionAt? placed hasInner holdsText isThere
          have sameText := (writtenText?_of_own? isBraced own).symm.trans isWritten
          exact congrArg (List.map Shown.character) (Option.some.inj sameText)
  | case4 span inner notWritten => simp only [shownAfter, shownBefore, shown, notWritten]
  | case5 node notText notEmpty notBraces =>
      rw [shownAfter, shownBefore, shown, shown] <;> assumption

/-- A child shows the same before and after, runs of layout aside, exactly if it keeps the layout
that is displayed at its ends. -/
theorem collapsedShown_eq_iff
    {child : Node}
    (has : program.Has child) :
    collapsedShown (shownBefore child) =
        collapsedShown
          (shownAfter converter place text (converter.made place text program) child) ↔
      KeepsEnds converter place text (converter.made place text program) child := by
  by_cases isText : child.form.isElementText = true
  · obtain ⟨form, span, parts⟩ := child
    cases form with
    | elementText value =>
        simp only [shownAfter, shownBefore, shown, KeepsEnds]
        cases isThere : conversionAt? (converter.made place text program)
            (Site.proseSpan text span) with
        | none => simp
        | some conversion =>
            obtain ⟨situation, own⟩ := own?_of_conversionAt? placed has rfl isThere
            obtain ⟨-, words, wordy⟩ := Site.site_of_elementText own
            rw [words] at wordy
            dsimp only
            rw [words, collapsedShown_characters_eq_iff,
              Text.collapsed_displayed_eq_iff wordy (isLayout_layoutInFront text span)
                (isLayout_layoutBehind converter place text conversion span)]
            simp
    | _ => cases isText
  · have notText := Bool.eq_false_iff.mpr isText
    rw [shownAfter_eq_shownBefore placed has notText]
    unfold KeepsEnds
    split
    · cases notText
    · simp

/-- Children show the same before and after, runs of layout aside, if each of them keeps the layout
that is displayed at its ends. -/
theorem collapsedShown_children
    {node : Node}
    (has : program.Has node)
    (keeps : ∀ child ∈ children node,
      KeepsEnds converter place text (converter.made place text program) child) :
    collapsedShown ((children node).flatMap shownBefore) =
      collapsedShown ((children node).flatMap
        (shownAfter converter place text (converter.made place text program))) := by
  refine Text.collapsed_flatMap_congr rfl fun child isChild => ?_
  have isPart : child ∈ node.parts := by
    unfold children at isChild
    split at isChild
    · exact List.mem_of_mem_tail isChild
    · exact isChild
    · cases isChild
  exact (collapsedShown_eq_iff placed (has.part isPart)).mpr (keeps child isChild)

end Children

/-! ## Layout around sites -/

theorem visible_of_proseSpan
    {text : List Char}
    {span : Span}
    (nonempty : (Site.proseSpan text span).start < (Site.proseSpan text span).stop) :
    Text.trimmedBy Character.isLayout (span.slice text) ≠ [] := by
  intro nothing
  simp [Site.proseSpan, nothing] at nonempty

/-- The layout around a text is what is outside of its site. -/
theorem slices_around_proseSpan
    {text : List Char}
    {span : Span}
    (ordered : span.start ≤ span.stop)
    (visible : Text.trimmedBy Character.isLayout (span.slice text) ≠ []) :
    Span.slice ⟨span.start, (Site.proseSpan text span).start⟩ text = layoutInFront text span ∧
      Span.slice ⟨(Site.proseSpan text span).stop, span.stop⟩ text =
        (span.slice text).rtakeWhile Character.isLayout := by
  obtain ⟨startsBehind, stopsBefore⟩ := Site.proseSpan_within text ordered
  have front : Span.slice ⟨span.start, (Site.proseSpan text span).start⟩ text =
      layoutInFront text span := by
    have isPrefix := List.takeWhile_prefix Character.isLayout (l := span.slice text)
    have inside : (Site.proseSpan text span).start - span.start ≤ span.stop - span.start := by
      have reaches := Site.proseSpan_ordered text span
      omega
    have length : (Site.proseSpan text span).start - span.start =
        ((span.slice text).takeWhile Character.isLayout).length :=
      Nat.add_sub_cancel_left ..
    rw [layoutInFront, List.prefix_iff_eq_take.mp isPrefix, ← length, Span.slice, Span.slice,
      List.take_take, Nat.min_eq_left inside]
  refine ⟨front, ?_⟩
  have cut := Text.eq_append_trimmedBy visible
  have whole := slice_append text startsBehind
    (Nat.le_trans (Site.proseSpan_ordered text span) stopsBefore)
  have prose : Span.slice ⟨(Site.proseSpan text span).start, (Site.proseSpan text span).stop⟩ text =
      Text.trimmedBy Character.isLayout (span.slice text) :=
    slice_proseSpan text span
  rw [front, slice_append text (Site.proseSpan_ordered text span) stopsBefore, prose] at whole
  exact List.append_cancel_left (List.append_cancel_left (whole.symm.trans cut))

/-! ## Whole conversions -/

/-- How a converted text between tags stands in an outcome. -/
structure Outcome.Displays
    (converter : Converter)
    (place : Key.Place)
    (source : List Char)
    (made : List Conversion)
    (value : String)
    (span : Span)
    (conversion : Conversion)
    (outcome : Outcome) : Prop where
  /-- In the place of the text the outcome has the layout in front, the call in braces, the line
  feeds that it lacks, and the layout behind. -/
  stands : ∃ earlier later,
    made = earlier ++ conversion :: later ∧
      outcome.output =
        replaced ((withoutMark source).take span.start) 0
            (insertions converter place source earlier) ++
          (layoutInFront (withoutMark source) span ++
            (replacement converter.interest.lookup (place.key conversion.slug) conversion.site ++
              (layoutBehind converter place (withoutMark source) conversion span ++
                replaced (withoutMark source) span.stop
                  (insertions converter place source later))))
  /-- The call stands in braces. -/
  braced : conversion.site.kind.needsBraces = true
  /-- The call stands for the words of the text. -/
  words : conversion.site.text = Text.collapseSpacing value.toList

section Displays

variable
    {converter : Converter}
    {place : Key.Place}
    {source : List Char}
    {program : Node}
    (placed : program.All (Node.Placed (withoutMark source)))
    {value : String}
    {span : Span}
    {parts : List Node}
    (has : program.Has (.mk (.elementText value) span parts))
    {conversion : Conversion}

include placed has

/-- Other conversions are made in front of the layout around a converted text, or behind it. -/
theorem insertions_beside
    {situation : Site.Situation}
    (own : Site.own? (withoutMark source) situation (.elementText value) span parts =
      some conversion.site)
    {earlier later : List Conversion}
    (bounded : ∀ other ∈ earlier ++ conversion :: later,
      other.span.start ≤ other.span.stop ∧ other.span.stop ≤ (withoutMark source).length)
    (disjoint : (earlier ++ conversion :: later).Pairwise
      fun left right => left.span.before right.span)
    (collected : ∀ other ∈ earlier ++ conversion :: later,
      other.site ∈ Site.collect converter.interest (withoutMark source) program) :
    (∀ edit ∈ insertions converter place source earlier,
        edit.1.start ≤ edit.1.stop ∧ edit.1.stop ≤ span.start) ∧
      ∀ edit ∈ insertions converter place source later, span.stop ≤ edit.1.start := by
  obtain ⟨-, laterDisjoint, earlierBefore⟩ := List.pairwise_append.mp disjoint
  constructor
  · refine List.forall_mem_map.mpr fun other isEarlier => ?_
    have member : other ∈ earlier ++ conversion :: later := List.mem_append_left _ isEarlier
    refine ⟨(bounded other member).1, ?_⟩
    exact (beside_of_beside_site placed has rfl own (collected other member)).1
      (earlierBefore other isEarlier conversion List.mem_cons_self)
  · refine List.forall_mem_map.mpr fun other isLater => ?_
    have member : other ∈ earlier ++ conversion :: later :=
      List.mem_append_right _ (List.mem_cons_of_mem _ isLater)
    exact (beside_of_beside_site placed has rfl own (collected other member)).2
      (List.rel_of_pairwise_cons laterDisjoint isLater)

/-- In the place of a converted text stands its call between the layout around it. -/
theorem displays_of_conversionAt?
    {outcome : Outcome}
    (accounts : Accounts converter place source
      (Site.collect converter.interest (withoutMark source) program) outcome)
    (isThere : conversionAt? (converter.made place (withoutMark source) program)
      (Site.proseSpan (withoutMark source) span) = some conversion) :
    outcome.Displays converter place source
      (converter.made place (withoutMark source) program) value span conversion := by
  obtain ⟨isMade, covers⟩ := conversion_of_conversionAt? isThere
  obtain ⟨situation, own⟩ := own?_of_conversionAt? placed has rfl isThere
  obtain ⟨isKind, words, -⟩ := Site.site_of_elementText own
  have braced : conversion.site.kind.needsBraces = true := by
    rw [isKind]
    rfl
  refine ⟨?_, braced, words⟩
  obtain ⟨earlier, later, split⟩ := List.append_of_mem isMade
  refine ⟨earlier, later, split, ?_⟩
  obtain ⟨bounded, disjoint, output⟩ := accounts.around split
  obtain ⟨earlierInFront, laterBehind⟩ :=
    insertions_beside placed has own bounded disjoint (mem_collect_of_made split)
  have ordered : span.start ≤ span.stop := (placed.of_has has).ordered rfl
  have nonempty : conversion.span.start < conversion.span.stop := nonempty_of_own placed has own
  rw [covers] at nonempty
  obtain ⟨startsBehind, stopsBefore⟩ := Site.proseSpan_within (withoutMark source) ordered
  obtain ⟨inFront, behind⟩ := slices_around_proseSpan ordered (visible_of_proseSpan nonempty)
  rw [covers] at output
  rw [output, replaced_take earlierInFront startsBehind, inFront,
    replaced_of_gap stopsBefore laterBehind, behind, Edit.filling, layoutBehind]
  simp only [List.append_assoc]
  rfl

end Displays

/-- Between tags the same is displayed before and after a conversion, runs of layout aside, as far
as converted texts keep the layout that is displayed at their ends. -/
theorem convert_displays
    (converter : Converter)
    (path : String)
    (place : Key.Place)
    (source : List Char)
    (program : Node)
    (read : readProgram (withoutMark source) = .ok program)
    (placed : program.All (Node.Placed (withoutMark source))) :
    ∃ outcome, converter.convert path place source = .ok outcome ∧
      let text := withoutMark source
      let made := converter.made place text program
      (program.All fun child => ∀ value, child.form = .elementText value →
        ∀ conversion ∈ conversionAt? made (Site.proseSpan text child.span),
          outcome.Displays converter place source made value child.span conversion) ∧
      (program.All fun child =>
        collapsedShown (shownBefore child) =
            collapsedShown (shownAfter converter place text made child) ↔
          KeepsEnds converter place text made child) ∧
      (program.All fun node =>
        (∀ child ∈ children node, KeepsEnds converter place text made child) →
          collapsedShown ((children node).flatMap shownBefore) =
            collapsedShown ((children node).flatMap
              (shownAfter converter place text made))) := by
  obtain ⟨outcome, isOutcome, accounts⟩ :=
    convert_accounts converter path place source program read placed.laid
  refine ⟨outcome, isOutcome, ?_, ?_, ?_⟩
  · refine Node.all_of_has fun child has value isText conversion isThere => ?_
    obtain ⟨form, span, parts⟩ := child
    subst isText
    exact displays_of_conversionAt? placed has accounts isThere
  · exact Node.all_of_has fun child has => collapsedShown_eq_iff placed has
  · exact Node.all_of_has fun node has keeps => collapsedShown_children placed has keeps

/-- A source text with a space in front of an element that a character reference spells, and with a
text on two lines in front of a space and an element. -/
def spacedSource : List Char :=
  "<p>Good day&#32;<b>dear guests</b> and\n all <i>2</i></p>;".toList

/-- The source text with its conversions. -/
def spacedOutput : List Char :=
  "<p>\x7bt('features:app.good_day', \x7b defaultValue: 'Good day' \x7d)\x7d<b>".toList
    ++ "\x7bt('features:app.dear_guests', \x7b defaultValue: 'dear guests' \x7d)\x7d</b> ".toList
    ++ "\x7bt('features:app.all', \x7b defaultValue: 'and all' \x7d)\x7d\n <i>2</i></p>;".toList

/-- The outer element loses the spaces in front of the inner ones, which keep their text. -/
theorem convert_displays_for_spacedSource :
    ∃ program outcome,
      readProgram (withoutMark spacedSource) = .ok program ∧
      program.All (Node.Placed (withoutMark spacedSource)) ∧
      plainConverter.convert "App.tsx" ⟨"features", "app"⟩ spacedSource = .ok outcome ∧
      outcome.output = spacedOutput ∧
      let text := withoutMark spacedSource
      let made := plainConverter.made ⟨"features", "app"⟩ text program
      (program.All fun child => ∀ value, child.form = .elementText value →
        ∀ conversion ∈ conversionAt? made (Site.proseSpan text child.span),
          outcome.Displays plainConverter ⟨"features", "app"⟩ spacedSource made value child.span
            conversion) ∧
      (program.All fun node => node.form ≠ .element "p" →
        collapsedShown ((children node).flatMap shownBefore) =
          collapsedShown ((children node).flatMap
            (shownAfter plainConverter ⟨"features", "app"⟩ text made))) ∧
      ¬program.All fun node =>
        collapsedShown ((children node).flatMap shownBefore) =
          collapsedShown ((children node).flatMap
            (shownAfter plainConverter ⟨"features", "app"⟩ text made)) := by
  have noMark : withoutMark spacedSource = spacedSource := by decide +kernel
  obtain ⟨program, read, checked⟩ := exists_ok_of_any (readProgram spacedSource)
    (fun program : Node =>
      let sites := Site.sites plainConverter.interest spacedSource .outermost program
      let made := conversions (plainConverter.course ⟨"features", "app"⟩ .start sites)
      let edits := editsOf sites
      decide (program.All (Node.Placed spacedSource))
        && decide (program.All fun node => node.form ≠ .element "p" →
          ∀ child ∈ children node,
            KeepsEnds plainConverter ⟨"features", "app"⟩ spacedSource made child)
        && !decide (program.All fun node =>
          (collapsedShown ((children node).flatMap shownBefore)).length =
            (collapsedShown ((children node).flatMap
              (shownAfter plainConverter ⟨"features", "app"⟩ spacedSource made))).length)
        && decide (edits.Pairwise fun left right : Edit => left.precedes right = true)
        && !edits.isEmpty
        && decide (spliceFrom spacedSource 0 edits = spacedOutput))
    (by decide +kernel)
  simp only [Bool.and_eq_true, decide_eq_true_eq, Bool.not_eq_true',
    decide_eq_false_iff_not] at checked
  obtain ⟨⟨⟨⟨⟨placed, keeps⟩, loses⟩, sorted⟩, edited⟩, spliced⟩ := checked
  rw [← noMark] at read placed keeps loses
  rw [← Site.collect_eq_sites placed, ← Converter.made] at keeps loses
  obtain ⟨outcome, isOutcome, displays, -, same⟩ := convert_displays plainConverter "App.tsx"
    ⟨"features", "app"⟩ spacedSource program read placed
  have output : outcome.output = spacedOutput :=
    (output_eq_spliceFrom_editsOf noMark read placed isOutcome sorted edited).trans spliced
  refine ⟨program, outcome, read, placed, isOutcome, output, displays, ?_, fun unchanged => ?_⟩
  · exact Node.all_of_has fun node has notOuter =>
      same.of_has has (keeps.of_has has notOuter)
  · exact loses (unchanged.mono fun _ isSame => congrArg List.length isSame)

end Keying
end KeyedText
