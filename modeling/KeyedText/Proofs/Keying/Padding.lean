import KeyedText.Proofs.Keying.Fusion
import KeyedText.Proofs.Source.Continuation

/-!
# Padding behind calls

A call is followed by the line feeds that it lacks, whatever stands behind its site.  A
token that goes on with an expression only on the line on which this ends is cut off by
them.
-/

namespace KeyedText
namespace Keying

open Source

/-! ## Sites in front of tokens -/

/-- Whether no node of a program that holds text starts between a node that does and the end of a
token that stays on its line. -/
def ClearBehind (text : List Char) (program node : Node) : Prop :=
  node.form.holdsText = true →
    ∀ token ∈ continuation? text (Site.textSpan text node.form node.span).stop,
      program.All fun other => other.form.holdsText = true →
        (Site.textSpan text node.form node.span).stop ≤
            (Site.textSpan text other.form other.span).start →
          token.stop ≤ (Site.textSpan text other.form other.span).start

instance (text : List Char) (program node : Node) : Decidable (ClearBehind text program node) :=
  inferInstanceAs (Decidable (_ → ∀ token ∈ continuation? text _, _))

section Sites

variable
    {interest : Site.Interest}
    {text : List Char}
    {program : Node}

/-- No site starts between a site and the end of a token that stays on its line. -/
theorem stop_le_of_clearBehind
    (clear : program.All (ClearBehind text program))
    {site other : Site}
    (isSite : site ∈ Site.collect interest text program)
    (isOther : other ∈ Site.collect interest text program)
    {token : Continuation}
    (follows : continuation? text site.span.stop = some token)
    (behind : site.span.stop ≤ other.span.start) :
    token.stop ≤ other.span.start := by
  obtain ⟨node, has, _, own⟩ := Site.exists_node_of_mem_collect isSite
  obtain ⟨holdsText, covers⟩ := Site.form_and_span_of_own? own
  rw [covers] at follows behind
  have noneStarts := clear.of_has has holdsText token follows
  obtain ⟨otherNode, hasOther, _, otherOwn⟩ := Site.exists_node_of_mem_collect isOther
  obtain ⟨otherHolds, otherCovers⟩ := Site.form_and_span_of_own? otherOwn
  rw [otherCovers] at behind ⊢
  exact noneStarts.of_has hasOther otherHolds behind

end Sites

/-! ## Whole conversions -/

/-- What stands in an output between the call of a conversion and a token behind its site. -/
def behindCall
    (converter : Converter)
    (place : Key.Place)
    (text : List Char)
    (conversion : Conversion)
    (token : Continuation) : List Char :=
  (conversion.edit converter.interest.lookup place).retained text ++
    Span.slice ⟨conversion.span.stop, token.start⟩ text

/-- How a token that stays on the line of a converted site stands in an outcome, behind the call and
what is in front of the site. -/
structure Outcome.Continues
    (converter : Converter)
    (place : Key.Place)
    (source : List Char)
    (earlier : List Conversion)
    (conversion : Conversion)
    (token : Continuation)
    (outcome : Outcome) : Prop where
  /-- The call is followed by the line feeds that it lacks, what was in front of the token, and the
  token. -/
  stands : ∃ back,
    outcome.output =
      replaced ((withoutMark source).take conversion.span.start) 0
          (insertions converter place source earlier) ++
        (replacement converter.interest.lookup (place.key conversion.slug) conversion.site ++
          (behindCall converter place (withoutMark source) conversion token ++
            (Span.slice ⟨token.start, token.stop⟩ (withoutMark source) ++ back)))
  /-- In the source text no line ends between the site and the token. -/
  intact : ∀ character ∈ Span.slice ⟨conversion.span.stop, token.start⟩ (withoutMark source),
    isLineTerminator character = false
  /-- A line ends between the call and the token exactly if the site has line feeds outside of its
  interpolated expressions. -/
  breaks :
    (∃ character ∈ behindCall converter place (withoutMark source) conversion token,
        isLineTerminator character = true) ↔
      interpolatedFeeds conversion.site < lineFeeds (conversion.span.slice (withoutMark source))

/-- A token that stays on the line of a converted site is cut off from the call exactly if the site
has line feeds outside of its interpolated expressions. -/
theorem padding_cuts_continuations
    (converter : Converter)
    (path : String)
    (place : Key.Place)
    (source : List Char)
    (program : Node)
    (read : readProgram (withoutMark source) = .ok program)
    (placed : program.All (Node.Placed (withoutMark source)))
    (spelled : program.All fun node => spells (withoutMark source) node = true)
    (clear : program.All (ClearBehind (withoutMark source) program))
    (unbroken : '\n' ∉ converter.interest.lookup.toList) :
    ∃ outcome, converter.convert path place source = .ok outcome ∧
      ∀ earlier conversion later,
        converter.made place (withoutMark source) program = earlier ++ conversion :: later →
          ∀ token, continuation? (withoutMark source) conversion.span.stop = some token →
            outcome.Continues converter place source earlier conversion token := by
  obtain ⟨outcome, isOutcome, accounts⟩ :=
    convert_accounts converter path place source program read placed.laid
  refine ⟨outcome, isOutcome, fun earlier conversion later isMade token follows => ?_⟩
  obtain ⟨-, disjoint, output⟩ := accounts.around isMade
  have isMember : conversion ∈ earlier ++ conversion :: later :=
    List.mem_append_right _ List.mem_cons_self
  have isCollected := mem_collect_of_made isMade
  obtain ⟨fromStop, fromStart, intact⟩ := unbroken_of_continuation? follows
  have covers := covers_of_mem_collect placed spelled (isCollected conversion isMember)
  refine ⟨?_, intact, ?_⟩
  · -- No later conversion starts in front of the end of the token.
    have laterBehind : ∀ edit ∈ insertions converter place source later,
        token.stop ≤ edit.1.start := by
      refine List.forall_mem_map.mpr fun other isLater => ?_
      have inList : other ∈ earlier ++ conversion :: later :=
        List.mem_append_right _ (List.mem_cons_of_mem _ isLater)
      exact stop_le_of_clearBehind clear (isCollected conversion isMember) (isCollected other inList)
        follows
        (List.rel_of_pairwise_cons (List.pairwise_append.mp disjoint).2.1 isLater)
    rw [output, replaced_of_gap (Nat.le_trans fromStop fromStart) laterBehind,
      slice_append _ fromStop fromStart, Edit.filling, behindCall]
    simp only [List.append_assoc]
    exact ⟨_, rfl⟩
  · have feeds : lineFeeds (replacement converter.interest.lookup (place.key conversion.slug)
        conversion.site) = interpolatedFeeds conversion.site :=
      lineFeeds_replacement unbroken _ covers.named
    rw [← feeds, behindCall, Edit.retained]
    constructor
    · rintro ⟨character, isBehind, ends⟩
      rcases List.mem_append.mp isBehind with isFeed | inGap
      · exact Nat.lt_of_sub_ne_zero (List.mem_replicate.mp isFeed).1
      · rw [intact character inGap] at ends
        cases ends
    · intro fewer
      refine ⟨'\n', List.mem_append_left _ (List.mem_replicate.mpr ⟨?_, rfl⟩), rfl⟩
      exact Nat.sub_ne_zero_of_lt fewer

/-- A source text with a template that ends on a later line than it starts, in front of a type
assertion. -/
def assertedSource : List Char :=
  "const s = \x60Hello\n$\x7bname\x7d there\x60 as string;".toList

/-- The source text with its conversion. -/
def assertedOutput : List Char :=
  "const s = t('features:app.hello_name_there', ".toList
    ++ "\x7b defaultValue: 'Hello\\n\x7b\x7bname\x7d\x7d there', name: name \x7d)\n".toList
    ++ " as string;".toList

/-- The type assertion is cut off from the call, so the output is no program. -/
theorem padding_cuts_continuations_for_assertedSource :
    ∃ program conversion outcome,
      readProgram (withoutMark assertedSource) = .ok program ∧
      program.All (Node.Placed (withoutMark assertedSource)) ∧
      (program.All fun node => spells (withoutMark assertedSource) node = true) ∧
      program.All (ClearBehind (withoutMark assertedSource) program) ∧
      '\n' ∉ plainConverter.interest.lookup.toList ∧
      plainConverter.made ⟨"features", "app"⟩ (withoutMark assertedSource) program =
        [conversion] ∧
      conversion.site.kind.category = .templates ∧
      continuation? (withoutMark assertedSource) conversion.span.stop = some ⟨32, 34⟩ ∧
      plainConverter.convert "App.tsx" ⟨"features", "app"⟩ assertedSource = .ok outcome ∧
      outcome.Continues plainConverter ⟨"features", "app"⟩ assertedSource [] conversion
        ⟨32, 34⟩ ∧
      (∃ character ∈ behindCall plainConverter ⟨"features", "app"⟩ (withoutMark assertedSource)
        conversion ⟨32, 34⟩, isLineTerminator character = true) ∧
      outcome.output = assertedOutput ∧
      (readProgram (withoutMark outcome.output)).toOption = none := by
  have noMark : withoutMark assertedSource = assertedSource := by decide +kernel
  obtain ⟨program, read, checked⟩ := exists_ok_of_any (readProgram assertedSource)
    (fun program : Node =>
      let sites := Site.sites plainConverter.interest assertedSource .outermost program
      let edits := editsOf sites
      decide (program.All (Node.Placed assertedSource))
        && decide (program.All fun node => spells assertedSource node = true)
        && decide (program.All (ClearBehind assertedSource program))
        && decide (edits.Pairwise fun left right : Edit => left.precedes right = true)
        && !edits.isEmpty
        && decide (spliceFrom assertedSource 0 edits = assertedOutput)
        && decide (((conversions (plainConverter.course ⟨"features", "app"⟩ .start sites)).map
          fun conversion =>
            (conversion.site.kind.category,
              continuation? assertedSource conversion.span.stop,
              lineFeeds (conversion.span.slice assertedSource),
              interpolatedFeeds conversion.site)) =
            [(.templates, some ⟨32, 34⟩, 1, 0)]))
    (by decide +kernel)
  simp only [Bool.and_eq_true, decide_eq_true_eq, Bool.not_eq_true'] at checked
  obtain ⟨⟨⟨⟨⟨⟨placed, spelled⟩, clear⟩, sorted⟩, edited⟩, spliced⟩, isConverted⟩ := checked
  rw [← noMark] at read placed spelled clear isConverted
  rw [← Site.collect_eq_sites placed, ← Converter.made] at isConverted
  obtain ⟨conversion, isMade, isFound⟩ := List.map_eq_singleton_iff.mp isConverted
  simp only [Prod.mk.injEq] at isFound
  obtain ⟨isTemplate, follows, feeds, interpolated⟩ := isFound
  have unbroken : '\n' ∉ plainConverter.interest.lookup.toList := by decide
  obtain ⟨outcome, isOutcome, continues⟩ := padding_cuts_continuations plainConverter "App.tsx"
    ⟨"features", "app"⟩ assertedSource program read placed spelled clear unbroken
  have continuesHere := continues [] conversion [] isMade _ follows
  have output : outcome.output = assertedOutput :=
    (output_eq_spliceFrom_editsOf noMark read placed isOutcome sorted edited).trans spliced
  have breaksHere := continuesHere.breaks.mpr (by rw [interpolated, feeds]; exact Nat.one_pos)
  refine ⟨program, conversion, outcome, read, placed, spelled, clear, unbroken, isMade, isTemplate,
    follows, isOutcome, continuesHere, breaksHere, output, ?_⟩
  rw [output]
  decide +kernel

end Keying
end KeyedText
