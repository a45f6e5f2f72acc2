import KeyedText.Proofs.Site.Span
import KeyedText.Proofs.Text.Spacing

/-!
# The order of sites

The sites of a tree as a reader leaves it are found in the order in which they
are collected: a site in front of those that it holds, and these in the order of
the text.
-/

namespace KeyedText
namespace Site

open Source

variable {interest : Interest} {source : List Char}

/-- The site of a placed node covers at least one character. -/
theorem nonempty_of_own?
    {situation : Situation}
    {form : Form}
    {span : Span}
    {parts : List Node}
    {site : Site}
    (placed : (Node.mk form span parts).Placed source)
    (own : own? source situation form span parts = some site) :
    site.span.start < site.span.stop := by
  obtain ⟨holdsText, covers⟩ := form_and_span_of_own? own
  have shows := placed.shows
  rw [covers]
  cases form with
  | string value => exact of_decide_eq_true shows
  | template chunks => exact of_decide_eq_true shows
  | elementText value =>
      have visible : ¬value.toList.all Character.isLayout = true := by
        intro layout
        obtain ⟨-, words, wordy⟩ := site_of_elementText own
        exact wordy
          (words.trans (Text.collapseSpacing_eq_nil_iff.mpr (List.all_eq_true.mp layout)))
      obtain ⟨character, inRaw, notLayout⟩ :=
        List.any_eq_true.mp (((Bool.or_eq_true _ _).mp shows).resolve_left visible)
      have trimmed : Text.trimmedBy Character.isLayout (span.slice source) ≠ [] := by
        rw [ne_eq, Text.trimmedBy_eq_nil_iff]
        intro layout
        simp [layout character inRaw] at notLayout
      have positive := List.length_pos_of_ne_nil trimmed
      have isText : (Form.elementText value).isElementText = true := rfl
      simp only [textSpan, isText, if_true, proseSpan]
      omega
  | _ => cases holdsText

theorem nonempty_of_mem_sites
    {node : Node}
    (placed : node.All (Node.Placed source))
    {situation : Situation}
    {site : Site}
    (member : site ∈ sites interest source situation node) :
    site.span.start < site.span.stop := by
  obtain ⟨form, span, parts, inner, innerPlaced, own⟩ :=
    exists_own_of_mem_sites Node.All.inside placed member
  exact nonempty_of_own? innerPlaced.here own

/-- The sites inside the site of a node start in front of its end. -/
theorem start_lt_of_mem_sitesFrom
    {form : Form}
    {span : Span}
    {parts : List Node}
    (placed : (Node.mk form span parts).All (Node.Placed source))
    {situation : Situation}
    {own : Site}
    (isOwn : own? source situation form span parts = some own)
    {descend : Nat → Option Situation}
    {index : Nat}
    {site : Site}
    (member : site ∈ sitesFrom interest source descend index parts) :
    own.span.start ≤ site.span.start ∧ site.span.start < own.span.stop ∧
      site.span.stop ≤ own.span.stop := by
  obtain ⟨holdsText, covers⟩ := form_and_span_of_own? isOwn
  obtain ⟨part, inParts, deeper, found⟩ := exists_part_of_mem_sitesFrom member
  have partPlaced := placed.inside part inParts
  have ⟨ordered, within⟩ := ordered_and_within_of_mem_sites partPlaced.laid found
  have inNode := placed.here.within part inParts
  have closed := placed.here.closed holdsText part inParts
  have notText : form.isElementText = false := placed.here.toLaid.isElementText_eq_false inParts
  rw [covers, textSpan, notText]
  simp only [Span.within, Node.span_mk] at within inNode closed
  simp only [Bool.false_eq_true, if_false]
  omega

/-- The sites of a placed tree are found in the order of their spans. -/
theorem sorted_sites
    {node : Node}
    (placed : node.All (Node.Placed source))
    (situation : Situation) :
    (sites interest source situation node).Pairwise
      fun left right => precedes left right = true := by
  induction node using Node.induction generalizing situation with
  | step form span parts inside =>
      rw [sites_mk]
      refine List.pairwise_append.mpr ⟨?_, ?_, ?_⟩
      · cases own? source situation form span parts <;> simp
      · refine pairwise_sitesFrom _ _
          (fun part member deeper => inside part member (placed.inside part member) deeper) ?_
        have members : parts.Pairwise fun left right => left ∈ parts ∧ right ∈ parts :=
          List.pairwise_iff_forall_sublist.mpr fun {left right} pair =>
            ⟨pair.subset (by simp), pair.subset (by simp)⟩
        refine (placed.here.inOrder.and members).imp ?_
        rintro left right ⟨before, leftMember, rightMember⟩ _ _ site leftSite later rightSite
        have leftPlaced := placed.inside left leftMember
        have rightPlaced := placed.inside right rightMember
        have leftWithin := (ordered_and_within_of_mem_sites leftPlaced.laid leftSite).2
        have rightWithin := (ordered_and_within_of_mem_sites rightPlaced.laid rightSite).2
        have nonempty := nonempty_of_mem_sites leftPlaced leftSite
        simp only [Span.before, Span.within] at before leftWithin rightWithin
        simp only [precedes, Bool.or_eq_true, Bool.and_eq_true, decide_eq_true_eq, beq_iff_eq]
        omega
      · intro site own later inParts
        obtain ⟨startsBehind, -, endsBefore⟩ :=
          start_lt_of_mem_sitesFrom placed (Option.mem_toList.mp own) inParts
        simp only [precedes, Bool.or_eq_true, Bool.and_eq_true, decide_eq_true_eq, beq_iff_eq]
        omega

/-- The sites of a placed tree are collected in the order in which they are
found. -/
theorem collect_eq_sites
    {program : Node}
    (placed : program.All (Node.Placed source)) :
    collect interest source program = sites interest source .outermost program :=
  List.mergeSort_of_pairwise (sorted_sites placed _)

end Site
end KeyedText
