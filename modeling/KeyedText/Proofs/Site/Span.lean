import KeyedText.Proofs.Source.Tree
import KeyedText.Site.Collect

/-!
# The spans of sites

A site covers its node, or what its node holds without the layout at the ends.
In a tree whose spans fit the text, the sites are therefore in bounds, and two
of them are nested or lie side by side.
-/

namespace KeyedText
namespace Site

open Source

variable {interest : Interest} {source : List Char}

/-! ## Text between tags -/

theorem length_trimmedBy_add_le
    (fits : Char → Bool)
    (text : List Char) :
    (text.takeWhile fits).length + (Text.trimmedBy fits text).length ≤ text.length := by
  have split : (text.takeWhile fits).length + (text.dropWhile fits).length = text.length := by
    rw [← List.length_append, List.takeWhile_append_dropWhile]
  have shorter := (List.dropWhile_sublist fits (l := (text.dropWhile fits).reverse)).length_le
  simp only [List.length_reverse] at shorter
  simp only [Text.trimmedBy, List.length_reverse]
  omega

/-- Dropping layout at the ends keeps a span inside. -/
theorem proseSpan_within
    (source : List Char)
    {span : Span}
    (ordered : span.start ≤ span.stop) :
    (proseSpan source span).within span := by
  have shorter := length_trimmedBy_add_le Character.isLayout (span.slice source)
  have bounded := span.length_slice_le source
  simp only [proseSpan, Span.within]
  omega

theorem proseSpan_ordered
    (source : List Char)
    (span : Span) :
    (proseSpan source span).start ≤ (proseSpan source span).stop :=
  Nat.le_add_right _ _

/-! ## The site of a node -/

/-- The span of the site of a node of some form. -/
def textSpan (source : List Char) (form : Form) (span : Span) : Span :=
  if form.isElementText then proseSpan source span else span

theorem textSpan_within
    (source : List Char)
    (form : Form)
    {span : Span}
    (ordered : span.start ≤ span.stop) :
    (textSpan source form span).within span := by
  unfold textSpan
  split
  · exact proseSpan_within source ordered
  · exact Span.within_refl span

theorem textSpan_ordered
    (source : List Char)
    (form : Form)
    {span : Span}
    (ordered : span.start ≤ span.stop) :
    (textSpan source form span).start ≤ (textSpan source form span).stop := by
  unfold textSpan
  split
  · exact proseSpan_ordered source span
  · exact ordered

theorem span_of_template?
    {situation : Situation}
    {chunks : List (Option String)}
    {span : Span}
    {expressions : List Node}
    {site : Site}
    (found : template? source situation chunks span expressions = some site) :
    site.span = span := by
  unfold template? at found
  split at found
  · simp only [Option.some.injEq] at found
    rw [← found]
    rfl
  · cases found

/-- The site of a node belongs to a form that holds text and covers its span. -/
theorem form_and_span_of_own?
    {situation : Situation}
    {form : Form}
    {span : Span}
    {parts : List Node}
    {site : Site}
    (found : own? source situation form span parts = some site) :
    form.holdsText = true ∧ site.span = textSpan source form span := by
  unfold own? at found
  split at found
  · cases found
  · split at found
    · refine ⟨rfl, ?_⟩
      dsimp only at found
      split at found <;>
        · simp only [Option.some.injEq] at found
          rw [← found]
          rfl
    · refine ⟨rfl, ?_⟩
      dsimp only at found
      split at found
      · cases found
      · simp only [Option.some.injEq] at found
        rw [← found]
        rfl
    · exact ⟨rfl, span_of_template? found⟩
    · cases found

/-- The site of a text between tags has the words of the text. -/
theorem site_of_elementText
    {situation : Situation}
    {value : String}
    {span : Span}
    {parts : List Node}
    {site : Site}
    (own : own? source situation (.elementText value) span parts = some site) :
    site.kind = .elementText ∧ site.text = Text.collapseSpacing value.toList ∧ site.text ≠ [] := by
  unfold own? at own
  split at own
  · cases own
  · dsimp only at own
    split at own
    · cases own
    · next words =>
        cases own
        exact ⟨rfl, rfl, fun nothing => words (List.isEmpty_iff.mpr nothing)⟩

theorem own?_eq_none
    {situation : Situation}
    {form : Form}
    {span : Span}
    {parts : List Node}
    (noText : form.holdsText = false) :
    own? source situation form span parts = none := by
  cases own : own? source situation form span parts with
  | none => rfl
  | some site =>
      rw [(form_and_span_of_own? own).1] at noText
      cases noText

/-! ## The sites of a tree -/

theorem sites_mk
    (situation : Situation)
    (form : Form)
    (span : Span)
    (parts : List Node) :
    sites interest source situation (.mk form span parts) =
      (own? source situation form span parts).toList ++
        sitesFrom interest source (situation.descend interest form parts) 0 parts := by
  rw [sites]

theorem sitesFrom_eq_nil
    {descend : Nat → Option Situation}
    (index : Nat)
    (unlooked : ∀ offset, descend (index + offset) = none)
    (parts : List Node) :
    sitesFrom interest source descend index parts = [] := by
  induction parts generalizing index with
  | nil => rfl
  | cons part rest inductionHypothesis =>
      have later := inductionHypothesis (index + 1) fun offset => by
        rw [Nat.add_assoc]
        exact unlooked (1 + offset)
      rw [sitesFrom, later, show descend index = none from unlooked 0]
      rfl

/-- A site in the parts of a node is one of a part that is looked at, in the situation of that
part. -/
theorem exists_getElem?_of_mem_sitesFrom
    {descend : Nat → Option Situation}
    {index : Nat}
    {parts : List Node}
    {site : Site}
    (member : site ∈ sitesFrom interest source descend index parts) :
    ∃ offset part situation,
      parts[offset]? = some part ∧
        descend (index + offset) = some situation ∧
          site ∈ sites interest source situation part := by
  induction parts generalizing index with
  | nil => simp [sitesFrom] at member
  | cons part rest inductionHypothesis =>
      simp only [sitesFrom, List.mem_append] at member
      rcases member with here | later
      · split at here
        · next situation looked => exact ⟨0, part, situation, rfl, looked, here⟩
        · simp at here
      · obtain ⟨offset, other, situation, isPart, looked, found⟩ := inductionHypothesis later
        refine ⟨offset + 1, other, situation, isPart, ?_, found⟩
        rw [← Nat.add_assoc, Nat.add_right_comm]
        exact looked

theorem exists_part_of_mem_sitesFrom
    {descend : Nat → Option Situation}
    {index : Nat}
    {parts : List Node}
    {site : Site}
    (member : site ∈ sitesFrom interest source descend index parts) :
    ∃ part ∈ parts, ∃ situation, site ∈ sites interest source situation part := by
  obtain ⟨_, part, situation, isPart, -, found⟩ := exists_getElem?_of_mem_sitesFrom member
  exact ⟨part, List.mem_of_getElem? isPart, situation, found⟩

/-- A site in a node is that of a node inside, of which holds what parts inherit. -/
theorem exists_own_of_mem_sites
    {holds : Node → Prop}
    (inherited : ∀ {form span parts},
      holds (.mk form span parts) → ∀ part ∈ parts, holds part)
    {node : Node}
    (holdsHere : holds node)
    {situation : Situation}
    {site : Site}
    (member : site ∈ sites interest source situation node) :
    ∃ form span parts inner,
      holds (.mk form span parts) ∧ own? source inner form span parts = some site := by
  induction node using Node.induction generalizing situation with
  | step form span parts inside =>
      rw [sites_mk, List.mem_append, Option.mem_toList] at member
      rcases member with own | later
      · exact ⟨form, span, parts, situation, holdsHere, own⟩
      · obtain ⟨part, inParts, deeper, found⟩ := exists_part_of_mem_sitesFrom later
        exact inside part inParts (inherited holdsHere part inParts) found

/-- The sites in a node lie inside it and do not end before they start. -/
theorem ordered_and_within_of_mem_sites
    {length : Nat}
    {node : Node}
    (laid : node.All (Node.Laid length))
    {situation : Situation}
    {site : Site}
    (member : site ∈ sites interest source situation node) :
    site.span.start ≤ site.span.stop ∧ site.span.within node.span := by
  induction node using Node.induction generalizing situation with
  | step form span parts inside =>
      rw [sites_mk, List.mem_append, Option.mem_toList] at member
      rcases member with own | later
      · obtain ⟨holdsText, covers⟩ := form_and_span_of_own? own
        have ordered := laid.here.ordered holdsText
        rw [covers]
        exact ⟨textSpan_ordered source form ordered, textSpan_within source form ordered⟩
      · obtain ⟨part, inParts, deeper, found⟩ := exists_part_of_mem_sitesFrom later
        have ⟨ordered, within⟩ := inside part inParts (laid.inside part inParts) found
        exact ⟨ordered, within.trans (laid.here.within part inParts)⟩

/-- Sites of parts that lie side by side lie side by side. -/
theorem pairwise_sitesFrom
    {relation : Site → Site → Prop}
    (descend : Nat → Option Situation)
    (index : Nat)
    {parts : List Node}
    (inParts : ∀ part ∈ parts, ∀ situation,
      (sites interest source situation part).Pairwise relation)
    (between : parts.Pairwise fun left right => ∀ situation other,
      ∀ site ∈ sites interest source situation left,
      ∀ later ∈ sites interest source other right, relation site later) :
    (sitesFrom interest source descend index parts).Pairwise relation := by
  induction parts generalizing index with
  | nil => simp [sitesFrom]
  | cons part rest inductionHypothesis =>
      obtain ⟨first, others⟩ := List.pairwise_cons.mp between
      simp only [sitesFrom]
      refine List.pairwise_append.mpr ⟨?_, ?_, ?_⟩
      · split
        · exact inParts part (by simp) _
        · exact List.Pairwise.nil
      · exact inductionHypothesis (index + 1)
          (fun other inRest => inParts other (by simp [inRest])) others
      · intro site here later inRest
        obtain ⟨other, member, deeper, found⟩ := exists_part_of_mem_sitesFrom inRest
        split at here
        · exact first other member _ deeper site here later found
        · simp at here

/-- Two sites of a tree are nested or lie side by side. -/
theorem laminar_sites
    {length : Nat}
    {node : Node}
    (laid : node.All (Node.Laid length))
    (situation : Situation) :
    (sites interest source situation node).Pairwise
      fun left right => left.span.Laminar right.span := by
  induction node using Node.induction generalizing situation with
  | step form span parts inside =>
      rw [sites_mk]
      refine List.pairwise_append.mpr ⟨?_, ?_, ?_⟩
      · cases own? source situation form span parts <;> simp
      · refine pairwise_sitesFrom _ _
          (fun part member deeper => inside part member (laid.inside part member) deeper) ?_
        have members : parts.Pairwise fun left right => left ∈ parts ∧ right ∈ parts :=
          List.pairwise_iff_forall_sublist.mpr fun {left right} pair =>
            ⟨pair.subset (by simp), pair.subset (by simp)⟩
        refine (laid.here.apart.and members).imp ?_
        rintro left right ⟨apart, leftMember, rightMember⟩ _ _ site leftSite later rightSite
        have leftWithin :=
          (ordered_and_within_of_mem_sites (laid.inside left leftMember) leftSite).2
        have rightWithin :=
          (ordered_and_within_of_mem_sites (laid.inside right rightMember) rightSite).2
        exact Or.inr (Or.inr (apart.of_within leftWithin rightWithin))
      · -- Only a string or template has sites inside, and it covers its whole node.
        intro site own later inParts
        obtain ⟨holdsText, covers⟩ := form_and_span_of_own? (Option.mem_toList.mp own)
        obtain ⟨part, member, deeper, found⟩ := exists_part_of_mem_sitesFrom inParts
        have within := (ordered_and_within_of_mem_sites (laid.inside part member) found).2
        have notText : form.isElementText = false := laid.here.isElementText_eq_false member
        rw [covers, textSpan, notText]
        exact Or.inr (Or.inl (within.trans (laid.here.within part member)))

/-! ## The order of sites -/

theorem precedes_trans
    (first second third : Site)
    (left : precedes first second = true)
    (right : precedes second third = true) :
    precedes first third = true := by
  simp only [precedes, Bool.or_eq_true, Bool.and_eq_true, decide_eq_true_eq, beq_iff_eq] at *
  omega

theorem precedes_total
    (left right : Site) :
    (precedes left right || precedes right left) = true := by
  simp only [precedes, Bool.or_eq_true, Bool.and_eq_true, decide_eq_true_eq, beq_iff_eq]
  omega

/-- Collected sites stand in the order of their spans. -/
theorem sorted_collect
    (interest : Interest)
    (source : List Char)
    (program : Node) :
    (collect interest source program).Pairwise fun left right => precedes left right = true :=
  List.pairwise_mergeSort precedes_trans precedes_total _

/-- Two collected sites are nested or lie side by side. -/
theorem laminar_collect
    {length : Nat}
    {program : Node}
    (laid : program.All (Node.Laid length)) :
    (collect interest source program).Pairwise
      fun left right => left.span.Laminar right.span :=
  (List.mergeSort_perm _ _).symm.pairwise (laminar_sites laid _) fun laminar => laminar.symm

/-- A collected site is in bounds. -/
theorem bounded_of_mem_collect
    {length : Nat}
    {program : Node}
    (laid : program.All (Node.Laid length))
    {site : Site}
    (member : site ∈ collect interest source program) :
    site.span.start ≤ site.span.stop ∧ site.span.stop ≤ length := by
  have ⟨ordered, within⟩ :=
    ordered_and_within_of_mem_sites laid (List.mem_mergeSort.mp member)
  exact ⟨ordered, Nat.le_trans within.2 laid.here.bounded⟩

end Site
end KeyedText
