import KeyedText.Proofs.Site.Admission
import KeyedText.Proofs.Source.Reference
import KeyedText.Proofs.Source.Subtree
import KeyedText.Source.Program

/-!
# Sites of text between tags

The text of such a site comes from the value of a node, in which references are resolved, and its
span from the source of the node, in which they are not.  The two agree: layout alone spells
layout, so if the value has a word, the source has a character that is no layout.  The site covers
the source from the first such character to the last, and its text is the words of the value with
single spaces.
-/

namespace KeyedText
namespace Site

open Source

/-- Whether a span covers what another one does without the layout at the ends. -/
structure Trims (source : List Char) (outer inner : Span) : Prop where
  /-- It covers something. -/
  nonempty : inner.start < inner.stop
  /-- It lies inside the other span. -/
  within : inner.within outer
  /-- It starts with a character that is no layout. -/
  starts : ∃ first, source[inner.start]? = some first ∧ Character.isLayout first = false
  /-- It ends with a character that is no layout. -/
  ends : ∃ last, source[inner.stop - 1]? = some last ∧ Character.isLayout last = false
  /-- What the other span covers around it is layout. -/
  around : ∀ position, outer.start ≤ position → position < outer.stop →
    ¬(inner.start ≤ position ∧ position < inner.stop) →
      ∀ character ∈ source[position]?, Character.isLayout character = true

/-- A span covers what another one does without the layout at the ends if layout is cut from either
end of what that one covers, and no more can be cut. -/
theorem trims_of_cut
    {source front kept back : List Char}
    {outer inner : Span}
    (cut : outer.slice source = front ++ (kept ++ back))
    (start : inner.start = outer.start + front.length)
    (stop : inner.stop = inner.start + kept.length)
    (nonempty : kept ≠ [])
    (inFront : ∀ character ∈ front, Character.isLayout character = true)
    (behind : ∀ character ∈ back, Character.isLayout character = true)
    (startsVisible : ∀ first ∈ kept.head?, Character.isLayout first = false)
    (endsVisible : ∀ last ∈ kept.getLast?, Character.isLayout last = false) :
    Trims source outer inner := by
  have bounded := outer.length_slice_le source
  rw [cut, List.length_append, List.length_append] at bounded
  have positive := List.length_pos_of_ne_nil nonempty
  have covered {offset : Nat} (inside : offset < outer.stop - outer.start) :
      source[outer.start + offset]? = (front ++ (kept ++ back))[offset]? := by
    rw [← cut, Span.getElem?_slice inside]
  have ofKept {offset : Nat} (inside : offset < kept.length) :
      source[inner.start + offset]? = kept[offset]? := by
    rw [start, Nat.add_assoc, covered (by omega), List.getElem?_append_right (by omega),
      Nat.add_sub_cancel_left, List.getElem?_append_left inside]
  refine ⟨by omega, ⟨by omega, by omega⟩, ?_, ?_, ?_⟩
  · refine ⟨kept.head nonempty, ?_, startsVisible _ (List.head?_eq_some_head nonempty)⟩
    rw [← List.head?_eq_some_head nonempty, List.head?_eq_getElem?, ← ofKept positive, Nat.add_zero]
  · refine ⟨kept.getLast nonempty, ?_, endsVisible _ (List.getLast?_eq_some_getLast nonempty)⟩
    have last : inner.stop - 1 = inner.start + (kept.length - 1) := by omega
    rw [← List.getLast?_eq_some_getLast nonempty, List.getLast?_eq_getElem?, last,
      ofKept (by omega)]
  · intro position fromStart toStop outside character isThere
    obtain ⟨offset, rfl⟩ := Nat.exists_eq_add_of_le fromStart
    rw [covered (by omega)] at isThere
    rcases Nat.lt_or_ge offset front.length with isFront | isLater
    · rw [List.getElem?_append_left isFront] at isThere
      exact inFront character (List.mem_of_getElem? isThere)
    · rw [List.getElem?_append_right isLater, List.getElem?_append_right (by omega)] at isThere
      exact behind character (List.mem_of_getElem? isThere)

/-- Text with more than layout is covered without the layout at its ends. -/
theorem trims_proseSpan
    {source : List Char}
    {span : Span}
    (visible : Text.trimmedBy Character.isLayout (span.slice source) ≠ []) :
    Trims source span (proseSpan source span) :=
  trims_of_cut (Text.eq_append_trimmedBy visible) rfl rfl visible
    (fun _ => List.mem_takeWhile_imp) (fun _ => List.mem_rtakeWhile_imp)
    (fun _ => Text.head?_trimmedBy) (fun _ => Text.getLast?_trimmedBy)

/-! ## Nodes with resolved values -/

/-- The site of a text between tags whose value its source spells. -/
theorem trims_and_spaced_of_own?
    {source : List Char}
    {situation : Situation}
    {node : Node}
    {site : Site}
    (resolved : node.Resolved source)
    (isText : node.form.isElementText = true)
    (own : own? source situation node.form node.span node.parts = some site) :
    Trims source node.span site.span ∧ Text.Spaced site.text := by
  obtain ⟨form, span, parts⟩ := node
  cases form with
  | elementText value =>
      obtain ⟨-, words, wordy⟩ := site_of_elementText own
      have covers : site.span = proseSpan source span := (form_and_span_of_own? own).2
      rw [words] at wordy
      have visible : Text.trimmedBy Character.isLayout (span.slice source) ≠ [] := by
        intro nothing
        apply wordy
        rw [Text.collapseSpacing_eq_nil_iff]
        exact (resolved value rfl).isLayout (Text.trimmedBy_eq_nil_iff.mp nothing)
      rw [covers, words]
      exact ⟨trims_proseSpan visible, Text.spaced_collapseSpacing wordy⟩
  | _ => cases isText

/-! ## Collected sites -/

theorem Role.ne_elementText
    {around : List Turn}
    {kind : SiteKind}
    (role : Role around kind) :
    kind ≠ .elementText := by
  induction role with
  | parenthesized _ _ inductionHypothesis => exact inductionHypothesis
  | _ => nofun

/-- Only text between tags is a candidate of its kind. -/
theorem Candidate.isElementText
    {interest : Interest}
    {source : List Char}
    {around : List Turn}
    {node : Node}
    {site : Site}
    (candidate : Candidate interest source around node site)
    (isText : site.kind = .elementText) :
    node.form.isElementText = true := by
  cases candidate with
  | literal value span parts kind role whole => exact absurd isText role.ne_elementText
  | half value span parts kind role half => exact absurd isText role.ne_elementText
  | prose value span parts visible => rfl
  | template chunks span expressions interpolates =>
      have isTemplate : (templateNames expressions).1 ≠ .elementText := by
        unfold templateNames
        split
        · split <;> nofun
        · nofun
      exact absurd isText isTemplate

theorem has_of_walk?
    {passed around : List Turn}
    {node last : Node}
    {path : List Nat}
    (walked : walk? passed node path = some (around, last)) :
    node.Has last := by
  induction path generalizing passed node with
  | nil =>
      cases walked
      exact .self _
  | cons index path inductionHypothesis =>
      obtain ⟨form, span, parts⟩ := node
      rw [walk?] at walked
      split at walked
      · next part isPart => exact .inside (List.mem_of_getElem? isPart) (inductionHypothesis walked)
      · cases walked

/-- A collected site of text between tags is that of such a text in the program. -/
theorem exists_text_of_mem_collect
    {interest : Interest}
    {source : List Char}
    {program : Node}
    {site : Site}
    (isSite : site ∈ collect interest source program)
    (isText : site.kind = .elementText) :
    ∃ node, program.Has node ∧ node.form.isElementText = true ∧
      ∃ situation, own? source situation node.form node.span node.parts = some site := by
  have inProgram := List.mem_mergeSort.mp isSite
  rw [← map_snd_placed, List.mem_map] at inProgram
  obtain ⟨⟨path, _⟩, isPlaced, rfl⟩ := inProgram
  have outermost : Situation.outermost = situationAround interest [] := rfl
  rw [outermost, mem_placed_iff List.any_nil] at isPlaced
  obtain ⟨around, node, walked, -, own⟩ := isPlaced
  have candidate := (own?_eq_some_iff.mp own).2
  exact ⟨node, has_of_walk? walked, candidate.isElementText isText, _, own⟩

/-- In a program in which every text between tags has the value that its source spells, the site of
each such text covers the source without the layout at its ends, and its text is words with single
spaces; and each collected site of that kind is the site of such a text. -/
theorem prose_sites_trimmed
    (interest : Interest)
    (source : List Char)
    (program : Node)
    (resolved : program.All (Node.Resolved source)) :
    (∀ node, program.Has node → node.form.isElementText = true →
      ∀ situation site, own? source situation node.form node.span node.parts = some site →
        Trims source node.span site.span ∧ Text.Spaced site.text) ∧
      ∀ site ∈ collect interest source program, site.kind = .elementText →
        ∃ node, program.Has node ∧ node.form.isElementText = true ∧
          ∃ situation, own? source situation node.form node.span node.parts = some site := by
  constructor
  · intro node has isText situation site own
    exact trims_and_spaced_of_own? (resolved.of_has has) isText own
  · intro site isSite isText
    exact exists_text_of_mem_collect isSite isText

/-- A text between tags that has layout at its ends both as it is and by references. -/
def referringSource : List Char :=
  "const a = <p>\n  &#32;Größe &amp;\t日本&#10;\n</p>;".toList

/-- The site covers the references at the ends, and its text has nothing in their place. -/
theorem prose_sites_trimmed_for_referringSource :
    ∃ program node site,
      readProgram referringSource = .ok program ∧
        program.All (Node.Resolved referringSource) ∧
          (program.Has node ∧ node.form.isElementText = true) ∧
            (site ∈ collect ⟨[], [], [], "t"⟩ referringSource program ∧
                site.kind = .elementText) ∧
              site.span.slice referringSource = "&#32;Größe &amp;\t日本&#10;".toList ∧
                site.text = "Größe & 日本".toList ∧
                  Trims referringSource node.span site.span ∧ Text.Spaced site.text := by
  obtain ⟨program, read, checked⟩ := exists_ok_of_any (readProgram referringSource)
    (fun program : Node =>
      decide (program.All fun node => node.isResolved referringSource = true)
        && (sites ⟨[], [], [], "t"⟩ referringSource .outermost program).any fun site =>
          site.kind == .elementText
            && site.span.slice referringSource == "&#32;Größe &amp;\t日本&#10;".toList
            && site.text == "Größe & 日本".toList)
    (by decide +kernel)
  simp only [Bool.and_eq_true, decide_eq_true_eq, List.any_eq_true, beq_iff_eq] at checked
  obtain ⟨isResolved, site, isFound, ⟨isText, covered⟩, words⟩ := checked
  have resolved : program.All (Node.Resolved referringSource) :=
    isResolved.mono fun _ here => Node.resolved_of_isResolved here
  have isSite : site ∈ collect ⟨[], [], [], "t"⟩ referringSource program :=
    List.mem_mergeSort.mpr isFound
  obtain ⟨trimmed, ofNodes⟩ :=
    prose_sites_trimmed ⟨[], [], [], "t"⟩ referringSource program resolved
  obtain ⟨node, has, isNode, situation, own⟩ := ofNodes site isSite isText
  exact ⟨program, node, site, read, resolved, ⟨has, isNode⟩, ⟨isSite, isText⟩, covered, words,
    trimmed node has isNode situation site own⟩

end Site
end KeyedText
