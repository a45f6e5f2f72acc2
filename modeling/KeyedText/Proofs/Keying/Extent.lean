import KeyedText.Proofs.Keying.Retention
import KeyedText.Proofs.Site.Naming
import KeyedText.Proofs.Site.Order
import KeyedText.Proofs.Source.Subtree
import Mathlib.Algebra.GroupWithZero.Nat

/-!
# What a site covers

The call that replaces a site has the line feeds of the expressions that it
interpolates, and no others.  These stand one behind the other inside the site,
so the call never has more line feeds than what it replaces, and the missing ones
are added.
-/

namespace KeyedText
namespace Keying

open Source

/-! ## Line feeds of calls -/

theorem lineFeeds_eq_zero
    {text : List Char}
    (unbroken : '\n' ∉ text) :
    lineFeeds text = 0 :=
  List.count_eq_zero.mpr unbroken

theorem notMem_escaped (character : Char) :
    '\n' ∉ escaped character := by
  unfold escaped
  split
  case h_8 other _ _ notFeed _ _ _ _ =>
    rw [List.mem_singleton]
    exact fun isFeed => notFeed isFeed.symm
  all_goals decide

theorem lineFeeds_quoted (text : List Char) :
    lineFeeds (quoted text) = 0 := by
  refine lineFeeds_eq_zero ?_
  simp [quoted, notMem_escaped]

/-- The line feeds of the interpolated expressions of a site. -/
def interpolatedFeeds (site : Site) : Nat :=
  (site.interpolations.map fun interpolation => lineFeeds interpolation.source).sum

theorem lineFeeds_furtherProperties
    {interpolations : List Interpolation}
    (named : ∀ interpolation ∈ interpolations, '\n' ∉ interpolation.name.toList) :
    lineFeeds (interpolations.flatMap furtherProperty) =
      (interpolations.map fun interpolation => lineFeeds interpolation.source).sum := by
  induction interpolations with
  | nil => rfl
  | cons interpolation rest inductionHypothesis =>
      have ofRest := inductionHypothesis fun other isOther => named other (by simp [isOther])
      have ofName := lineFeeds_eq_zero (named interpolation List.mem_cons_self)
      have comma : lineFeeds [',', ' '] = 0 := rfl
      have colon : lineFeeds [':', ' '] = 0 := rfl
      rw [List.flatMap_cons, lineFeeds_append, ofRest, List.map_cons, List.sum_cons]
      simp only [furtherProperty, lineFeeds_append, ofName, comma, colon, Nat.zero_add]

/-- A call has the line feeds of the expressions that it interpolates. -/
theorem lineFeeds_replacement
    {lookup : String}
    (unbroken : '\n' ∉ lookup.toList)
    (key : String)
    {site : Site}
    (named : ∀ interpolation ∈ site.interpolations, '\n' ∉ interpolation.name.toList) :
    lineFeeds (replacement lookup key site) = interpolatedFeeds site := by
  have ofLookup := lineFeeds_eq_zero unbroken
  have ofCall : lineFeeds (call lookup key site) = interpolatedFeeds site := by
    have opening : lineFeeds ['('] = 0 := rfl
    have toObject : lineFeeds ", \x7b ".toList = 0 := by decide
    have option : lineFeeds "defaultValue: ".toList = 0 := by decide
    have closing : lineFeeds " \x7d)".toList = 0 := by decide
    simp only [call, lineFeeds_append, lineFeeds_quoted, lineFeeds_furtherProperties named,
      ofLookup, opening, toObject, option, closing, Nat.zero_add, Nat.add_zero]
    rfl
  have openBrace : lineFeeds ['\x7b'] = 0 := rfl
  have closeBrace : lineFeeds ['\x7d'] = 0 := rfl
  unfold replacement
  split
  · simp only [lineFeeds_append, ofCall, openBrace, closeBrace, Nat.zero_add, Nat.add_zero]
  · exact ofCall

/-! ## Slices -/

theorem getLast?_slice
    (text : List Char)
    {span : Span}
    (nonempty : span.start < span.stop)
    (bounded : span.stop ≤ text.length) :
    (span.slice text).getLast? = text[span.stop - 1]? := by
  have length : (span.slice text).length = span.stop - span.start := by
    rw [Span.slice, List.length_take, List.length_drop]
    omega
  rw [List.getLast?_eq_getElem?, length, Span.slice, List.getElem?_take_of_lt (by omega),
    List.getElem?_drop]
  congr 1
  omega

/-- Spans in order inside a range have no more line feeds than the range. -/
theorem sum_lineFeeds_slice_le
    (text : List Char)
    {start stop : Nat}
    (ordered : start ≤ stop)
    {spans : List Span}
    (inOrder : spans.Pairwise Span.before)
    (inside : ∀ span ∈ spans, start ≤ span.start ∧ span.stop ≤ stop) :
    (spans.map fun span => lineFeeds (span.slice text)).sum ≤
      lineFeeds (Span.slice ⟨start, stop⟩ text) := by
  induction spans generalizing start with
  | nil => exact Nat.zero_le _
  | cons span rest inductionHypothesis =>
      obtain ⟨first, others⟩ := List.pairwise_cons.mp inOrder
      obtain ⟨startsBehind, stopsBefore⟩ := inside span List.mem_cons_self
      rw [List.map_cons, List.sum_cons]
      rcases Nat.le_total span.start span.stop with forward | backward
      · have ofRest := inductionHypothesis stopsBefore others fun other isOther =>
          ⟨first other isOther, (inside other (by simp [isOther])).2⟩
        rw [slice_append text startsBehind (Nat.le_trans forward stopsBefore),
          slice_append text forward stopsBefore, lineFeeds_append, lineFeeds_append]
        exact Nat.le_trans (Nat.add_le_add_left ofRest _) (Nat.le_add_left _ _)
      · have ofRest := inductionHypothesis ordered others fun other isOther =>
          inside other (by simp [isOther])
        have empty : span.slice text = [] := by
          rw [Span.slice, Nat.sub_eq_zero_of_le backward, List.take_zero]
        rw [empty, lineFeeds_nil, Nat.zero_add]
        exact ofRest

/-! ## Trees as they are spelled -/

/-- Whether a character ends a string or a template. -/
def isQuote (character : Char) : Bool :=
  character == '\'' || character == '"' || character == '\x60'

/-- Whether a text spells a node as the grammar has it: a string or template ends with a quotation
mark, and the name of a variable or member is spelled like one. -/
def spells (text : List Char) (node : Node) : Bool :=
  match node.form with
  | .string _ | .template _ => (node.span.slice text).getLast?.any isQuote
  | .identifier name | .member name => spellsName name.toList
  | _ => true

/-- A name that an expression suggests is spelled like one. -/
theorem spellsName_of_suggestedName?
    {text : List Char}
    {expression : Node}
    (spelled : expression.All fun node => spells text node = true)
    {name : String}
    (suggests : Site.suggestedName? expression = some name) :
    spellsName name.toList = true := by
  have here := spelled.of_has (Node.has_unwrapped expression)
  unfold Site.suggestedName? at suggests
  unfold spells at here
  split at suggests
  · next form =>
      rw [form] at here
      cases suggests
      exact here
  · next form =>
      rw [form] at here
      cases suggests
      exact here
  · cases suggests

/-! ## Sites -/

/-- What a site covers of a text. -/
structure Covers (text : List Char) (site : Site) : Prop where
  /-- It covers something. -/
  nonempty : site.span.start < site.span.stop
  /-- It ends inside the text. -/
  bounded : site.span.stop ≤ text.length
  /-- It does not end with a line feed. -/
  closed : text[site.span.stop - 1]? ≠ some '\n'
  /-- No expression is known by a name with a line feed. -/
  named : ∀ interpolation ∈ site.interpolations, '\n' ∉ interpolation.name.toList
  /-- The expressions have no more line feeds than what it covers. -/
  holds : interpolatedFeeds site ≤ lineFeeds (site.span.slice text)
  /-- Its line is that of its start. -/
  line : site.line = lineAt text site.span.start

variable
    {text : List Char}
    {situation : Site.Situation}
    {form : Form}
    {span : Span}
    {parts : List Node}
    {site : Site}

theorem slice_proseSpan
    (text : List Char)
    (span : Span) :
    (Site.proseSpan text span).slice text =
      Text.trimmedBy Character.isLayout (span.slice text) := by
  obtain ⟨trailing, cut⟩ := Text.exists_trimmedBy Character.isLayout (span.slice text)
  have split : text.drop span.start =
      span.slice text ++ (text.drop span.start).drop (span.stop - span.start) :=
    (List.take_append_drop _ _).symm
  rw [cut, List.append_assoc, List.append_assoc] at split
  rw [Site.proseSpan, Span.slice, Nat.add_sub_cancel_left, ← List.drop_drop, split, List.drop_left,
    List.take_left]

/-- A site does not end with a line feed. -/
theorem getLast?_of_own?
    (spelled : spells text (.mk form span parts) = true)
    (own : Site.own? text situation form span parts = some site) :
    (site.span.slice text).getLast? ≠ some '\n' := by
  obtain ⟨holdsText, covers⟩ := Site.form_and_span_of_own? own
  have notQuote : isQuote '\n' = false := by decide
  rw [covers]
  intro isLast
  cases form with
  | elementText value =>
      have covered : Site.textSpan text (.elementText value) span = Site.proseSpan text span := rfl
      rw [covered, slice_proseSpan] at isLast
      exact absurd (Text.getLast?_trimmedBy isLast) (by decide)
  | string value =>
      have covered : Site.textSpan text (.string value) span = span := rfl
      rw [covered] at isLast
      simp [spells, isLast, notQuote] at spelled
  | template chunks =>
      have covered : Site.textSpan text (.template chunks) span = span := rfl
      rw [covered] at isLast
      simp [spells, isLast, notQuote] at spelled
  | _ => cases holdsText

/-- The line of a site is that of its start, and only a template interpolates. -/
theorem line_of_own?
    (own : Site.own? text situation form span parts = some site) :
    site.line = lineAt text site.span.start ∧
      (site.interpolations = [] ∨ ∃ chunks, form = .template chunks) := by
  unfold Site.own? at own
  split at own
  · cases own
  · split at own
    · dsimp only at own
      split at own <;>
        · cases own
          exact ⟨rfl, Or.inl rfl⟩
    · dsimp only at own
      split at own
      · cases own
      · cases own
        exact ⟨rfl, Or.inl rfl⟩
    · next chunks =>
        refine ⟨?_, Or.inr ⟨chunks, rfl⟩⟩
        unfold Site.template? at own
        split at own
        · cases own
          rfl
        · cases own
    · cases own

/-- What the site of a template interpolates. -/
theorem interpolated_of_own?
    {chunks : List (Option String)}
    (placed : (Node.mk (.template chunks) span parts).Placed text)
    (spelled : ∀ part ∈ parts, part.All fun node => spells text node = true)
    (own : Site.own? text situation (.template chunks) span parts = some site) :
    (∀ interpolation ∈ site.interpolations, '\n' ∉ interpolation.name.toList) ∧
      interpolatedFeeds site ≤ lineFeeds (site.span.slice text) := by
  obtain ⟨-, interpolations⟩ := Site.interpolations_of_template own
  have count := Site.length_templateNames parts
  constructor
  · rw [interpolations, List.forall_mem_map]
    intro pair isPair
    refine notMem_of_spellsName
      (Site.spellsName_of_mem_templateNames ?_ (List.of_mem_zip isPair).1) (by decide)
    exact fun part isPart name suggests =>
      spellsName_of_suggestedName? (spelled part isPart) suggests
  · have expressions := List.map_snd_zip (Nat.le_of_eq count.symm)
    have sources : interpolatedFeeds site =
        ((parts.map Node.span).map fun inner => lineFeeds (inner.slice text)).sum := by
      rw [interpolatedFeeds, interpolations, List.map_map, List.map_map]
      conv_rhs => rw [← expressions, List.map_map]
      rfl
    have laid := placed.toLaid
    rw [sources, (Site.form_and_span_of_own? own).2]
    refine sum_lineFeeds_slice_le text (laid.ordered rfl) ?_ ?_
    · rw [List.pairwise_map]
      exact placed.inOrder
    · rw [List.forall_mem_map]
      exact laid.within

/-- What the site of a node covers. -/
theorem covers_of_own?
    (placed : (Node.mk form span parts).Placed text)
    (spelled : (Node.mk form span parts).All fun node => spells text node = true)
    (own : Site.own? text situation form span parts = some site) :
    Covers text site := by
  have nonempty := Site.nonempty_of_own? placed own
  obtain ⟨line, plain⟩ := line_of_own? own
  have laid := placed.toLaid
  have bounded : site.span.stop ≤ text.length := by
    obtain ⟨holdsText, covers⟩ := Site.form_and_span_of_own? own
    have within := Site.textSpan_within text form (laid.ordered holdsText)
    rw [covers]
    exact Nat.le_trans within.2 laid.bounded
  have interpolated : (∀ interpolation ∈ site.interpolations, '\n' ∉ interpolation.name.toList) ∧
      interpolatedFeeds site ≤ lineFeeds (site.span.slice text) := by
    rcases plain with none | ⟨chunks, rfl⟩
    · rw [interpolatedFeeds, none]
      exact ⟨nofun, Nat.zero_le _⟩
    · exact interpolated_of_own? placed spelled.inside own
  exact
    { nonempty := nonempty
      bounded := bounded
      closed := by
        rw [← getLast?_slice text nonempty bounded]
        exact getLast?_of_own? spelled.here own
      named := interpolated.1
      holds := interpolated.2
      line := line }

/-- What a collected site covers. -/
theorem covers_of_mem_collect
    {interest : Site.Interest}
    {program : Node}
    (placed : program.All (Node.Placed text))
    (spelled : program.All fun node => spells text node = true)
    (member : site ∈ Site.collect interest text program) :
    Covers text site := by
  obtain ⟨⟨form, span, parts⟩, has, _, own⟩ := Site.exists_node_of_mem_collect member
  exact covers_of_own? (placed.of_has has) (spelled.subtree has) own

end Keying
end KeyedText
