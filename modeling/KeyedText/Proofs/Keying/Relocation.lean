import KeyedText.Proofs.Key.Group
import KeyedText.Proofs.Keying.Course
import Mathlib.Data.List.Forall2

/-!
# Relocating a source text

The place of a source text goes into the keys and, where a pattern is about a
permission, into the slugs.  It never goes into what is decided: two runs
through the same sites, for two places, convert the same ones and leave the
same ones to a person, since at every step the same sites are covered.
-/

namespace KeyedText
namespace Keying

open Source

/-! ## Decisions -/

/-- What the decisions about one site for two groups have in common; the table of patterns
steers the slug if the site is converted by its rule. -/
inductive Decision.Alike (steered : Prop) : Decision → Decision → Prop where
  | same (decision : Decision) : Alike steered decision decision
  | steered
      (isSteered : steered)
      (first second : String)
      (rule : Key.SlugRule) :
      Alike steered (.converted first rule) (.converted second rule)

/-- Whether the table of patterns decides the slug of a text, in whatever group. -/
def Steers
    (generator : Key.Generator)
    (text : List Char) : Prop :=
  ∀ group, (generator.derive group text).rule = .pattern

theorem decide_alike
    (converter : Converter)
    (first second : String)
    (site : Site) :
    Decision.Alike (Steers converter.generator site.text)
      (converter.decide first site) (converter.decide second site) := by
  unfold Converter.decide
  split
  · exact .same _
  · dsimp only
    split
    · exact .same _
    · split
      · exact .same _
      · obtain ⟨sameRule, sameEmptiness, sameSlug⟩ :=
          Key.derive_alike converter.generator first second site.text
        rw [sameEmptiness, sameRule]
        split
        · exact .same _
        · by_cases byPattern : (converter.generator.derive first site.text).rule = .pattern
          · apply Decision.Alike.steered
            intro group
            rw [(Key.derive_alike converter.generator group first site.text).rule, byPattern]
          · rw [sameSlug byPattern]
            exact .same _

/-! ## Courses -/

/-- The conversions of one site for two places. -/
structure Conversion.Alike
    (generator : Key.Generator)
    (first second : Conversion) : Prop where
  site : first.site = second.site
  slug : first.slug = second.slug ∨ Steers generator first.site.text

variable
    (converter : Converter)
    (firstPlace secondPlace : Key.Place)

/-- Progress with edits of the same spans. -/
def SameSpans (first second : Progress) : Prop :=
  first.edits.map (·.span) = second.edits.map (·.span)

theorem covers_eq_of_sameSpans
    {first second : Progress}
    (sameSpans : SameSpans first second)
    (site : Site) :
    first.covers site = second.covers site := by
  have sameLatest := congrArg List.head? sameSpans
  rw [List.head?_map, List.head?_map] at sameLatest
  unfold Progress.covers
  revert sameLatest
  cases first.edits.head? <;> cases second.edits.head? <;> simp +contextual

/-- What becomes of one site for two places. -/
theorem fate?_rel
    {first second : Progress}
    (sameSpans : SameSpans first second)
    (site : Site) :
    Option.Rel (Decision.Alike (Steers converter.generator site.text))
      (converter.fate? firstPlace first site) (converter.fate? secondPlace second site) := by
  unfold Converter.fate?
  rw [covers_eq_of_sameSpans sameSpans]
  split
  · exact .none
  · exact .some (decide_alike converter firstPlace.group secondPlace.group site)

theorem conversion?_rel
    {generator : Key.Generator}
    {site : Site}
    {first second : Option Decision}
    (related : Option.Rel (Decision.Alike (Steers generator site.text)) first second) :
    Option.Rel (Conversion.Alike generator)
      (conversion? (site, first)) (conversion? (site, second)) := by
  cases related with
  | none => exact .none
  | some alike =>
      cases alike with
      | same =>
          rename_i decision
          cases decision with
          | converted slug rule => exact .some ⟨rfl, .inl rfl⟩
          | _ => exact .none
      | steered isSteered slug other rule => exact .some ⟨rfl, .inr isSteered⟩

theorem reviewOf?_eq
    (site : Site)
    {steered : Prop}
    {first second : Option Decision}
    (related : Option.Rel (Decision.Alike steered) first second) :
    reviewOf? (site, first) = reviewOf? (site, second) := by
  cases related with
  | none => rfl
  | some alike =>
      cases alike with
      | same decision => rfl
      | steered isSteered slug other rule => rfl

/-- A step for two places keeps the spans of the edits the same. -/
theorem sameSpans_step
    {first second : Progress}
    (sameSpans : SameSpans first second)
    (site : Site) :
    SameSpans (converter.step firstPlace first site) (converter.step secondPlace second site) := by
  unfold SameSpans at sameSpans ⊢
  rw [(step_eq converter firstPlace first site).1, (step_eq converter secondPlace second site).1,
    List.map_append, List.map_append, sameSpans]
  rcases Key.none_or_some_of_rel (conversion?_rel
      (fate?_rel converter firstPlace secondPlace sameSpans site)) with
    ⟨noFirst, noSecond⟩ | ⟨ofFirst, ofSecond, isFirst, isSecond, alike⟩
  · rw [noFirst, noSecond]
    rfl
  · rw [isFirst, isSecond]
    simp [Conversion.span, alike.site]

/-- Two runs through the same sites convert the same ones. -/
theorem conversions_alike
    {first second : Progress}
    (sameSpans : SameSpans first second)
    (sites : List Site) :
    List.Forall₂ (Conversion.Alike converter.generator)
      (conversions (converter.course firstPlace first sites))
      (conversions (converter.course secondPlace second sites)) := by
  induction sites generalizing first second with
  | nil => exact .nil
  | cons site rest inductionHypothesis =>
      have ofRest :=
        inductionHypothesis (sameSpans_step converter firstPlace secondPlace sameSpans site)
      unfold conversions at ofRest ⊢
      rw [Converter.course, Converter.course, List.filterMap_cons, List.filterMap_cons]
      rcases Key.none_or_some_of_rel (conversion?_rel
          (fate?_rel converter firstPlace secondPlace sameSpans site)) with
        ⟨noFirst, noSecond⟩ | ⟨ofFirst, ofSecond, isFirst, isSecond, alike⟩
      · rw [noFirst, noSecond]
        exact ofRest
      · rw [isFirst, isSecond]
        exact .cons alike ofRest

/-- Two runs through the same sites leave the same ones to a person. -/
theorem reviews_alike
    {first second : Progress}
    (sameSpans : SameSpans first second)
    (sites : List Site) :
    (converter.course firstPlace first sites).filterMap reviewOf? =
      (converter.course secondPlace second sites).filterMap reviewOf? := by
  induction sites generalizing first second with
  | nil => rfl
  | cons site rest inductionHypothesis =>
      have ofRest :=
        inductionHypothesis (sameSpans_step converter firstPlace secondPlace sameSpans site)
      have ofSite := reviewOf?_eq site
        (fate?_rel converter firstPlace secondPlace sameSpans site)
      rw [Converter.course, Converter.course, List.filterMap_cons, List.filterMap_cons, ofRest,
        ofSite]

/-! ## Outcomes -/

/-- What the records of one conversion for two places have in common. -/
structure Record.Alike
    (generator : Key.Generator)
    (first second : Record) : Prop where
  kind : first.kind = second.kind
  text : first.text = second.text
  line : first.line = second.line
  slug : first.slug = second.slug ∨ Steers generator first.text.toList

theorem Conversion.Alike.record
    {generator : Key.Generator}
    {first second : Conversion}
    (alike : first.Alike generator second) :
    Record.Alike generator (first.record firstPlace) (second.record secondPlace) := by
  obtain ⟨sameSite, sameSlug⟩ := alike
  unfold Conversion.record
  rw [← sameSite]
  refine ⟨rfl, rfl, rfl, ?_⟩
  rwa [String.toList_ofList]

/-- The outcome of some conversions in a source text. -/
structure Outcome.Makes
    (converter : Converter)
    (place : Key.Place)
    (source : List Char)
    (made : List Conversion)
    (outcome : Outcome) : Prop where
  output : outcome.output =
    if made.isEmpty then source
    else splice (withoutMark source) (made.map (·.edit converter.interest.lookup place))
  records : outcome.ledger.records = made.map (·.record place)

/-- What the conversions of one source text for two places have in common. -/
inductive AlikeResults
    (converter : Converter)
    (firstPlace secondPlace : Key.Place)
    (source : List Char) :
    Except SourceFault Outcome → Except SourceFault Outcome → Prop where
  | error (fault : SourceFault) :
      AlikeResults converter firstPlace secondPlace source (.error fault) (.error fault)
  | ok
      (first second : Outcome)
      (firstMade secondMade : List Conversion)
      (ofFirst : first.Makes converter firstPlace source firstMade)
      (ofSecond : second.Makes converter secondPlace source secondMade)
      (sites : firstMade.map (·.site) = secondMade.map (·.site))
      (records : List.Forall₂ (Record.Alike converter.generator)
        first.ledger.records second.ledger.records)
      (reviews : first.ledger.reviews = second.ledger.reviews) :
      AlikeResults converter firstPlace secondPlace source (.ok first) (.ok second)

theorem makes_convertProgram
    (path : String)
    (place : Key.Place)
    (source : List Char)
    (program : Node) :
    (converter.convertProgram path place source program).Makes converter place source
      (conversions (converter.course place .start
        (Site.collect converter.interest (withoutMark source) program))) := by
  have edits := edits_foldl_start converter place
    (Site.collect converter.interest (withoutMark source) program)
  constructor
  · have sameEmptiness := congrArg List.isEmpty edits
    rw [List.isEmpty_reverse, List.isEmpty_map] at sameEmptiness
    rw [← edits, ← sameEmptiness]
    rfl
  · exact records_foldl_start converter place _

/-- Conversions of a source text for two places decide alike. -/
theorem convert_alike
    (firstPath secondPath : String)
    (source : List Char) :
    AlikeResults converter firstPlace secondPlace source
      (converter.convert firstPath firstPlace source)
      (converter.convert secondPath secondPlace source) := by
  unfold Converter.convert
  dsimp only
  split
  · exact .error _
  · next program _ =>
      have sameSpans : SameSpans .start .start := rfl
      have alike := conversions_alike converter firstPlace secondPlace sameSpans
        (Site.collect converter.interest (withoutMark source) program)
      have ofFirst := makes_convertProgram converter firstPath firstPlace source program
      have ofSecond := makes_convertProgram converter secondPath secondPlace source program
      refine .ok _ _ _ _ ofFirst ofSecond ?_ ?_ ?_
      · rw [← List.forall₂_eq_eq_eq, List.forall₂_map_left_iff, List.forall₂_map_right_iff]
        exact alike.imp fun _ _ related => related.site
      · rw [ofFirst.records, ofSecond.records, List.forall₂_map_left_iff,
          List.forall₂_map_right_iff]
        exact alike.imp fun _ _ related => related.record firstPlace secondPlace
      · rw [Converter.convertProgram, Converter.convertProgram]
        dsimp only
        rw [reviews_foldl_start, reviews_foldl_start]
        exact reviews_alike converter firstPlace secondPlace sameSpans _

end Keying
end KeyedText
