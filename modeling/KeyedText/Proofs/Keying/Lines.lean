import KeyedText.Proofs.Keying.Extent
import KeyedText.Proofs.Keying.Idempotence
import KeyedText.Proofs.Keying.Relocation
import KeyedText.Proofs.Report.Diff

/-!
# Lines of a converted text

A call is followed by the line feeds that it lacks, so a conversion keeps every
line behind it where it was: the lines that no converted range touches are the
same, a diff by index shows only the others, and the line that a record names is
that of its call.  A source text in which nothing is converted keeps its byte
order mark and so differs from the text that was read.
-/

namespace KeyedText
namespace Keying

open Source

/-! ## Edits that keep line feeds -/

/-- A replacement that has no more line feeds than its span is filled up to as many. -/
theorem lineFeeds_filling
    {text : List Char}
    {edit : Edit}
    (fewer : lineFeeds edit.replacement ≤ lineFeeds (edit.span.slice text)) :
    lineFeeds (edit.filling text) = lineFeeds (edit.span.slice text) := by
  unfold Edit.filling Edit.retained
  rw [lineFeeds_append]
  have added (count : Nat) : lineFeeds (List.replicate count '\n') = count :=
    List.count_replicate_self
  rw [added]
  omega

theorem lineFeeds_withoutMark (source : List Char) :
    lineFeeds (withoutMark source) = lineFeeds source := by
  unfold withoutMark
  split
  · rfl
  · rfl

variable
    (converter : Converter)
    (place : Key.Place)
    (source : List Char)

/-- What conversions put in the place of the spans of their sites. -/
def insertions (made : List Conversion) : List (Span × List Char) :=
  made.map fun conversion =>
    (conversion.span,
      (conversion.edit converter.interest.lookup place).filling (withoutMark source))

theorem retains_of_covers
    {text : List Char}
    {lookup : String}
    (unbroken : '\n' ∉ lookup.toList)
    (place : Key.Place)
    {conversion : Conversion}
    (covers : Covers text conversion.site) :
    Retains text (conversion.span, (conversion.edit lookup place).filling text) where
  nonempty := covers.nonempty
  bounded := covers.bounded
  closed := covers.closed
  balanced := by
    refine lineFeeds_filling ?_
    rw [Conversion.edit, Conversion.call, lineFeeds_replacement unbroken _ covers.named]
    exact covers.holds

/-! ## Whole conversions -/

/-- The lines of a source text in the outcome of some conversions. -/
structure Outcome.KeepsLines
    (made : List Conversion)
    (outcome : Outcome) : Prop where
  /-- Without a conversion the source text stays, byte order mark included. -/
  unconverted : made = [] → outcome.output = source
  /-- There are as many line feeds as in the text that was read. -/
  count : lineFeeds outcome.output = lineFeeds (withoutMark source)
  /-- The lines of the text that was read are found again. -/
  retains : made ≠ [] ∨ withoutMark source = source →
    RetainsLines (withoutMark source) (insertions converter place source made) outcome.output
  /-- A diff shows only lines that a conversion touches. -/
  diff : made ≠ [] ∨ withoutMark source = source →
    ∀ colored file,
      ∀ line ∈ (Report.diffLines colored file (withoutMark source) outcome.output).drop 2,
        ∃ index,
          Touches (withoutMark source) (insertions converter place source made) index ∧
            line ∈ Report.changeLines colored
              ((Report.linesOf (withoutMark source))[index]?,
                (Report.linesOf outcome.output)[index]?)
  /-- Each call starts where its site did, on the line that its record names. -/
  records : ReturnsPaired (withoutMark source) →
    ∀ conversion ∈ made,
      let start := moved (withoutMark source) (insertions converter place source made)
        conversion.span.start
      replacement converter.interest.lookup (place.key conversion.slug) conversion.site <+:
          outcome.output.drop start ∧
        (conversion.record place).line = lineIndex outcome.output start + 1

section Outcome

variable
    {converter : Converter}
    {place : Key.Place}
    {source : List Char}
    {made : List Conversion}
    {outcome : Outcome}

/-- The text that was read becomes the output, unless only the mark makes them differ. -/
theorem output_eq_replaced
    (makes : outcome.Makes converter place source made)
    (covers : ∀ conversion ∈ made, Covers (withoutMark source) conversion.site)
    (disjoint : made.Pairwise fun left right => left.span.before right.span)
    (read : made ≠ [] ∨ withoutMark source = source) :
    outcome.output =
      replaced (withoutMark source) 0 (insertions converter place source made) := by
  rw [makes.output]
  cases made with
  | nil =>
      have unmarked := read.resolve_left fun differs => differs rfl
      rw [unmarked]
      rfl
  | cons first rest =>
      have bounded : ∀ edit ∈ (first :: rest).map (·.edit converter.interest.lookup place),
          edit.span.start ≤ edit.span.stop ∧ edit.span.stop ≤ (withoutMark source).length := by
        rw [List.forall_mem_map]
        exact fun conversion isMade =>
          ⟨Nat.le_of_lt (covers conversion isMade).nonempty, (covers conversion isMade).bounded⟩
      rw [List.isEmpty_cons, if_neg Bool.false_ne_true,
        splice_eq_replaced _ bounded (List.pairwise_map.mpr disjoint), List.map_map]
      rfl

theorem keepsLines_of_covers
    (unbroken : '\n' ∉ converter.interest.lookup.toList)
    (makes : outcome.Makes converter place source made)
    (covers : ∀ conversion ∈ made, Covers (withoutMark source) conversion.site)
    (disjoint : made.Pairwise fun left right => left.span.before right.span) :
    outcome.KeepsLines converter place source made := by
  have retained (read : made ≠ [] ∨ withoutMark source = source) :
      RetainsLines (withoutMark source) (insertions converter place source made)
        outcome.output := by
    rw [output_eq_replaced makes covers disjoint read]
    refine retainsLines_replaced ?_ (List.pairwise_map.mpr disjoint)
    unfold insertions
    rw [List.forall_mem_map]
    exact fun conversion isMade => retains_of_covers unbroken place (covers conversion isMade)
  have unconverted : made = [] → outcome.output = source := by
    intro none
    rw [makes.output, none]
    rfl
  refine ⟨unconverted, ?_, retained, ?_, ?_⟩
  · by_cases none : made = []
    · rw [unconverted none, lineFeeds_withoutMark]
    · exact (retained (Or.inl none)).count
  · intro read colored file line shown
    obtain ⟨index, differs, inChange⟩ := Report.exists_index_of_mem_diffLines shown
    refine ⟨index, ?_, inChange⟩
    by_contra untouched
    have same := (retained read).untouched index untouched
    exact differs (Report.getElem?_linesOf_congr (retained read).count same)
  · intro paired conversion isMade
    have covered := covers conversion isMade
    have isInsertion := List.mem_map_of_mem (f := fun conversion : Conversion =>
      (conversion.span,
        (conversion.edit converter.interest.lookup place).filling (withoutMark source))) isMade
    obtain ⟨starts, sameLine⟩ :=
      (retained (Or.inl (List.ne_nil_of_mem isMade))).starts _ isInsertion
    have inText : conversion.span.start < (withoutMark source).length :=
      Nat.lt_of_lt_of_le covered.nonempty covered.bounded
    refine ⟨(List.prefix_append _ _).trans starts, ?_⟩
    rw [sameLine, ← lineAt_eq paired inText]
    exact covered.line

end Outcome

/-- Lines stay where they are, whatever is converted. -/
theorem convert_keepsLines
    (path : String)
    (program : Node)
    (read : readProgram (withoutMark source) = .ok program)
    (placed : program.All (Node.Placed (withoutMark source)))
    (spelled : program.All fun node => spells (withoutMark source) node = true)
    (unbroken : '\n' ∉ converter.interest.lookup.toList) :
    ∃ outcome,
      converter.convert path place source = .ok outcome ∧
        outcome.Makes converter place source
            (converter.made place (withoutMark source) program) ∧
          outcome.KeepsLines converter place source
            (converter.made place (withoutMark source) program) := by
  have makes := makes_convertProgram converter path place source program
  have ordered : ∀ site ∈ Site.collect converter.interest (withoutMark source) program,
      site.span.start ≤ site.span.stop :=
    fun site isSite => Nat.le_of_lt (covers_of_mem_collect placed spelled isSite).nonempty
  refine ⟨converter.convertProgram path place source program, ?_, makes, ?_⟩
  · rw [Converter.convert, read]
  · refine keepsLines_of_covers unbroken makes ?_
      (before_conversions converter place .start ordered).2
    exact fun conversion isMade =>
      covers_of_mem_collect placed spelled (site_mem_of_mem_conversions isMade)

/-- A source text with a byte order mark, in which text between tags and a template reach over
several lines. -/
def tornSource : List Char :=
  "\ufeffconst a = <p>\n Hello\n world \x7b\x60Room $\x7b\nok\n\x7d is\n ".toList
    ++ "free\x60\x7d</p>;\n".toList

/-- Two conversions over several lines of a source with a mark keep its lines. -/
theorem convert_keepsLines_for_tornSource :
    ∃ program,
      readProgram (withoutMark tornSource) = .ok program ∧
      program.All (Node.Placed (withoutMark tornSource)) ∧
      (program.All fun node => spells (withoutMark tornSource) node = true) ∧
      '\n' ∉ plainConverter.interest.lookup.toList ∧
      (plainConverter.made ⟨"features", "app"⟩ (withoutMark tornSource) program).length = 2 ∧
      ∃ outcome,
        plainConverter.convert "App.tsx" ⟨"features", "app"⟩ tornSource = .ok outcome ∧
        outcome.Makes plainConverter ⟨"features", "app"⟩ tornSource
          (plainConverter.made ⟨"features", "app"⟩ (withoutMark tornSource) program) ∧
        outcome.KeepsLines plainConverter ⟨"features", "app"⟩ tornSource
          (plainConverter.made ⟨"features", "app"⟩ (withoutMark tornSource) program) := by
  obtain ⟨program, read, checked⟩ := exists_ok_of_any (readProgram (withoutMark tornSource))
    (fun program : Node =>
      let sites := Site.sites plainConverter.interest (withoutMark tornSource) .outermost program
      decide (program.All (Node.Placed (withoutMark tornSource)))
        && decide (program.All fun node => spells (withoutMark tornSource) node = true)
        && decide ((conversions
          (plainConverter.course ⟨"features", "app"⟩ .start sites)).length = 2))
    (by decide +kernel)
  simp only [Bool.and_eq_true, decide_eq_true_eq] at checked
  obtain ⟨⟨placed, spelled⟩, converted⟩ := checked
  have unbroken : '\n' ∉ plainConverter.interest.lookup.toList := by decide
  rw [← Site.collect_eq_sites placed] at converted
  exact ⟨program, read, placed, spelled, unbroken, converted,
    convert_keepsLines plainConverter ⟨"features", "app"⟩ tornSource "App.tsx" program read placed
      spelled unbroken⟩

/-- A source text with a byte order mark and nothing to convert. -/
def markedSource : List Char :=
  "\ufeffconst x = 1;\n".toList

/-- Nothing is converted, and still the first line of the output is not that of the text that was
read, since the mark is back. -/
theorem first_line_differs_of_markedSource :
    ∃ program outcome,
      readProgram (withoutMark markedSource) = .ok program ∧
      '\n' ∉ plainConverter.interest.lookup.toList ∧
      plainConverter.convert "App.tsx" ⟨"features", "app"⟩ markedSource = .ok outcome ∧
      plainConverter.made ⟨"features", "app"⟩ (withoutMark markedSource) program = [] ∧
      (Text.pieces '\n' outcome.output)[0]? ≠
        (Text.pieces '\n' (withoutMark markedSource))[0]? ∧
      "- const x = 1;" ∈
        (Report.diffLines false "App.tsx" (withoutMark markedSource) outcome.output).drop 2 := by
  obtain ⟨program, read, checked⟩ := exists_ok_of_any (readProgram (withoutMark markedSource))
    (fun program : Node =>
      let sites := Site.sites plainConverter.interest (withoutMark markedSource) .outermost program
      decide (program.All (Node.Placed (withoutMark markedSource))) && sites.isEmpty)
    (by decide +kernel)
  simp only [Bool.and_eq_true, decide_eq_true_eq, List.isEmpty_iff] at checked
  obtain ⟨placed, noSites⟩ := checked
  have unbroken : '\n' ∉ plainConverter.interest.lookup.toList := by decide
  have none : plainConverter.made ⟨"features", "app"⟩ (withoutMark markedSource) program = [] := by
    rw [Converter.made, Site.collect_eq_sites placed, noSites]
    rfl
  let outcome := plainConverter.convertProgram "App.tsx" ⟨"features", "app"⟩ markedSource program
  have output : outcome.output = markedSource := by
    have makes := makes_convertProgram plainConverter "App.tsx" ⟨"features", "app"⟩ markedSource
      program
    have made : outcome.Makes plainConverter ⟨"features", "app"⟩ markedSource [] := by
      rw [← none]
      exact makes
    exact made.output
  refine ⟨program, outcome, read, unbroken, ?_, none, ?_, ?_⟩
  · rw [Converter.convert, read]
  · rw [output]
    decide
  · have before : Report.linesOf (withoutMark markedSource) = ["const x = 1;".toList] := by decide
    have after : Report.linesOf markedSource = ["\ufeffconst x = 1;".toList] := by decide
    rw [output, Report.diffLines, before, after]
    simp [Report.paired, Report.changeLines, Report.painted]

end Keying
end KeyedText
