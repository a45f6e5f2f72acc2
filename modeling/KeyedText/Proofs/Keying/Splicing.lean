import KeyedText.Proofs.Keying.Course
import KeyedText.Proofs.Site.Span
import KeyedText.Settings.Basic

/-!
# Splicing conversions in

Collected sites are nested or lie side by side, and a conversion goes through
them from the outside to the inside.  The converted ranges therefore lie side
by side, every edit is applied, and a site is passed over exactly when it lies
inside the range of an earlier conversion.
-/

namespace KeyedText
namespace Keying

open Source

variable {converter : Converter} {place : Key.Place}

/-! ## Replaced spans -/

/-- A text from a position on, with pieces in the place of spans. -/
def replaced (text : List Char) (cursor : Nat) : List (Span × List Char) → List Char
  | [] => text.drop cursor
  | (span, piece) :: rest =>
    Span.slice ⟨cursor, span.start⟩ text ++ piece ++ replaced text span.stop rest

theorem drop_eq_slice_append
    (text : List Char)
    {start stop : Nat}
    (ordered : start ≤ stop) :
    text.drop start = Span.slice ⟨start, stop⟩ text ++ text.drop stop := by
  have later : text.drop stop = (text.drop start).drop (stop - start) := by
    rw [List.drop_drop]
    congr 1
    omega
  rw [later, Span.slice, List.take_append_drop]

/-- A text in which every span keeps what it covers is the text itself, so all
that lies outside of replaced spans is copied. -/
theorem replaced_slices
    (text : List Char)
    (cursor : Nat)
    (spans : List Span)
    (ordered : ∀ span ∈ spans, span.start ≤ span.stop)
    (disjoint : spans.Pairwise Span.before)
    (behind : ∀ span ∈ spans, cursor ≤ span.start) :
    replaced text cursor (spans.map fun span => (span, span.slice text)) =
      text.drop cursor := by
  induction spans generalizing cursor with
  | nil => rfl
  | cons span rest inductionHypothesis =>
      obtain ⟨first, others⟩ := List.pairwise_cons.mp disjoint
      rw [List.map_cons, replaced,
        inductionHypothesis span.stop (fun other member => ordered other (by simp [member])) others
          first,
        drop_eq_slice_append text (behind span (by simp)),
        drop_eq_slice_append text (ordered span (by simp)), List.append_assoc]

/-- Edits that are in bounds and lie side by side, in order, are all applied. -/
theorem spliceFrom_eq_replaced
    (text : List Char)
    {cursor : Nat}
    {edits : List Edit}
    (bounded : ∀ edit ∈ edits,
      edit.span.start ≤ edit.span.stop ∧ edit.span.stop ≤ text.length)
    (disjoint : edits.Pairwise fun left right => left.span.before right.span)
    (behind : ∀ edit ∈ edits, cursor ≤ edit.span.start) :
    spliceFrom text cursor edits =
      replaced text cursor (edits.map fun edit => (edit.span, edit.filling text)) := by
  induction edits generalizing cursor with
  | nil => rfl
  | cons edit rest inductionHypothesis =>
      obtain ⟨first, others⟩ := List.pairwise_cons.mp disjoint
      have fits : edit.fits text cursor = true := by
        simp [Edit.fits, behind edit (by simp), bounded edit (by simp)]
      rw [spliceFrom, if_pos fits, List.map_cons, replaced,
        inductionHypothesis (fun other member => bounded other (by simp [member])) others first]

/-- Edits that are in bounds and lie side by side, in order, stay in their
order, and none of them is dropped. -/
theorem splice_eq_replaced
    (text : List Char)
    {edits : List Edit}
    (bounded : ∀ edit ∈ edits,
      edit.span.start ≤ edit.span.stop ∧ edit.span.stop ≤ text.length)
    (disjoint : edits.Pairwise fun left right => left.span.before right.span) :
    splice text edits =
      replaced text 0 (edits.map fun edit => (edit.span, edit.filling text)) := by
  have sorted : edits.Pairwise fun left right => left.precedes right = true := by
    have members : edits.Pairwise fun left right => left ∈ edits ∧ right ∈ edits :=
      List.pairwise_iff_forall_sublist.mpr fun {left right} pair =>
        ⟨pair.subset (by simp), pair.subset (by simp)⟩
    refine (disjoint.and members).imp ?_
    rintro left right ⟨before, leftMember, rightMember⟩
    have leftOrdered := (bounded left leftMember).1
    have rightOrdered := (bounded right rightMember).1
    simp only [Span.before] at before
    simp only [Edit.precedes, Bool.or_eq_true, Bool.and_eq_true, decide_eq_true_eq, beq_iff_eq]
    omega
  rw [splice, List.mergeSort_of_pairwise sorted,
    spliceFrom_eq_replaced text bounded disjoint fun _ _ => Nat.zero_le _]

/-! ## Converted ranges -/

theorem site_mem_of_mem_conversions
    {progress : Progress}
    {sites : List Site}
    {conversion : Conversion}
    (member : conversion ∈ conversions (converter.course place progress sites)) :
    conversion.site ∈ sites := by
  obtain ⟨⟨site, fate⟩, inCourse, found⟩ := List.mem_filterMap.mp member
  have inSites : site ∈ sites := by
    rw [← fst_course converter place progress sites]
    exact List.mem_map_of_mem inCourse
  unfold conversion? at found
  split at found
  · next same =>
      cases same
      simp only [Option.some.injEq] at found
      rw [← found]
      exact inSites
  · cases found

/-- Only a site that is not covered is converted. -/
theorem uncovered_of_conversion?
    {converter : Converter}
    {place : Key.Place}
    {progress : Progress}
    {site : Site}
    {conversion : Conversion}
    (converted : conversion? (site, converter.fate? place progress site) = some conversion) :
    conversion.site = site ∧ progress.covers site = false := by
  unfold conversion? Converter.fate? at converted
  split at converted
  · next same =>
      simp only [Option.some.injEq] at converted
      simp only [Prod.mk.injEq] at same
      obtain ⟨rfl, decided⟩ := same
      rw [← converted]
      split at decided
      · cases decided
      · next uncovered => exact ⟨rfl, by simpa using uncovered⟩
  · cases converted

/-- Conversions lie behind what was replaced before, and each lies behind the
ones before it. -/
theorem before_conversions
    (converter : Converter)
    (place : Key.Place)
    (progress : Progress)
    {sites : List Site}
    (ordered : ∀ site ∈ sites, site.span.start ≤ site.span.stop) :
    (∀ edit ∈ progress.edits.head?,
        ∀ conversion ∈ conversions (converter.course place progress sites),
          edit.span.before conversion.span) ∧
      (conversions (converter.course place progress sites)).Pairwise
        fun left right => left.span.before right.span := by
  induction sites generalizing progress with
  | nil => simp [Converter.course]
  | cons site rest inductionHypothesis =>
      have restOrdered : ∀ other ∈ rest, other.span.start ≤ other.span.stop :=
        fun other member => ordered other (by simp [member])
      obtain ⟨behind, disjoint⟩ :=
        inductionHypothesis (converter.step place progress site) restOrdered
      obtain ⟨edits, -, -⟩ := step_eq converter place progress site
      rw [Converter.course, conversions, List.filterMap_cons]
      cases converted : conversion? (site, converter.fate? place progress site) with
      | none =>
          simp only [converted, Option.map_none, Option.toList_none, List.nil_append] at edits
          rw [edits] at behind
          exact ⟨behind, disjoint⟩
      | some conversion =>
          simp only [converted, Option.map_some, Option.toList_some, List.singleton_append]
            at edits
          rw [edits] at behind
          simp only [List.head?_cons, Option.mem_def, Option.some.injEq, forall_eq',
            Conversion.span_edit] at behind
          obtain ⟨isSite, uncovered⟩ := uncovered_of_conversion? converted
          have siteBehind : ∀ edit ∈ progress.edits.head?,
              edit.span.before conversion.span := by
            intro edit isLast
            simp only [Progress.covers, Option.mem_def.mp isLast, Option.any_some,
              decide_eq_false_iff_not, Nat.not_lt] at uncovered
            rw [Conversion.span, isSite]
            exact uncovered
          have siteOrdered : conversion.span.start ≤ conversion.span.stop := by
            rw [Conversion.span, isSite]
            exact ordered site (by simp)
          refine ⟨?_, List.pairwise_cons.mpr ⟨behind, disjoint⟩⟩
          intro edit isLast other member
          rcases List.mem_cons.mp member with rfl | later
          · exact siteBehind edit isLast
          · have first := siteBehind edit isLast
            have second := behind other later
            simp only [Span.before] at first second ⊢
            omega

/-- A site behind some others is covered exactly when it lies inside the range
of one of their conversions. -/
theorem covers_iff_exists_inside
    (converter : Converter)
    (place : Key.Place)
    {front : List Site}
    {site : Site}
    (ordered : ∀ other ∈ front, other.span.start ≤ other.span.stop)
    (sorted : ∀ other ∈ front, Site.precedes other site = true)
    (laminar : ∀ other ∈ front, other.span.Laminar site.span) :
    (front.foldl (converter.step place) .start).covers site = true ↔
      ∃ conversion ∈ conversions (converter.course place .start front),
        site.span.Inside conversion.span := by
  obtain ⟨-, disjoint⟩ :=
    before_conversions converter place .start ordered
  rw [covers_foldl_start]
  constructor
  · intro covered
    cases isLast : (conversions (converter.course place .start front)).getLast? with
    | none => simp [isLast] at covered
    | some last =>
        simp only [isLast, Option.any_some, decide_eq_true_eq] at covered
        have member := List.mem_of_getLast? isLast
        have inFront := site_mem_of_mem_conversions member
        have first := sorted _ inFront
        simp only [Site.precedes, Bool.or_eq_true, Bool.and_eq_true, decide_eq_true_eq,
          beq_iff_eq] at first
        refine ⟨last, member, (laminar _ inFront).symm.inside_of_starts ?_ covered ?_⟩
        · omega
        · omega
  · rintro ⟨conversion, member, inside⟩
    obtain ⟨earlier, last, split⟩ :=
      (List.eq_nil_or_concat' _).resolve_left (List.ne_nil_of_mem member)
    have lastMember : last ∈ conversions (converter.course place .start front) := by
      simp [split]
    have lastOrdered : last.span.start ≤ last.span.stop :=
      ordered last.site (site_mem_of_mem_conversions lastMember)
    have reaches : conversion.span.stop ≤ last.span.stop := by
      rw [split] at member disjoint
      rcases List.mem_append.mp member with inEarlier | isLast
      · have before := (List.pairwise_append.mp disjoint).2.2 _ inEarlier last (by simp)
        simp only [Span.before] at before
        omega
      · simp only [List.mem_singleton] at isLast
        simp [isLast]
    rw [split, List.getLast?_concat]
    have startsInside := inside.2
    simp only [Option.any_some, decide_eq_true_eq]
    omega

/-! ## Whole conversions -/

/-- How a conversion of a source text with some collected sites is accounted
for by its course. -/
structure Accounts
    (converter : Converter)
    (place : Key.Place)
    (source : List Char)
    (sites : List Site)
    (outcome : Outcome) : Prop where
  /-- The converted ranges are in bounds. -/
  bounded : ∀ conversion ∈ conversions (converter.course place .start sites),
    conversion.span.start ≤ conversion.span.stop ∧
      conversion.span.stop ≤ (withoutMark source).length
  /-- The converted ranges lie side by side, in the order of the source text. -/
  disjoint : (conversions (converter.course place .start sites)).Pairwise
    fun left right => left.span.before right.span
  /-- Every converted range, and nothing else, is replaced by the call of its
  site and as many line feeds as the range has more than the call. -/
  replaces : conversions (converter.course place .start sites) ≠ [] →
    outcome.output =
      replaced (withoutMark source) 0
        ((conversions (converter.course place .start sites)).map fun conversion =>
          (conversion.span,
            conversion.call converter.interest.lookup place ++
              List.replicate
                ((conversion.span.slice (withoutMark source)).count '\n' -
                  (conversion.call converter.interest.lookup place).count '\n')
                '\n'))
  /-- With each converted range left as it is, the text would be the one that was
  read: all that lies outside of these ranges is copied once, in order. -/
  copies :
    replaced (withoutMark source) 0
        ((conversions (converter.course place .start sites)).map fun conversion =>
          (conversion.span, conversion.span.slice (withoutMark source))) =
      withoutMark source
  /-- Without a conversion the source text stays, byte order mark included. -/
  keeps : conversions (converter.course place .start sites) = [] → outcome.output = source
  /-- The records are those of the conversions, in order. -/
  records : outcome.ledger.records =
    (conversions (converter.course place .start sites)).map (·.record place)
  /-- The counts add up to the number of conversions. -/
  total : outcome.ledger.total =
    (conversions (converter.course place .start sites)).length
  /-- A site is left undecided exactly if it lies inside the range of an earlier
  conversion. -/
  undecided : ∀ front site fate back,
    converter.course place .start sites = front ++ (site, fate) :: back →
      (fate = none ↔
        ∃ conversion ∈ conversions front, site.span.Inside conversion.span)

/-- A site of a course is left undecided exactly if it lies inside the range of
an earlier conversion. -/
theorem fate_eq_none_iff
    {sites : List Site}
    (ordered : ∀ site ∈ sites, site.span.start ≤ site.span.stop)
    (sorted : sites.Pairwise fun left right => Site.precedes left right = true)
    (laminar : sites.Pairwise fun left right => left.span.Laminar right.span)
    {front back : List (Site × Option Decision)}
    {site : Site}
    {fate : Option Decision}
    (split : converter.course place .start sites = front ++ (site, fate) :: back) :
    fate = none ↔ ∃ conversion ∈ conversions front, site.span.Inside conversion.span := by
  obtain ⟨sitesSplit, frontCourse, fateEq⟩ := course_split split
  rw [sitesSplit] at ordered sorted laminar
  have siteSorted := fun other member =>
    (List.pairwise_append.mp sorted).2.2 other member site (by simp)
  have siteLaminar := fun other member =>
    (List.pairwise_append.mp laminar).2.2 other member site (by simp)
  have covers := covers_iff_exists_inside converter place
    (fun other member => ordered other (List.mem_append_left _ member)) siteSorted siteLaminar
  rw [frontCourse, ← covers, fateEq]
  simp [Converter.fate?]

/-- What a conversion makes of sites that are in bounds, sorted, and nested or
side by side is accounted for by its course. -/
theorem accounts_of_foldl
    {source : List Char}
    {sites : List Site}
    {outcome : Outcome}
    (siteBounds : ∀ site ∈ sites,
      site.span.start ≤ site.span.stop ∧ site.span.stop ≤ (withoutMark source).length)
    (sorted : sites.Pairwise fun left right => Site.precedes left right = true)
    (laminar : sites.Pairwise fun left right => left.span.Laminar right.span)
    (output : outcome.output =
      if (sites.foldl (converter.step place) .start).edits.isEmpty then source
      else
        splice (withoutMark source) (sites.foldl (converter.step place) .start).edits.reverse)
    (ledger : outcome.ledger = (sites.foldl (converter.step place) .start).ledger) :
    Accounts converter place source sites outcome := by
  have ordered : ∀ site ∈ sites, site.span.start ≤ site.span.stop :=
    fun site member => (siteBounds site member).1
  have bounded : ∀ conversion ∈ conversions (converter.course place .start sites),
      conversion.span.start ≤ conversion.span.stop ∧
        conversion.span.stop ≤ (withoutMark source).length :=
    fun conversion member => siteBounds _ (site_mem_of_mem_conversions member)
  have disjoint := (before_conversions converter place .start ordered).2
  have edits := edits_foldl_start converter place sites
  have unedited : (sites.foldl (converter.step place) .start).edits.isEmpty = true ↔
      conversions (converter.course place .start sites) = [] := by
    rw [List.isEmpty_iff, ← List.reverse_eq_nil_iff, edits, List.map_eq_nil_iff]
  exact
    { bounded := bounded
      disjoint := disjoint
      replaces := by
        intro converted
        rw [output, if_neg (mt unedited.mp converted), edits, splice_eq_replaced, List.map_map]
        · rfl
        · simpa using bounded
        · simpa [List.pairwise_map] using disjoint
      copies := by
        have slices := replaced_slices (withoutMark source) 0
          ((conversions (converter.course place .start sites)).map (·.span))
          (by simpa using fun conversion member => (bounded conversion member).1)
          (by simpa [List.pairwise_map] using disjoint) (fun _ _ => Nat.zero_le _)
        rwa [List.map_map, List.drop_zero] at slices
      keeps := by
        intro unconverted
        rw [output, if_pos (unedited.mpr unconverted)]
      records := by rw [ledger, records_foldl_start]
      total := by
        have total := total_foldl_step converter place .start sites
        rw [ledger, total]
        exact Nat.zero_add _
      undecided := fun front site fate back split => fate_eq_none_iff ordered sorted laminar split }

/-- The conversion of a source text replaces exactly the ranges of the converted
sites, records each of them, and passes over exactly the sites inside them. -/
theorem convert_accounts
    (converter : Converter)
    (path : String)
    (place : Key.Place)
    (source : List Char)
    (program : Node)
    (read : readProgram (withoutMark source) = .ok program)
    (laid : program.All (Node.Laid (withoutMark source).length)) :
    ∃ outcome, converter.convert path place source = .ok outcome ∧
      Accounts converter place source
        (Site.collect converter.interest (withoutMark source) program) outcome := by
  refine ⟨converter.convertProgram path place source program, ?_, ?_⟩
  · simp [Converter.convert, read]
  · exact accounts_of_foldl (fun site member => Site.bounded_of_mem_collect laid member)
      (Site.sorted_collect _ _ _) (Site.laminar_collect laid) rfl rfl

/-- A source text with a byte order mark, in which a template holds strings that
are sites themselves. -/
def nestedSource : List Char :=
  "\ufeffconst a = <p>\x7b\x60Hello $\x7bok ? 'Yes' : 'No'\x7d room\x60\x7d Bye\n now</p>;".toList

/-- The source text with its conversions; the line feed inside the second one
stands behind its call. -/
def nestedOutput : List Char :=
  "const a = <p>\x7bt('features:app.hello_value0_room', ".toList
    ++ "\x7b defaultValue: 'Hello \x7b\x7bvalue0\x7d\x7d room', ".toList
    ++ "value0: ok ? 'Yes' : 'No' \x7d)\x7d ".toList
    ++ "\x7bt('features:app.bye_now', \x7b defaultValue: 'Bye now' \x7d)\x7d\n</p>;".toList

/-- The template and the text behind it are converted; the strings inside the
template are passed over. -/
theorem convert_accounts_for_nestedSource :
    ∃ program,
      readProgram (withoutMark nestedSource) = .ok program ∧
      program.All (Node.Laid (withoutMark nestedSource).length) ∧
      ∃ outcome,
        (Settings.default.converter ⟨[], []⟩).convert "App.tsx" ⟨"features", "app"⟩ nestedSource =
          .ok outcome ∧
        (Site.collect (Settings.default.converter ⟨[], []⟩).interest
          (withoutMark nestedSource) program).length = 4 ∧
        outcome.output = nestedOutput ∧
        outcome.ledger.total = 2 ∧
        Accounts (Settings.default.converter ⟨[], []⟩) ⟨"features", "app"⟩ nestedSource
          (Site.collect (Settings.default.converter ⟨[], []⟩).interest
            (withoutMark nestedSource) program) outcome := by
  let converter := Settings.default.converter ⟨[], []⟩
  let text := withoutMark nestedSource
  obtain ⟨program, read, checked⟩ := exists_ok_of_any
    (readProgram text)
    (fun program =>
      let sites := Site.sites converter.interest text .outermost program
      let made := conversions (converter.course ⟨"features", "app"⟩ .start sites)
      decide (program.All (Node.Laid text.length))
        && decide (sites.Pairwise fun left right => Site.precedes left right = true)
        && decide (sites.length = 4)
        && decide (made.length = 2)
        && decide (replaced text 0 (made.map fun conversion =>
          (conversion.span,
            conversion.call converter.interest.lookup ⟨"features", "app"⟩ ++
              List.replicate
                ((conversion.span.slice text).count '\n' -
                  (conversion.call converter.interest.lookup ⟨"features", "app"⟩).count '\n')
                '\n')) = nestedOutput))
    (by decide +kernel)
  simp only [Bool.and_eq_true, decide_eq_true_eq] at checked
  obtain ⟨⟨⟨⟨laid, sorted⟩, four⟩, two⟩, isReplaced⟩ := checked
  have collected : Site.collect converter.interest text program =
      Site.sites converter.interest text .outermost program :=
    List.mergeSort_of_pairwise sorted
  obtain ⟨outcome, converted, accounts⟩ := convert_accounts converter "App.tsx"
    ⟨"features", "app"⟩ nestedSource program read laid
  rw [← collected] at four two isReplaced
  have some : conversions (converter.course ⟨"features", "app"⟩ .start
      (Site.collect converter.interest text program)) ≠ [] := by
    intro none
    rw [none] at two
    cases two
  exact ⟨program, read, laid, outcome, converted, four,
    (accounts.replaces some).trans isReplaced, accounts.total.trans two, accounts⟩

end Keying
end KeyedText
