import KeyedText.Keying.Conversion
import Mathlib.Data.List.Basic

/-!
# The course of a conversion

A conversion goes through the collected sites and decides each of them unless
it is covered.  The course of a conversion lists the sites with their fates;
the edits, the records and the review entries of the conversion can be read off
it.
-/

namespace KeyedText
namespace Keying

variable {converter : Converter} {place : Key.Place}

/-! ## Fates -/

/-- What becomes of a site behind some progress: nothing if it is covered, else
what is decided. -/
def Converter.fate?
    (converter : Converter)
    (place : Key.Place)
    (progress : Progress)
    (site : Site) : Option Decision :=
  if progress.covers site then none else some (converter.decide place.group site)

/-- The sites that a conversion goes through from some progress on, with their
fates. -/
def Converter.course
    (converter : Converter)
    (place : Key.Place) :
    Progress → List Site → List (Site × Option Decision)
  | _, [] => []
  | progress, site :: rest =>
    (site, converter.fate? place progress site) ::
      converter.course place (converter.step place progress site) rest

/-- A site and the slug of the key under which its text is put. -/
structure Conversion where
  /-- The site. -/
  site : Site
  /-- The slug. -/
  slug : String
deriving DecidableEq, Repr

/-- The conversion that a fate stands for, if it does. -/
def conversion? : Site × Option Decision → Option Conversion
  | (site, some (.converted slug _)) => some ⟨site, slug⟩
  | _ => none

/-- The review entry that a fate stands for, if it does. -/
def reviewOf? : Site × Option Decision → Option ReviewEntry
  | (site, some (.review reason)) => some ⟨site.line, reason, String.ofList site.text⟩
  | _ => none

/-- The conversions of a course, in order. -/
def conversions (course : List (Site × Option Decision)) : List Conversion :=
  course.filterMap conversion?

/-- The conversions that are made in a text with a syntax tree. -/
def Converter.made
    (converter : Converter)
    (place : Key.Place)
    (text : List Char)
    (program : Source.Node) : List Conversion :=
  conversions (converter.course place .start (Site.collect converter.interest text program))

namespace Conversion

/-- The span that a conversion replaces. -/
def span (conversion : Conversion) : Source.Span :=
  conversion.site.span

/-- The record of a conversion. -/
def record (place : Key.Place) (conversion : Conversion) : Record :=
  ⟨conversion.site.kind, String.ofList conversion.site.text, conversion.slug,
    place.key conversion.slug, conversion.site.line⟩

/-- The call that stands for the text of a conversion. -/
def call (lookup : String) (place : Key.Place) (conversion : Conversion) : List Char :=
  replacement lookup (place.key conversion.slug) conversion.site

/-- The edit of a conversion. -/
def edit (lookup : String) (place : Key.Place) (conversion : Conversion) : Edit :=
  ⟨conversion.span, conversion.call lookup place⟩

@[simp] theorem span_edit
    (lookup : String)
    (place : Key.Place)
    (conversion : Conversion) :
    (conversion.edit lookup place).span = conversion.span := rfl

end Conversion

@[simp] theorem conversions_nil : conversions [] = [] := rfl

/-! ## Steps -/

theorem step_of_fate?_eq_none
    {progress : Progress}
    {site : Site}
    (covered : converter.fate? place progress site = none) :
    converter.step place progress site = progress := by
  unfold Converter.fate? at covered
  split at covered
  · next covers => simp [Converter.step, covers]
  · cases covered

theorem step_of_fate?_eq_some
    {progress : Progress}
    {site : Site}
    {decision : Decision}
    (decided : converter.fate? place progress site = some decision) :
    converter.step place progress site =
      progress.follow converter.interest.lookup place site decision := by
  unfold Converter.fate? at decided
  split at decided
  · cases decided
  · next uncovered =>
      simp only [Option.some.injEq] at decided
      simp [Converter.step, uncovered, decided]

/-- A step adds the edit, the record and the review entry that the fate of its
site stands for. -/
theorem step_eq
    (converter : Converter)
    (place : Key.Place)
    (progress : Progress)
    (site : Site) :
    let fate := (site, converter.fate? place progress site)
    let next := converter.step place progress site
    next.edits =
        ((conversion? fate).map (·.edit converter.interest.lookup place)).toList
          ++ progress.edits ∧
      next.ledger.records =
        progress.ledger.records ++ ((conversion? fate).map (·.record place)).toList ∧
      next.ledger.reviews =
        progress.ledger.reviews ++ (reviewOf? fate).toList := by
  cases decided : converter.fate? place progress site with
  | none => simp [step_of_fate?_eq_none decided, conversion?, reviewOf?]
  | some decision =>
      rw [step_of_fate?_eq_some decided]
      cases decision <;>
        simp [Progress.follow, conversion?, reviewOf?, Ledger.record, Ledger.review,
          Conversion.edit, Conversion.call, Conversion.record, Conversion.span]

/-! ## Courses -/

theorem fst_course
    (converter : Converter)
    (place : Key.Place)
    (progress : Progress)
    (sites : List Site) :
    (converter.course place progress sites).map Prod.fst = sites := by
  induction sites generalizing progress with
  | nil => rfl
  | cons site rest inductionHypothesis =>
      simp [Converter.course, inductionHypothesis]

theorem course_append
    (converter : Converter)
    (place : Key.Place)
    (progress : Progress)
    (front back : List Site) :
    converter.course place progress (front ++ back) =
      converter.course place progress front ++
        converter.course place (front.foldl (converter.step place) progress) back := by
  induction front generalizing progress with
  | nil => rfl
  | cons site rest inductionHypothesis =>
      simp [Converter.course, inductionHypothesis]

/-- The part of a course in front of one of its sites is itself a course, and
the site has its fate behind that. -/
theorem course_split
    {sites : List Site}
    {front back : List (Site × Option Decision)}
    {site : Site}
    {fate : Option Decision}
    {progress : Progress}
    (split : converter.course place progress sites = front ++ (site, fate) :: back) :
    sites = front.map Prod.fst ++ site :: back.map Prod.fst ∧
      front = converter.course place progress (front.map Prod.fst) ∧
      fate = converter.fate? place
        ((front.map Prod.fst).foldl (converter.step place) progress) site := by
  have sitesSplit : sites = front.map Prod.fst ++ site :: back.map Prod.fst := by
    rw [← fst_course converter place progress sites, split]
    simp
  rw [sitesSplit, course_append] at split
  have sameLength :
      (converter.course place progress (front.map Prod.fst)).length = front.length := by
    rw [← List.length_map (f := Prod.fst), fst_course, List.length_map]
  obtain ⟨fronts, backs⟩ := List.append_inj split sameLength
  simp only [Converter.course, List.cons.injEq, Prod.mk.injEq, true_and] at backs
  exact ⟨sitesSplit, fronts.symm, backs.1.symm⟩

/-- A conversion adds the edits, records and review entries of its course. -/
theorem foldl_step_eq
    (converter : Converter)
    (place : Key.Place)
    (progress : Progress)
    (sites : List Site) :
    let course := converter.course place progress sites
    let final := sites.foldl (converter.step place) progress
    final.edits =
        ((conversions course).map (·.edit converter.interest.lookup place)).reverse
          ++ progress.edits ∧
      final.ledger.records =
        progress.ledger.records ++ (conversions course).map (·.record place) ∧
      final.ledger.reviews =
        progress.ledger.reviews ++ course.filterMap reviewOf? := by
  induction sites generalizing progress with
  | nil => simp [Converter.course, conversions]
  | cons site rest inductionHypothesis =>
      obtain ⟨edits, records, reviews⟩ :=
        step_eq converter place progress site
      obtain ⟨laterEdits, laterRecords, laterReviews⟩ :=
        inductionHypothesis (converter.step place progress site)
      simp only [List.foldl_cons, Converter.course, conversions, List.filterMap_cons]
      rw [laterEdits, laterRecords, laterReviews, edits, records, reviews]
      cases conversion? (site, converter.fate? place progress site) <;>
        cases reviewOf? (site, converter.fate? place progress site) <;>
        simp [conversions]

/-- A record is counted once, in the category of its kind. -/
@[simp] theorem total_record
    (ledger : Ledger)
    (record : Record) :
    (ledger.record record).total = ledger.total + 1 := by
  simp only [Ledger.total, Ledger.record, Category.all, List.foldl_cons, List.foldl_nil]
  cases record.kind.category <;> simp <;> omega

@[simp] theorem total_review
    (ledger : Ledger)
    (entry : ReviewEntry) :
    (ledger.review entry).total = ledger.total := rfl

/-- The counts of a conversion add up to the number of its conversions. -/
theorem total_foldl_step
    (converter : Converter)
    (place : Key.Place)
    (progress : Progress)
    (sites : List Site) :
    (sites.foldl (converter.step place) progress).ledger.total =
      progress.ledger.total + (conversions (converter.course place progress sites)).length := by
  induction sites generalizing progress with
  | nil => simp [Converter.course, conversions]
  | cons site rest inductionHypothesis =>
      rw [List.foldl_cons, inductionHypothesis, Converter.course, conversions, conversions,
        List.filterMap_cons]
      cases decided : converter.fate? place progress site with
      | none => simp [step_of_fate?_eq_none decided, conversion?]
      | some decision =>
          rw [step_of_fate?_eq_some decided]
          cases decision <;> simp [Progress.follow, conversion?]
          omega

/-- The edits of a whole conversion, in order. -/
theorem edits_foldl_start
    (converter : Converter)
    (place : Key.Place)
    (sites : List Site) :
    (sites.foldl (converter.step place) .start).edits.reverse =
      (conversions (converter.course place .start sites)).map
        (·.edit converter.interest.lookup place) := by
  rw [(foldl_step_eq converter place .start sites).1]
  simp [Progress.start]

/-- The records of a whole conversion, in order. -/
theorem records_foldl_start
    (converter : Converter)
    (place : Key.Place)
    (sites : List Site) :
    (sites.foldl (converter.step place) .start).ledger.records =
      (conversions (converter.course place .start sites)).map (·.record place) := by
  rw [(foldl_step_eq converter place .start sites).2.1]
  simp [Progress.start, Ledger.empty]

/-- The review entries of a whole conversion, in order. -/
theorem reviews_foldl_start
    (converter : Converter)
    (place : Key.Place)
    (sites : List Site) :
    (sites.foldl (converter.step place) .start).ledger.reviews =
      (converter.course place .start sites).filterMap reviewOf? := by
  rw [(foldl_step_eq converter place .start sites).2.2]
  simp [Progress.start, Ledger.empty]

/-- A site behind some others is covered if it starts inside the last
conversion of these. -/
theorem covers_foldl_start
    (converter : Converter)
    (place : Key.Place)
    (sites : List Site)
    (site : Site) :
    (sites.foldl (converter.step place) .start).covers site =
      (conversions (converter.course place .start sites)).getLast?.any
        fun conversion => site.span.start < conversion.span.stop := by
  have edits := edits_foldl_start converter place sites
  rw [← List.reverse_inj, List.reverse_reverse, ← List.map_reverse] at edits
  rw [Progress.covers, edits, List.head?_map, List.head?_reverse]
  cases (conversions (converter.course place .start sites)).getLast? <;> rfl

end Keying
end KeyedText
