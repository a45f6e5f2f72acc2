import KeyedText.Proofs.Keying.Rewriting
import KeyedText.Proofs.Keying.Splicing
import KeyedText.Proofs.Site.Order

/-!
# Converting again

The output of a conversion is read into the rewritten tree of its source text.
All sites in that tree were decided before, and none of them is converted, so a
second conversion leaves the text as it is and asks for the same reviews.
-/

namespace KeyedText

/-- What a review entry says apart from its line. -/
def ReviewEntry.demand (entry : ReviewEntry) : ReviewReason × String :=
  (entry.reason, entry.text)

namespace Keying

open Source Site

variable {converter : Converter} {place : Key.Place} {source : List Char}

/-! ## Review entries -/

/-- The review entry that a site asks for, if it is decided and asks for one. -/
def Converter.asked? (converter : Converter) (place : Key.Place) (site : Site) :
    Option ReviewEntry :=
  match converter.decide place.group site with
  | .review reason => some ⟨site.line, reason, String.ofList site.text⟩
  | _ => none

/-- The review entries of a conversion behind some progress. -/
def Converter.reviewsFrom
    (converter : Converter)
    (place : Key.Place)
    (progress : Progress)
    (sites : List Site) : List ReviewEntry :=
  (converter.course place progress sites).filterMap reviewOf?

theorem reviewsFrom_append
    (progress : Progress)
    (front back : List Site) :
    converter.reviewsFrom place progress (front ++ back) =
      converter.reviewsFrom place progress front ++
        converter.reviewsFrom place (front.foldl (converter.step place) progress) back := by
  rw [Converter.reviewsFrom, course_append, List.filterMap_append]
  rfl

/-- A covered site changes nothing. -/
theorem reviewsFrom_of_covered
    {progress : Progress}
    {sites : List Site}
    (covered : ∀ site ∈ sites, progress.covers site = true) :
    converter.reviewsFrom place progress sites = [] := by
  induction sites with
  | nil => rfl
  | cons site rest inductionHypothesis =>
      have undecided : converter.fate? place progress site = none := by
        rw [Converter.fate?, if_pos (covered site List.mem_cons_self)]
      have later := inductionHypothesis fun other inRest =>
        covered other (List.mem_cons_of_mem _ inRest)
      rw [Converter.reviewsFrom, Converter.course, step_of_fate?_eq_none undecided, undecided]
      exact later

/-- An uncovered site is decided by what it is and the group of its file. -/
theorem fate?_of_uncovered
    (converter : Converter)
    (place : Key.Place)
    {progress : Progress}
    {site : Site}
    (uncovered : progress.covers site = false) :
    converter.fate? place progress site = some (converter.decide place.group site) := by
  rw [Converter.fate?, uncovered, if_neg Bool.false_ne_true]

/-- An uncovered site that is not converted brings the entry it asks for. -/
theorem reviewsFrom_cons_of_kept
    {progress : Progress}
    {site : Site}
    (uncovered : progress.covers site = false)
    (kept : converter.slug? place site = none)
    (rest : List Site) :
    (converter.step place progress site).edits = progress.edits ∧
      converter.reviewsFrom place progress (site :: rest) =
        (converter.asked? place site).toList ++
          converter.reviewsFrom place (converter.step place progress site) rest := by
  have decided := fate?_of_uncovered converter place uncovered
  obtain ⟨edits, -, -⟩ := step_eq converter place progress site
  rw [decided] at edits
  rw [Converter.reviewsFrom, Converter.course, List.filterMap_cons, decided]
  unfold Converter.slug? at kept
  unfold Converter.asked?
  cases decision : converter.decide place.group site with
  | passed =>
      rw [decision] at edits
      exact ⟨edits, rfl⟩
  | rejected rule =>
      rw [decision] at edits
      exact ⟨edits, rfl⟩
  | review reason =>
      rw [decision] at edits
      exact ⟨edits, rfl⟩
  | converted slug rule =>
      rw [decision] at kept
      cases kept

/-- An uncovered site that is converted is replaced and brings no entry. -/
theorem reviewsFrom_cons_of_converted
    {progress : Progress}
    {site : Site}
    {slug : String}
    (uncovered : progress.covers site = false)
    (converted : converter.slug? place site = some slug)
    (rest : List Site) :
    (∃ edit, (converter.step place progress site).edits = edit :: progress.edits ∧
        edit.span = site.span) ∧
      converter.reviewsFrom place progress (site :: rest) =
        converter.reviewsFrom place (converter.step place progress site) rest := by
  have decided := fate?_of_uncovered converter place uncovered
  obtain ⟨edits, -, -⟩ := step_eq converter place progress site
  rw [decided] at edits
  rw [Converter.reviewsFrom, Converter.course, List.filterMap_cons, decided]
  unfold Converter.slug? at converted
  cases decision : converter.decide place.group site with
  | converted slug rule =>
      rw [decision] at edits
      exact ⟨⟨_, edits, rfl⟩, rfl⟩
  | passed =>
      rw [decision] at converted
      cases converted
  | rejected rule =>
      rw [decision] at converted
      cases converted
  | review reason =>
      rw [decision] at converted
      cases converted

/-- The latest edit behind some sites was there before or replaces one of them. -/
theorem head_edits_foldl
    (progress : Progress)
    (sites : List Site)
    {edit : Edit}
    (isLast : edit ∈ (sites.foldl (converter.step place) progress).edits.head?) :
    edit ∈ progress.edits.head? ∨ ∃ site ∈ sites, edit.span = site.span := by
  rw [(foldl_step_eq converter place progress sites).1, ← List.map_reverse] at isLast
  cases reversed : (conversions (converter.course place progress sites)).reverse with
  | nil =>
      rw [reversed] at isLast
      exact Or.inl isLast
  | cons last others =>
      rw [reversed, List.map_cons, List.cons_append, List.head?_cons] at isLast
      cases isLast
      have member : last ∈ conversions (converter.course place progress sites) := by
        rw [← List.mem_reverse, reversed]
        exact List.mem_cons_self
      exact Or.inr ⟨last.site, site_mem_of_mem_conversions member, rfl⟩

/-! ## The sites that remain -/

/-- Whether no site of some starts inside the latest edit. -/
def Progress.Clear (progress : Progress) (sites : List Site) : Prop :=
  ∀ edit ∈ progress.edits.head?, ∀ site ∈ sites, edit.span.stop ≤ site.span.start

theorem Progress.Clear.uncovered
    {progress : Progress}
    {sites : List Site}
    (clear : progress.Clear sites)
    {site : Site}
    (member : site ∈ sites) :
    progress.covers site = false := by
  unfold Progress.covers
  cases last : progress.edits.head? with
  | none => rfl
  | some edit =>
      have behind := clear edit last site member
      simpa using behind

theorem Progress.Clear.of_edits
    {progress next : Progress}
    {sites : List Site}
    (clear : progress.Clear sites)
    (sameEdits : next.edits = progress.edits) :
    next.Clear sites := by
  unfold Progress.Clear
  rw [sameEdits]
  exact clear

theorem Progress.Clear.mono
    {progress : Progress}
    {sites fewer : List Site}
    (clear : progress.Clear sites)
    (subset : fewer ⊆ sites) :
    progress.Clear fewer :=
  fun edit isLast _ member => clear edit isLast _ (subset member)

theorem reviewsFrom_sitesFrom
    (converter : Converter)
    (place : Key.Place)
    {parts : List Node}
    (placed : ∀ part ∈ parts, part.All (Node.Placed source))
    (inOrder : parts.Pairwise fun left right => left.span.before right.span)
    (inParts : ∀ part ∈ parts, ∀ situation progress,
      Progress.Clear progress (sites converter.interest source situation part) →
        converter.reviewsFrom place progress
            (sites converter.interest source situation part) =
          (converter.remaining place source situation part).filterMap
            (converter.asked? place))
    (descend : Nat → Option Situation)
    (index : Nat)
    (progress : Progress)
    (clear : progress.Clear (sitesFrom converter.interest source descend index parts)) :
    converter.reviewsFrom place progress
        (sitesFrom converter.interest source descend index parts) =
      (converter.remainingFrom place source descend index parts).filterMap
        (converter.asked? place) := by
  induction parts generalizing index progress with
  | nil => rfl
  | cons part rest inductionHypothesis =>
      obtain ⟨first, others⟩ := List.pairwise_cons.mp inOrder
      have later := inductionHypothesis
        (fun other inRest => placed other (List.mem_cons_of_mem _ inRest)) others
        (fun other inRest => inParts other (List.mem_cons_of_mem _ inRest)) (index + 1)
      rw [sitesFrom] at clear ⊢
      rw [Converter.remainingFrom]
      cases looked : descend index with
      | none => exact later progress (clear.mono (List.subset_append_right _ _))
      | some situation =>
          rw [looked] at clear
          have here := inParts part List.mem_cons_self situation progress
            (clear.mono (List.subset_append_left _ _))
          rw [reviewsFrom_append, List.filterMap_append]
          refine congrArg₂ (· ++ ·) here (later _ ?_)
          -- What was replaced lies in front of the later parts.
          intro edit isLast site member
          rcases head_edits_foldl _ _ isLast with before | ⟨replaced, inHere, covers⟩
          · exact clear edit before site (List.mem_append_right _ member)
          · obtain ⟨other, inRest, deeper, found⟩ := exists_part_of_mem_sitesFrom member
            have left := (ordered_and_within_of_mem_sites
              (placed part List.mem_cons_self).laid inHere).2
            have right := (ordered_and_within_of_mem_sites
              (placed other (List.mem_cons_of_mem _ inRest)).laid found).2
            have before := first other inRest
            rw [covers]
            simp only [Span.within, Span.before] at left right before
            omega

/-- A conversion asks for the reviews of the sites that remain. -/
theorem reviewsFrom_sites
    (converter : Converter)
    (place : Key.Place)
    {node : Node}
    (placed : node.All (Node.Placed source))
    (situation : Situation)
    (progress : Progress)
    (clear : progress.Clear (sites converter.interest source situation node)) :
    converter.reviewsFrom place progress (sites converter.interest source situation node) =
      (converter.remaining place source situation node).filterMap
        (converter.asked? place) := by
  induction node using Node.induction generalizing situation progress with
  | step form span parts inside =>
      have inParts := reviewsFrom_sitesFrom converter place placed.inside placed.here.inOrder
        (fun part member => inside part member (placed.inside part member))
        (situation.descend converter.interest form parts) 0
      rw [sites_mk] at clear ⊢
      rw [Converter.remaining]
      cases own : own? source situation form span parts with
      | none =>
          have kept : converter.converted? place source situation form span parts = none := by
            rw [Converter.converted?, own, Option.bind_none]
          rw [own] at clear
          rw [kept]
          exact inParts progress clear
      | some site =>
          rw [own] at clear
          have uncovered := clear.uncovered (List.mem_append_left _ (List.mem_singleton.mpr rfl))
          have afterClear := clear.mono (List.subset_append_right _ _)
          cases slugged : converter.slug? place site with
          | none =>
              have kept :
                  converter.converted? place source situation form span parts = none := by
                simp [Converter.converted?, own, slugged]
              obtain ⟨sameEdits, entries⟩ := reviewsFrom_cons_of_kept uncovered slugged
                (sitesFrom converter.interest source
                  (situation.descend converter.interest form parts) 0 parts)
              rw [kept]
              simp only [Option.toList_some, List.singleton_append, List.filterMap_cons]
              rw [entries, inParts _ (afterClear.of_edits sameEdits)]
              cases converter.asked? place site <;> rfl
          | some slug =>
              have converted : converter.converted? place source situation form span parts =
                  some (site, slug) := converted?_eq_some_iff.mpr ⟨own, slugged⟩
              obtain ⟨⟨edit, edits, covers⟩, entries⟩ :=
                reviewsFrom_cons_of_converted uncovered slugged
                  (sitesFrom converter.interest source
                    (situation.descend converter.interest form parts) 0 parts)
              rw [converted]
              simp only [Option.toList_some, List.singleton_append, List.filterMap_nil]
              rw [entries]
              apply reviewsFrom_of_covered
              intro inner member
              have inside := (start_lt_of_mem_sitesFrom placed own member).2.1
              simp [Progress.covers, edits, covers, inside]

theorem slug?_of_mem_remainingFrom
    {parts : List Node}
    (inParts : ∀ part ∈ parts, ∀ situation,
      ∀ site ∈ converter.remaining place source situation part,
        converter.slug? place site = none)
    (descend : Nat → Option Situation)
    (index : Nat) :
    ∀ site ∈ converter.remainingFrom place source descend index parts,
      converter.slug? place site = none := by
  induction parts generalizing index with
  | nil => simp [Converter.remainingFrom]
  | cons part rest inductionHypothesis =>
      intro site member
      rw [Converter.remainingFrom, List.mem_append] at member
      rcases member with here | later
      · split at here
        · exact inParts part List.mem_cons_self _ site here
        · cases here
      · exact inductionHypothesis
          (fun other inRest => inParts other (List.mem_cons_of_mem _ inRest)) (index + 1) site later

/-- A site that remains is not converted. -/
theorem slug?_of_mem_remaining
    (situation : Situation)
    (node : Node) :
    ∀ site ∈ converter.remaining place source situation node,
      converter.slug? place site = none := by
  induction node using Node.induction generalizing situation with
  | step form span parts inside =>
      intro site member
      rw [Converter.remaining] at member
      split at member
      · cases member
      · next kept =>
          rcases List.mem_append.mp member with isOwn | later
          · have own := Option.mem_toList.mp isOwn
            simpa [Converter.converted?, Option.mem_def.mp own] using kept
          · exact slug?_of_mem_remainingFrom inside _ _ site later

/-! ## A second conversion -/

/-- Sites none of which is converted are all decided. -/
theorem course_of_kept
    (converter : Converter)
    (place : Key.Place)
    {progress : Progress}
    (unedited : progress.edits = [])
    {sites : List Site}
    (kept : ∀ site ∈ sites, converter.slug? place site = none) :
    (sites.foldl (converter.step place) progress).edits = [] ∧
      converter.reviewsFrom place progress sites =
        sites.filterMap (converter.asked? place) := by
  induction sites generalizing progress with
  | nil => exact ⟨unedited, rfl⟩
  | cons site rest inductionHypothesis =>
      have uncovered : progress.covers site = false := by
        rw [Progress.covers, unedited]
        rfl
      obtain ⟨sameEdits, entries⟩ :=
        reviewsFrom_cons_of_kept uncovered (kept site List.mem_cons_self) rest
      obtain ⟨noEdits, later⟩ := inductionHypothesis (sameEdits.trans unedited)
        fun other inRest => kept other (List.mem_cons_of_mem _ inRest)
      refine ⟨noEdits, ?_⟩
      rw [entries, later, List.filterMap_cons]
      cases converter.asked? place site <;> rfl

/-- What becomes of a site follows from its outline. -/
theorem decide_outline
    (group : String)
    (site : Site) :
    converter.decide group site.outline = converter.decide group site := rfl

theorem slug?_outline (site : Site) :
    converter.slug? place site.outline = converter.slug? place site := rfl

theorem demand_asked?_outline (site : Site) :
    (converter.asked? place site.outline).map ReviewEntry.demand =
      (converter.asked? place site).map ReviewEntry.demand := by
  unfold Converter.asked?
  rw [decide_outline]
  cases converter.decide place.group site <;> rfl

/-- What a conversion asks for follows from the outlines of the sites. -/
theorem map_demand_asked?
    (sites : List Site) :
    (sites.filterMap (converter.asked? place)).map ReviewEntry.demand =
      (sites.map outline).filterMap fun outlined =>
        (converter.asked? place outlined).map ReviewEntry.demand := by
  rw [List.map_filterMap, List.filterMap_map]
  refine congrArg (fun asks => sites.filterMap asks) (funext fun site => ?_)
  exact (demand_asked?_outline site).symm

/-- The sites in a tree of the shape of a rewritten one have the outlines of the
sites that remain in the old one. -/
theorem outline_sites_of_rewritten
    {program second : Node}
    (asRewritten :
      second.shape = (converter.rewritten place source .outermost program).shape)
    (text : List Char) :
    (sites converter.interest text .outermost second).map outline =
      (converter.remaining place source .outermost program).map outline := by
  rw [← outline_sites_shape, asRewritten, outline_sites_shape converter.interest source,
    sites_rewritten]

/-- A conversion is idempotent.  If its output is read into the tree in which the
node of every converted site has become a lookup, a second conversion records
nothing, leaves the text as it is, and asks for the same reviews in the same
order. -/
theorem convert_again
    (converter : Converter)
    (path : String)
    (place : Key.Place)
    (source : List Char)
    (program second : Node)
    (first : Outcome)
    (read : readProgram (withoutMark source) = .ok program)
    (placed : program.All (Node.Placed (withoutMark source)))
    (converted : converter.convert path place source = .ok first)
    (readAgain : readProgram (withoutMark first.output) = .ok second)
    (placedAgain : second.All (Node.Placed (withoutMark first.output)))
    (asRewritten : second.shape =
      (converter.rewritten place (withoutMark source) .outermost program).shape) :
    ∃ again, converter.convert path place first.output = .ok again ∧
      again.ledger.records = [] ∧
      again.ledger.total = 0 ∧
      again.output = first.output ∧
      again.ledger.reviews.map ReviewEntry.demand =
        first.ledger.reviews.map ReviewEntry.demand := by
  let remaining := converter.remaining place (withoutMark source) .outermost program
  let text := withoutMark first.output
  have sameOutlines := outline_sites_of_rewritten asRewritten text
  have kept : ∀ site ∈ sites converter.interest text .outermost second,
      converter.slug? place site = none := by
    intro site member
    have inOutlines := List.mem_map_of_mem (f := outline) member
    rw [sameOutlines] at inOutlines
    obtain ⟨old, isRemaining, sameOutline⟩ := List.mem_map.mp inOutlines
    rw [← slug?_outline, ← sameOutline, slug?_outline]
    exact slug?_of_mem_remaining _ _ old isRemaining
  obtain ⟨noEdits, laterReviews⟩ := course_of_kept converter place
    (show Progress.start.edits = [] from rfl) kept
  have noConversions : conversions (converter.course place .start
      (sites converter.interest text .outermost second)) = [] := by
    have edits := edits_foldl_start converter place
      (sites converter.interest text .outermost second)
    rw [noEdits, List.reverse_nil] at edits
    exact List.map_eq_nil_iff.mp edits.symm
  have firstReviews : first.ledger.reviews = remaining.filterMap (converter.asked? place) := by
    simp only [Converter.convert, read, Except.ok.injEq] at converted
    rw [← converted, Converter.convertProgram]
    dsimp only
    rw [collect_eq_sites placed, reviews_foldl_start]
    refine reviewsFrom_sites converter place placed .outermost .start ?_
    intro edit isLast
    cases isLast
  refine ⟨converter.convertProgram path place first.output second, ?_, ?_, ?_, ?_, ?_⟩
  · simp [Converter.convert, readAgain]
  · rw [Converter.convertProgram]
    dsimp only
    rw [collect_eq_sites placedAgain, records_foldl_start, noConversions, List.map_nil]
  · rw [Converter.convertProgram]
    dsimp only
    rw [collect_eq_sites placedAgain, total_foldl_step, noConversions]
    rfl
  · rw [Converter.convertProgram]
    dsimp only
    rw [collect_eq_sites placedAgain, noEdits]
    rfl
  · rw [firstReviews, Converter.convertProgram]
    dsimp only
    rw [collect_eq_sites placedAgain, reviews_foldl_start]
    have secondReviews := congrArg (List.map ReviewEntry.demand) laterReviews
    rw [map_demand_asked?, sameOutlines, ← map_demand_asked?] at secondReviews
    exact secondReviews

/-- Edits whose order is that of the sites need not be sorted. -/
theorem output_convertProgram
    (converter : Converter)
    (path : String)
    (place : Key.Place)
    {program : Node}
    (placed : program.All (Node.Placed (withoutMark source))) :
    let edits := ((sites converter.interest (withoutMark source) .outermost program).foldl
      (converter.step place) .start).edits.reverse
    edits.Pairwise (fun left right => left.precedes right = true) →
      edits ≠ [] →
      (converter.convertProgram path place source program).output =
        spliceFrom (withoutMark source) 0 edits := by
  intro edits sorted edited
  have notEmpty : ((sites converter.interest (withoutMark source) .outermost program).foldl
      (converter.step place) .start).edits.isEmpty ≠ true := by
    simpa [edits] using edited
  rw [Converter.convertProgram]
  dsimp only
  rw [collect_eq_sites placed, if_neg notEmpty, splice, List.mergeSort_of_pairwise sorted]

/-- A source text with an attribute, text between tags, two halves of a sentence
around an element, and a template. -/
def halvedSource : List Char :=
  "<p title='A b'> Hi \x7b'Yes'\x7d<b/>".toList
    ++ "\x7b'No!'\x7d\x7b\x60A $\x7bx\x7d\x60\x7d</p>;".toList

/-- The source text with its conversions. -/
def halvedOutput : List Char :=
  "<p title=\x7bt('features:app.ab', ".toList ++ "\x7b defaultValue: 'A b' \x7d)\x7d> ".toList
    ++ "\x7bt('features:app.hi', ".toList ++ "\x7b defaultValue: 'Hi' \x7d)\x7d ".toList
    ++ "\x7b'Yes'\x7d<b/>\x7b'No!'\x7d".toList ++ "\x7bt('features:app.x', ".toList
    ++ "\x7b defaultValue: 'A \x7b\x7bx\x7d\x7d', x: x \x7d)\x7d</p>;".toList

/-- The converter of a project with default settings and without tables. -/
def plainConverter : Converter :=
  Settings.default.converter ⟨[], []⟩

/-- The edits of a conversion of sites in their order. -/
def editsOf (sites : List Site) : List Edit :=
  (sites.foldl (plainConverter.step ⟨"features", "app"⟩) .start).edits.reverse

/-- The output of a conversion is what its edits make of the source text. -/
theorem output_eq_spliceFrom_editsOf
    (unmarked : withoutMark source = source)
    {program : Node}
    (read : readProgram (withoutMark source) = .ok program)
    (placed : program.All (Node.Placed (withoutMark source)))
    {path : String}
    {outcome : Outcome}
    (converted : plainConverter.convert path ⟨"features", "app"⟩ source = .ok outcome)
    (sorted : (editsOf (sites plainConverter.interest source .outermost program)).Pairwise
      fun left right => left.precedes right = true)
    (edited : (editsOf (sites plainConverter.interest source .outermost program)).isEmpty = false) :
    outcome.output =
      spliceFrom source 0 (editsOf (sites plainConverter.interest source .outermost program)) := by
  rw [Converter.convert, read] at converted
  cases converted
  have spliced := output_convertProgram plainConverter path ⟨"features", "app"⟩ placed
  rw [unmarked] at spliced
  exact spliced sorted (List.isEmpty_eq_false_iff.mp edited)

/-- A source with halves of a sentence is converted, and then once more with no further change. -/
theorem convert_again_for_halvedSource :
    ∃ program second first again,
      readProgram (withoutMark halvedSource) = .ok program ∧
      program.All (Node.Placed (withoutMark halvedSource)) ∧
      plainConverter.convert "App.tsx" ⟨"features", "app"⟩ halvedSource = .ok first ∧
      first.output = halvedOutput ∧
      readProgram (withoutMark first.output) = .ok second ∧
      second.All (Node.Placed (withoutMark first.output)) ∧
      second.shape =
        (plainConverter.rewritten ⟨"features", "app"⟩ (withoutMark halvedSource) .outermost
          program).shape ∧
      plainConverter.convert "App.tsx" ⟨"features", "app"⟩ first.output = .ok again ∧
      again.ledger.records = [] ∧
      again.ledger.total = 0 ∧
      again.output = first.output ∧
      again.ledger.reviews.map ReviewEntry.demand =
        first.ledger.reviews.map ReviewEntry.demand := by
  have noMark : withoutMark halvedSource = halvedSource := by decide +kernel
  have noMarkAgain : withoutMark halvedOutput = halvedOutput := by decide +kernel
  obtain ⟨program, read, checked⟩ := exists_ok_of_any (readProgram halvedSource)
    (fun program : Node =>
      let edits := editsOf (sites plainConverter.interest halvedSource .outermost program)
      decide (program.All (Node.Placed halvedSource))
        && decide (edits.Pairwise fun left right : Edit => left.precedes right = true)
        && !edits.isEmpty
        && decide (spliceFrom halvedSource 0 edits = halvedOutput)
        && (readProgram halvedOutput).toOption.any fun second : Node =>
          decide (second.All (Node.Placed halvedOutput))
            && decide (second.shape =
              (plainConverter.rewritten ⟨"features", "app"⟩ halvedSource .outermost
                program).shape))
    (by decide +kernel)
  simp only [Bool.and_eq_true, decide_eq_true_eq, Bool.not_eq_true'] at checked
  obtain ⟨⟨⟨⟨placed, sorted⟩, edited⟩, spliced⟩, readable⟩ := checked
  obtain ⟨second, readAgain, checkedAgain⟩ := exists_ok_of_any _ _ readable
  simp only [Bool.and_eq_true, decide_eq_true_eq] at checkedAgain
  obtain ⟨placedAgain, asRewritten⟩ := checkedAgain
  rw [← noMark] at read placed asRewritten
  rw [← noMarkAgain] at readAgain placedAgain
  let first := plainConverter.convertProgram "App.tsx" ⟨"features", "app"⟩ halvedSource program
  have converted :
      plainConverter.convert "App.tsx" ⟨"features", "app"⟩ halvedSource = .ok first := by
    rw [Converter.convert, read]
  have output : first.output = halvedOutput :=
    (output_eq_spliceFrom_editsOf noMark read placed converted sorted edited).trans spliced
  rw [← output] at readAgain placedAgain
  obtain ⟨again, results⟩ := convert_again plainConverter "App.tsx" ⟨"features", "app"⟩
    halvedSource program second first read placed converted readAgain placedAgain asRewritten
  exact ⟨program, second, first, again, read, placed, converted, output, readAgain, placedAgain,
    asRewritten, results⟩

end Keying
end KeyedText
