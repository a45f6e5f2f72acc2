import KeyedText.Report.Survey
import Mathlib.Algebra.BigOperators.Group.Finset.Basic
import Mathlib.Algebra.GroupWithZero.Nat
import Mathlib.Data.List.Induction

/-!
# Rankings of surveyed texts

Texts are counted one after the other into entries that are in no particular
order, and the entries are then sorted.  As no two entries of different texts are
alike to the order, there is one sorted row of them.  So a ranking depends on how
often each text occurs and on nothing else, neither on the order in which the
entries come out nor on that of the files and their records.
-/

namespace KeyedText
namespace Report

open Run

/-! ## The order of a ranking -/

/-- An entry belongs in front of another one: it occurs more often, or equally often and its text
comes first. -/
def Ranked.Precedes (left right : Ranked) : Prop :=
  right.count < left.count ∨ (left.count = right.count ∧ left.text < right.text)

/-- A text stands in front of those with a smaller count, and of those with the same
count that come later. -/
theorem Ranked.before_iff
    {left right : Ranked} :
    left.before right = true ↔
      right.count < left.count ∨ (left.count = right.count ∧ left.text ≤ right.text) := by
  rw [before, Bool.or_eq_true, Bool.and_eq_true, decide_eq_true_eq, beq_iff_eq, Bool.not_eq_true',
    decide_eq_false_iff_not, String.not_lt]

theorem Ranked.before_trans
    {left middle right : Ranked}
    (first : left.before middle = true)
    (second : middle.before right = true) :
    left.before right = true := by
  rw [before_iff] at first second ⊢
  rcases first with moreOften | ⟨sameCount, inOrder⟩
  · rcases second with moreOftenToo | ⟨sameCountToo, -⟩
    · exact Or.inl (by omega)
    · exact Or.inl (by omega)
  · rcases second with moreOftenToo | ⟨sameCountToo, inOrderToo⟩
    · exact Or.inl (by omega)
    · exact Or.inr ⟨by omega, String.le_trans inOrder inOrderToo⟩

/-- Of two texts one stands in front of the other. -/
theorem Ranked.before_total
    (left right : Ranked) :
    (left.before right || right.before left) = true := by
  rw [Bool.or_eq_true, before_iff, before_iff]
  rcases Nat.lt_trichotomy left.count right.count with less | same | more
  · exact Or.inr (Or.inl less)
  · rcases String.le_total left.text right.text with inOrder | inOrder
    · exact Or.inl (Or.inr ⟨same, inOrder⟩)
    · exact Or.inr (Or.inr ⟨same.symm, inOrder⟩)
  · exact Or.inl (Or.inl more)

/-- Only one of two entries can stand in front of the other. -/
theorem Ranked.before_antisymm
    {left right : Ranked}
    (first : left.before right = true)
    (second : right.before left = true) :
    left = right := by
  rw [before_iff] at first second
  rcases first with moreOften | ⟨sameCount, inOrder⟩
  · omega
  · rcases second with moreOftenToo | ⟨-, inOrderToo⟩
    · omega
    · have sameText := String.le_antisymm inOrder inOrderToo
      cases left
      cases right
      simp_all

theorem Ranked.precedes_of_before
    {left right : Ranked}
    (isBefore : left.before right = true)
    (differs : left.text ≠ right.text) :
    left.Precedes right := by
  rw [before_iff] at isBefore
  rcases isBefore with moreOften | ⟨sameCount, inOrder⟩
  · exact Or.inl moreOften
  · refine Or.inr ⟨sameCount, String.not_le.mp fun inOrderToo => ?_⟩
    exact differs (String.le_antisymm inOrder inOrderToo)

/-! ## Counting texts -/

/-- Entries tell of every text of a row how often it occurs in it, each text once. -/
structure Counts (texts : List String) (counts : List Ranked) : Prop where
  distinct : (counts.map (·.text)).Nodup
  mem_iff : ∀ entry, entry ∈ counts ↔ entry.text ∈ texts ∧ entry.count = texts.count entry.text

/-- How often a text was counted. -/
def countOf (text : String) (counts : List Ranked) : Nat :=
  match counts.find? fun entry => entry.text == text with
  | some entry => entry.count
  | none => 0

/-- Counts a text once more. -/
def noted (counts : List Ranked) (text : String) : List Ranked :=
  ⟨text, countOf text counts + 1⟩ :: counts.filter fun entry => entry.text != text

/-- The entries of texts that are counted one after the other. -/
def tally (texts : List String) : List Ranked :=
  texts.foldl noted []

section Counts

variable
    {texts other : List String}
    {counts listed : List Ranked}

/-- A text is counted as often as it occurs. -/
theorem Counts.countOf_eq
    (are : Counts texts counts)
    (text : String) :
    countOf text counts = texts.count text := by
  unfold countOf
  split
  · next entry isFound =>
      have isText : entry.text = text := by simpa using List.find?_some isFound
      rw [((are.mem_iff entry).mp (List.mem_of_find?_eq_some isFound)).2, isText]
  · next isNone =>
      symm
      apply List.count_eq_zero_of_not_mem
      intro inTexts
      have isCounted := (are.mem_iff ⟨text, texts.count text⟩).mpr ⟨inTexts, rfl⟩
      simpa using List.find?_eq_none.mp isNone _ isCounted

/-- One more text, and the entries tell of it too. -/
theorem Counts.noted
    (are : Counts texts counts)
    (text : String) :
    Counts (texts ++ [text]) (noted counts text) := by
  refine ⟨?_, fun entry => ?_⟩
  · rw [Report.noted, List.map_cons, List.nodup_cons]
    refine ⟨?_, are.distinct.sublist (List.filter_sublist.map _)⟩
    intro again
    obtain ⟨entry, isKept, isText⟩ := List.mem_map.mp again
    exact bne_iff_ne.mp (List.mem_filter.mp isKept).2 isText
  · rw [Report.noted, List.mem_cons, List.mem_filter, bne_iff_ne, are.mem_iff, are.countOf_eq,
      List.mem_append, List.mem_singleton, List.count_append]
    by_cases isText : entry.text = text
    · subst isText
      have once : List.count entry.text [entry.text] = 1 := by simp
      rw [once]
      constructor
      · rintro (isNew | ⟨-, differs⟩)
        · exact ⟨Or.inr rfl, congrArg Ranked.count isNew⟩
        · exact absurd rfl differs
      · rintro ⟨-, isCount⟩
        left
        cases entry
        simp_all
    · have never : List.count entry.text [text] = 0 := by simp [Ne.symm isText]
      rw [never]
      constructor
      · rintro (isNew | ⟨⟨inTexts, isCount⟩, -⟩)
        · exact absurd (congrArg Ranked.text isNew) isText
        · exact ⟨Or.inl inTexts, isCount⟩
      · rintro ⟨inTexts | isLast, isCount⟩
        · exact Or.inr ⟨⟨inTexts, isCount⟩, isText⟩
        · exact absurd isLast isText

/-- Counted one after the other, texts are counted right. -/
theorem counts_tally
    (texts : List String) :
    Counts texts (tally texts) := by
  induction texts using List.reverseRecOn with
  | nil => exact ⟨.nil, by simp [tally]⟩
  | append_singleton front last inductionHypothesis =>
      rw [tally, List.foldl_append]
      exact inductionHypothesis.noted last

/-- Two tallies of the same texts have the same entries. -/
theorem Counts.perm
    (are : Counts texts counts)
    (areToo : Counts texts listed) :
    counts.Perm listed := by
  rw [List.perm_ext_iff_of_nodup are.distinct.of_map areToo.distinct.of_map]
  intro entry
  rw [are.mem_iff, areToo.mem_iff]

/-- A tally may list its entries in any order. -/
theorem Counts.of_perm
    (are : Counts texts counts)
    (reordered : listed.Perm counts) :
    Counts texts listed := by
  refine ⟨(reordered.map _).nodup_iff.mpr are.distinct, fun entry => ?_⟩
  rw [reordered.mem_iff, are.mem_iff]

/-- Entries tell the same of texts in any order. -/
theorem Counts.of_perm_texts
    (are : Counts texts counts)
    (reordered : texts.Perm other) :
    Counts other counts := by
  refine ⟨are.distinct, fun entry => ?_⟩
  rw [are.mem_iff, reordered.mem_iff, reordered.count_eq]

theorem nodup_eraseDups
    (texts : List String) :
    texts.eraseDups.Nodup := by
  induction isLength : texts.length using Nat.strong_induction_on generalizing texts with
  | _ length inductionHypothesis =>
      cases texts with
      | nil => exact .nil
      | cons first rest =>
          have shorter : (rest.filter fun text => !text == first).length < length := by
            rw [← isLength, List.length_cons]
            exact Nat.lt_succ_of_le (List.length_filter_le _ _)
          rw [List.eraseDups_cons, List.nodup_cons, List.mem_eraseDups, List.mem_filter]
          exact ⟨by simp, inductionHypothesis _ shorter _ rfl⟩

/-- A ranking counts each text once, with the number of its occurrences. -/
theorem counts_ranking
    (texts : List String) :
    Counts texts (ranking texts) := by
  have unsorted : Counts texts (texts.eraseDups.map fun text => ⟨text, texts.count text⟩) := by
    refine ⟨?_, fun entry => ?_⟩
    · rw [List.map_map]
      exact (List.map_id texts.eraseDups).symm ▸ nodup_eraseDups texts
    · rw [List.mem_map]
      constructor
      · rintro ⟨text, isText, rfl⟩
        exact ⟨List.mem_eraseDups.mp isText, rfl⟩
      · rintro ⟨inTexts, isCount⟩
        refine ⟨entry.text, List.mem_eraseDups.mpr inTexts, ?_⟩
        rw [← isCount]
  exact unsorted.of_perm (List.mergeSort_perm _ _)

/-! ## Rankings -/

/-- A ranking is sorted. -/
theorem pairwise_before_ranking
    (texts : List String) :
    (ranking texts).Pairwise fun left right => left.before right = true :=
  List.pairwise_mergeSort (@Ranked.before_trans) Ranked.before_total _

/-- However the entries come out, and however they are sorted, they make the ranking. -/
theorem Counts.eq_ranking
    (are : Counts texts listed)
    (sorted : listed.Pairwise fun left right => left.before right = true) :
    listed = ranking texts :=
  List.Perm.eq_of_pairwise (fun _ _ _ _ => Ranked.before_antisymm) sorted
    (pairwise_before_ranking texts) (are.perm (counts_ranking texts))

/-- No two entries of a ranking can change places. -/
theorem pairwise_precedes_ranking
    (texts : List String) :
    (ranking texts).Pairwise Ranked.Precedes := by
  have distinct := List.pairwise_map.mp (counts_ranking texts).distinct
  apply ((pairwise_before_ranking texts).and distinct).imp
  rintro left right ⟨isBefore, differs⟩
  exact Ranked.precedes_of_before isBefore differs

/-- The counts of a ranking add up to the number of texts. -/
theorem sum_count_ranking
    (texts : List String) :
    ((ranking texts).map (·.count)).sum = texts.length := by
  have deduplicated : Counts texts (texts.dedup.map fun text => ⟨text, texts.count text⟩) := by
    refine ⟨?_, fun entry => ?_⟩
    · rw [List.map_map]
      exact (List.map_id texts.dedup).symm ▸ texts.nodup_dedup
    · rw [List.mem_map]
      constructor
      · rintro ⟨text, isText, rfl⟩
        exact ⟨List.mem_dedup.mp isText, rfl⟩
      · rintro ⟨inTexts, isCount⟩
        refine ⟨entry.text, List.mem_dedup.mpr inTexts, ?_⟩
        rw [← isCount]
  calc
    _ = ((texts.dedup.map fun text => Ranked.mk text (texts.count text)).map (·.count)).sum :=
      (((counts_ranking texts).perm deduplicated).map _).sum_eq
    _ = (texts.dedup.map fun text => texts.count text).sum := by
      rw [List.map_map]
      rfl
    _ = texts.length := List.sum_map_count_dedup_eq_length texts

/-- A ranking has an entry for each different text. -/
theorem length_ranking
    (texts : List String) :
    (ranking texts).length = texts.toFinset.card := by
  have are := counts_ranking texts
  have sameTexts : ((ranking texts).map (·.text)).toFinset = texts.toFinset := by
    ext text
    rw [List.mem_toFinset, List.mem_toFinset, List.mem_map]
    constructor
    · rintro ⟨entry, isEntry, rfl⟩
      exact ((are.mem_iff entry).mp isEntry).1
    · intro inTexts
      exact ⟨⟨text, texts.count text⟩, (are.mem_iff _).mpr ⟨inTexts, rfl⟩, rfl⟩
  rw [← sameTexts, List.toFinset_card_of_nodup are.distinct, List.length_map]

/-- A ranking tells how often every text occurs, and nothing else. -/
theorem ranking_eq_iff :
    ranking texts = ranking other ↔ texts.Perm other := by
  have are := counts_ranking texts
  have areOther := counts_ranking other
  constructor
  · intro same
    rw [← same] at areOther
    rw [List.perm_iff_count]
    intro text
    rw [← are.countOf_eq, areOther.countOf_eq]
  · intro reordered
    exact (are.of_perm_texts reordered).eq_ranking (pairwise_before_ranking texts)

end Counts

/-! ## Surveys -/

/-- A survey counts the texts that it finds. -/
theorem length_texts
    (surveyed : Surveyed) :
    surveyed.texts.length = surveyed.total := by
  rw [Surveyed.texts, List.length_flatMap, Surveyed.total, ← List.foldl_map, List.sum_eq_foldl]
  simp

/-- Two surveys have the same findings, but for the order of the files and that of the records of
each file. -/
def Reordered (surveyed other : Surveyed) : Prop :=
  ∃ findings,
    List.Forall₂ (fun one two : Finding => one.records.Perm two.records) surveyed.findings
        findings ∧
      findings.Perm other.findings

theorem perm_texts
    {before after : List Finding}
    (ofFiles : List.Forall₂ (fun one two : Finding => one.records.Perm two.records) before after) :
    (before.flatMap fun finding => finding.records.map (·.text)).Perm
      (after.flatMap fun finding => finding.records.map (·.text)) := by
  induction ofFiles with
  | nil => exact .nil
  | cons ofFile _ inductionHypothesis =>
      rw [List.flatMap_cons, List.flatMap_cons]
      exact (ofFile.map _).append inductionHypothesis

/-- Files and findings in another order give the same texts. -/
theorem Reordered.texts_perm
    {surveyed other : Surveyed}
    (reordered : Reordered surveyed other) :
    surveyed.texts.Perm other.texts := by
  obtain ⟨findings, ofFiles, inOrder⟩ := reordered
  exact (perm_texts ofFiles).trans (inOrder.flatMap_right _)

/-- The line at the end of the report of a survey that found texts. -/
def closingLine (colored : Bool) (surveyed : Surveyed) (total unique : Nat) : String :=
  let counts :=
    toString total ++ " candidate string(s), " ++ toString unique ++ " unique, in "
      ++ toString surveyed.findings.length ++ " file(s) (" ++ toString surveyed.scanned
      ++ " file(s) scanned)"
  painted colored [.red] failureMark ++ " " ++ painted colored [.red] counts

/-- A report of findings starts with the ranking of their texts and ends with their number. -/
theorem exists_survey_eq
    {surveyed : Surveyed}
    (isFound : surveyed.total ≠ 0)
    (colored : Bool) :
    ∃ lines,
      survey colored surveyed =
        textOf
          (rankingLines colored surveyed.top (ranking surveyed.texts) ++ lines ++
            [closingLine colored surveyed surveyed.total (ranking surveyed.texts).length]) := by
  refine ⟨surveyed.findings.flatMap (findingLines colored) ++ [""], ?_⟩
  have found : ¬(surveyed.total == 0) = true := mt beq_iff_eq.mp isFound
  rw [survey, if_neg found]
  simp only [List.append_assoc, List.cons_append, List.nil_append]
  rfl

/-- The ranking of a survey has an entry for every text, with the number of its occurrences, and
every entry precedes those behind it.  The counts add up to the number of candidates and the
entries to the number of different texts, and the report ends with both.  However the entries of a
tally come out and are sorted, they make the ranking, and it is the same for other texts exactly if
these are the same in some order; so the files and their records can come in any order. -/
theorem ranking_ranks
    (surveyed : Surveyed) :
    let ranked := ranking surveyed.texts
    ((ranked.map (·.text)).Nodup ∧
        ∀ entry,
          entry ∈ ranked ↔
            entry.text ∈ surveyed.texts ∧ entry.count = surveyed.texts.count entry.text) ∧
      ranked.Pairwise Ranked.Precedes ∧
        (ranked.map (·.count)).sum = surveyed.total ∧
          ranked.length = surveyed.texts.toFinset.card ∧
            (surveyed.total ≠ 0 → ∀ colored, ∃ lines,
              survey colored surveyed =
                textOf
                  (rankingLines colored surveyed.top ranked ++ lines ++
                    [closingLine colored surveyed surveyed.total ranked.length])) ∧
              (∀ listed : List Ranked,
                listed.Perm (tally surveyed.texts) →
                  (listed.Pairwise fun left right => left.before right = true) →
                    listed = ranked) ∧
                (∀ other : Surveyed,
                  ranking other.texts = ranked ↔ other.texts.Perm surveyed.texts) ∧
                  ∀ other : Surveyed, Reordered other surveyed → ranking other.texts = ranked := by
  intro ranked
  have are := counts_ranking surveyed.texts
  refine ⟨⟨are.distinct, are.mem_iff⟩, pairwise_precedes_ranking _, ?_, length_ranking _,
    exists_survey_eq, ?_, fun _ => ranking_eq_iff, ?_⟩
  · rw [← length_texts]
    exact sum_count_ranking surveyed.texts
  · intro listed fromTally sorted
    exact ((counts_tally surveyed.texts).of_perm fromTally).eq_ranking sorted
  · intro other reordered
    exact ranking_eq_iff.mpr reordered.texts_perm

/-- Texts of two files, the second of which comes first in another survey with its records the
other way around. -/
theorem ranking_ranks_for_twoFiles :
    let record (text : String) : Record := ⟨.elementText, text, "", "", 1⟩
    let surveyed : Surveyed :=
      ⟨2, [⟨"a.tsx", [record "Save", record "Load"]⟩, ⟨"b.tsx", [record "Cancel", record "Save"]⟩],
        [], 20⟩
    let turned : Surveyed :=
      ⟨2, [⟨"b.tsx", [record "Save", record "Cancel"]⟩, ⟨"a.tsx", [record "Save", record "Load"]⟩],
        [], 20⟩
    let ranked : List Ranked := [⟨"Save", 2⟩, ⟨"Cancel", 1⟩, ⟨"Load", 1⟩]
    ranked.Perm (tally surveyed.texts) ∧
      (ranked.Pairwise fun left right => left.before right = true) ∧
        ranking surveyed.texts = ranked ∧
          surveyed.total ≠ 0 ∧
            (∃ lines,
              survey false surveyed =
                textOf
                  (rankingLines false 20 ranked ++ lines ++
                    ["✘ 4 candidate string(s), 3 unique, in 2 file(s) (2 file(s) scanned)"])) ∧
              Reordered turned surveyed ∧ ranking turned.texts = ranked := by
  intro record surveyed turned ranked
  have fromTally : ranked.Perm (tally surveyed.texts) := by decide +kernel
  have sorted : ranked.Pairwise fun left right => left.before right = true := by decide +kernel
  have isFound : surveyed.total ≠ 0 := by decide +kernel
  have reordered : Reordered turned surveyed := by
    refine ⟨[⟨"b.tsx", [record "Cancel", record "Save"]⟩,
      ⟨"a.tsx", [record "Save", record "Load"]⟩], ?_, List.Perm.swap _ _ _⟩
    exact .cons (List.Perm.swap _ _ _) (.cons (List.Perm.refl _) .nil)
  obtain ⟨-, -, -, -, reports, ofListed, -, ofReordered⟩ := ranking_ranks surveyed
  have isRanked := ofListed ranked fromTally sorted
  refine ⟨fromTally, sorted, isRanked.symm, isFound, ?_, reordered,
    (ofReordered turned reordered).trans isRanked.symm⟩
  have isLine : closingLine false surveyed surveyed.total ranked.length =
      "✘ 4 candidate string(s), 3 unique, in 2 file(s) (2 file(s) scanned)" := by
    decide +kernel
  rw [← isLine]
  rw [← isRanked] at reports
  exact reports isFound false

end Report
end KeyedText
