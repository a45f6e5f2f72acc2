import KeyedText.Proofs.Text.Display

/-!
# Collapsed texts

Two texts look the same if they differ only in how long their runs of layout are.  This module
collapses each run to one space, also in rows that hold other things than characters, and shows
that rows are the same once they are collapsed if that holds of their parts, in order.  The
collapsed form of a text is its words with a space between them, and one at each end that has
layout.
-/

namespace KeyedText
namespace Text

/-! ## Rows -/

section Rows

variable
    {α β : Type}
    (blank : α → Bool)
    (space : α)

/-- A row in which every run of blanks is one space; the row may stand behind a blank. -/
def collapsedFrom (behind : Bool) : List α → List α
  | [] => []
  | first :: rest =>
    if blank first then
      if behind then collapsedFrom true rest else space :: collapsedFrom true rest
    else first :: collapsedFrom false rest

/-- A row in which every run of blanks is one space. -/
def collapsed (row : List α) : List α :=
  collapsedFrom blank space false row

/-- Whether a blank stands in front of what comes behind a row. -/
def endsFrom (behind : Bool) (row : List α) : Bool :=
  row.foldl (fun _ last => blank last) behind

variable {blank space}

theorem collapsedFrom_append
    (behind : Bool)
    (front back : List α) :
    collapsedFrom blank space behind (front ++ back) =
      collapsedFrom blank space behind front ++
        collapsedFrom blank space (endsFrom blank behind front) back := by
  induction front generalizing behind with
  | nil => rfl
  | cons first rest inductionHypothesis =>
      cases isBlank : blank first <;> cases behind <;>
        simp [collapsedFrom, endsFrom, isBlank, inductionHypothesis]

theorem collapsedFrom_map
    (convert : β → α)
    {other : β}
    (isSpace : convert other = space)
    (behind : Bool)
    (row : List β) :
    collapsedFrom blank space behind (row.map convert) =
      (collapsedFrom (blank ∘ convert) other behind row).map convert := by
  induction row generalizing behind with
  | nil => rfl
  | cons first rest inductionHypothesis =>
      cases isBlank : blank (convert first) <;> cases behind <;>
        simp [collapsedFrom, isBlank, inductionHypothesis, isSpace]

section Congruence

variable (isBlank : blank space = true)

include isBlank

/-- A collapsed row ends as the row does. -/
theorem endsFrom_collapsedFrom
    (behind : Bool)
    (row : List α) :
    endsFrom blank behind (collapsedFrom blank space behind row) = endsFrom blank behind row := by
  induction row generalizing behind with
  | nil => rfl
  | cons first rest inductionHypothesis =>
      have ofRest (other : Bool) := inductionHypothesis other
      unfold endsFrom at ofRest ⊢
      cases isFirst : blank first <;> cases behind <;>
        simp [collapsedFrom, isFirst, isBlank, ofRest]

/-- Behind a blank a row lacks the space that stands at its start elsewhere. -/
theorem dropWhile_collapsedFrom
    (behind : Bool)
    (row : List α) :
    (collapsedFrom blank space behind row).dropWhile blank =
      collapsedFrom blank space true row := by
  induction row generalizing behind with
  | nil => rfl
  | cons first rest inductionHypothesis =>
      cases isFirst : blank first <;> cases behind <;>
        simp [collapsedFrom, isFirst, isBlank, inductionHypothesis]

variable
    {left right : List α}
    (same : collapsed blank space left = collapsed blank space right)

include same

theorem collapsedFrom_congr (behind : Bool) :
    collapsedFrom blank space behind left = collapsedFrom blank space behind right := by
  cases behind with
  | false => exact same
  | true =>
      rw [← dropWhile_collapsedFrom isBlank false left,
        ← dropWhile_collapsedFrom isBlank false right]
      exact congrArg (List.dropWhile blank) same

theorem endsFrom_congr (behind : Bool) :
    endsFrom blank behind left = endsFrom blank behind right := by
  rw [← endsFrom_collapsedFrom isBlank behind left, ← endsFrom_collapsedFrom isBlank behind right,
    collapsedFrom_congr isBlank same behind]

end Congruence

/-- Rows are the same once they are collapsed if that holds of their parts, in order. -/
theorem collapsed_flatMap_congr
    (isBlank : blank space = true)
    {before after : β → List α}
    {parts : List β}
    (same : ∀ part ∈ parts,
      collapsed blank space (before part) = collapsed blank space (after part)) :
    collapsed blank space (parts.flatMap before) = collapsed blank space (parts.flatMap after) := by
  -- The parts behind the first one stand behind what it ends with.
  have fromEach (behind : Bool) :
      collapsedFrom blank space behind (parts.flatMap before) =
        collapsedFrom blank space behind (parts.flatMap after) := by
    induction parts generalizing behind with
    | nil => rfl
    | cons part rest inductionHypothesis =>
        obtain ⟨ofPart, ofRest⟩ := List.forall_mem_cons.mp same
        rw [List.flatMap_cons, List.flatMap_cons, collapsedFrom_append, collapsedFrom_append,
          collapsedFrom_congr isBlank ofPart, endsFrom_congr isBlank ofPart,
          inductionHypothesis ofRest]
  exact fromEach false

end Rows

/-! ## Texts -/

/-- A space, if there is one. -/
def spaceIf (isThere : Bool) : List Char :=
  if isThere then [' '] else []

/-- Whether layout stands behind what is visible of a text. -/
def trailsBlank (text : List Char) : Bool :=
  !(runs Character.isLayout text).isEmpty && endsBlank text

/-- A visible character stands in front of the words behind it. -/
theorem collapseSpacing_cons
    {first : Char}
    (visible : Character.isLayout first = false)
    (rest : List Char) :
    collapseSpacing (first :: rest) =
      first ::
        (spaceIf (!(runs Character.isLayout rest).isEmpty && startsBlank rest) ++
          collapseSpacing rest) :=
  joinedBy_runs_cons ' ' visible rest

/-- The collapsed form of a text is its words, and a space at each end that has layout. -/
theorem collapsedFrom_text
    (behind : Bool)
    (text : List Char) :
    collapsedFrom Character.isLayout ' ' behind text =
      spaceIf (!behind && startsBlank text) ++
        (collapseSpacing text ++ spaceIf (trailsBlank text)) := by
  induction text generalizing behind with
  | nil => cases behind <;> rfl
  | cons first rest inductionHypothesis =>
      have endsLater (isThere : rest ≠ []) : endsBlank (first :: rest) = endsBlank rest := by
        rw [endsBlank, endsBlank, List.getLast?_cons_of_ne_nil isThere]
      cases isLayout : Character.isLayout first with
      | true =>
          have sameRuns := runs_cons_of_separates isLayout rest
          have trails : trailsBlank (first :: rest) = trailsBlank rest := by
            unfold trailsBlank
            rw [sameRuns]
            cases rest with
            | nil => rfl
            | cons next others => rw [endsLater (List.cons_ne_nil _ _)]
          have words : collapseSpacing (first :: rest) = collapseSpacing rest :=
            congrArg (joinedBy ' ') sameRuns
          rw [words, trails]
          cases behind <;>
            simp [collapsedFrom, isLayout, inductionHypothesis, startsBlank, spaceIf]
      | false =>
          have starts : startsBlank (first :: rest) = false := isLayout
          have trails : trailsBlank (first :: rest) = endsBlank (first :: rest) := by
            have wordy : runs Character.isLayout (first :: rest) ≠ [] := by
              rw [ne_eq, runs_eq_nil_iff]
              intro layout
              rw [layout first List.mem_cons_self] at isLayout
              cases isLayout
            rw [trailsBlank, List.isEmpty_eq_false_iff.mpr wordy, Bool.not_false, Bool.true_and]
          rw [collapseSpacing_cons isLayout, starts, trails, collapsedFrom, isLayout,
            if_neg Bool.false_ne_true, inductionHypothesis, trailsBlank]
          cases words : runs Character.isLayout rest with
          | nil =>
              have layout := runs_eq_nil_iff.mp words
              have nothing : collapseSpacing rest = [] := congrArg (joinedBy ' ') words
              rw [nothing]
              cases rest with
              | nil => simp [spaceIf, startsBlank, endsBlank, isLayout]
              | cons next others =>
                  rw [endsLater (List.cons_ne_nil _ _), startsBlank_of_layout layout,
                    endsBlank_of_layout layout]
                  simp [spaceIf]
          | cons run more =>
              have isThere : rest ≠ [] := by
                rintro rfl
                cases words
              rw [endsLater isThere]
              simp [spaceIf]

/-- A text with words is collapsed to them, with a space at each end that has layout. -/
theorem collapsed_of_words
    {text : List Char}
    (wordy : collapseSpacing text ≠ []) :
    collapsed Character.isLayout ' ' text =
      spaceIf (startsBlank text) ++ (collapseSpacing text ++ spaceIf (endsBlank text)) := by
  have hasRuns : (runs Character.isLayout text).isEmpty = false := by
    rw [List.isEmpty_eq_false_iff, ne_eq, runs_eq_nil_iff, ← collapseSpacing_eq_nil_iff]
    exact wordy
  rw [collapsed, collapsedFrom_text, trailsBlank, hasRuns, Bool.not_false, Bool.true_and,
    Bool.true_and]

/-- A text is displayed as its words, with a space at each end that displays layout. -/
theorem collapsed_displayed
    {text : List Char}
    (wordy : collapseSpacing text ≠ []) :
    collapsed Character.isLayout ' ' (displayed text) =
      spaceIf (isDisplayed (text.takeWhile Character.isLayout)) ++
        (collapseSpacing text ++
          spaceIf (isDisplayed (text.rtakeWhile Character.isLayout))) := by
  have words : collapseSpacing (displayed text) = collapseSpacing text :=
    congrArg (joinedBy ' ') (runs_displayed text)
  rw [← words] at wordy
  rw [collapsed_of_words wordy, words, startsBlank_displayed, endsBlank_displayed]

/-! ## Words between layout -/

theorem runs_collapseSpacing
    (text : List Char) :
    runs Character.isLayout (collapseSpacing text) = runs Character.isLayout text := by
  have alone : ∀ run ∈ runs Character.isLayout text, runs Character.isLayout run = [run] :=
    fun _ isRun => runs_of_mem_runs isRun
  have isSpace : Character.isLayout ' ' = true := rfl
  rw [collapseSpacing, runs_joinedBy isSpace, List.flatMap_congr alone]
  exact List.flatMap_singleton' _

/-- Collapsing leaves no layout at either end. -/
theorem visible_ends_collapseSpacing
    (text : List Char) :
    startsBlank (collapseSpacing text) = false ∧ endsBlank (collapseSpacing text) = false := by
  have visible : ∀ run ∈ runs Character.isLayout text,
      run ≠ [] ∧ ∀ character ∈ run, Character.isLayout character = false :=
    fun _ isRun =>
      ⟨ne_nil_of_mem_runs isRun, fun _ inRun => not_separates_of_mem_runs isRun inRun⟩
  constructor
  · refine startsBlank_joinedBy fun run isRun => ⟨(visible run isRun).1, ?_⟩
    rw [startsBlank, Option.any_eq_false]
    intro character isFirst
    simpa using (visible run isRun).2 character (List.mem_of_head? isFirst)
  · refine endsBlank_joinedBy fun run isRun => ⟨(visible run isRun).1, ?_⟩
    rw [endsBlank, Option.any_eq_false]
    intro character isLast
    simpa using (visible run isRun).2 character (List.mem_of_getLast? isLast)

section Between

variable
    {text front back : List Char}
    (wordy : collapseSpacing text ≠ [])
    (inFront : ∀ character ∈ front, Character.isLayout character = true)
    (behind : ∀ character ∈ back, Character.isLayout character = true)

include wordy inFront behind

/-- Collapsed words between layout are displayed with a space for the layout that is displayed. -/
theorem collapsed_between :
    collapsed Character.isLayout ' '
        (displayed front ++ (collapseSpacing text ++ displayed back)) =
      spaceIf (isDisplayed front) ++ (collapseSpacing text ++ spaceIf (isDisplayed back)) := by
  obtain ⟨shownInFront, noneInFront⟩ := displayed_of_layout inFront
  obtain ⟨shownBehind, noneBehind⟩ := displayed_of_layout behind
  obtain ⟨visibleStart, visibleEnd⟩ := visible_ends_collapseSpacing text
  have words :
      collapseSpacing (displayed front ++ (collapseSpacing text ++ displayed back)) =
        collapseSpacing text := by
    refine congrArg (joinedBy ' ') ?_
    rw [runs_append_of_separators shownInFront, runs_append_separators _ shownBehind,
      runs_collapseSpacing]
  have starts :
      startsBlank (displayed front ++ (collapseSpacing text ++ displayed back)) =
        isDisplayed front := by
    by_cases none : displayed front = []
    · rw [none, List.isEmpty_nil, Bool.true_eq, Bool.not_eq_true'] at noneInFront
      rw [none, List.nil_append, startsBlank_append wordy, visibleStart, noneInFront]
    · rw [startsBlank_append none, startsBlank_of_layout shownInFront, noneInFront, Bool.not_not]
  have ends :
      endsBlank (displayed front ++ (collapseSpacing text ++ displayed back)) =
        isDisplayed back := by
    rw [← List.append_assoc]
    by_cases none : displayed back = []
    · rw [none, List.isEmpty_nil, Bool.true_eq, Bool.not_eq_true'] at noneBehind
      rw [none, List.append_nil, endsBlank_append _ wordy, visibleEnd, noneBehind]
    · rw [endsBlank_append _ none, endsBlank_of_layout shownBehind, noneBehind, Bool.not_not]
  rw [← words] at wordy
  rw [collapsed_of_words wordy, words, starts, ends]

/-- A text and its words between layout are the same once they are collapsed if layout is displayed
at the same ends, and only then. -/
theorem collapsed_displayed_eq_iff :
    collapsed Character.isLayout ' ' (displayed text) =
        collapsed Character.isLayout ' '
          (displayed front ++ (collapseSpacing text ++ displayed back)) ↔
      isDisplayed (text.takeWhile Character.isLayout) = isDisplayed front ∧
        isDisplayed (text.rtakeWhile Character.isLayout) = isDisplayed back := by
  rw [collapsed_displayed wordy, collapsed_between wordy inFront behind]
  obtain ⟨visibleStart, -⟩ := visible_ends_collapseSpacing text
  have starts (isThere : Bool) (further : List Char) :
      startsBlank (spaceIf isThere ++ (collapseSpacing text ++ further)) = isThere := by
    cases isThere with
    | true => rfl
    | false => exact (startsBlank_append wordy further).trans visibleStart
  constructor
  · intro same
    have sameStart := congrArg startsBlank same
    rw [starts, starts] at sameStart
    rw [sameStart, List.append_cancel_left_eq, List.append_cancel_left_eq] at same
    refine ⟨sameStart, ?_⟩
    have sameEnd := congrArg List.isEmpty same
    revert sameEnd
    cases isDisplayed (text.rtakeWhile Character.isLayout) <;> cases isDisplayed back <;> decide
  · rintro ⟨sameStart, sameEnd⟩
    rw [sameStart, sameEnd]

end Between

end Text
end KeyedText
