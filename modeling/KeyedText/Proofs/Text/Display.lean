import KeyedText.Proofs.Text.Spacing

/-!
# Displayed text

Text between tags is not displayed as it is written.  It falls into lines, which lose the
spaces and tabs at their ends except where the whole text starts and ends; the lines that
are left with something are joined by spaces.  So a text keeps its words, and layout at one
of its ends is displayed exactly if no line ends in it.
-/

namespace KeyedText
namespace Text

/-! ## The rule -/

/-- Whether a character is a space or tab. -/
def isInline (character : Char) : Bool :=
  character == ' ' || character == '\t'

/-- Whether a character ends a line of text between tags. -/
def endsTextLine (character : Char) : Bool :=
  character == '\n' || character == '\r'

/-- Lines behind a first one, without the spaces and tabs at their ends, except at the end of the
last line. -/
def shownBehind (lines : List (List Char)) : List (List Char) :=
  lines.dropLast.map (trimmedBy isInline) ++ lines.getLast?.toList.map (·.dropWhile isInline)

/-- Lines without the spaces and tabs at their ends, except at the start of the first line and the
end of the last. -/
def shownLines : List (List Char) → List (List Char)
  | [] => []
  | [only] => [only]
  | first :: second :: others => first.rdropWhile isInline :: shownBehind (second :: others)

/-- What is displayed of text between tags. -/
def displayed (text : List Char) : List Char :=
  joinedBy ' ' ((shownLines (text.splitOnP endsTextLine)).filter (!·.isEmpty))

/-- Whether layout at an end of a text is displayed. -/
def isDisplayed (layout : List Char) : Bool :=
  !layout.isEmpty && layout.all isInline

/-- Layout stays in a line or ends one. -/
theorem isLayout_eq (character : Char) :
    Character.isLayout character = (isInline character || endsTextLine character) := by
  simp only [Character.isLayout, isInline, endsTextLine, Bool.or_assoc]
  cases character == '\r' <;> simp

theorem isLayout_of_isInline
    {character : Char}
    (inline : isInline character = true) :
    Character.isLayout character = true := by
  rw [isLayout_eq, inline, Bool.true_or]

theorem isLayout_of_endsTextLine
    {character : Char}
    (ends : endsTextLine character = true) :
    Character.isLayout character = true := by
  rw [isLayout_eq, ends, Bool.or_true]

/-- What stays in a line ends none. -/
theorem endsTextLine_of_isInline
    {character : Char}
    (inline : isInline character = true) :
    endsTextLine character = false := by
  simp only [isInline, Bool.or_eq_true, beq_iff_eq] at inline
  rcases inline with rfl | rfl <;> rfl

/-! ## Words -/

/-- Without the layout in front a text has the same words. -/
theorem runs_dropWhile
    (text : List Char) :
    runs Character.isLayout (text.dropWhile isInline) = runs Character.isLayout text := by
  have inline : ∀ character ∈ text.takeWhile isInline, Character.isLayout character = true :=
    fun _ isIn => isLayout_of_isInline (List.mem_takeWhile_imp isIn)
  rw [← runs_append_of_separators inline, List.takeWhile_append_dropWhile]

/-- Without the layout at its end a text has the same words. -/
theorem runs_rdropWhile
    (text : List Char) :
    runs Character.isLayout (text.rdropWhile isInline) = runs Character.isLayout text := by
  have inline : ∀ character ∈ text.rtakeWhile isInline, Character.isLayout character = true := by
    intro character isIn
    rw [List.rtakeWhile, List.mem_reverse] at isIn
    exact isLayout_of_isInline (List.mem_takeWhile_imp isIn)
  rw [← runs_append_separators _ inline, List.rdropWhile, List.rtakeWhile, ← List.reverse_append,
    List.takeWhile_append_dropWhile, List.reverse_reverse]

theorem runs_trimmedBy
    (text : List Char) :
    runs Character.isLayout (trimmedBy isInline text) = runs Character.isLayout text :=
  (runs_rdropWhile (text.dropWhile isInline)).trans (runs_dropWhile text)

@[simp] theorem shownBehind_concat
    (front : List (List Char))
    (last : List Char) :
    shownBehind (front ++ [last]) =
      front.map (trimmedBy isInline) ++ [last.dropWhile isInline] := by
  rw [shownBehind, List.dropLast_concat, List.getLast?_concat]
  rfl

theorem shownLines_cons
    (first : List Char)
    {rest : List (List Char)}
    (nonempty : rest ≠ []) :
    shownLines (first :: rest) = first.rdropWhile isInline :: shownBehind rest := by
  cases rest with
  | nil => exact absurd rfl nonempty
  | cons second others => rfl

/-- Lines that are shown have the words of the lines. -/
theorem flatMap_runs_shownLines
    (lines : List (List Char)) :
    (shownLines lines).flatMap (runs Character.isLayout) =
      lines.flatMap (runs Character.isLayout) := by
  cases lines with
  | nil => rfl
  | cons first rest =>
      rcases List.eq_nil_or_concat' rest with rfl | ⟨front, last, rfl⟩
      · rfl
      · rw [shownLines_cons first (by simp), shownBehind_concat]
        simp only [List.flatMap_cons, List.flatMap_append, List.flatMap_map, List.flatMap_nil,
          List.append_nil, runs_rdropWhile, runs_trimmedBy, runs_dropWhile]

/-- Empty texts have no words. -/
theorem flatMap_runs_filter
    (texts : List (List Char)) :
    (texts.filter (!·.isEmpty)).flatMap (runs Character.isLayout) =
      texts.flatMap (runs Character.isLayout) := by
  induction texts with
  | nil => rfl
  | cons first rest inductionHypothesis =>
      cases first with
      | nil => exact inductionHypothesis
      | cons character others =>
          exact congrArg (runs Character.isLayout (character :: others) ++ ·) inductionHypothesis

/-- A text is displayed with the words that it has. -/
theorem runs_displayed
    (text : List Char) :
    runs Character.isLayout (displayed text) = runs Character.isLayout text := by
  have isSpace : Character.isLayout ' ' = true := rfl
  rw [displayed, runs_joinedBy isSpace, flatMap_runs_filter, flatMap_runs_shownLines,
    flatMap_runs_splitOnP fun _ ends => isLayout_of_endsTextLine ends]

/-! ## Ends -/

/-- Whether a text starts with layout. -/
def startsBlank (text : List Char) : Bool :=
  text.head?.any Character.isLayout

/-- Whether a text ends with layout. -/
def endsBlank (text : List Char) : Bool :=
  text.getLast?.any Character.isLayout

theorem startsBlank_reverse (text : List Char) : startsBlank text.reverse = endsBlank text := by
  rw [startsBlank, List.head?_reverse, endsBlank]

/-- How a text starts is told by its front. -/
theorem startsBlank_append
    {front : List Char}
    (nonempty : front ≠ [])
    (back : List Char) :
    startsBlank (front ++ back) = startsBlank front := by
  rw [startsBlank, startsBlank, List.head?_append_of_ne_nil _ nonempty]

/-- How a text ends is told by its back. -/
theorem endsBlank_append
    (front : List Char)
    {back : List Char}
    (nonempty : back ≠ []) :
    endsBlank (front ++ back) = endsBlank back := by
  rw [endsBlank, endsBlank, List.getLast?_append_of_ne_nil _ nonempty]

/-- Whatever there is of a text of layout starts with layout. -/
theorem startsBlank_of_layout
    {layout : List Char}
    (isLayout : ∀ character ∈ layout, Character.isLayout character = true) :
    startsBlank layout = !layout.isEmpty := by
  cases layout with
  | nil => rfl
  | cons first rest => exact isLayout first List.mem_cons_self

/-- Layout ends blank unless it is empty. -/
theorem endsBlank_of_layout
    {layout : List Char}
    (isLayout : ∀ character ∈ layout, Character.isLayout character = true) :
    endsBlank layout = !layout.isEmpty := by
  rw [← startsBlank_reverse, ← List.isEmpty_reverse]
  exact startsBlank_of_layout fun character isIn => isLayout character (List.mem_reverse.mp isIn)

theorem isDisplayed_reverse (layout : List Char) :
    isDisplayed layout.reverse = isDisplayed layout := by
  rw [isDisplayed, isDisplayed, List.isEmpty_reverse, List.all_reverse]

section Unbroken

variable
    {line : List Char}
    (unbroken : ∀ character ∈ line, endsTextLine character = false)

include unbroken

/-- In a line without breaks all layout stays in the line. -/
theorem isInline_eq_of_unbroken
    {character : Char}
    (inLine : character ∈ line) :
    isInline character = Character.isLayout character := by
  rw [isLayout_eq, unbroken character inLine, Bool.or_false]

/-- On a line, layout at the start is displayed. -/
theorem isDisplayed_takeWhile_of_unbroken :
    isDisplayed (line.takeWhile Character.isLayout) = startsBlank line := by
  have inline : (line.takeWhile Character.isLayout).all isInline = true := by
    rw [List.all_eq_true]
    intro character isIn
    rw [isInline_eq_of_unbroken unbroken ((List.takeWhile_sublist _).subset isIn)]
    exact List.mem_takeWhile_imp isIn
  rw [isDisplayed, inline, Bool.and_true]
  cases line with
  | nil => rfl
  | cons first rest =>
      rw [List.takeWhile_cons]
      cases layout : Character.isLayout first <;> simp [startsBlank, layout]

/-- In front of the end of a line, layout at the start is displayed unless nothing else is on the
line. -/
theorem isDisplayed_takeWhile_append
    {feed : Char}
    (ends : endsTextLine feed = true)
    (behind : List Char) :
    isDisplayed ((line ++ feed :: behind).takeWhile Character.isLayout) =
      (startsBlank line && !line.all isInline) := by
  cases inline : line.all isInline with
  | true =>
      have layout : ∀ character ∈ line, Character.isLayout character = true :=
        fun character inLine => isLayout_of_isInline (List.all_eq_true.mp inline character inLine)
      have notInline : isInline feed = false := by
        rw [Bool.eq_false_iff]
        intro isInline
        rw [endsTextLine_of_isInline isInline] at ends
        cases ends
      rw [List.takeWhile_append_of_pos layout,
        List.takeWhile_cons_of_pos (isLayout_of_endsTextLine ends), isDisplayed, List.all_append,
        List.all_cons, notInline]
      simp
  | false =>
      obtain ⟨character, inLine, notInline⟩ := List.all_eq_false.mp inline
      rw [isInline_eq_of_unbroken unbroken inLine] at notInline
      have stops : (line.takeWhile Character.isLayout).length ≠ line.length := by
        intro same
        have whole := (List.takeWhile_prefix Character.isLayout).eq_of_length same
        rw [← whole] at inLine
        exact notInline (List.mem_takeWhile_imp inLine)
      rw [List.takeWhile_append, if_neg stops, isDisplayed_takeWhile_of_unbroken unbroken,
        Bool.not_false, Bool.and_true]

end Unbroken

/-! ## Joined lines -/

/-- Joined texts start like the first of them. -/
theorem startsBlank_joinedBy_cons
    {first : List Char}
    (nonempty : first ≠ [])
    (rest : List (List Char)) :
    startsBlank (joinedBy ' ' (first :: rest)) = startsBlank first := by
  cases rest with
  | nil => simp [joinedBy]
  | cons second others =>
      rw [joinedBy, List.intercalate_cons_cons, List.append_assoc, startsBlank_append nonempty]

/-- Joined texts end like the last of them. -/
theorem endsBlank_joinedBy_concat
    {last : List Char}
    (nonempty : last ≠ [])
    (front : List (List Char)) :
    endsBlank (joinedBy ' ' (front ++ [last])) = endsBlank last := by
  by_cases alone : front = []
  · simp [alone, joinedBy]
  · rw [joinedBy_concat ' ' alone, List.append_cons, endsBlank_append _ nonempty]

/-- Texts that start with no layout are joined to one that starts with none. -/
theorem startsBlank_joinedBy
    {texts : List (List Char)}
    (visible : ∀ text ∈ texts, text ≠ [] ∧ startsBlank text = false) :
    startsBlank (joinedBy ' ' texts) = false := by
  cases texts with
  | nil => rfl
  | cons first rest =>
      obtain ⟨nonempty, isVisible⟩ := visible first List.mem_cons_self
      rw [startsBlank_joinedBy_cons nonempty, isVisible]

/-- Texts that end with no layout are joined to one that ends with none. -/
theorem endsBlank_joinedBy
    {texts : List (List Char)}
    (visible : ∀ text ∈ texts, text ≠ [] ∧ endsBlank text = false) :
    endsBlank (joinedBy ' ' texts) = false := by
  rcases List.eq_nil_or_concat' texts with rfl | ⟨front, last, rfl⟩
  · rfl
  · obtain ⟨nonempty, isVisible⟩ := visible last (by simp)
    rw [endsBlank_joinedBy_concat nonempty, isVisible]

/-- What holds of all texts holds of those that are not empty. -/
theorem forall_mem_filter_nonempty
    {texts : List (List Char)}
    {fits : List Char → Prop}
    (allFit : ∀ text ∈ texts, fits text) :
    ∀ text ∈ texts.filter (!·.isEmpty), text ≠ [] ∧ fits text := by
  intro text isKept
  obtain ⟨isText, nonempty⟩ := List.mem_filter.mp isKept
  exact ⟨by simpa using nonempty, allFit text isText⟩

section Ends

variable
    {line : List Char}
    (unbroken : ∀ character ∈ line, endsTextLine character = false)

include unbroken

/-- A line without the layout in front does not start blank. -/
theorem startsBlank_dropWhile : startsBlank (line.dropWhile isInline) = false := by
  unfold startsBlank
  cases isFirst : (line.dropWhile isInline).head? with
  | none => rfl
  | some first =>
      have notInline := List.head?_dropWhile_not isInline line
      rw [isFirst] at notInline
      have inLine : first ∈ line := List.dropWhile_subset _ (List.mem_of_head? isFirst)
      rw [Option.any_some, ← isInline_eq_of_unbroken unbroken inLine]
      simpa using notInline

theorem endsBlank_rdropWhile : endsBlank (line.rdropWhile isInline) = false := by
  have reversed : ∀ character ∈ line.reverse, endsTextLine character = false :=
    fun character inLine => unbroken character (List.mem_reverse.mp inLine)
  rw [List.rdropWhile, ← startsBlank_reverse, List.reverse_reverse]
  exact startsBlank_dropWhile reversed

theorem endsBlank_trimmedBy : endsBlank (trimmedBy isInline line) = false :=
  endsBlank_rdropWhile fun character isIn => unbroken character (List.dropWhile_subset _ isIn)

/-- A trimmed line starts with what is no layout. -/
theorem startsBlank_trimmedBy : startsBlank (trimmedBy isInline line) = false := by
  have isFront : trimmedBy isInline line <+: line.dropWhile isInline := List.rdropWhile_prefix _ _
  cases trimmed : trimmedBy isInline line with
  | nil => rfl
  | cons first rest =>
      obtain ⟨behind, whole⟩ := isFront
      have visible := startsBlank_dropWhile unbroken
      rw [← whole, trimmed] at visible
      exact visible

end Ends

/-! ## What is displayed at the ends -/

/-- A text on one line is displayed as it is. -/
theorem displayed_of_unbroken
    {line : List Char}
    (unbroken : ∀ character ∈ line, endsTextLine character = false) :
    displayed line = line := by
  rw [displayed, List.splitOnP_eq_singleton unbroken, shownLines]
  cases line with
  | nil => rfl
  | cons first rest => simp [joinedBy]

/-- A text with several lines starts blank if its first line does and is not all layout. -/
theorem startsBlank_displayed_append
    {line : List Char}
    (unbroken : ∀ character ∈ line, endsTextLine character = false)
    {feed : Char}
    (ends : endsTextLine feed = true)
    (behind : List Char) :
    startsBlank (displayed (line ++ feed :: behind)) =
      (startsBlank line && !line.all isInline) := by
  have others :
      ∀ shown ∈ shownBehind (behind.splitOnP endsTextLine), startsBlank shown = false := by
    intro shown isShown
    rcases List.mem_append.mp isShown with isMiddle | isLast
    · obtain ⟨written, isLine, rfl⟩ := List.mem_map.mp isMiddle
      exact startsBlank_trimmedBy
        (unbroken_of_mem_splitOnP (List.dropLast_subset _ isLine))
    · obtain ⟨written, isLine, rfl⟩ := List.mem_map.mp isLast
      exact startsBlank_dropWhile
        (unbroken_of_mem_splitOnP (List.mem_of_getLast? (Option.mem_toList.mp isLine)))
  rw [displayed, List.splitOnP_append_cons_of_forall_mem unbroken feed ends,
    shownLines_cons line (List.splitOnP_ne_nil _ _), List.filter_cons]
  cases inline : line.all isInline with
  | true =>
      have nothing : line.rdropWhile isInline = [] :=
        List.rdropWhile_eq_nil_iff.mpr (List.all_eq_true.mp inline)
      rw [nothing, Bool.not_true, Bool.and_false]
      exact startsBlank_joinedBy (forall_mem_filter_nonempty others)
  | false =>
      have something : line.rdropWhile isInline ≠ [] := by
        rw [ne_eq, List.rdropWhile_eq_nil_iff, ← List.all_eq_true, inline]
        exact Bool.false_ne_true
      have isKept : (!(line.rdropWhile isInline).isEmpty) = true := by
        rwa [Bool.not_eq_true', List.isEmpty_eq_false_iff]
      rw [if_pos isKept, startsBlank_joinedBy_cons something, Bool.not_false, Bool.and_true]
      obtain ⟨behindIt, whole⟩ := List.rdropWhile_prefix isInline (l := line)
      conv_rhs => rw [← whole]
      rw [startsBlank_append something]

/-- A text with several lines ends blank if its last line does and is not all layout. -/
theorem endsBlank_displayed_append
    {line : List Char}
    (unbroken : ∀ character ∈ line, endsTextLine character = false)
    {feed : Char}
    (ends : endsTextLine feed = true)
    (front : List Char) :
    endsBlank (displayed (front ++ feed :: line)) = (endsBlank line && !line.all isInline) := by
  obtain ⟨first, middle, ofFront⟩ :=
    List.exists_cons_of_ne_nil (List.splitOnP_ne_nil endsTextLine front)
  have ofLine : line.splitOnP endsTextLine = [line] := List.splitOnP_eq_singleton unbroken
  have inFront {written : List Char} (isLine : written ∈ first :: middle) :
      ∀ character ∈ written, endsTextLine character = false := by
    rw [← ofFront] at isLine
    exact unbroken_of_mem_splitOnP isLine
  have others : ∀ shown ∈ first.rdropWhile isInline :: middle.map (trimmedBy isInline),
      endsBlank shown = false := by
    intro shown isShown
    rcases List.mem_cons.mp isShown with rfl | isMiddle
    · exact endsBlank_rdropWhile (inFront List.mem_cons_self)
    · obtain ⟨written, isLine, rfl⟩ := List.mem_map.mp isMiddle
      exact endsBlank_trimmedBy (inFront (List.mem_cons_of_mem _ isLine))
  rw [displayed, List.splitOnP_append_cons _ _ ends, ofFront, ofLine, List.cons_append,
    shownLines_cons first (by simp), shownBehind_concat, ← List.cons_append, List.filter_append]
  cases inline : line.all isInline with
  | true =>
      have nothing : line.dropWhile isInline = [] :=
        List.dropWhile_eq_nil_iff.mpr (List.all_eq_true.mp inline)
      rw [nothing, Bool.not_true, Bool.and_false]
      simpa using endsBlank_joinedBy (forall_mem_filter_nonempty others)
  | false =>
      have something : line.dropWhile isInline ≠ [] := by
        rw [ne_eq, List.dropWhile_eq_nil_iff, ← List.all_eq_true, inline]
        exact Bool.false_ne_true
      have isKept : [line.dropWhile isInline].filter (!·.isEmpty) = [line.dropWhile isInline] := by
        simpa using something
      rw [isKept, endsBlank_joinedBy_concat something, Bool.not_false, Bool.and_true]
      obtain ⟨inFrontOfIt, whole⟩ := List.dropWhile_suffix isInline (l := line)
      conv_rhs => rw [← whole]
      rw [endsBlank_append _ something]

/-- Layout at the start of a text is displayed unless a line ends in it. -/
theorem startsBlank_displayed (text : List Char) :
    startsBlank (displayed text) = isDisplayed (text.takeWhile Character.isLayout) := by
  cases text using splitOnP_induction endsTextLine with
  | line text unbroken =>
      rw [displayed_of_unbroken unbroken, isDisplayed_takeWhile_of_unbroken unbroken]
  | feed line unbroken feed ends rest _ =>
      rw [startsBlank_displayed_append unbroken ends, isDisplayed_takeWhile_append unbroken ends]

/-- Layout at the end of a text is displayed unless a line ends in it. -/
theorem endsBlank_displayed (text : List Char) :
    endsBlank (displayed text) = isDisplayed (text.rtakeWhile Character.isLayout) := by
  obtain ⟨mirrored, rfl⟩ : ∃ mirrored, text = List.reverse mirrored :=
    ⟨text.reverse, (List.reverse_reverse text).symm⟩
  rw [List.rtakeWhile, isDisplayed_reverse, List.reverse_reverse]
  cases mirrored using splitOnP_induction endsTextLine with
  | line _ unbroken =>
      have reversed : ∀ character ∈ mirrored.reverse, endsTextLine character = false :=
        fun character inLine => unbroken character (List.mem_reverse.mp inLine)
      rw [displayed_of_unbroken reversed, isDisplayed_takeWhile_of_unbroken unbroken,
        ← startsBlank_reverse, List.reverse_reverse]
  | feed line unbroken feed ends rest _ =>
      have reversed : ∀ character ∈ line.reverse, endsTextLine character = false :=
        fun character inLine => unbroken character (List.mem_reverse.mp inLine)
      rw [isDisplayed_takeWhile_append unbroken ends, List.reverse_append, List.reverse_cons,
        List.append_assoc, List.singleton_append, endsBlank_displayed_append reversed ends,
        ← startsBlank_reverse, List.reverse_reverse, List.all_reverse]

/-- Layout is displayed as layout, or not at all. -/
theorem displayed_of_layout
    {layout : List Char}
    (isLayout : ∀ character ∈ layout, Character.isLayout character = true) :
    (∀ character ∈ displayed layout, Character.isLayout character = true) ∧
      (displayed layout).isEmpty = !isDisplayed layout := by
  have shownLayout : ∀ character ∈ displayed layout, Character.isLayout character = true := by
    rw [← runs_eq_nil_iff, runs_displayed, runs_eq_nil_iff]
    exact isLayout
  refine ⟨shownLayout, ?_⟩
  have starts := startsBlank_displayed layout
  rw [List.takeWhile_eq_self_iff.mpr isLayout, startsBlank_of_layout shownLayout] at starts
  rw [← starts, Bool.not_not]

end Text
end KeyedText
