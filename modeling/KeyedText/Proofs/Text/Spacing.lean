import KeyedText.Text.Runs
import Mathlib.Data.List.DropRight
import Mathlib.Data.List.Forall2
import Mathlib.Data.List.TakeWhile

/-!
# Runs and spacing

Runs hold exactly the characters of a text that do not separate, so a text
whose spacing is collapsed is empty exactly if it has only layout characters.
Wherever a text is cut at separators, its runs are those of the pieces.
-/

namespace KeyedText
namespace Text

/-- A run is never empty. -/
theorem ne_nil_of_mem_runs
    {separates : Char → Bool}
    {text run : List Char}
    (member : run ∈ runs separates text) :
    run ≠ [] := by
  induction text generalizing run with
  | nil => simp at member
  | cons character rest inductionHypothesis =>
      unfold runs at member
      split at member
      · exact inductionHypothesis member
      · split at member
        · next _ _ next others first more runsOfRest =>
            have ofRest {other : List Char} (inRest : other ∈ first :: more) : other ≠ [] :=
              inductionHypothesis (runsOfRest ▸ inRest)
            split at member
            · rcases List.mem_cons.mp member with rfl | inRest
              · simp
              · exact ofRest inRest
            · rcases List.mem_cons.mp member with rfl | inRest
              · simp
              · exact ofRest (List.mem_cons_of_mem _ inRest)
        · simp only [List.mem_singleton] at member
          simp [member]

/-- A text has no run exactly if all its characters separate. -/
theorem runs_eq_nil_iff
    {separates : Char → Bool}
    {text : List Char} :
    runs separates text = [] ↔ ∀ character ∈ text, separates character = true := by
  induction text with
  | nil => simp
  | cons character rest inductionHypothesis =>
      cases separated : separates character with
      | true =>
          rw [runs_cons_of_separates separated, inductionHypothesis]
          simp [separated]
      | false =>
          have nonempty : runs separates (character :: rest) ≠ [] := by
            unfold runs
            simp only [separated, Bool.false_eq_true, if_false]
            split
            · split <;> simp
            · simp
          simp [nonempty, separated]

theorem mem_of_mem_runs
    {separates : Char → Bool}
    {text run : List Char}
    (member : run ∈ runs separates text)
    {character : Char}
    (inRun : character ∈ run) :
    character ∈ text := by
  induction text generalizing run with
  | nil => simp at member
  | cons first rest inductionHypothesis =>
      unfold runs at member
      split at member
      · exact List.mem_cons_of_mem _ (inductionHypothesis member inRun)
      · split at member
        · next _ _ next others firstRun more runsOfRest =>
            have ofRest {other : List Char} (inRest : other ∈ firstRun :: more)
                (inOther : character ∈ other) : character ∈ next :: others :=
              inductionHypothesis (runsOfRest ▸ inRest) inOther
            split at member
            · rcases List.mem_cons.mp member with rfl | inRest
              · simp only [List.mem_singleton] at inRun
                simp [inRun]
              · exact List.mem_cons_of_mem _ (ofRest inRest inRun)
            · rcases List.mem_cons.mp member with rfl | inRest
              · rcases List.mem_cons.mp inRun with rfl | inFirst
                · simp
                · exact List.mem_cons_of_mem _ (ofRest List.mem_cons_self inFirst)
              · exact List.mem_cons_of_mem _ (ofRest (List.mem_cons_of_mem _ inRest) inRun)
        · simp only [List.mem_singleton] at member
          subst member
          simp only [List.mem_singleton] at inRun
          simp [inRun]

theorem not_separates_of_mem_runs
    {separates : Char → Bool}
    {text run : List Char}
    (member : run ∈ runs separates text)
    {character : Char}
    (inRun : character ∈ run) :
    separates character = false := by
  induction text generalizing run with
  | nil => simp at member
  | cons first rest inductionHypothesis =>
      unfold runs at member
      split at member
      · exact inductionHypothesis member inRun
      · next keeps =>
          have ofFirst : separates first = false := Bool.eq_false_iff.mpr keeps
          split at member
          · next _ _ next others firstRun more runsOfRest =>
              have ofRest {other : List Char} (inRest : other ∈ firstRun :: more)
                  (inOther : character ∈ other) : separates character = false :=
                inductionHypothesis (runsOfRest ▸ inRest) inOther
              split at member
              · rcases List.mem_cons.mp member with rfl | inRest
                · rwa [List.mem_singleton.mp inRun]
                · exact ofRest inRest inRun
              · rcases List.mem_cons.mp member with rfl | inRest
                · rcases List.mem_cons.mp inRun with rfl | inFirst
                  · exact ofFirst
                  · exact ofRest List.mem_cons_self inFirst
                · exact ofRest (List.mem_cons_of_mem _ inRest) inRun
          · rw [List.mem_singleton.mp member] at inRun
            rwa [List.mem_singleton.mp inRun]

theorem mem_joinedBy
    {separator : Char}
    {texts : List (List Char)}
    {character : Char}
    (member : character ∈ joinedBy separator texts) :
    character = separator ∨ ∃ text ∈ texts, character ∈ text := by
  induction texts with
  | nil => simp [joinedBy] at member
  | cons first rest inductionHypothesis =>
      cases rest with
      | nil => exact Or.inr ⟨first, by simp, by simpa [joinedBy] using member⟩
      | cons second others =>
          rw [joinedBy, List.intercalate_cons_cons, List.mem_append, List.mem_append] at member
          rcases member with (inFirst | isSeparator) | later
          · exact Or.inr ⟨first, by simp, inFirst⟩
          · exact Or.inl (List.mem_singleton.mp isSeparator)
          · rcases inductionHypothesis later with isSeparator | ⟨text, inRest, inText⟩
            · exact Or.inl isSeparator
            · exact Or.inr ⟨text, List.mem_cons_of_mem _ inRest, inText⟩

theorem joinedBy_eq_nil_iff
    {separator : Char}
    {texts : List (List Char)}
    (nonempty : ∀ text ∈ texts, text ≠ []) :
    joinedBy separator texts = [] ↔ texts = [] := by
  unfold joinedBy
  match texts with
  | [] => simp
  | [only] => simpa using nonempty only (by simp)
  | first :: second :: rest => simp [List.intercalate_cons_cons]

theorem joinedBy_concat
    (separator : Char)
    {texts : List (List Char)}
    (nonempty : texts ≠ [])
    (last : List Char) :
    joinedBy separator (texts ++ [last]) = joinedBy separator texts ++ separator :: last := by
  unfold joinedBy
  induction texts with
  | nil => exact absurd rfl nonempty
  | cons first rest inductionHypothesis =>
      cases rest with
      | nil => simp [List.intercalate_cons_cons]
      | cons second later =>
          have ofRest := inductionHypothesis (List.cons_ne_nil second later)
          rw [List.cons_append] at ofRest
          rw [List.cons_append, List.cons_append, List.intercalate_cons_cons, ofRest,
            List.intercalate_cons_cons]
          simp

/-! ## Lines -/

/-- A text is one line, or a line, its end and a shorter text. -/
theorem splitOnP_induction
    (ends : Char → Bool)
    {motive : List Char → Prop}
    (line : ∀ text, (∀ character ∈ text, ends character = false) → motive text)
    (feed : ∀ line, (∀ character ∈ line, ends character = false) →
      ∀ feed, ends feed = true → ∀ rest, motive rest → motive (line ++ feed :: rest))
    (text : List Char) :
    motive text := by
  -- The induction goes over the text behind what was found to hold no end of a line.
  have behind (back front : List Char) (unbroken : ∀ character ∈ front, ends character = false) :
      motive (front ++ back) := by
    induction back generalizing front with
    | nil =>
        rw [List.append_nil]
        exact line front unbroken
    | cons first rest inductionHypothesis =>
        cases isEnd : ends first with
        | true => exact feed front unbroken first isEnd rest (inductionHypothesis [] nofun)
        | false =>
            rw [List.append_cons]
            refine inductionHypothesis (front ++ [first]) ?_
            simp only [List.mem_append, List.mem_singleton]
            rintro character (inFront | rfl)
            · exact unbroken character inFront
            · exact isEnd
  exact behind text [] nofun

theorem unbroken_of_mem_splitOnP
    {ends : Char → Bool}
    {text line : List Char}
    (isLine : line ∈ text.splitOnP ends) :
    ∀ character ∈ line, ends character = false := by
  induction text using splitOnP_induction ends with
  | line text unbroken =>
      rw [List.splitOnP_eq_singleton unbroken, List.mem_singleton] at isLine
      rwa [isLine]
  | feed first unbroken feed isEnd rest inductionHypothesis =>
      rw [List.splitOnP_append_cons_of_forall_mem unbroken feed isEnd, List.mem_cons] at isLine
      rcases isLine with rfl | isLater
      · exact unbroken
      · exact inductionHypothesis isLater

/-! ## Runs of texts in a row -/

section Runs

variable
    {separates : Char → Bool}
    {character : Char}

theorem runs_singleton
    (keeps : separates character = false) :
    runs separates [character] = [[character]] := by
  rw [runs.eq_def]
  dsimp only
  rw [keeps, if_neg Bool.false_ne_true]

/-- A character that does not separate is a run of its own in front of one that does. -/
theorem runs_cons_cons_of_separates
    (keeps : separates character = false)
    {next : Char}
    (separated : separates next = true)
    (rest : List Char) :
    runs separates (character :: next :: rest) =
      [character] :: runs separates (next :: rest) := by
  rw [runs.eq_def]
  dsimp only
  rw [keeps, if_neg Bool.false_ne_true]
  cases runs separates (next :: rest) with
  | nil => rfl
  | cons run more =>
      dsimp only
      rw [if_pos separated]

/-- A character that does not separate continues the run behind it. -/
theorem runs_cons_of_open
    (keeps : separates character = false)
    {next : Char}
    (goesOn : separates next = false)
    (rest : List Char) :
    ∃ run more,
      runs separates (next :: rest) = run :: more ∧
        runs separates (character :: next :: rest) = (character :: run) :: more := by
  cases runsOfRest : runs separates (next :: rest) with
  | nil =>
      have separated := runs_eq_nil_iff.mp runsOfRest next List.mem_cons_self
      rw [goesOn] at separated
      cases separated
  | cons run more =>
      refine ⟨run, more, rfl, ?_⟩
      rw [runs.eq_def]
      dsimp only
      rw [keeps, if_neg Bool.false_ne_true, runsOfRest]
      dsimp only
      rw [goesOn, if_neg Bool.false_ne_true]

/-- A character that does not separate stands in front of the words behind it, and in front of a
separator if it starts what is behind it and words follow. -/
theorem joinedBy_runs_cons
    (separator : Char)
    (keeps : separates character = false)
    (rest : List Char) :
    joinedBy separator (runs separates (character :: rest)) =
      character ::
        ((if !(runs separates rest).isEmpty && rest.head?.any separates then [separator] else []) ++
          joinedBy separator (runs separates rest)) := by
  unfold joinedBy
  cases rest with
  | nil =>
      rw [runs_singleton keeps]
      rfl
  | cons next others =>
      cases ofNext : separates next with
      | true =>
          rw [runs_cons_cons_of_separates keeps ofNext]
          cases runs separates (next :: others) with
          | nil => rfl
          | cons run more => simp [List.intercalate_cons_cons, ofNext]
      | false =>
          obtain ⟨run, more, ofRest, whole⟩ := runs_cons_of_open keeps ofNext others
          rw [whole, ofRest]
          cases more <;> simp [List.intercalate_cons_cons, ofNext]

/-- Joined words start with no separator. -/
theorem head?_joinedBy_runs
    (separator : Char)
    (text : List Char) :
    ∀ first ∈ (joinedBy separator (runs separates text)).head?, separates first = false := by
  induction text with
  | nil => exact nofun
  | cons first rest inductionHypothesis =>
      cases ofFirst : separates first with
      | true => rwa [runs_cons_of_separates ofFirst]
      | false =>
          rw [joinedBy_runs_cons separator ofFirst]
          rintro _ ⟨⟩
          exact ofFirst

/-- Joined words end with no separator. -/
theorem getLast?_joinedBy_runs
    (separator : Char)
    (text : List Char) :
    ∀ last ∈ (joinedBy separator (runs separates text)).getLast?, separates last = false := by
  induction text with
  | nil => exact nofun
  | cons first rest inductionHypothesis =>
      cases ofFirst : separates first with
      | true => rwa [runs_cons_of_separates ofFirst]
      | false =>
          rw [joinedBy_runs_cons separator ofFirst]
          by_cases nothing : joinedBy separator (runs separates rest) = []
          · have wordless := (joinedBy_eq_nil_iff fun _ => ne_nil_of_mem_runs).mp nothing
            rw [nothing, wordless]
            rintro _ ⟨⟩
            exact ofFirst
          · rw [List.getLast?_cons_of_ne_nil (List.append_ne_nil_of_right_ne_nil _ nothing),
              List.getLast?_append_of_ne_nil _ nothing]
            exact inductionHypothesis

/-- Joined words have no two separators side by side. -/
theorem not_infix_joinedBy_runs
    {separator : Char}
    (separated : separates separator = true)
    (text : List Char) :
    ¬[separator, separator] <:+: joinedBy separator (runs separates text) := by
  induction text with
  | nil => simp [joinedBy]
  | cons first rest inductionHypothesis =>
      cases ofFirst : separates first with
      | true => rwa [runs_cons_of_separates ofFirst]
      | false =>
          have differs : separator ≠ first := by
            rintro rfl
            rw [separated] at ofFirst
            cases ofFirst
          rw [joinedBy_runs_cons separator ofFirst, List.infix_cons_iff, List.cons_prefix_cons]
          rintro (⟨isFirst, -⟩ | behind)
          · exact differs isFirst
          · split at behind
            · rw [List.singleton_append, List.infix_cons_iff, List.cons_prefix_cons] at behind
              rcases behind with ⟨-, others, again⟩ | behind
              · -- The words behind the separator would start with one.
                have visible : separates separator = false := by
                  apply head?_joinedBy_runs separator rest
                  rw [← again]
                  rfl
                rw [separated] at visible
                cases visible
              · exact inductionHypothesis behind
            · exact inductionHypothesis behind

/-- Texts have the same runs if they differ only where both have separators, even if other
characters separate in the one than in the other. -/
theorem runs_congr
    {separatesThere : Char → Bool}
    {left right : List Char}
    (alike : List.Forall₂
      (fun one other =>
        separates one = separatesThere other ∧ (separates one = false → one = other))
      left right) :
    runs separates left = runs separatesThere right := by
  induction alike with
  | nil => rfl
  | @cons one other front back here later inductionHypothesis =>
      obtain ⟨sameKind, sameKept⟩ := here
      cases ofOne : separates one with
      | true =>
          rw [runs_cons_of_separates ofOne, runs_cons_of_separates (sameKind ▸ ofOne),
            inductionHypothesis]
      | false =>
          obtain rfl := sameKept ofOne
          have ofOther : separatesThere one = false := sameKind ▸ ofOne
          cases later with
          | nil => rw [runs_singleton ofOne, runs_singleton ofOther]
          | @cons next behind front back sameNext later =>
              cases ofNext : separates next with
              | true =>
                  rw [runs_cons_cons_of_separates ofOne ofNext,
                    runs_cons_cons_of_separates ofOther (sameNext.1 ▸ ofNext), inductionHypothesis]
              | false =>
                  obtain ⟨run, more, ofLeft, wholeLeft⟩ := runs_cons_of_open ofOne ofNext front
                  obtain ⟨other, others, ofRight, wholeRight⟩ :=
                    runs_cons_of_open ofOther (sameNext.1 ▸ ofNext) back
                  rw [ofLeft, ofRight] at inductionHypothesis
                  obtain ⟨rfl, rfl⟩ := List.cons.inj inductionHypothesis
                  rw [wholeLeft, wholeRight]

/-- A separator between two texts separates their runs. -/
theorem runs_append_cons
    (separated : separates character = true)
    (front back : List Char) :
    runs separates (front ++ character :: back) = runs separates front ++ runs separates back := by
  induction front with
  | nil => exact runs_cons_of_separates separated back
  | cons first rest inductionHypothesis =>
      rw [List.cons_append]
      cases ofFirst : separates first with
      | true =>
          rw [runs_cons_of_separates ofFirst, runs_cons_of_separates ofFirst, inductionHypothesis]
      | false =>
          cases rest with
          | nil =>
              rw [List.nil_append] at inductionHypothesis ⊢
              rw [runs_cons_cons_of_separates ofFirst separated, inductionHypothesis,
                runs_singleton ofFirst]
              rfl
          | cons second others =>
              cases ofSecond : separates second with
              | true =>
                  rw [List.cons_append] at inductionHypothesis ⊢
                  rw [runs_cons_cons_of_separates ofFirst ofSecond, inductionHypothesis,
                    runs_cons_cons_of_separates ofFirst ofSecond, List.cons_append]
              | false =>
                  obtain ⟨run, more, ofRest, whole⟩ := runs_cons_of_open ofFirst ofSecond others
                  obtain ⟨longRun, othersThere, ofLong, longWhole⟩ :=
                    runs_cons_of_open ofFirst ofSecond (others ++ character :: back)
                  rw [List.cons_append, ofLong, ofRest, List.cons_append] at inductionHypothesis
                  obtain ⟨rfl, rfl⟩ := List.cons.inj inductionHypothesis
                  rw [List.cons_append, longWhole, whole, List.cons_append]

/-- Separators in front of a text are in no run. -/
theorem runs_append_of_separators
    {front : List Char}
    (separated : ∀ character ∈ front, separates character = true)
    (back : List Char) :
    runs separates (front ++ back) = runs separates back := by
  induction front with
  | nil => rfl
  | cons first rest inductionHypothesis =>
      obtain ⟨ofFirst, ofRest⟩ := List.forall_mem_cons.mp separated
      rw [List.cons_append, runs_cons_of_separates ofFirst, inductionHypothesis ofRest]

/-- Separators behind a text are in no run. -/
theorem runs_append_separators
    (front : List Char)
    {back : List Char}
    (separated : ∀ character ∈ back, separates character = true) :
    runs separates (front ++ back) = runs separates front := by
  cases back with
  | nil => rw [List.append_nil]
  | cons first rest =>
      obtain ⟨ofFirst, ofRest⟩ := List.forall_mem_cons.mp separated
      rw [runs_append_cons ofFirst, runs_eq_nil_iff.mpr ofRest, List.append_nil]

/-- Texts that are joined by a separator keep their runs. -/
theorem runs_joinedBy
    {separator : Char}
    (separated : separates separator = true)
    (texts : List (List Char)) :
    runs separates (joinedBy separator texts) = texts.flatMap (runs separates) := by
  unfold joinedBy
  induction texts with
  | nil => rfl
  | cons first rest inductionHypothesis =>
      cases rest with
      | nil => simp
      | cons second later =>
          rw [List.intercalate_cons_cons, List.append_assoc, List.singleton_append,
            runs_append_cons separated, inductionHypothesis]
          rfl

/-- A text without separators is its only run. -/
theorem runs_of_keeps
    {text : List Char}
    (nonempty : text ≠ [])
    (keeps : ∀ character ∈ text, separates character = false) :
    runs separates text = [text] := by
  induction text with
  | nil => exact absurd rfl nonempty
  | cons first rest inductionHypothesis =>
      obtain ⟨ofFirst, ofRest⟩ := List.forall_mem_cons.mp keeps
      cases rest with
      | nil => exact runs_singleton ofFirst
      | cons second others =>
          have runsOfRest := inductionHypothesis (List.cons_ne_nil second others) ofRest
          obtain ⟨run, more, isFirst, whole⟩ :=
            runs_cons_of_open ofFirst (ofRest second List.mem_cons_self) others
          rw [runsOfRest] at isFirst
          obtain ⟨rfl, rfl⟩ := List.cons.inj isFirst
          exact whole

/-- A run is the only run of itself. -/
theorem runs_of_mem_runs
    {text run : List Char}
    (member : run ∈ runs separates text) :
    runs separates run = [run] :=
  runs_of_keeps (ne_nil_of_mem_runs member)
    fun _ inRun => not_separates_of_mem_runs member inRun

/-- The lines of a text have its runs, as long as their ends separate. -/
theorem flatMap_runs_splitOnP
    {ends : Char → Bool}
    (separate : ∀ character, ends character = true → separates character = true)
    (text : List Char) :
    (text.splitOnP ends).flatMap (runs separates) = runs separates text := by
  induction text using splitOnP_induction ends with
  | line text unbroken => simp [List.splitOnP_eq_singleton unbroken]
  | feed line unbroken feed isEnd rest inductionHypothesis =>
      rw [List.splitOnP_append_cons_of_forall_mem unbroken feed isEnd, List.flatMap_cons,
        inductionHypothesis, runs_append_cons (separate feed isEnd)]

end Runs

/-- Collapsing leaves nothing exactly of a text of layout characters. -/
theorem collapseSpacing_eq_nil_iff
    {text : List Char} :
    collapseSpacing text = [] ↔
      ∀ character ∈ text, Character.isLayout character = true := by
  rw [collapseSpacing, joinedBy_eq_nil_iff fun _ => ne_nil_of_mem_runs, runs_eq_nil_iff]

/-- Collapsing brings in no character but the space. -/
theorem mem_collapseSpacing
    {text : List Char}
    {character : Char}
    (member : character ∈ collapseSpacing text) :
    character = ' ' ∨ character ∈ text := by
  rcases mem_joinedBy member with isSpace | ⟨run, isRun, inRun⟩
  · exact Or.inl isSpace
  · exact Or.inr (mem_of_mem_runs isRun inRun)

/-- Whether a text is words with one space between each and the next. -/
structure Spaced (text : List Char) : Prop where
  /-- There is a word. -/
  nonempty : text ≠ []
  /-- No space stands in front of the words. -/
  starts : text.head? ≠ some ' '
  /-- No space stands behind the words. -/
  ends : text.getLast? ≠ some ' '
  /-- No two spaces stand side by side. -/
  single : ¬[' ', ' '] <:+: text
  /-- There is no tab. -/
  untabbed : '\t' ∉ text
  /-- No line ends in the text. -/
  unbroken : '\n' ∉ text ∧ '\r' ∉ text

/-- Of a text with a word, collapsing leaves words with single spaces. -/
theorem spaced_collapseSpacing
    {text : List Char}
    (wordy : collapseSpacing text ≠ []) :
    Spaced (collapseSpacing text) := by
  have notLayout {character : Char} (member : character ∈ collapseSpacing text)
      (differs : character ≠ ' ') : Character.isLayout character = false := by
    rcases mem_joinedBy member with isSeparator | ⟨run, isRun, inRun⟩
    · exact absurd isSeparator differs
    · exact not_separates_of_mem_runs isRun inRun
  refine
    { nonempty := wordy
      starts := fun isFirst => ?_
      ends := fun isLast => ?_
      single := not_infix_joinedBy_runs rfl text
      untabbed := fun member => ?_
      unbroken := ⟨fun member => ?_, fun member => ?_⟩ }
  · cases head?_joinedBy_runs ' ' text ' ' isFirst
  · cases getLast?_joinedBy_runs ' ' text ' ' isLast
  · cases notLayout member (by decide)
  · cases notLayout member (by decide)
  · cases notLayout member (by decide)

/-- Trimming leaves nothing exactly of a text of characters that fit. -/
theorem trimmedBy_eq_nil_iff
    {fits : Char → Bool}
    {text : List Char} :
    trimmedBy fits text = [] ↔ ∀ character ∈ text, fits character = true := by
  rw [trimmedBy, List.reverse_eq_nil_iff, List.dropWhile_eq_nil_iff]
  simp only [List.mem_reverse]
  constructor
  · intro allFit character member
    rw [← List.takeWhile_append_dropWhile (p := fits) (l := text), List.mem_append] at member
    rcases member with leading | later
    · exact List.mem_takeWhile_imp leading
    · exact allFit character later
  · intro allFit character member
    exact allFit character (List.dropWhile_subset _ member)

/-- Trimming takes a text apart into what fits, what is left, and what fits again. -/
theorem exists_trimmedBy
    (fits : Char → Bool)
    (text : List Char) :
    ∃ trailing, text = text.takeWhile fits ++ trimmedBy fits text ++ trailing := by
  refine ⟨((text.dropWhile fits).reverse.takeWhile fits).reverse, ?_⟩
  rw [List.append_assoc, trimmedBy, ← List.reverse_append, List.takeWhile_append_dropWhile,
    List.reverse_reverse, List.takeWhile_append_dropWhile]

/-- Trimming takes what fits from either end of a text in which something does not fit. -/
theorem eq_append_trimmedBy
    {fits : Char → Bool}
    {text : List Char}
    (visible : trimmedBy fits text ≠ []) :
    text = text.takeWhile fits ++ (trimmedBy fits text ++ text.rtakeWhile fits) := by
  have stops : ((text.dropWhile fits).reverse.takeWhile fits).length ≠
      (text.dropWhile fits).reverse.length := by
    intro whole
    have nothing := congrArg List.length
      (List.takeWhile_append_dropWhile (p := fits) (l := (text.dropWhile fits).reverse))
    rw [List.length_append, whole, Nat.add_eq_left, List.length_eq_zero_iff] at nothing
    exact visible (congrArg List.reverse nothing)
  have behind : text.rtakeWhile fits = ((text.dropWhile fits).reverse.takeWhile fits).reverse := by
    have mirrored : text.reverse =
        (text.dropWhile fits).reverse ++ (text.takeWhile fits).reverse := by
      rw [← List.reverse_append, List.takeWhile_append_dropWhile]
    rw [List.rtakeWhile, mirrored, List.takeWhile_append, if_neg stops]
  rw [behind, trimmedBy, ← List.reverse_append, List.takeWhile_append_dropWhile,
    List.reverse_reverse, List.takeWhile_append_dropWhile]

/-- What trimming leaves does not start with a character that fits. -/
theorem head?_trimmedBy
    {fits : Char → Bool}
    {text : List Char}
    {first : Char}
    (isFirst : (trimmedBy fits text).head? = some first) :
    fits first = false := by
  obtain ⟨behind, whole⟩ : trimmedBy fits text <+: text.dropWhile fits :=
    List.rdropWhile_prefix _ _
  have notFit := List.head?_dropWhile_not fits text
  rw [← whole, List.head?_append, isFirst] at notFit
  simpa using notFit

/-- What trimming leaves does not end with a character that fits. -/
theorem getLast?_trimmedBy
    {fits : Char → Bool}
    {text : List Char}
    {last : Char}
    (isLast : (trimmedBy fits text).getLast? = some last) :
    fits last = false := by
  rw [trimmedBy, List.getLast?_reverse] at isLast
  have notFit := List.head?_dropWhile_not fits (text.dropWhile fits).reverse
  rw [isLast] at notFit
  simpa using notFit

theorem trimmed_isEmpty_iff
    {text : List Char} :
    (trimmed text).isEmpty = true ↔ ∀ character ∈ text, Character.isBlank character = true := by
  rw [List.isEmpty_iff, trimmed, trimmedBy_eq_nil_iff]

end Text
end KeyedText
