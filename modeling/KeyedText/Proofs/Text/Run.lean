import KeyedText.Proofs.Text.Spacing

/-!
# Texts that fall into runs

A run is a piece that cannot be made longer: behind it there is nothing or a
separator, and in front of it there are only separators as far as the run before.
A text falls into runs in one way, and these are the runs that are found in it.
-/

namespace KeyedText
namespace Text

/-- A text falls into its longest pieces in which no character separates, in order. -/
inductive FallsInto (separates : Char → Bool) : List Char → List (List Char) → Prop where
  /-- Separators alone hold no piece. -/
  | nothing
      {gap : List Char}
      (separate : ∀ character ∈ gap, separates character = true) :
      FallsInto separates gap []
  /-- The first piece stands behind separators, and nothing but a separator can follow it. -/
  | piece
      {gap run rest : List Char}
      {later : List (List Char)}
      (separate : ∀ character ∈ gap, separates character = true)
      (nonempty : run ≠ [])
      (keep : ∀ character ∈ run, separates character = false)
      (ends : ∀ next ∈ rest.head?, separates next = true)
      (behind : FallsInto separates rest later) :
      FallsInto separates (gap ++ (run ++ rest)) (run :: later)

section FallsInto

variable
    {separates : Char → Bool}
    {text : List Char}
    {pieces : List (List Char)}

theorem FallsInto.runs_eq
    (falls : FallsInto separates text pieces) :
    runs separates text = pieces := by
  induction falls with
  | nothing separate => exact runs_eq_nil_iff.mpr separate
  | @piece gap run rest later separate nonempty keep ends behind inductionHypothesis =>
      rw [runs_append_of_separators separate]
      cases rest with
      | nil =>
          rw [← inductionHypothesis, List.append_nil]
          exact runs_of_keeps nonempty keep
      | cons next others =>
          have separated : separates next = true := ends next rfl
          rw [runs_append_cons separated, runs_of_keeps nonempty keep, ← inductionHypothesis,
            runs_cons_of_separates separated, List.singleton_append]

/-- The first piece can stand at the front of a text. -/
theorem FallsInto.at_front
    {run rest : List Char}
    {later : List (List Char)}
    (nonempty : run ≠ [])
    (keep : ∀ character ∈ run, separates character = false)
    (ends : ∀ next ∈ rest.head?, separates next = true)
    (behind : FallsInto separates rest later) :
    FallsInto separates (run ++ rest) (run :: later) := by
  rw [← List.nil_append (run ++ rest)]
  exact FallsInto.piece (by simp) nonempty keep ends behind

/-- A separator in front of a text belongs to no piece. -/
theorem FallsInto.behind_separator
    {character : Char}
    (separated : separates character = true)
    (falls : FallsInto separates text pieces) :
    FallsInto separates (character :: text) pieces := by
  cases falls with
  | nothing separate =>
      apply FallsInto.nothing
      exact List.forall_mem_cons.mpr ⟨separated, separate⟩
  | piece separate nonempty keep ends behind =>
      rw [← List.cons_append]
      apply FallsInto.piece _ nonempty keep ends behind
      exact List.forall_mem_cons.mpr ⟨separated, separate⟩

/-- A character that does not separate makes the piece longer that it stands in front of. -/
theorem FallsInto.behind_character
    {character next : Char}
    {rest run : List Char}
    {later : List (List Char)}
    (keeps : separates character = false)
    (goesOn : separates next = false)
    (falls : FallsInto separates (next :: rest) (run :: later)) :
    FallsInto separates (character :: next :: rest) ((character :: run) :: later) := by
  generalize isText : next :: rest = text at falls ⊢
  cases falls with
  | @piece gap _ back _ separate nonempty keep ends behind =>
      cases gap with
      | nil =>
          rw [List.nil_append, ← List.cons_append]
          apply FallsInto.at_front (List.cons_ne_nil _ _) _ ends behind
          exact List.forall_mem_cons.mpr ⟨keeps, keep⟩
      | cons first others =>
          -- the text would start with a separator
          have separated := separate first List.mem_cons_self
          rw [List.cons_append] at isText
          rw [← (List.cons.inj isText).1, goesOn] at separated
          cases separated

theorem fallsInto_runs
    (separates : Char → Bool)
    (text : List Char) :
    FallsInto separates text (runs separates text) := by
  induction text with
  | nil => exact .nothing (by simp)
  | cons character rest inductionHypothesis =>
      cases ofCharacter : separates character with
      | true =>
          rw [runs_cons_of_separates ofCharacter]
          exact inductionHypothesis.behind_separator ofCharacter
      | false =>
          have alone : ∀ other ∈ [character], separates other = false := by simpa using ofCharacter
          cases rest with
          | nil =>
              rw [runs_singleton ofCharacter]
              rw [← List.append_nil [character]]
              exact FallsInto.at_front (by simp) alone (by simp) (.nothing (by simp))
          | cons next others =>
              cases ofNext : separates next with
              | true =>
                  rw [runs_cons_cons_of_separates ofCharacter ofNext]
                  rw [← List.singleton_append]
                  exact FallsInto.at_front (by simp) alone (by simpa using ofNext)
                    inductionHypothesis
              | false =>
                  obtain ⟨run, more, ofRest, whole⟩ := runs_cons_of_open ofCharacter ofNext others
                  rw [ofRest] at inductionHypothesis
                  rw [whole]
                  exact inductionHypothesis.behind_character ofCharacter ofNext

/-- The runs that are found in a text are those into which it falls. -/
theorem fallsInto_iff :
    FallsInto separates text pieces ↔ runs separates text = pieces := by
  constructor
  · exact FallsInto.runs_eq
  · rintro rfl
    exact fallsInto_runs separates text

end FallsInto

end Text
end KeyedText
