import KeyedText.Character.Lower
import Mathlib.Data.List.Forall2

/-!
# Lower case out of context

The lower-case form of a text is that of its characters one by one, except that a capital sigma has
two forms, of which the characters around it choose one.  Small letters, digits and other characters
of ASCII that are no capitals keep their form.
-/

namespace KeyedText
namespace Character

/-- Whether a character is what stands for another one in context: the same, or the final form of
the same sigma. -/
def InContext (found alone : Char) : Prop :=
  found = alone ∨ found = 'ς' ∧ alone = 'σ'

theorem lowerOne_capitalSigma : lowerOne 'Σ' = ['σ'] := by
  decide +kernel

theorem lowerOne_smallSigma : lowerOne 'ς' = ['ς'] ∧ lowerOne 'σ' = ['σ'] := by
  decide +kernel

theorem forall₂_inContext_refl (text : List Char) : List.Forall₂ InContext text text :=
  List.forall₂_same.mpr fun _ _ => Or.inl rfl

theorem forall₂_lowerFrom
    (before text : List Char) :
    List.Forall₂ InContext (lowerFrom before text) (text.flatMap lowerOne) := by
  induction text generalizing before with
  | nil => exact .nil
  | cons character after inductionHypothesis =>
      rw [lowerFrom, List.flatMap_cons]
      refine List.rel_append ?_ (inductionHypothesis _)
      by_cases isSigma : character = 'Σ'
      · subst isSigma
        rw [lowerOne_capitalSigma, if_pos (beq_self_eq_true _)]
        split
        · exact .cons (Or.inr ⟨rfl, rfl⟩) .nil
        · exact forall₂_inContext_refl _
      · rw [if_neg (mt beq_iff_eq.mp isSigma)]
        exact forall₂_inContext_refl _

/-- A text in lower case has the lower-case forms of its characters, up to the form of a sigma. -/
theorem forall₂_lower (text : List Char) :
    List.Forall₂ InContext (lower text) (text.flatMap lowerOne) :=
  forall₂_lowerFrom [] text

/-- Whichever form a sigma has, it keeps it in lower case. -/
theorem forall₂_flatMap_lowerOne
    {found alone : List Char}
    (inContext : List.Forall₂ InContext found alone) :
    List.Forall₂ InContext (found.flatMap lowerOne) (alone.flatMap lowerOne) := by
  induction inContext with
  | nil => exact .nil
  | cons here _ inductionHypothesis =>
      rw [List.flatMap_cons, List.flatMap_cons]
      refine List.rel_append ?_ inductionHypothesis
      rcases here with rfl | ⟨rfl, rfl⟩
      · exact forall₂_inContext_refl _
      · rw [lowerOne_smallSigma.1, lowerOne_smallSigma.2]
        exact .cons (Or.inr ⟨rfl, rfl⟩) .nil

/-- Characters of ASCII that are no capitals stay in lower case. -/
theorem lower_eq_self
    {text : List Char}
    (small : ∀ character ∈ text, isAscii character = true ∧ isAsciiUpper character = false) :
    lower text = text := by
  have fromAny (before : List Char) : lowerFrom before text = text := by
    induction text generalizing before with
    | nil => rfl
    | cons character after inductionHypothesis =>
        obtain ⟨⟨ascii, notUpper⟩, later⟩ := List.forall_mem_cons.mp small
        have notSigma : ¬(character == 'Σ') = true := by
          rw [beq_iff_eq]
          rintro rfl
          exact absurd ascii (by decide)
        have stays : lowerOne character = [character] := by
          rw [lowerOne, if_pos ascii, asciiLower, notUpper, if_neg Bool.false_ne_true]
        rw [lowerFrom, if_neg notSigma, stays, inductionHypothesis later]
        rfl
  exact fromAny []

end Character
end KeyedText
