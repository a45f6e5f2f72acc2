import KeyedText.Proofs.Text.Spacing

/-!
# Words of an excerpt

A text that is part of another one may cut words at its ends, but the words that it has stand in
the other text in the same order, next to each other.  So the words of an excerpt, joined, are an
excerpt of the joined words of the whole text.
-/

namespace KeyedText
namespace Text

variable
    (separator : Char)
    (separates : Char → Bool)

/-- The words of a text end the words of the text behind any other one. -/
theorem joinedBy_runs_isSuffix
    (front text : List Char) :
    joinedBy separator (runs separates text) <:+
      joinedBy separator (runs separates (front ++ text)) := by
  induction front with
  | nil => exact List.suffix_rfl
  | cons first rest inductionHypothesis =>
      rw [List.cons_append]
      cases ofFirst : separates first with
      | true => rwa [runs_cons_of_separates ofFirst]
      | false =>
          rw [joinedBy_runs_cons separator ofFirst]
          exact (inductionHypothesis.trans (List.suffix_append _ _)).trans (List.suffix_cons _ _)

/-- The words of a text start the words of the text in front of any other one. -/
theorem joinedBy_runs_isPrefix
    (text back : List Char) :
    joinedBy separator (runs separates text) <+:
      joinedBy separator (runs separates (text ++ back)) := by
  induction text with
  | nil => exact List.nil_prefix
  | cons first rest inductionHypothesis =>
      rw [List.cons_append]
      cases ofFirst : separates first with
      | true => rwa [runs_cons_of_separates ofFirst, runs_cons_of_separates ofFirst]
      | false =>
          rw [joinedBy_runs_cons separator ofFirst, joinedBy_runs_cons separator ofFirst,
            List.cons_prefix_cons]
          refine ⟨rfl, ?_⟩
          by_cases wordless : runs separates rest = []
          · rw [wordless]
            exact List.nil_prefix
          · -- The rest has words in front of `back`, so the same separator follows in both.
            have wordsBehind : runs separates (rest ++ back) ≠ [] := by
              intro nothing
              rw [runs_eq_nil_iff] at wordless nothing
              exact wordless fun character member =>
                nothing character (List.mem_append_left _ member)
            have sameHead : (rest ++ back).head? = rest.head? := by
              cases rest with
              | nil => exact absurd rfl wordless
              | cons next others => rfl
            rw [List.isEmpty_eq_false_iff.mpr wordless, List.isEmpty_eq_false_iff.mpr wordsBehind,
              sameHead, List.prefix_append_right_inj]
            exact inductionHypothesis

/-- The words of an excerpt are an excerpt of the words of the whole text. -/
theorem joinedBy_runs_isInfix
    (front text back : List Char) :
    joinedBy separator (runs separates text) <:+:
      joinedBy separator (runs separates (front ++ text ++ back)) :=
  (joinedBy_runs_isSuffix separator separates front text).isInfix.trans
    (joinedBy_runs_isPrefix separator separates (front ++ text) back).isInfix

end Text
end KeyedText
