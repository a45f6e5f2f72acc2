import KeyedText.Proofs.Key.Derivation

/-!
# Words of a derivation

The rule for patterns looks at what stands behind a pattern in the normal form of a text.  It finds
the pattern by bytes, and the byte behind what was found always starts a character or ends the
normal form.  Rules that abridge a text take words of a normal form, or of what stands behind a
phrase in one, so they join nothing but words.
-/

namespace KeyedText

namespace Text

theorem suffix_of_behindAny?
    {wanted : List (List Char)}
    {text behind : List Char}
    (found : behindAny? wanted text = some behind) :
    behind <:+ text := by
  induction text with
  | nil => cases found
  | cons first rest inductionHypothesis =>
      rw [behindAny?] at found
      split at found
      · obtain rfl := Option.some.inj found
        exact List.drop_suffix _ _
      · exact (inductionHypothesis found).trans (List.suffix_cons _ _)

end Text

namespace Key

/-! ## Bytes behind a pattern -/

/-- The texts that rules abridge. -/
inductive Generator.Abridges (generator : Generator) (subject : Subject) : List Char → Prop where
  /-- The rule for patterns abridges the normal form of what permission is asked for. -/
  | action {behind action : List Char}
      (found : action? subject.base behind = some action) :
      Abridges generator subject (normalForm generator.synonyms action)
  /-- The rule for failures abridges what has failed. -/
  | failed {action : List Char}
      (found : failedAction? subject.base = some action) :
      Abridges generator subject action
  /-- The last rule abridges the whole. -/
  | whole : Abridges generator subject subject.base

/-- Rules abridge texts of words and spaces. -/
theorem Generator.Abridges.normal
    {generator : Generator}
    {subject : Subject}
    (normal : ∀ character ∈ subject.base, character = ' ' ∨ isKeyCharacter character = true)
    {text : List Char}
    (abridged : generator.Abridges subject text) :
    ∀ character ∈ text, character = ' ' ∨ isKeyCharacter character = true := by
  cases abridged with
  | action found => exact fun _ => mem_normalForm
  | failed found =>
      intro character member
      exact normal character ((Text.suffix_of_behindAny? found).subset member)
  | whole => exact normal

end Key
end KeyedText
