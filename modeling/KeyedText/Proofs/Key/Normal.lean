import KeyedText.Proofs.Key.Slug
import KeyedText.Proofs.Text.Collapse

/-!
# Texts in normal form

A normal form is a row of words, each of letters and digits, with one space between two of them.
It is what is left of a text when other characters are blanked out, blanks are collapsed and the
blanks at both ends are dropped.
-/

namespace KeyedText
namespace Key

/-- Whether a text is a word of a normal form. -/
def IsWord (word : List Char) : Prop :=
  word ≠ [] ∧ ∀ character ∈ word, isKeyCharacter character = true

/-- Whether a text is a row of words, each separated from the next by one space. -/
def IsNormal (text : List Char) : Prop :=
  ∃ words, text = Text.joinedBy ' ' words ∧ ∀ word ∈ words, IsWord word

theorem toNat_of_isKeyCharacter
    {character : Char}
    (isKey : isKeyCharacter character = true) :
    (97 ≤ character.toNat ∧ character.toNat ≤ 122) ∨
      (48 ≤ character.toNat ∧ character.toNat ≤ 57) := by
  rwa [isKeyCharacter, Bool.or_eq_true, Character.isAsciiLower_iff, Character.isAsciiDigit_iff]
    at isKey

theorem isBlank_of_isKeyCharacter
    {character : Char}
    (isKey : isKeyCharacter character = true) :
    Character.isBlank character = false := by
  have range := toNat_of_isKeyCharacter isKey
  rw [Character.isBlank, Character.within, List.any_eq_false]
  intro blanks isRange
  simp only [List.mem_cons, List.not_mem_nil, or_false] at isRange
  rcases isRange with rfl | rfl | rfl | rfl | rfl | rfl | rfl | rfl | rfl | rfl <;> simp <;> omega

/-- The characters of words are of ASCII and no capitals. -/
theorem small_of_isKeyCharacter
    {character : Char}
    (isKey : isKeyCharacter character = true) :
    Character.isAscii character = true ∧ Character.isAsciiUpper character = false := by
  have range := toNat_of_isKeyCharacter isKey
  rw [Character.isAscii, decide_eq_true_eq, Bool.eq_false_iff, ne_eq, Character.isAsciiUpper_iff]
  omega

theorem isWord_of_mem_keyWords
    {text word : List Char}
    (member : word ∈ keyWords text) :
    IsWord word := by
  refine ⟨Text.ne_nil_of_mem_runs member, ?_⟩
  intro character inWord
  simpa using Text.not_separates_of_mem_runs member inWord

theorem isNormal_normalForm
    (synonyms : List Synonym)
    (text : List Char) :
    IsNormal (normalForm synonyms text) :=
  ⟨_, rfl, fun _ => isWord_of_mem_keyWords⟩

/-- A normal text has the characters of words and spaces between them. -/
theorem IsNormal.mem
    {text : List Char}
    (normal : IsNormal text)
    {character : Char}
    (member : character ∈ text) :
    character = ' ' ∨ isKeyCharacter character = true := by
  obtain ⟨words, rfl, areWords⟩ := normal
  rcases Text.mem_joinedBy member with isSpace | ⟨word, isWord, inWord⟩
  · exact Or.inl isSpace
  · exact Or.inr ((areWords word isWord).2 character inWord)

/-- What spaces separate in a text of such characters are words, even if the text has more spaces
than it needs. -/
theorem isWord_of_mem_runs
    {text : List Char}
    (letters : ∀ character ∈ text, character = ' ' ∨ isKeyCharacter character = true)
    {word : List Char}
    (isRun : word ∈ Text.runs (· == ' ') text) :
    IsWord word := by
  refine ⟨Text.ne_nil_of_mem_runs isRun, ?_⟩
  intro character inWord
  have notSpace := Text.not_separates_of_mem_runs isRun inWord
  rcases letters character (Text.mem_of_mem_runs isRun inWord) with rfl | isKey
  · exact absurd notSpace (by decide)
  · exact isKey

/-- The words of a row are found again in it wherever spaces separate and words do not. -/
theorem runs_joinedBy_words
    {separates : Char → Bool}
    (ofSpace : separates ' ' = true)
    (ofWord : ∀ character, isKeyCharacter character = true → separates character = false)
    {words : List (List Char)}
    (areWords : ∀ word ∈ words, IsWord word) :
    Text.runs separates (Text.joinedBy ' ' words) = words := by
  rw [Text.runs_joinedBy ofSpace]
  calc
    words.flatMap (Text.runs separates) = words.flatMap fun word => [word] := by
      refine List.flatMap_congr fun word isWord => ?_
      obtain ⟨nonempty, letters⟩ := areWords word isWord
      exact Text.runs_of_keeps nonempty fun character inWord => ofWord _ (letters _ inWord)
    _ = words := by simp

/-! ## Blanking out -/

end Key
end KeyedText
