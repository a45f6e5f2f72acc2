import KeyedText.Key.Normal
import KeyedText.Key.Slug
import KeyedText.Proofs.Character.Range
import KeyedText.Proofs.Text.Spacing
import Mathlib.Data.List.Chain
import Mathlib.Data.List.DropRight

/-!
# Well-formed slugs

A slug is put together from words, each to the next by one underscore, and
then cut to a length.  The cut leaves a front of the words without an
underscore at its end, so it cannot break what the words have made; and as a
word comes first, it leaves nothing only if there was no word at all.
-/

namespace KeyedText
namespace Key

/-- What a slug of bounded length may look like. -/
structure WellFormedSlug
    (limit : Nat)
    (slug : List Char) : Prop where
  characters : ∀ character ∈ slug, isKeyCharacter character = true ∨ character = '_'
  leading : slug.head? ≠ some '_'
  trailing : slug.getLast? ≠ some '_'
  /-- Of two neighbours at most one is an underscore. -/
  single : slug.IsChain fun before behind => before ≠ '_' ∨ behind ≠ '_'
  bounded : slug.length ≤ limit

/-! ## Characters of words -/

theorem ne_underscore_of_isKeyCharacter
    {character : Char}
    (isKey : isKeyCharacter character = true) :
    character ≠ '_' := by
  rintro rfl
  exact absurd isKey (by decide)

theorem isAsciiAlphanumeric_of_isKeyCharacter
    {character : Char}
    (isKey : isKeyCharacter character = true) :
    Character.isAsciiAlphanumeric character = true := by
  unfold isKeyCharacter at isKey
  unfold Character.isAsciiAlphanumeric
  rcases Bool.or_eq_true_iff.mp isKey with isLower | isDigit
  · simp [isLower]
  · simp [isDigit]

/-- In lower case, a letter or digit of ASCII can stand in a word. -/
theorem isKeyCharacter_asciiLower
    {character : Char}
    (isAlphanumeric : Character.isAsciiAlphanumeric character = true) :
    isKeyCharacter (Character.asciiLower character) = true := by
  cases isUpper : Character.isAsciiUpper character with
  | true => rw [isKeyCharacter, Character.isAsciiLower_asciiLower isUpper, Bool.true_or]
  | false =>
      rw [Character.asciiLower_eq_self isUpper, isKeyCharacter]
      rwa [Character.isAsciiAlphanumeric, isUpper, Bool.or_false] at isAlphanumeric

/-! ## Words of a slug -/

theorem ne_nil_of_mem_slugWords
    {text : List Char} :
    ∀ word ∈ slugWords text, word ≠ [] := by
  intro word isWord isEmpty
  obtain ⟨run, isRun, rfl⟩ := List.mem_map.mp isWord
  exact Text.ne_nil_of_mem_runs isRun (List.map_eq_nil_iff.mp isEmpty)

theorem isKeyCharacter_of_mem_slugWords
    {text : List Char} :
    ∀ word ∈ slugWords text, ∀ character ∈ word, isKeyCharacter character = true := by
  intro word isWord character inWord
  obtain ⟨run, isRun, rfl⟩ := List.mem_map.mp isWord
  obtain ⟨original, inRun, rfl⟩ := List.mem_map.mp inWord
  apply isKeyCharacter_asciiLower
  simpa using Text.not_separates_of_mem_runs isRun inRun

theorem slugWords_eq_nil_iff
    {text : List Char} :
    slugWords text = [] ↔ text.any Character.isAsciiAlphanumeric = false := by
  unfold slugWords
  rw [List.map_eq_nil_iff, Text.runs_eq_nil_iff, List.any_eq_false]
  simp

/-! ## Words joined by underscores -/

section Joined

variable
    {words : List (List Char)}
    (nonempty : ∀ word ∈ words, word ≠ [])
    (letters : ∀ word ∈ words, ∀ character ∈ word, isKeyCharacter character = true)

include nonempty letters

/-- What is joined starts with a character of the first word. -/
theorem joinedBy_eq_cons
    (hasWord : words ≠ []) :
    ∃ first others,
      Text.joinedBy '_' words = first :: others ∧ isKeyCharacter first = true := by
  match words with
  | [] => exact absurd rfl hasWord
  | [] :: _ => exact absurd rfl (nonempty [] (by simp))
  | (first :: others) :: rest =>
      have isKey : isKeyCharacter first = true :=
        letters _ List.mem_cons_self first List.mem_cons_self
      unfold Text.joinedBy
      cases rest with
      | nil => exact ⟨first, others, by simp, isKey⟩
      | cons second later => exact ⟨first, _, by rw [List.intercalate_cons_cons]; rfl, isKey⟩

theorem head?_joinedBy_ne :
    (Text.joinedBy '_' words).head? ≠ some '_' := by
  by_cases noWord : words = []
  · simp [noWord, Text.joinedBy]
  · obtain ⟨first, others, joined, isKey⟩ := joinedBy_eq_cons nonempty letters noWord
    rw [joined, List.head?_cons]
    intro same
    exact ne_underscore_of_isKeyCharacter isKey (Option.some.inj same)

theorem single_joinedBy :
    (Text.joinedBy '_' words).IsChain fun before behind => before ≠ '_' ∨ behind ≠ '_' := by
  induction words with
  | nil => simp [Text.joinedBy]
  | cons first rest inductionHypothesis =>
      have ofFirst : first.IsChain fun before behind => before ≠ '_' ∨ behind ≠ '_' := by
        apply List.Pairwise.isChain
        apply List.pairwise_of_forall_mem_list
        intro before isBefore behind isBehind
        exact Or.inl (ne_underscore_of_isKeyCharacter
          (letters first List.mem_cons_self before isBefore))
      cases rest with
      | nil => simpa [Text.joinedBy] using ofFirst
      | cons second later =>
          have ofRest := inductionHypothesis
            (fun word isWord => nonempty word (List.mem_cons_of_mem _ isWord))
            (fun word isWord => letters word (List.mem_cons_of_mem _ isWord))
          have startOfRest := head?_joinedBy_ne
            (fun word isWord => nonempty word (List.mem_cons_of_mem _ isWord))
            (fun word isWord => letters word (List.mem_cons_of_mem _ isWord))
          unfold Text.joinedBy at ofRest startOfRest ⊢
          rw [List.intercalate_cons_cons, List.append_assoc, List.singleton_append]
          rw [List.isChain_append, List.isChain_cons]
          refine ⟨ofFirst, ⟨?_, ofRest⟩, ?_⟩
          · rintro behind isBehind
            right
            rintro rfl
            exact startOfRest isBehind
          · intro before isBefore behind _
            left
            exact ne_underscore_of_isKeyCharacter
              (letters first List.mem_cons_self before (List.mem_of_mem_getLast? isBefore))

end Joined

/-! ## Slugs -/

theorem dropTrailing_eq_rdropWhile
    (text : List Char) :
    dropTrailing text = text.rdropWhile (· == '_') := rfl

theorem slugOf_prefix
    (limit : Nat)
    (text : List Char) :
    slugOf limit text <+: Text.joinedBy '_' (slugWords text) := by
  unfold slugOf
  rw [dropTrailing_eq_rdropWhile]
  exact (List.rdropWhile_prefix _ _).trans (List.take_prefix _ _)

/-- Whatever the text and the length, the slug is well-formed. -/
theorem wellFormed_slugOf
    (limit : Nat)
    (text : List Char) :
    WellFormedSlug limit (slugOf limit text) := by
  have isPrefix := slugOf_prefix limit text
  have nonempty : ∀ word ∈ slugWords text, word ≠ [] := ne_nil_of_mem_slugWords
  have single := single_joinedBy nonempty isKeyCharacter_of_mem_slugWords
  refine ⟨?_, ?_, ?_, single.prefix isPrefix, ?_⟩
  · intro character member
    rcases Text.mem_joinedBy (isPrefix.subset member) with isUnderscore | ⟨word, isWord, inWord⟩
    · exact Or.inr isUnderscore
    · exact Or.inl (isKeyCharacter_of_mem_slugWords word isWord character inWord)
  · intro startsWithUnderscore
    apply head?_joinedBy_ne nonempty isKeyCharacter_of_mem_slugWords
    obtain ⟨rest, whole⟩ := isPrefix
    rw [← whole, List.head?_append, startsWithUnderscore, Option.some_or]
  · intro endsWithUnderscore
    obtain ⟨notEmpty, isLast⟩ := List.mem_getLast?_eq_getLast endsWithUnderscore
    apply List.rdropWhile_last_not (· == '_') _ notEmpty
    exact beq_iff_eq.mpr isLast.symm
  · unfold slugOf
    rw [dropTrailing_eq_rdropWhile]
    calc
      _ ≤ ((Text.joinedBy '_' (slugWords text)).take limit).length :=
        (List.rdropWhile_prefix _ _).length_le
      _ ≤ limit := List.length_take_le _ _

/-- A slug that may have a character is empty exactly if its text has no letter or digit of
ASCII. -/
theorem slugOf_eq_nil_iff
    {limit : Nat}
    (positive : 0 < limit)
    {text : List Char} :
    slugOf limit text = [] ↔ text.any Character.isAsciiAlphanumeric = false := by
  rw [← slugWords_eq_nil_iff]
  unfold slugOf
  rw [dropTrailing_eq_rdropWhile, List.rdropWhile_eq_nil_iff]
  constructor
  · intro onlyUnderscores
    by_contra hasWord
    obtain ⟨first, others, joined, isKey⟩ := joinedBy_eq_cons ne_nil_of_mem_slugWords
      isKeyCharacter_of_mem_slugWords hasWord
    have isFirst : first ∈ (Text.joinedBy '_' (slugWords text)).take limit := by
      obtain ⟨bound, rfl⟩ := Nat.exists_eq_succ_of_ne_zero positive.ne'
      rw [joined, List.take_succ_cons]
      exact List.mem_cons_self
    exact ne_underscore_of_isKeyCharacter isKey (beq_iff_eq.mp (onlyUnderscores first isFirst))
  · intro noWord
    simp [noWord, Text.joinedBy]

end Key
end KeyedText
