import KeyedText.Key.Generator
import KeyedText.Proofs.Key.Expression
import KeyedText.Proofs.Key.Normal
import KeyedText.Proofs.Text.Word

/-!
# Phrases in normal texts

In a normal text one space stands between two words and none at an end, and so it is in whatever
ends a normal text.  There an expression that wants some words, blanks and a longest run of other
characters keeps all that stands behind the words and one space.  So a search for it is a search for
the words and the space.
-/

namespace KeyedText
namespace Key

/-! ## Ends of normal texts -/

/-- Whether a text has the characters of normal texts, with a word behind every space. -/
structure Tidy (text : List Char) : Prop where
  /-- The characters are those of words and spaces. -/
  letters : ∀ character ∈ text, character = ' ' ∨ isKeyCharacter character = true
  /-- Behind a space starts a word. -/
  words : ∀ front back, text = front ++ ' ' :: back →
    ∃ first rest, back = first :: rest ∧ isKeyCharacter first = true

instance (word : List Char) : Decidable (IsWord word) :=
  decidable_of_iff (word ≠ [] ∧ word.all isKeyCharacter = true) (by simp [IsWord])

theorem space_notMem_of_isWord
    {word : List Char}
    (isWord : IsWord word) :
    ' ' ∉ word :=
  fun member => absurd (isWord.2 ' ' member) (by decide)

theorem IsNormal.tidy
    {text : List Char}
    (normal : IsNormal text) :
    Tidy text := by
  refine ⟨fun _ => normal.mem, fun front back split => ?_⟩
  have inText : ∀ character ∈ back, character ∈ text := by
    intro character member
    rw [split]
    exact List.mem_append_right _ (List.mem_cons_of_mem _ member)
  have letters : ∀ character ∈ back, character = ' ' ∨ isKeyCharacter character = true :=
    fun character member => normal.mem (inText character member)
  obtain ⟨words, rfl, areWords⟩ := normal
  have nonempty : words ≠ [] := by
    rintro rfl
    simp [Text.joinedBy] at split
  have ofBack : ∀ piece ∈ Text.pieces ' ' back, IsWord piece := by
    have ofText := Text.pieces_joinedBy nonempty fun word isWord =>
      space_notMem_of_isWord (areWords word isWord)
    rw [split, Text.pieces_append_cons] at ofText
    intro piece isPiece
    exact areWords piece (ofText ▸ List.mem_append_right _ isPiece)
  cases back with
  | nil => exact absurd rfl (ofBack [] List.mem_cons_self).1
  | cons first rest =>
      refine ⟨first, rest, rfl, (letters first List.mem_cons_self).resolve_left ?_⟩
      rintro rfl
      rw [Text.pieces_cons_self] at ofBack
      exact absurd rfl (ofBack [] List.mem_cons_self).1

namespace Tidy

variable
    {text : List Char}
    (tidy : Tidy text)

include tidy

theorem of_suffix
    {rest : List Char}
    (ends : rest <:+ text) :
    Tidy rest := by
  obtain ⟨inFront, rfl⟩ := ends
  constructor
  · exact fun character member => tidy.letters character (List.mem_append_right _ member)
  · intro front back split
    exact tidy.words (inFront ++ front) back (by rw [split, List.append_assoc])

/-- No blank stands at the end, so only what is in front can be trimmed. -/
theorem trimmed :
    Tidy (Text.trimmed text) := by
  refine tidy.of_suffix ?_
  have endsWithoutBlank : ((text.dropWhile Character.isBlank).reverse.dropWhile Character.isBlank) =
      (text.dropWhile Character.isBlank).reverse := by
    cases ofEnd : (text.dropWhile Character.isBlank).reverse with
    | nil => rfl
    | cons last others =>
        have whole : text = (text.takeWhile Character.isBlank ++ others.reverse) ++ [last] := by
          rw [List.append_assoc, ← List.reverse_cons, ← ofEnd, List.reverse_reverse,
            List.takeWhile_append_dropWhile]
        have notBlank : Character.isBlank last = false := by
          rcases tidy.letters last (by rw [whole]; simp) with rfl | isKey
          · obtain ⟨first, rest, absurdity, -⟩ := tidy.words _ [] whole
            cases absurdity
          · exact isBlank_of_isKeyCharacter isKey
        rw [List.dropWhile_cons, notBlank, if_neg Bool.false_ne_true]
  rw [Text.trimmed, Text.trimmedBy, endsWithoutBlank, List.reverse_reverse]
  exact List.dropWhile_suffix _

end Tidy

/-! ## Expressions for phrases -/

/-- Whether a character can be kept behind a phrase. -/
def isPhraseCharacter (character : Char) : Bool :=
  isKeyCharacter character || character == '_' || Character.isBlank character

/-- Blanks, and a run of characters behind them that is kept. -/
def remainder : Expression :=
  .followedBy (.run Character.isBlank) (.kept (.run isPhraseCharacter))

/-- One of several texts, and the remainder behind it. -/
def phrase (leads : List (List Char)) : Expression :=
  .followedBy (.anyOf leads) remainder

/-- The longest run of a text whose characters all fit is the whole text. -/
theorem head?_runWays
    {fits : Char → Bool}
    {text : List Char}
    (nonempty : text ≠ [])
    (allFit : ∀ character ∈ text, fits character = true) :
    (runWays fits text).head? = some ⟨text, none, []⟩ := by
  induction text with
  | nil => exact absurd rfl nonempty
  | cons first rest inductionHypothesis =>
      obtain ⟨ofFirst, ofRest⟩ := List.forall_mem_cons.mp allFit
      rw [runWays, ofFirst, if_pos rfl, List.head?_append, List.head?_map]
      cases rest with
      | nil => rfl
      | cons second others =>
          rw [inductionHypothesis (List.cons_ne_nil _ _) ofRest]
          rfl

theorem runWays_eq_nil
    {fits : Char → Bool}
    {text : List Char}
    (none : ∀ first ∈ text.head?, fits first = false) :
    runWays fits text = [] := by
  cases text with
  | nil => rfl
  | cons first rest => rw [runWays, none first rfl, if_neg Bool.false_ne_true]

theorem head?_ways_remainder
    {rest : List Char}
    (tidy : Tidy (' ' :: rest))
    (before : Option Char) :
    (remainder.ways before (' ' :: rest)).head? = some ⟨' ' :: rest, some rest, []⟩ := by
  have ofRest := tidy.of_suffix (List.suffix_cons ' ' rest)
  obtain ⟨first, others, rfl, isKey⟩ := tidy.words [] rest rfl
  have oneBlank : runWays Character.isBlank (' ' :: first :: others) =
      [⟨[' '], none, first :: others⟩] := by
    rw [runWays, runWays_eq_nil (by simp [isBlank_of_isKeyCharacter isKey]), if_pos (by decide)]
    rfl
  have kept : (runWays isPhraseCharacter (first :: others)).head? =
      some ⟨first :: others, none, []⟩ := by
    refine head?_runWays (List.cons_ne_nil _ _) fun character member => ?_
    rcases ofRest.letters character member with rfl | isKey
    · decide
    · rw [isPhraseCharacter, isKey, Bool.true_or, Bool.true_or]
  simp only [remainder, Expression.ways, oneBlank, List.flatMap_singleton, List.head?_map, kept,
    Option.map_some, List.singleton_append, Option.some_or]

theorem ways_remainder_eq_nil
    {text : List Char}
    (letters : ∀ character ∈ text, character = ' ' ∨ isKeyCharacter character = true)
    (notSpace : text.head? ≠ some ' ')
    (before : Option Char) :
    remainder.ways before text = [] := by
  have noBlank : runWays Character.isBlank text = [] := by
    refine runWays_eq_nil fun first isFirst => ?_
    have ofFirst := letters first (List.mem_of_mem_head? isFirst)
    refine isBlank_of_isKeyCharacter (ofFirst.resolve_left ?_)
    rintro rfl
    exact notSpace isFirst
  simp only [remainder, Expression.ways, noBlank, List.flatMap_nil]

/-- Where the first text of a phrase stands, its ways come before those of the others. -/
theorem ways_phrase_cons_append
    (lead back : List Char)
    (others : List (List Char))
    (before : Option Char) :
    (phrase (lead :: others)).ways before (lead ++ back) =
      ((remainder.ways (lead.getLast?.or before) back).map fun next =>
          ⟨lead ++ next.taken, next.kept.or none, next.rest⟩) ++
        (phrase others).ways before (lead ++ back) := by
  simp [phrase, Expression.ways]

/-- Where the first text of a phrase does not stand, only the others count. -/
theorem ways_phrase_cons_of_absent
    {lead text : List Char}
    (notHere : ¬lead <+: text)
    (others : List (List Char))
    (before : Option Char) :
    (phrase (lead :: others)).ways before text = (phrase others).ways before text := by
  have notPrefix : lead.isPrefixOf text = false := by
    rwa [← Bool.not_eq_true, List.isPrefixOf_iff_prefix]
  simp [phrase, Expression.ways, notPrefix]

/-- At the front of a text an expression for phrases wants one of its texts and a space, and keeps
the rest. -/
theorem head?_ways_phrase
    {text : List Char}
    (tidy : Tidy text)
    (leads : List (List Char))
    (before : Option Char) :
    ((phrase leads).ways before text).head? =
      (leads.find? fun lead => (lead ++ [' ']).isPrefixOf text).map fun lead =>
        ⟨text, some (text.drop (lead ++ [' ']).length), []⟩ := by
  induction leads with
  | nil => rfl
  | cons lead others inductionHypothesis =>
      by_cases starts : lead <+: text
      · obtain ⟨back, rfl⟩ := starts
        have ofBack := tidy.of_suffix (List.suffix_append lead back)
        rw [ways_phrase_cons_append, List.head?_append, List.head?_map, inductionHypothesis]
        by_cases isSpace : back.head? = some ' '
        · obtain ⟨rest, rfl⟩ := List.head?_eq_some_iff.mp isSpace
          have behind : (lead ++ ' ' :: rest).drop (lead ++ [' ']).length = rest := by
            rw [List.append_cons lead ' ' rest, List.drop_left]
          rw [head?_ways_remainder ofBack, List.find?_cons_of_pos (by simp), Option.map_some,
            Option.map_some, behind]
          rfl
        · rw [ways_remainder_eq_nil ofBack.letters isSpace, List.find?_cons_of_neg]
          · rfl
          · rw [List.isPrefixOf_iff_prefix, List.prefix_append_right_inj]
            rintro ⟨rest, rfl⟩
            exact isSpace rfl
      · rw [ways_phrase_cons_of_absent starts, inductionHypothesis, List.find?_cons_of_neg]
        rw [List.isPrefixOf_iff_prefix]
        exact fun spaced => starts ((List.prefix_append _ _).trans spaced)

/-- A search for a phrase keeps what stands behind the first of its texts with a space. -/
theorem findFrom?_phrase
    {text : List Char}
    (tidy : Tidy text)
    (leads : List (List Char))
    (before : Option Char) :
    ((phrase leads).findFrom? before text).bind Way.kept =
      Text.behindAny? (leads.map (· ++ [' '])) text := by
  induction text generalizing before with
  | nil =>
      have notHere : (leads.find? fun lead => (lead ++ [' ']).isPrefixOf []) = none := by
        simp
      rw [Expression.findFrom?, head?_ways_phrase tidy, notHere]
      rfl
  | cons first rest inductionHypothesis =>
      have later := inductionHypothesis (tidy.of_suffix (List.suffix_cons first rest)) (some first)
      rw [Expression.findFrom?, head?_ways_phrase tidy, Text.behindAny?, List.find?_map,
        Function.comp_def]
      cases leads.find? fun lead => (lead ++ [' ']).isPrefixOf (first :: rest) with
      | none => exact later
      | some lead => rfl

/-- An expression that wants the start of a text finds nothing behind it. -/
theorem findFrom?_start
    (expression : Expression)
    (text : List Char) :
    ((Expression.start.followedBy expression).findFrom? none text).bind Way.kept =
      (expression.ways none text).head?.bind Way.kept := by
  have nothingLater (rest : List Char) (first : Char) :
      (Expression.start.followedBy expression).findFrom? (some first) rest = none := by
    induction rest generalizing first with
    | nil => rfl
    | cons second others inductionHypothesis =>
        rw [Expression.findFrom?, inductionHypothesis]
        rfl
  have atStart : ((Expression.start.followedBy expression).ways none text).head?.bind Way.kept =
      (expression.ways none text).head?.bind Way.kept := by
    simp only [Expression.ways, Option.isNone_none, if_pos, List.flatMap_singleton, List.head?_map,
      List.getLast?_nil, Option.or_none]
    cases (expression.ways none text).head? <;> rfl
  cases text with
  | nil => rw [Expression.findFrom?, atStart]
  | cons first rest => rw [Expression.findFrom?, nothingLater, Option.or_none, atStart]

end Key
end KeyedText
