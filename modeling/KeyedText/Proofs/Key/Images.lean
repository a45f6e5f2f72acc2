import KeyedText.Proofs.Key.Derivation
import KeyedText.Proofs.Key.Phrase
import KeyedText.Proofs.Key.Repetition

/-!
# Phrases about images

The rule for images decides about a text that no earlier rule decides about, if two searches of its
normal form succeed.  The search for images wants an edge of a word on both sides, so it finds whole
words.  The search for their use wants one behind the word alone, so it finds the words that end in
one of those it looks for, and *house* and *because* are about use as much as *use* is.
-/

namespace KeyedText
namespace Key

/-! ## Rules that decide -/

/-- A rule decides exactly if it applies and none of the rules ahead of it does. -/
theorem rule_derive_eq_iff
    {earlier later : List SlugRule}
    {rule : SlugRule}
    (split : SlugRule.chain = earlier ++ rule :: later)
    (generator : Generator)
    (group : String)
    (text : List Char) :
    (generator.derive group text).rule = rule ↔
      (∀ other ∈ earlier, other.derive? generator (generator.subject group text) = none) ∧
        (rule.derive? generator (generator.subject group text)).isSome = true := by
  have decided := findSome?_chain generator group text
  rw [split, List.findSome?_append] at decided
  have notEarlier : rule ∉ earlier := by
    have nodup : SlugRule.chain.Nodup := by decide
    rw [split] at nodup
    exact fun isEarlier =>
      (List.nodup_append.mp nodup).2.2 rule isEarlier rule List.mem_cons_self rfl
  constructor
  · intro decides
    obtain ⟨raw, derived, -⟩ := derive?_rule_derive generator group text
    rw [decides] at derived
    refine ⟨?_, Option.isSome_iff_exists.mpr ⟨raw, derived⟩⟩
    -- Had an earlier rule derived something, the derivation would name it.
    cases ofEarlier : earlier.findSome? fun rule =>
        (rule.derive? generator (generator.subject group text)).map fun raw =>
          Derivation.mk (slugOf generator.limit raw) rule with
    | none =>
        intro other isEarlier
        exact Option.map_eq_none_iff.mp (List.findSome?_eq_none_iff.mp ofEarlier other isEarlier)
    | some derivation =>
        rw [ofEarlier, Option.some_or] at decided
        obtain ⟨other, isEarlier, gives⟩ := List.exists_of_findSome?_eq_some ofEarlier
        obtain ⟨_, -, rfl⟩ := Option.map_eq_some_iff.mp gives
        rw [← Option.some.inj decided] at decides
        obtain rfl : other = rule := decides
        exact absurd isEarlier notEarlier
  · rintro ⟨noneEarlier, applies⟩
    obtain ⟨raw, derived⟩ := Option.isSome_iff_exists.mp applies
    rw [List.findSome?_eq_none_iff.mpr fun other isEarlier =>
        Option.map_eq_none_iff.mpr (noneEarlier other isEarlier),
      Option.none_or, List.findSome?_cons, derived] at decided
    rw [← Option.some.inj decided]

/-! ## Edges of words -/

/-- The character beside a place in a normal text is no part of a word if it is a space. -/
theorem any_isWord_eq_false_iff
    {beside : Option Char}
    (letters : ∀ character ∈ beside, character = ' ' ∨ isKeyCharacter character = true) :
    beside.any Character.isWord = false ↔ ∀ character ∈ beside, character = ' ' := by
  cases beside with
  | none => simp
  | some character =>
      have ofSpace : Character.isWord ' ' = false := by decide
      rcases letters character rfl with rfl | isKey
      · simp [ofSpace]
      · have notSpace : character ≠ ' ' := by
          rintro rfl
          exact absurd isKey (by decide)
        simp [isWord_of_isKeyCharacter isKey, notSpace]

section Edges

variable
    {word beside : List Char}
    (isWord : IsWord word)
    (letters : ∀ character ∈ beside, character = ' ' ∨ isKeyCharacter character = true)

include isWord letters

/-- Behind a word there is an edge where a space follows or nothing. -/
theorem isBoundary_behind_iff
    (before : Option Char) :
    isBoundary (word.getLast?.or before) beside.head? = true ↔
      ∀ first ∈ beside.head?, first = ' ' := by
  have ofLast : (word.getLast?.or before).any Character.isWord = true := by
    rw [List.getLast?_eq_some_getLast isWord.1, Option.some_or, Option.any_some]
    exact isWord_of_isKeyCharacter (isWord.2 _ (List.getLast_mem isWord.1))
  rw [isBoundary, ofLast, ← any_isWord_eq_false_iff fun character isFirst =>
    letters character (List.mem_of_mem_head? isFirst)]
  simp

/-- In front of a word there is an edge where a space stands or nothing. -/
theorem isBoundary_inFront_iff
    (rest : List Char) :
    isBoundary beside.getLast? (word ++ rest).head? = true ↔
      ∀ last ∈ beside.getLast?, last = ' ' := by
  have ofFirst : (word ++ rest).head?.any Character.isWord = true := by
    rw [List.head?_append_of_ne_nil _ isWord.1, List.head?_eq_some_head isWord.1, Option.any_some]
    exact isWord_of_isKeyCharacter (isWord.2 _ (List.head_mem isWord.1))
  rw [isBoundary, ofFirst, ← any_isWord_eq_false_iff fun character isLast =>
    letters character (List.mem_of_mem_getLast? isLast)]
  simp

end Edges

/-! ## Two searches -/

/-- The words of images. -/
def imageWords : List (List Char) :=
  ["image".toList, "images".toList]

/-- The expression for the words of images. -/
def imageWord : Expression :=
  .followedBy .edge
    (.followedBy (.anyOf ["image".toList])
      (.followedBy (.anyOf [['s'], []]) .edge))

/-- The words about use. -/
def useWords : List (List Char) :=
  ["use".toList, "usage".toList, "used".toList, "using".toList]

/-- The expression for words about use. -/
def useEnding : Expression :=
  .followedBy (.anyOf useWords) .edge

theorem isWord_of_mem_useWords :
    ∀ ending ∈ useWords, IsWord ending := by
  decide

theorem isWord_of_mem_imageWords :
    ∀ word ∈ imageWords, IsWord word := by
  decide

theorem mem_imageWords_iff
    {word : List Char} :
    word ∈ imageWords ↔ ∃ ending ∈ [['s'], []], word = "image".toList ++ ending := by
  simp [imageWords, or_comm]

section Normal

variable
    {text : List Char}
    (letters : ∀ character ∈ text, character = ' ' ∨ isKeyCharacter character = true)

include letters

/-- The words about use match where they stand in front of a space or the end. -/
theorem ways_useEnding_ne_nil_iff
    {before : Option Char} :
    useEnding.ways before text ≠ [] ↔
      ∃ ending ∈ useWords, ∃ rest, text = ending ++ rest ∧ ∀ first ∈ rest.head?, first = ' ' := by
  rw [useEnding, Expression.ways_anyOf_followedBy_ne_nil_iff]
  refine exists_congr fun ending => and_congr_right fun isEnding => exists_congr fun rest =>
    and_congr_right ?_
  rintro rfl
  rw [Expression.ways_edge_ne_nil_iff, isBoundary_behind_iff (isWord_of_mem_useWords _ isEnding)
    fun character member => letters character (List.mem_append_right _ member)]

/-- The words of images match where they stand in front of a space or the end, with an edge in front
of them. -/
theorem ways_imageWord_ne_nil_iff
    {before : Option Char} :
    imageWord.ways before text ≠ [] ↔
      isBoundary before text.head? = true ∧
        ∃ word ∈ imageWords, ∃ rest, text = word ++ rest ∧ ∀ first ∈ rest.head?, first = ' ' := by
  have isEdge {word rest : List Char} (isImage : word ∈ imageWords) (split : text = word ++ rest) :
      isBoundary (word.getLast?.or before) rest.head? = true ↔ ∀ first ∈ rest.head?, first = ' ' :=
    isBoundary_behind_iff (isWord_of_mem_imageWords word isImage) (fun character member =>
      letters character (split ▸ List.mem_append_right _ member)) before
  rw [imageWord, Expression.ways_edge_followedBy_ne_nil_iff,
    Expression.ways_anyOf_followedBy_ne_nil_iff]
  simp only [Expression.ways_anyOf_followedBy_ne_nil_iff, Expression.ways_edge_ne_nil_iff]
  refine and_congr_right fun _ => ?_
  constructor
  · rintro ⟨stem, isStem, _, split, ending, isEnding, rest, rfl, matched⟩
    obtain rfl := List.mem_singleton.mp isStem
    have isImage := mem_imageWords_iff.mpr ⟨ending, isEnding, rfl⟩
    rw [← List.append_assoc] at split
    rw [← Option.or_assoc, ← List.getLast?_append, isEdge isImage split] at matched
    exact ⟨_, isImage, rest, split, matched⟩
  · rintro ⟨word, isImage, rest, split, behind⟩
    rw [← isEdge isImage split] at behind
    obtain ⟨ending, isEnding, rfl⟩ := mem_imageWords_iff.mp isImage
    refine ⟨_, List.mem_singleton_self _, ending ++ rest, by rw [split, List.append_assoc], ending,
      isEnding, rest, rfl, ?_⟩
    rwa [← Option.or_assoc, ← List.getLast?_append]

/-- A search for words about use finds the words that end in one of them. -/
theorem occurs_useEnding_iff :
    useEnding.occurs text = true ↔
      ∃ word ∈ Text.runs (· == ' ') text, ∃ ending ∈ useWords, ending <:+ word := by
  rw [Expression.occurs, Expression.isSome_findFrom?_iff]
  constructor
  · rintro ⟨front, back, rfl, matched⟩
    rw [ways_useEnding_ne_nil_iff fun character member =>
      letters character (List.mem_append_right _ member)] at matched
    obtain ⟨ending, isEnding, rest, rfl, behind⟩ := matched
    have isWord := isWord_of_mem_useWords ending isEnding
    obtain ⟨word, isRun, isSuffix⟩ :=
      (Text.exists_suffix_mem_runs_iff (space_notMem_of_isWord isWord) isWord.1).mpr
        ⟨front, rest, (List.append_assoc _ _ _).symm, behind⟩
    exact ⟨word, isRun, ending, isEnding, isSuffix⟩
  · rintro ⟨word, isRun, ending, isEnding, isSuffix⟩
    have isWord := isWord_of_mem_useWords ending isEnding
    obtain ⟨front, rest, rfl, behind⟩ :=
      (Text.exists_suffix_mem_runs_iff (space_notMem_of_isWord isWord) isWord.1).mp
        ⟨word, isRun, isSuffix⟩
    rw [List.append_assoc] at letters ⊢
    refine ⟨front, ending ++ rest, rfl, ?_⟩
    rw [ways_useEnding_ne_nil_iff fun character member =>
      letters character (List.mem_append_right _ member)]
    exact ⟨ending, isEnding, rest, rfl, behind⟩

/-- A search for the words of images finds whole words. -/
theorem occurs_imageWord_iff :
    imageWord.occurs text = true ↔
      ∃ word ∈ Text.runs (· == ' ') text, word ∈ imageWords := by
  rw [Expression.occurs, Expression.isSome_findFrom?_iff]
  constructor
  · rintro ⟨front, back, rfl, matched⟩
    rw [ways_imageWord_ne_nil_iff fun character member =>
      letters character (List.mem_append_right _ member)] at matched
    obtain ⟨inFront, word, isImage, rest, rfl, behind⟩ := matched
    have isWord := isWord_of_mem_imageWords word isImage
    rw [Option.or_none, isBoundary_inFront_iff isWord fun character member =>
      letters character (List.mem_append_left _ member)] at inFront
    refine ⟨word, ?_, isImage⟩
    exact (Text.mem_runs_iff (space_notMem_of_isWord isWord) isWord.1).mpr
      ⟨front, rest, (List.append_assoc _ _ _).symm, inFront, behind⟩
  · rintro ⟨word, isRun, isImage⟩
    have isWord := isWord_of_mem_imageWords word isImage
    obtain ⟨front, rest, rfl, inFront, behind⟩ :=
      (Text.mem_runs_iff (space_notMem_of_isWord isWord) isWord.1).mp isRun
    rw [List.append_assoc] at letters ⊢
    refine ⟨front, word ++ rest, rfl, ?_⟩
    rw [ways_imageWord_ne_nil_iff fun character member =>
      letters character (List.mem_append_right _ member)]
    refine ⟨?_, word, isImage, rest, rfl, behind⟩
    rwa [Option.or_none, isBoundary_inFront_iff isWord fun character member =>
      letters character (List.mem_append_left _ member)]

/-- The rule for images looks for both. -/
theorem isAboutImages_eq :
    isAboutImages text = (imageWord.occurs text && useEnding.occurs text) := by
  rw [Bool.eq_iff_iff, Bool.and_eq_true, occurs_imageWord_iff letters, occurs_useEnding_iff letters]
  simp [isAboutImages, imageWords, useWords, endsWith]

end Normal

/-- When no rule ahead of the one for images applies, and this one does. -/
theorem imagesUsage_applies_iff
    (generator : Generator)
    {subject : Subject}
    (letters : ∀ character ∈ subject.base, character = ' ' ∨ isKeyCharacter character = true) :
    (∀ other ∈ [SlugRule.shortText, .emptyText, .singularPlural, .pattern],
        other.derive? generator subject = none) ∧
        (SlugRule.imagesUsage.derive? generator subject).isSome = true ↔
      (3 < subject.trimmed.length ∧ subject.base ≠ [] ∧ sharedVerbSlug? subject.base = none ∧
          patternSlug? generator subject = none) ∧
        imageWord.occurs subject.base = true ∧ useEnding.occurs subject.base = true := by
  rw [List.forall_mem_cons, List.forall_mem_cons, List.forall_mem_cons, List.forall_mem_singleton]
  simp only [SlugRule.derive?, isAboutImages_eq letters, ite_eq_right_iff, reduceCtorEq, imp_false,
    Nat.not_le, List.isEmpty_iff, ne_eq, Option.isSome_ite, Bool.and_eq_true]

/-- The rule for images decides about a text exactly if no rule ahead of it does and both searches
succeed: the text has a word of images, and a word that ends in one about use.  So a word about use
is in a text about which it decides, unless another word ends in one. -/
theorem imagesUsage_decides_iff
    (tables : Tables)
    (limit : Nat)
    (group : String)
    (text : List Char) :
    let generator := Generator.ofTables tables limit
    let subject := generator.subject group text
    let words := Text.runs (· == ' ') subject.base
    (imageWord.occurs subject.base = true ↔ ∃ word ∈ words, word ∈ imageWords) ∧
      (useEnding.occurs subject.base = true ↔
        ∃ word ∈ words, ∃ ending ∈ useWords, ending <:+ word) ∧
      ((generator.derive group text).rule = .imagesUsage ↔
        (3 < subject.trimmed.length ∧ subject.base ≠ [] ∧ sharedVerbSlug? subject.base = none ∧
            patternSlug? generator subject = none) ∧
          imageWord.occurs subject.base = true ∧ useEnding.occurs subject.base = true) ∧
      ((∀ word ∈ words, ∀ ending ∈ useWords, ending <:+ word → word = ending) →
        (generator.derive group text).rule = .imagesUsage →
          (∃ word ∈ words, word ∈ imageWords) ∧ ∃ word ∈ words, word ∈ useWords) := by
  intro generator subject words
  have letters : ∀ character ∈ subject.base, character = ' ' ∨ isKeyCharacter character = true :=
    fun _ => mem_normalForm
  have ofImages := occurs_imageWord_iff letters
  have ofUse := occurs_useEnding_iff letters
  have decides : (generator.derive group text).rule = .imagesUsage ↔
      (3 < subject.trimmed.length ∧ subject.base ≠ [] ∧ sharedVerbSlug? subject.base = none ∧
          patternSlug? generator subject = none) ∧
        imageWord.occurs subject.base = true ∧ useEnding.occurs subject.base = true := by
    have split : SlugRule.chain = [.shortText, .emptyText, .singularPlural, .pattern] ++
        .imagesUsage :: [.failurePhrase, .noLongerActive, .fallback] :=
      rfl
    exact (rule_derive_eq_iff split generator group text).trans
      (imagesUsage_applies_iff generator letters)
  refine ⟨ofImages, ofUse, decides, fun whole isImages => ?_⟩
  obtain ⟨-, hasImage, hasUse⟩ := decides.mp isImages
  obtain ⟨word, isRun, ending, isEnding, isSuffix⟩ := ofUse.mp hasUse
  refine ⟨ofImages.mp hasImage, word, isRun, ?_⟩
  rwa [whole word isRun ending isEnding isSuffix]

/-- Where *use* is a word the rule decides for its sake; and it decides as well where *house* is the
only word that ends like one about use. -/
theorem imagesUsage_decides_for_house :
    let generator := Generator.ofTables ⟨[], []⟩ 64
    let words (text : String) := Text.runs (· == ' ') (generator.subject "room" text.toList).base
    (∃ word ∈ words "You can use images in messages", word ∈ useWords) ∧
      generator.derive "room" "Images of the house".toList =
        ⟨"images_usage".toList, .imagesUsage⟩ ∧
      ∀ word ∈ words "Images of the house", word ∉ useWords := by
  intro generator words
  obtain ⟨-, -, -, whole⟩ :=
    imagesUsage_decides_iff ⟨[], []⟩ 64 "room" "You can use images in messages".toList
  have isRule : (generator.derive "room" "You can use images in messages".toList).rule =
      .imagesUsage := by
    decide +kernel
  have noEnding : ∀ word ∈ words "You can use images in messages", ∀ ending ∈ useWords,
      ending <:+ word → word = ending := by
    decide +kernel
  exact ⟨(whole noEnding isRule).2, by decide +kernel, by decide +kernel⟩

end Key
end KeyedText
