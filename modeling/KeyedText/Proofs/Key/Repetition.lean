import KeyedText.Key.Generator
import KeyedText.Proofs.Character.Lower
import KeyedText.Proofs.Key.Normal

/-!
# Normal forms of normal forms

A text in normal form stays as it is in lower case and when it is reduced to its words, so a second
pass over it can change it only by a synonym.  That happens: synonyms are put in the place of whole
words before other characters are blanked out, and blanking out makes whole words of what stood
beside an underscore.  Hence a second pass never changes anything exactly if the synonyms change no
text in normal form at all.
-/

namespace KeyedText
namespace Key

/-! ## Words that stand in a text -/

/-- Whether a whole word stands anywhere in a text; `before` is the character in front of it. -/
def standsFrom (word : List Char) (before : Option Char) : List Char → Bool
  | [] => isWordAt word before []
  | character :: rest =>
    isWordAt word before (character :: rest) || standsFrom word (some character) rest

/-- Whether the word of a synonym stands anywhere in a text. -/
def Synonym.stands (synonym : Synonym) (text : List Char) : Bool :=
  standsFrom synonym.word none text

theorem replaceFrom_of_not_stands
    {synonym : Synonym}
    {before : Option Char}
    {text : List Char}
    (absent : standsFrom synonym.word before text = false) :
    replaceFrom synonym 0 before text = text := by
  induction text generalizing before with
  | nil =>
      have notHere : ¬(0 == 0 && synonym.word.isEmpty && isWordAt [] before []) = true := by
        cases ofWord : synonym.word with
        | nil =>
            rw [ofWord, standsFrom] at absent
            simp [absent]
        | cons first others => simp
      rw [replaceFrom, if_neg notHere]
  | cons character rest inductionHypothesis =>
      rw [standsFrom, Bool.or_eq_false_iff] at absent
      rw [replaceFrom, absent.1, if_neg Bool.false_ne_true, inductionHypothesis absent.2]

/-- A text with the synonyms in the place of their words, one after the other. -/
def replaced (synonyms : List Synonym) (text : List Char) : List Char :=
  synonyms.foldl (fun text synonym => synonym.replace text) text

/-- A text in which no word stands is left as it is. -/
theorem replaced_of_not_stands
    {synonyms : List Synonym}
    {text : List Char}
    (absent : ∀ synonym ∈ synonyms, synonym.stands text = false) :
    replaced synonyms text = text := by
  unfold replaced
  induction synonyms with
  | nil => rfl
  | cons synonym others inductionHypothesis =>
      obtain ⟨ofFirst, ofOthers⟩ := List.forall_mem_cons.mp absent
      rw [List.foldl_cons, Synonym.replace, replaceFrom_of_not_stands ofFirst,
        inductionHypothesis ofOthers]

/-! ## Normal texts -/

section Normal

variable
    {text : List Char}
    (normal : IsNormal text)

include normal

theorem IsNormal.joinedBy_keyWords :
    Text.joinedBy ' ' (keyWords text) = text := by
  obtain ⟨words, rfl, areWords⟩ := normal
  rw [keyWords, runs_joinedBy_words (by decide) (by simp) areWords]

theorem IsNormal.lower_eq_self :
    Character.lower text = text := by
  refine Character.lower_eq_self fun character member => ?_
  rcases normal.mem member with rfl | isKey
  · decide
  · exact small_of_isKeyCharacter isKey

/-- A normal text is its own normal form exactly if the synonyms keep its words. -/
theorem IsNormal.normalForm_eq_self_iff
    {synonyms : List Synonym} :
    normalForm synonyms text = text ↔
      keyWords (Character.lower (replaced synonyms text)) = keyWords text := by
  have isNormalForm : normalForm synonyms text =
      Text.joinedBy ' ' (keyWords (Character.lower (replaced synonyms text))) := by
    unfold normalForm
    dsimp only
    rw [normal.lower_eq_self]
    rfl
  constructor
  · intro same
    rw [isNormalForm] at same
    have sameWords := congrArg keyWords same
    rwa [keyWords, runs_joinedBy_words (by decide) (by simp) fun _ => isWord_of_mem_keyWords]
      at sameWords
  · intro sameWords
    rw [isNormalForm, sameWords, normal.joinedBy_keyWords]

/-- A normal text in which no word of a synonym stands is its own normal form. -/
theorem IsNormal.normalForm_eq_self
    {synonyms : List Synonym}
    (absent : ∀ synonym ∈ synonyms, synonym.stands text = false) :
    normalForm synonyms text = text := by
  rw [normal.normalForm_eq_self_iff, replaced_of_not_stands absent, normal.lower_eq_self]

end Normal

/-! ## Texts that hide their words -/

/-- A text behind underscores, with underscores for its spaces. -/
def guarded (count : Nat) (text : List Char) : List Char :=
  List.replicate count '_' ++ text.map fun character => if character = ' ' then '_' else character

theorem isWord_of_isKeyCharacter
    {character : Char}
    (isKey : isKeyCharacter character = true) :
    Character.isWord character = true := by
  unfold Character.isWord
  rw [if_pos (small_of_isKeyCharacter isKey).1, isAsciiAlphanumeric_of_isKeyCharacter isKey,
    Bool.true_or]

/-- Inside a longer row of characters of words there is no boundary, so no shorter word stands. -/
theorem standsFrom_of_forall_isWord
    {word : List Char}
    (nonempty : word ≠ [])
    {text : List Char}
    (inside : ∀ character ∈ text, Character.isWord character = true)
    {before : Option Char}
    (behind : before.any Character.isWord = true ∨ word.length < text.length) :
    standsFrom word before text = false := by
  have boundless {left right : Option Char}
      (ofLeft : left.any Character.isWord = true)
      (ofRight : right.any Character.isWord = true) :
      isBoundary left right = false := by
    rw [isBoundary, ofLeft, ofRight]
    rfl
  induction text generalizing before with
  | nil =>
      cases word with
      | nil => exact absurd rfl nonempty
      | cons first others => rfl
  | cons character rest inductionHypothesis =>
      obtain ⟨ofFirst, ofRest⟩ := List.forall_mem_cons.mp inside
      have later : standsFrom word (some character) rest = false :=
        inductionHypothesis ofRest (Or.inl ofFirst)
      rw [standsFrom, later, Bool.or_false, isWordAt]
      rcases behind with ofBefore | shorter
      · have insideStart : isBoundary before (character :: rest).head? = false :=
          boundless ofBefore ofFirst
        rw [insideStart, Bool.and_false, Bool.false_and]
      · -- The word ends in front of another character of a word.
        have hasLast : (character :: rest).take word.length ≠ [] := by
          rw [ne_eq, List.take_eq_nil_iff, not_or]
          exact ⟨mt List.length_eq_zero_iff.mp nonempty, List.cons_ne_nil _ _⟩
        have hasNext : (character :: rest).drop word.length ≠ [] := by
          rw [ne_eq, List.drop_eq_nil_iff]
          exact Nat.not_le.mpr shorter
        have insideEnd : isBoundary (some (((character :: rest).take word.length).getLast hasLast))
            (some (((character :: rest).drop word.length).head hasNext)) = false :=
          boundless (inside _ (List.mem_of_mem_take (List.getLast_mem hasLast)))
            (inside _ (List.mem_of_mem_drop (List.head_mem hasNext)))
        rw [if_neg (mt List.isEmpty_iff.mp nonempty), List.getLast?_eq_some_getLast hasLast,
          List.head?_eq_some_head hasNext, insideEnd, Bool.and_false]

/-- Guarding a text keeps its words. -/
theorem keyWords_guarded
    (count : Nat)
    (text : List Char) :
    keyWords (guarded count text) = keyWords text := by
  have separators : ∀ character ∈ List.replicate count '_', (!isKeyCharacter character) = true := by
    intro character member
    rw [List.eq_of_mem_replicate member]
    decide
  rw [keyWords, guarded, Text.runs_append_of_separators separators]
  refine Text.runs_congr (List.forall₂_map_left_iff.mpr (List.forall₂_same.mpr ?_))
  intro character _
  by_cases isSpace : character = ' '
  · subst isSpace
    decide
  · rw [if_neg isSpace]
    exact ⟨rfl, fun _ => rfl⟩

section Guarded

variable
    (count : Nat)
    {text : List Char}
    (normal : IsNormal text)

include normal

/-- A guarded text has only characters of words and underscores. -/
theorem IsNormal.mem_guarded
    {character : Char}
    (member : character ∈ guarded count text) :
    character = '_' ∨ isKeyCharacter character = true := by
  rcases List.mem_append.mp member with inFront | inText
  · exact Or.inl (List.eq_of_mem_replicate inFront)
  · obtain ⟨original, isOriginal, rfl⟩ := List.mem_map.mp inText
    by_cases isSpace : original = ' '
    · exact Or.inl (if_pos isSpace)
    · rw [if_neg isSpace]
      exact Or.inr ((normal.mem isOriginal).resolve_left isSpace)

/-- Behind enough underscores no word of a synonym stands, so a normal text is a normal form
whatever the synonyms. -/
theorem IsNormal.normalForm_guarded
    {synonyms : List Synonym}
    (nonempty : ∀ synonym ∈ synonyms, synonym.word ≠ [])
    (longer : ∀ synonym ∈ synonyms, synonym.word.length < count) :
    normalForm synonyms (guarded count text) = text := by
  have lowerGuarded : Character.lower (guarded count text) = guarded count text := by
    refine Character.lower_eq_self fun character member => ?_
    rcases normal.mem_guarded count member with rfl | isKey
    · decide
    · exact small_of_isKeyCharacter isKey
  have inside : ∀ character ∈ guarded count text, Character.isWord character = true := by
    intro character member
    rcases normal.mem_guarded count member with rfl | isKey
    · decide
    · exact isWord_of_isKeyCharacter isKey
  have absent : ∀ synonym ∈ synonyms, synonym.stands (guarded count text) = false := by
    intro synonym isSynonym
    refine standsFrom_of_forall_isWord (nonempty synonym isSynonym) inside (Or.inr ?_)
    rw [guarded, List.length_append, List.length_replicate]
    exact Nat.lt_add_right _ (longer synonym isSynonym)
  have unchanged : replaced synonyms (guarded count text) = guarded count text :=
    replaced_of_not_stands absent
  unfold normalForm
  dsimp only
  rw [← replaced, lowerGuarded, unchanged, lowerGuarded, keyWords_guarded, normal.joinedBy_keyWords]

end Guarded

/-- A second pass over a normal form changes nothing exactly if the synonyms keep its words, as they
do if none of theirs stands in it.  If all synonyms have a word, then no second pass ever changes
anything exactly if every normal text is its own normal form. -/
theorem normalForm_normalForm
    (table : Table) :
    (∀ text,
      let first := normalForm table.toSynonyms text
      (normalForm table.toSynonyms first = first ↔
          keyWords (Character.lower (replaced table.toSynonyms first)) = keyWords first) ∧
        ((∀ synonym ∈ table.toSynonyms, synonym.stands first = false) →
          normalForm table.toSynonyms first = first)) ∧
    ((∀ entry ∈ table, entry.1 ≠ "") →
      ((∀ text, normalForm table.toSynonyms (normalForm table.toSynonyms text) =
          normalForm table.toSynonyms text) ↔
        ∀ text, IsNormal text → normalForm table.toSynonyms text = text)) := by
  constructor
  · intro text first
    have normal : IsNormal first := isNormal_normalForm _ text
    exact ⟨normal.normalForm_eq_self_iff, normal.normalForm_eq_self⟩
  · intro haveWords
    have nonempty : ∀ synonym ∈ table.toSynonyms, synonym.word ≠ [] := by
      intro synonym isSynonym
      obtain ⟨entry, isEntry, rfl⟩ := List.mem_map.mp isSynonym
      exact mt String.toList_eq_nil_iff.mp (haveWords entry isEntry)
    constructor
    · intro settled text normal
      -- A normal text is the normal form of itself behind underscores.
      obtain ⟨count, longer⟩ : ∃ count, ∀ synonym ∈ table.toSynonyms,
          synonym.word.length < count :=
        ⟨(table.toSynonyms.map Synonym.word).flatten.length + 1, fun synonym isSynonym =>
          Nat.lt_succ_of_le
            (List.sublist_flatten_of_mem (List.mem_map_of_mem isSynonym)).length_le⟩
      have isNormalForm := normal.normalForm_guarded count nonempty longer
      have again := settled (guarded count text)
      rwa [isNormalForm] at again
    · intro keeps text
      exact keeps _ (isNormal_normalForm _ text)

/-- An abbreviation that stands in a text is replaced, but one that an underscore hides is found
only by a second pass. -/
theorem normalForm_normalForm_for_abbreviation :
    let synonyms := Table.toSynonyms [("pic", "image")]
    normalForm synonyms (normalForm synonyms "Upload a pic, please!".toList) =
        normalForm synonyms "Upload a pic, please!".toList ∧
      ¬∀ text, normalForm synonyms (normalForm synonyms text) = normalForm synonyms text := by
  intro synonyms
  obtain ⟨unchanged, settled⟩ := normalForm_normalForm [("pic", "image")]
  refine ⟨(unchanged _).2 (by decide +kernel), ?_⟩
  rw [settled (by decide)]
  intro keeps
  have isWord : IsWord ['p', 'i', 'c'] := ⟨List.cons_ne_nil _ _, List.all_eq_true.mp (by decide)⟩
  have kept := keeps ['p', 'i', 'c'] ⟨[['p', 'i', 'c']], rfl, List.forall_mem_singleton.mpr isWord⟩
  exact absurd kept (by decide +kernel)

end Key
end KeyedText
