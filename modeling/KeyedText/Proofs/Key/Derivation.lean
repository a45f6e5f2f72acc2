import KeyedText.Key.Generator
import KeyedText.Proofs.Key.Normal
import KeyedText.Settings.Check

/-!
# Slugs that are derived

The first rule of the chain that applies gives a raw slug, and every rule but
two gives one with a letter or digit of ASCII: a literal word, or words of a
normal form.  Only a short text and an entry of the table of patterns can give
one without, so only these can leave a text without a key.
-/

namespace KeyedText
namespace Key

/-! ## Words of normal forms -/

/-- A normal form holds words and the spaces between them. -/
theorem mem_normalForm
    {synonyms : List Synonym}
    {text : List Char}
    {character : Char}
    (member : character ∈ normalForm synonyms text) :
    character = ' ' ∨ isKeyCharacter character = true :=
  (isNormal_normalForm synonyms text).mem member

theorem significant_eq_joinedBy
    (text : List Char)
    (excluded : List (List Char))
    (limit : Nat) :
    ∃ words,
      significant text excluded limit = Text.joinedBy '_' words ∧
        ∀ word ∈ words, word ∈ Text.runs (· == ' ') text := by
  refine ⟨_, rfl, ?_⟩
  intro word isWord
  exact (List.mem_filter.mp (List.mem_of_mem_take isWord)).1

/-- The significant words of a normal form are empty or have a letter or digit. -/
theorem any_significant
    {text : List Char}
    (normal : ∀ character ∈ text, character = ' ' ∨ isKeyCharacter character = true)
    {excluded : List (List Char)}
    {limit : Nat}
    (notEmpty : significant text excluded limit ≠ []) :
    (significant text excluded limit).any Character.isAsciiAlphanumeric = true := by
  obtain ⟨words, joinedWords, isRun⟩ := significant_eq_joinedBy text excluded limit
  have areWords : ∀ word ∈ words, IsWord word := fun word isWord =>
    isWord_of_mem_runs normal (isRun word isWord)
  have hasWord : words ≠ [] := by
    rintro rfl
    exact notEmpty joinedWords
  obtain ⟨first, others, joined, isKey⟩ := joinedBy_eq_cons
    (fun word isWord => (areWords word isWord).1) (fun word isWord => (areWords word isWord).2)
    hasWord
  rw [joinedWords, joined, List.any_cons, isAsciiAlphanumeric_of_isKeyCharacter isKey,
    Bool.true_or]

/-! ## Rules -/

/-- Texts that have a slug although they are short and may have no letter or digit. -/
def spokenTexts : List (List Char) :=
  ["and", "or", ",", ".", "!", "?"].map String.toList

theorem any_shortSlug
    (text : List Char) :
    (shortSlug text).any Character.isAsciiAlphanumeric = false ↔
      text ∉ spokenTexts ∧ text.any Character.isAsciiAlphanumeric = false := by
  unfold shortSlug
  split
  · decide
  · decide
  · decide
  · decide
  · next notComma notPeriod notExclamation notQuestion =>
      have sameAny :
          ((text.filter Character.isAsciiAlphanumeric).map Character.asciiLower).any
              Character.isAsciiAlphanumeric =
            text.any Character.isAsciiAlphanumeric := by
        rw [List.any_map, List.any_filter]
        congr 1
        ext character
        cases isAlphanumeric : Character.isAsciiAlphanumeric character with
        | false => rfl
        | true =>
            exact isAsciiAlphanumeric_of_isKeyCharacter (isKeyCharacter_asciiLower isAlphanumeric)
      rw [sameAny]
      constructor
      · intro noLetter
        refine ⟨?_, noLetter⟩
        intro isSpoken
        simp only [spokenTexts, List.map_cons, List.map_nil, List.mem_cons, List.not_mem_nil,
          or_false] at isSpoken
        rcases isSpoken with rfl | rfl | rfl | rfl | rfl | rfl
        · exact absurd noLetter (by decide)
        · exact absurd noLetter (by decide)
        · exact notComma rfl
        · exact notPeriod rfl
        · exact notExclamation rfl
        · exact notQuestion rfl
      · exact And.right

theorem any_permissionSlug
    (generator : Generator)
    (subject : Subject)
    (behind : List Char) :
    (permissionSlug generator subject behind).any Character.isAsciiAlphanumeric = true := by
  unfold permissionSlug
  split
  · decide
  · rw [List.any_append, Bool.or_eq_true]
    exact Or.inr (by decide)

/-- What the tables have for a text: the slug of the first entry whose pattern is not empty and
occurs in the text, both in normal form. -/
def Tables.value? (tables : Tables) (text : List Char) : Option String :=
  let normal := normalForm tables.synonyms.toSynonyms
  let entry? := tables.patterns.find? fun (pattern, _) =>
    !(normal pattern.toList).isEmpty && Text.occurs (normal pattern.toList) (normal text)
  entry?.map (·.2)

theorem value?_eq_hit
    (tables : Tables)
    (limit : Nat)
    (text : List Char) :
    tables.value? text =
      ((Generator.ofTables tables limit).patterns.findSome? fun (pattern, slug) =>
        (Text.behind? pattern (normalForm tables.synonyms.toSynonyms text)).map
          fun behind => (behind, slug)).map (·.2) := by
  unfold Tables.value? Generator.ofTables
  induction tables.patterns with
  | nil => rfl
  | cons entry rest inductionHypothesis =>
      obtain ⟨pattern, slug⟩ := entry
      simp only [List.find?_cons, List.map_cons, List.filter_cons] at inductionHypothesis ⊢
      cases isBlank : (normalForm tables.synonyms.toSynonyms pattern.toList).isEmpty with
      | true => simpa [isBlank] using inductionHypothesis
      | false =>
          simp only [Bool.not_false, Bool.true_and, if_true, List.findSome?_cons]
          unfold Text.occurs Text.behind? at inductionHypothesis ⊢
          cases Text.cut? (normalForm tables.synonyms.toSynonyms pattern.toList)
              (normalForm tables.synonyms.toSynonyms text) with
          | none => exact inductionHypothesis
          | some parts => rfl

/-- The slug of a pattern has no letter or digit exactly if the tables have such a slug for the
text and it is no marker. -/
theorem any_patternSlug
    (tables : Tables)
    (limit : Nat)
    (group : String)
    {text raw : List Char}
    (derived : patternSlug? (.ofTables tables limit)
      ((Generator.ofTables tables limit).subject group text) = some raw) :
    raw.any Character.isAsciiAlphanumeric = false ↔
      ∃ value,
        tables.value? text = some value ∧ value ∉ passingSlugs ∧ value ∉ permissionSlugs ∧
          value.toList.any Character.isAsciiAlphanumeric = false := by
  rw [value?_eq_hit tables limit]
  unfold patternSlug? at derived
  dsimp only [Generator.subject, Generator.ofTables] at derived ⊢
  split at derived
  · cases derived
  · next behind found hit =>
      rw [hit]
      simp only [Option.map_some, Option.some.injEq, exists_eq_left']
      split at derived
      · cases derived
      · next notPassing =>
          rw [List.contains_iff_mem] at notPassing
          split at derived
          · next isPermission =>
              rw [List.contains_iff_mem] at isPermission
              rw [← Option.some.inj derived, any_permissionSlug]
              simp [isPermission]
          · next notPermission =>
              rw [List.contains_iff_mem] at notPermission
              rw [← Option.some.inj derived]
              simp [notPassing, notPermission]

/-- A rule for neither short texts nor patterns gives a slug with a letter or digit. -/
theorem any_of_derive?
    {generator : Generator}
    {subject : Subject}
    (normal : ∀ character ∈ subject.base, character = ' ' ∨ isKeyCharacter character = true)
    {rule : SlugRule}
    (notShort : rule ≠ .shortText)
    (notPattern : rule ≠ .pattern)
    {raw : List Char}
    (derived : rule.derive? generator subject = some raw) :
    raw.any Character.isAsciiAlphanumeric = true := by
  cases rule with
  | shortText => exact absurd rfl notShort
  | emptyText =>
      obtain ⟨-, rfl⟩ := Option.ite_some_none_eq_some.mp derived
      decide
  | singularPlural =>
      have ofEntry : ∀ entry ∈ sharedVerbs,
          entry.2.toList.any Character.isAsciiAlphanumeric = true ∧
            (entry.2 ++ "_single").toList.any Character.isAsciiAlphanumeric = true := by
        decide
      obtain ⟨entry, isShared, applies⟩ := List.exists_of_findSome?_eq_some derived
      obtain ⟨ofPlural, ofSingle⟩ := ofEntry entry isShared
      dsimp only at applies
      split at applies
      · rwa [← Option.some.inj applies]
      · obtain ⟨-, rfl⟩ := Option.ite_some_none_eq_some.mp applies
        exact ofPlural
  | pattern => exact absurd rfl notPattern
  | imagesUsage =>
      obtain ⟨-, rfl⟩ := Option.ite_some_none_eq_some.mp derived
      decide
  | failurePhrase =>
      obtain ⟨action, -, rfl⟩ := Option.map_eq_some_iff.mp derived
      rw [List.any_append, Bool.or_eq_true]
      exact Or.inr (by decide)
  | noLongerActive =>
      obtain ⟨-, rfl⟩ := Option.ite_some_none_eq_some.mp derived
      decide
  | fallback =>
      rw [← Option.some.inj derived]
      split
      · decide
      · next notEmpty =>
          exact any_significant normal (mt List.isEmpty_iff.mpr notEmpty)

/-! ## Derivation -/

/-- Some rule decides, at the latest the last one. -/
theorem findSome?_chain
    (generator : Generator)
    (group : String)
    (text : List Char) :
    (SlugRule.chain.findSome? fun rule =>
        (rule.derive? generator (generator.subject group text)).map fun raw =>
          Derivation.mk (slugOf generator.limit raw) rule) =
      some (generator.derive group text) := by
  unfold Generator.derive
  dsimp only
  generalize generator.subject group text = subject
  cases decided : SlugRule.chain.findSome? fun rule =>
      (rule.derive? generator subject).map fun raw =>
        Derivation.mk (slugOf generator.limit raw) rule with
  | none =>
      have notFallback := List.findSome?_eq_none_iff.mp decided .fallback (by decide)
      rw [SlugRule.derive?, Option.map_some] at notFallback
      cases notFallback
  | some derivation => rw [Option.getD_some]

/-- The rule that is named did derive the slug. -/
theorem derive?_rule_derive
    (generator : Generator)
    (group : String)
    (text : List Char) :
    ∃ raw,
      (generator.derive group text).rule.derive? generator (generator.subject group text) =
          some raw ∧
        (generator.derive group text).slug = slugOf generator.limit raw := by
  obtain ⟨rule, -, decides⟩ :=
    List.exists_of_findSome?_eq_some (findSome?_chain generator group text)
  obtain ⟨raw, derived, isDerivation⟩ := Option.map_eq_some_iff.mp decides
  rw [← isDerivation]
  exact ⟨raw, derived, rfl⟩

theorem rule_derive_eq_shortText_iff
    (generator : Generator)
    (group : String)
    (text : List Char) :
    (generator.derive group text).rule = .shortText ↔ (Text.trimmed text).length ≤ 3 := by
  constructor
  · intro isShort
    obtain ⟨raw, derived, -⟩ := derive?_rule_derive generator group text
    rw [isShort] at derived
    exact (Option.ite_some_none_eq_some.mp derived).1
  · intro short
    have derived : SlugRule.derive? generator (generator.subject group text) .shortText =
        some (shortSlug (Text.trimmed text)) := if_pos short
    have decided := findSome?_chain generator group text
    rw [SlugRule.chain, List.findSome?_cons, derived, Option.map_some] at decided
    rw [← Option.some.inj decided]

/-- The slug of a text is well-formed whatever the tables, and empty only for a short text or for
an entry of the tables without any letter or digit of ASCII. -/
theorem derive_wellFormed_and_eq_nil_iff
    (tables : Tables)
    (limit : Nat)
    (admitted : Settings.leastSlugLimit ≤ limit ∧ limit ≤ Settings.greatestSlugLimit)
    (group : String)
    (text : List Char) :
    let derivation := (Generator.ofTables tables limit).derive group text
    WellFormedSlug limit derivation.slug ∧
      (derivation.slug = [] ↔
        ((Text.trimmed text).length ≤ 3 ∧ Text.trimmed text ∉ spokenTexts ∧
            (Text.trimmed text).any Character.isAsciiAlphanumeric = false) ∨
          (derivation.rule = .pattern ∧
            ∃ value,
              tables.value? text = some value ∧ value ∉ passingSlugs ∧ value ∉ permissionSlugs ∧
                value.toList.any Character.isAsciiAlphanumeric = false)) := by
  intro derivation
  obtain ⟨raw, derived, ofRaw⟩ :=
    derive?_rule_derive (Generator.ofTables tables limit) group text
  have isShort_iff := rule_derive_eq_shortText_iff (Generator.ofTables tables limit) group text
  change derivation.slug = slugOf limit raw at ofRaw
  change derivation.rule = _ ↔ _ at isShort_iff
  change derivation.rule.derive? _ _ = _ at derived
  have positive : 0 < limit := Nat.lt_of_lt_of_le (by decide) admitted.1
  rw [ofRaw, slugOf_eq_nil_iff positive]
  refine ⟨wellFormed_slugOf limit raw, ?_⟩
  by_cases isShort : derivation.rule = .shortText
  · rw [isShort] at derived
    have ofShort : (Text.trimmed text).length ≤ 3 ∧ shortSlug (Text.trimmed text) = raw :=
      Option.ite_some_none_eq_some.mp derived
    rw [← ofShort.2, any_shortSlug, isShort]
    simp [ofShort.1]
  · have notShort : ¬ (Text.trimmed text).length ≤ 3 := mt isShort_iff.mpr isShort
    by_cases isPattern : derivation.rule = .pattern
    · rw [isPattern] at derived
      rw [any_patternSlug tables limit group derived]
      simp [notShort, isPattern]
    · have hasLetter := any_of_derive? (fun _ => mem_normalForm) isShort isPattern derived
      simp [hasLetter, notShort, isPattern]

/-- A pattern with a slug of nothing but a dash leaves a long text without a key. -/
theorem derive_wellFormed_and_eq_nil_iff_for_dash :
    let derivation :=
      (Generator.ofTables ⟨[("save", "-")], [("store", "save")]⟩ 64).derive "room"
        "Store it".toList
    WellFormedSlug 64 derivation.slug ∧ derivation.slug = [] := by
  obtain ⟨wellFormed, isEmpty_iff⟩ :=
    derive_wellFormed_and_eq_nil_iff ⟨[("save", "-")], [("store", "save")]⟩ 64
      ⟨by decide, by decide⟩ "room" "Store it".toList
  refine ⟨wellFormed, isEmpty_iff.mpr (Or.inr ⟨?_, "-", ?_, ?_, ?_, ?_⟩)⟩
  · decide +kernel
  · decide +kernel
  · decide
  · decide
  · decide

end Key
end KeyedText
