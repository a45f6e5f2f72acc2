import KeyedText.Proofs.Character.Lower
import KeyedText.Proofs.Key.Derivation
import KeyedText.Proofs.Key.Relocation
import KeyedText.Proofs.Text.Excerpt

/-!
# Patterns inside texts

Without synonyms the normal form of a fragment is part of the normal form of every text that has
the fragment in it.  Lower case depends on what stands around a character only in the form of a
sigma, which is in no word; and a word that the fragment cuts off keeps its part of it.  So the
first pattern of a table decides for every text that it is part of, unless an earlier rule does.
-/

namespace KeyedText

namespace Text

/-- A text occurs in every text that it is part of. -/
theorem occurs_of_isInfix
    {wanted text : List Char}
    (inText : wanted <:+: text) :
    occurs wanted text = true := by
  obtain ⟨front, back, rfl⟩ := inText
  have atStart : (cut? wanted (wanted ++ back)).isSome = true := by
    have starts : wanted.isPrefixOf (wanted ++ back) = true :=
      List.isPrefixOf_iff_prefix.mpr (List.prefix_append wanted back)
    cases whole : wanted ++ back with
    | nil => rw [cut?, if_pos (List.isEmpty_iff.mpr (List.append_eq_nil_iff.mp whole).1),
        Option.isSome_some]
    | cons first rest => rw [cut?, if_pos (whole ▸ starts), Option.isSome_some]
  rw [occurs, List.append_assoc]
  rcases cut?_append wanted front (wanted ++ back) with ⟨before, behind, found, -⟩ | asInBack
  · rw [found, Option.isSome_some]
  · rw [asInBack, Option.isSome_map, atStart]

end Text

namespace Key

/-! ## Fragments in normal form -/

/-- Words do not depend on the form that a sigma has. -/
theorem keyWords_congr
    {found alone : List Char}
    (inContext : List.Forall₂ Character.InContext found alone) :
    keyWords found = keyWords alone := by
  refine Text.runs_congr (inContext.imp ?_)
  rintro one other (rfl | ⟨rfl, rfl⟩)
  · exact ⟨rfl, fun _ => rfl⟩
  · decide

/-- The words of a text in lower case are those of the lower-case forms of its characters. -/
theorem keyWords_lower_lower
    (text : List Char) :
    keyWords (Character.lower (Character.lower text)) =
      keyWords ((text.flatMap Character.lowerOne).flatMap Character.lowerOne) := by
  have once := Character.forall₂_lower text
  calc
    keyWords (Character.lower (Character.lower text)) =
        keyWords ((Character.lower text).flatMap Character.lowerOne) :=
      keyWords_congr (Character.forall₂_lower _)
    _ = keyWords ((text.flatMap Character.lowerOne).flatMap Character.lowerOne) :=
      keyWords_congr (Character.forall₂_flatMap_lowerOne once)

/-- Without synonyms the normal form of a fragment is part of that of the whole. -/
theorem normalForm_isInfix
    (front fragment back : List Char) :
    normalForm [] fragment <:+: normalForm [] (front ++ fragment ++ back) := by
  unfold normalForm
  dsimp only [List.foldl_nil]
  rw [keyWords_lower_lower, keyWords_lower_lower]
  simp only [List.flatMap_append]
  exact Text.joinedBy_runs_isInfix ' ' _ _ _ _

/-! ## First pattern -/

/-- A pattern that has a word comes first where its entry does. -/
theorem patterns_ofTables_cons
    (synonyms : Table)
    {pattern : String}
    (wordy : normalForm synonyms.toSynonyms pattern.toList ≠ [])
    (value : String)
    (others : Table)
    (limit : Nat) :
    (Generator.ofTables ⟨(pattern, value) :: others, synonyms⟩ limit).patterns =
      (normalForm synonyms.toSynonyms pattern.toList, value) ::
        (Generator.ofTables ⟨others, synonyms⟩ limit).patterns := by
  simp [Generator.ofTables, wordy]

/-- The rule for patterns gives the slug of the first pattern if that is part of the base. -/
theorem patternSlug?_of_isInfix
    {generator : Generator}
    {pattern : List Char}
    {value : String}
    {later : List (List Char × String)}
    (isFirst : generator.patterns = (pattern, value) :: later)
    (notPassing : value ∉ passingSlugs)
    (notPermission : value ∉ permissionSlugs)
    {subject : Subject}
    (inBase : pattern <:+: subject.base) :
    patternSlug? generator subject = some value.toList := by
  obtain ⟨⟨before, behind⟩, found⟩ :=
    Option.isSome_iff_exists.mp (Text.occurs_of_isInfix inBase)
  have hit : Text.behind? pattern subject.base = some behind := by
    rw [Text.behind?, found, Option.map_some]
  unfold patternSlug?
  rw [isFirst, List.findSome?_cons]
  simp only [hit, Option.map_some]
  rw [if_neg (mt List.contains_iff_mem.mp notPassing),
    if_neg (mt List.contains_iff_mem.mp notPermission)]

/-- A pattern decides for a text with words, unless one of the two rules ahead of it does. -/
theorem derive_of_patternSlug?
    {generator : Generator}
    {group : String}
    {text : List Char}
    (wordy : normalForm generator.synonyms text ≠ [])
    {raw : List Char}
    (ofPattern : patternSlug? generator (generator.subject group text) = some raw)
    (notShort : (generator.derive group text).rule ≠ .shortText)
    (notShared : (generator.derive group text).rule ≠ .singularPlural) :
    generator.derive group text = ⟨slugOf generator.limit raw, .pattern⟩ := by
  have decided := findSome?_chain generator group text
  have ofEmpty : SlugRule.derive? generator (generator.subject group text) .emptyText = none :=
    if_neg (mt List.isEmpty_iff.mp wordy)
  have ofPattern : SlugRule.derive? generator (generator.subject group text) .pattern = some raw :=
    ofPattern
  generalize generator.subject group text = subject at decided ofEmpty ofPattern
  rw [SlugRule.chain, List.findSome?_cons] at decided
  cases ofShort : SlugRule.derive? generator subject .shortText with
  | some short =>
      rw [ofShort] at decided
      exact absurd (congrArg Derivation.rule (Option.some.inj decided)).symm notShort
  | none =>
      rw [ofShort, Option.map_none, List.findSome?_cons, ofEmpty, Option.map_none,
        List.findSome?_cons] at decided
      cases ofShared : SlugRule.derive? generator subject .singularPlural with
      | some shared =>
          rw [ofShared] at decided
          exact absurd (congrArg Derivation.rule (Option.some.inj decided)).symm notShared
      | none =>
          rw [ofShared, Option.map_none, List.findSome?_cons, ofPattern] at decided
          exact (Option.some.inj decided).symm

/-- Without synonyms the normal form of a fragment is part of that of every text around it, so a
first pattern with a word gives its slug to every text that it is part of, unless the rule for short
texts or that for one or several persons decides. -/
theorem fragments_are_found :
    (∀ front fragment back,
      normalForm [] fragment <:+: normalForm [] (front ++ fragment ++ back)) ∧
    ∀ (pattern value : String) (others : Table) (limit : Nat) (group : String) (text : List Char),
      normalForm [] pattern.toList ≠ [] →
      value ∉ passingSlugs → value ∉ permissionSlugs →
      pattern.toList <:+: text →
      let derivation :=
        (Generator.ofTables ⟨(pattern, value) :: others, []⟩ limit).derive group text
      derivation.rule ≠ .shortText → derivation.rule ≠ .singularPlural →
        derivation = ⟨slugOf limit value.toList, .pattern⟩ := by
  refine ⟨normalForm_isInfix, ?_⟩
  intro pattern value others limit group text wordy notPassing notPermission isPart derivation
  have inBase : normalForm [] pattern.toList <:+: normalForm [] text := by
    obtain ⟨front, back, rfl⟩ := isPart
    exact normalForm_isInfix front pattern.toList back
  have wordyBase : normalForm [] text ≠ [] := by
    intro wordless
    rw [wordless] at inBase
    exact wordy (List.infix_nil.mp inBase)
  have isFirst := patterns_ofTables_cons [] wordy value others limit
  exact derive_of_patternSlug? wordyBase
    (patternSlug?_of_isInfix isFirst notPassing notPermission inBase)

/-- A phrase that starts inside a word decides although a later entry has the words in front. -/
theorem fragments_are_found_for_saved :
    normalForm [] "ved successfully".toList <:+:
        normalForm [] "Your changes were Saved successfully!".toList ∧
      (Generator.ofTables ⟨[("ved successfully", "Saved!"), ("your changes", "changed")], []⟩
          64).derive "room" "Your changes were Saved successfully!".toList =
        ⟨"saved".toList, .pattern⟩ := by
  have whole : "Your changes were Sa".toList ++ "ved successfully".toList ++ ['!'] =
      "Your changes were Saved successfully!".toList := by
    decide
  have decides := fragments_are_found.2 "ved successfully" "Saved!" [("your changes", "changed")] 64
    "room" "Your changes were Saved successfully!".toList (by decide +kernel) (by decide)
    (by decide) ⟨_, _, whole⟩ (by decide +kernel) (by decide +kernel)
  refine ⟨?_, decides.trans (by decide +kernel)⟩
  rw [← whole]
  exact fragments_are_found.1 _ _ _

end Key
end KeyedText
