import KeyedText.Proofs.Key.Fragment

/-!
# Entries that decide

An entry of a table of patterns fits a text if its pattern has a word and is part of the text, both
in normal form.  The rule for patterns looks at the first entry that fits and at no other one, and
no other rule looks at the table.  So an entry that does not fit a text, or has one that fits in
front of it, changes nothing about the derivation, even if the entry in front leaves the text to
later rules.
-/

namespace KeyedText

namespace Text

theorem occurs_iff_isInfix
    {wanted text : List Char} :
    occurs wanted text = true ↔ wanted <:+: text := by
  constructor
  · intro occurring
    obtain ⟨⟨front, behind⟩, found⟩ := Option.isSome_iff_exists.mp occurring
    exact ⟨front, behind, (eq_of_cut? found).symm⟩
  · exact occurs_of_isInfix

end Text

namespace Key

/-- Whether the pattern of an entry has a word and is part of a text, both in normal form. -/
def Fits (synonyms : Table) (text : List Char) (entry : String × String) : Prop :=
  normalForm synonyms.toSynonyms entry.1.toList ≠ [] ∧
    normalForm synonyms.toSynonyms entry.1.toList <:+: normalForm synonyms.toSynonyms text

/-- What stands behind the pattern of a fitting entry, and the slug of the entry. -/
def hit? (synonyms : Table) (text : List Char) (entry : String × String) :
    Option (List Char × String) :=
  let pattern := normalForm synonyms.toSynonyms entry.1.toList
  if pattern.isEmpty then none
  else (Text.behind? pattern (normalForm synonyms.toSynonyms text)).map fun behind =>
    (behind, entry.2)

theorem isSome_hit?_iff
    {synonyms : Table}
    {text : List Char}
    {entry : String × String} :
    (hit? synonyms text entry).isSome = true ↔ Fits synonyms text entry := by
  unfold hit? Fits
  dsimp only
  rw [← Text.occurs_iff_isInfix, Text.occurs, ← List.isEmpty_eq_false_iff]
  cases (normalForm synonyms.toSynonyms entry.1.toList).isEmpty with
  | true => simp
  | false => simp [Text.behind?]

theorem hit?_eq_none_iff
    {synonyms : Table}
    {text : List Char}
    {entry : String × String} :
    hit? synonyms text entry = none ↔ ¬Fits synonyms text entry := by
  rw [← isSome_hit?_iff, Bool.not_eq_true, Option.isSome_eq_false_iff, Option.isNone_iff_eq_none]

/-- The patterns of a generator are searched like the entries of its table. -/
theorem findSome?_patterns
    (tables : Tables)
    (limit : Nat)
    (text : List Char) :
    ((Generator.ofTables tables limit).patterns.findSome? fun (pattern, slug) =>
        (Text.behind? pattern (normalForm tables.synonyms.toSynonyms text)).map fun behind =>
          (behind, slug)) =
      tables.patterns.findSome? (hit? tables.synonyms text) := by
  unfold Generator.ofTables
  dsimp only
  induction tables.patterns with
  | nil => rfl
  | cons entry rest inductionHypothesis =>
      rw [List.map_cons, List.filter_cons, List.findSome?_cons, hit?]
      cases wordless : (normalForm tables.synonyms.toSynonyms entry.1.toList).isEmpty with
      | true => simpa [wordless] using inductionHypothesis
      | false =>
          rw [Bool.not_false, if_pos rfl, if_neg Bool.false_ne_true, List.findSome?_cons,
            inductionHypothesis]

/-- The slug that the tables give to a text is that of the first entry that fits it. -/
theorem patternSlug?_ofTables
    (tables : Tables)
    (limit : Nat)
    (group : String)
    (text : List Char) :
    let generator := Generator.ofTables tables limit
    patternSlug? generator (generator.subject group text) =
      (tables.patterns.findSome? (hit? tables.synonyms text)).bind fun (behind, slug) =>
        if passingSlugs.contains slug then none
        else if permissionSlugs.contains slug then
          some (permissionSlug generator (generator.subject group text) behind)
        else some slug.toList := by
  intro generator
  have ofTable := findSome?_patterns tables limit text
  unfold patternSlug?
  dsimp only [Generator.subject] at ofTable ⊢
  change generator.patterns.findSome? _ = _ at ofTable
  rw [show generator.synonyms = tables.synonyms.toSynonyms from rfl, ofTable]
  cases tables.patterns.findSome? (hit? tables.synonyms text) <;> rfl

/-- Tables with the same synonyms in which the same entry comes first among those that fit a text
derive the same for it. -/
theorem derive_congr
    {synonyms first second : Table}
    {text : List Char}
    (sameHit : first.findSome? (hit? synonyms text) = second.findSome? (hit? synonyms text))
    (limit : Nat)
    (group : String) :
    (Generator.ofTables ⟨first, synonyms⟩ limit).derive group text =
      (Generator.ofTables ⟨second, synonyms⟩ limit).derive group text := by
  have samePattern :
      patternSlug? (.ofTables ⟨first, synonyms⟩ limit)
          ((Generator.ofTables ⟨first, synonyms⟩ limit).subject group text) =
        patternSlug? (.ofTables ⟨second, synonyms⟩ limit)
          ((Generator.ofTables ⟨second, synonyms⟩ limit).subject group text) := by
    rw [patternSlug?_ofTables, patternSlug?_ofTables]
    dsimp only
    rw [sameHit]
    rfl
  have sameRule (rule : SlugRule) :
      rule.derive? (.ofTables ⟨first, synonyms⟩ limit)
          ((Generator.ofTables ⟨first, synonyms⟩ limit).subject group text) =
        rule.derive? (.ofTables ⟨second, synonyms⟩ limit)
          ((Generator.ofTables ⟨second, synonyms⟩ limit).subject group text) := by
    cases rule with
    | pattern => exact samePattern
    | _ => rfl
  unfold Generator.derive
  dsimp only
  simp only [sameRule]
  rfl

/-- An entry that fits a text only behind another fitting one, or not at all, is never the first
that fits. -/
theorem findSome?_append_cons
    {decides : α → Option β}
    {earlier : List α}
    {entry : α}
    (idle : decides entry = none ∨ ∃ other ∈ earlier, (decides other).isSome = true)
    (later : List α) :
    (earlier ++ entry :: later).findSome? decides = (earlier ++ later).findSome? decides := by
  rw [List.findSome?_append, List.findSome?_append, List.findSome?_cons]
  rcases idle with notAtAll | behindOther
  · rw [notAtAll]
  · rw [Option.or_of_isSome (List.findSome?_isSome_iff.mpr behindOther),
      Option.or_of_isSome (List.findSome?_isSome_iff.mpr behindOther)]

/-- An entry that is put into a table, at whatever place, leaves the slug of a text and the rule
that decides about it as they are, unless it is the first to fit the text. -/
theorem derive_of_grown_table
    (synonyms earlier later : Table)
    (entry : String × String)
    (limit : Nat)
    (group : String)
    (text : List Char)
    (idle : ¬Fits synonyms text entry ∨ ∃ other ∈ earlier, Fits synonyms text other) :
    (Generator.ofTables ⟨earlier ++ entry :: later, synonyms⟩ limit).derive group text =
      (Generator.ofTables ⟨earlier ++ later, synonyms⟩ limit).derive group text := by
  apply derive_congr
  apply findSome?_append_cons
  rcases idle with notAtAll | ⟨other, isEarlier, fits⟩
  · exact Or.inl (hit?_eq_none_iff.mpr notAtAll)
  · exact Or.inr ⟨other, isEarlier, isSome_hit?_iff.mpr fits⟩

/-- An entry that leaves a text to later rules keeps the entries behind it from deciding. -/
theorem derive_of_grown_table_for_failure :
    let synonyms : Table := [("pic", "image")]
    let text := "Failed to upload pic".toList
    Fits synonyms text ("Failed!", "failed_after") ∧
      Fits synonyms text ("upload image", "upload_key") ∧
      (Generator.ofTables ⟨[("Failed!", "failed_after"), ("upload image", "upload_key")], synonyms⟩
          64).derive "room" text =
        ⟨"upload_image_failed".toList, .failurePhrase⟩ := by
  intro synonyms text
  have fits {pattern value : String}
      (found : (hit? synonyms text (pattern, value)).isSome = true) :
      Fits synonyms text (pattern, value) :=
    isSome_hit?_iff.mp found
  have ofFailure : Fits synonyms text ("Failed!", "failed_after") := fits (by decide +kernel)
  refine ⟨ofFailure, fits (by decide +kernel), ?_⟩
  have grown := derive_of_grown_table synonyms [("Failed!", "failed_after")] []
    ("upload image", "upload_key") 64 "room" text (Or.inr ⟨_, List.mem_singleton_self _, ofFailure⟩)
  exact grown.trans (by decide +kernel)

end Key
end KeyedText
