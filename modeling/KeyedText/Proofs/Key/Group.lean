import KeyedText.Proofs.Key.Derivation

/-!
# Derivations for two groups

The group of a key is read by one rule alone: the slug of a pattern about a
permission leaves out the words that the group names.  Such a slug never is
empty, so whether a text has a key, and which rule gives it, is the same for
all groups.
-/

namespace KeyedText
namespace Key

/-- Related options are both empty, or hold related values. -/
theorem none_or_some_of_rel
    {related : α → β → Prop}
    {first : Option α}
    {second : Option β}
    (rel : Option.Rel related first second) :
    (first = none ∧ second = none) ∨
      ∃ ofFirst ofSecond,
        first = some ofFirst ∧ second = some ofSecond ∧ related ofFirst ofSecond := by
  cases rel with
  | none => exact Or.inl ⟨rfl, rfl⟩
  | some holds => exact Or.inr ⟨_, _, rfl, rfl, holds⟩

/-- What the derivations of one text for two groups have in common. -/
structure Derivation.Alike (first second : Derivation) : Prop where
  rule : first.rule = second.rule
  isEmpty : first.slug.isEmpty = second.slug.isEmpty
  slug : first.rule ≠ .pattern → first.slug = second.slug

theorem Derivation.Alike.refl
    (derivation : Derivation) :
    derivation.Alike derivation :=
  ⟨rfl, rfl, fun _ => rfl⟩

/-- Two raw slugs with letters or digits are cut to nothing only if no slug has a character. -/
theorem isEmpty_slugOf_of_any
    (limit : Nat)
    {first second : List Char}
    (ofFirst : first.any Character.isAsciiAlphanumeric = true)
    (ofSecond : second.any Character.isAsciiAlphanumeric = true) :
    (slugOf limit first).isEmpty = (slugOf limit second).isEmpty := by
  rcases Nat.eq_zero_or_pos limit with rfl | positive
  · rfl
  · rw [Bool.eq_iff_iff, List.isEmpty_iff, List.isEmpty_iff, slugOf_eq_nil_iff positive,
      slugOf_eq_nil_iff positive, ofFirst, ofSecond]

section Groups

variable
    (generator : Generator)
    (first second : String)
    (text : List Char)

/-- Only the rule for patterns reads the group. -/
theorem derive?_subject_eq
    {rule : SlugRule}
    (notPattern : rule ≠ .pattern) :
    rule.derive? generator (generator.subject first text) =
      rule.derive? generator (generator.subject second text) := by
  cases rule with
  | pattern => exact absurd rfl notPattern
  | _ => rfl

/-- The rule for patterns reads the group where the slug is about a permission. -/
theorem patternSlug?_subject_rel :
    Option.Rel
      (fun ofFirst ofSecond =>
        ofFirst = ofSecond ∨
          (ofFirst.any Character.isAsciiAlphanumeric = true ∧
            ofSecond.any Character.isAsciiAlphanumeric = true))
      (patternSlug? generator (generator.subject first text))
      (patternSlug? generator (generator.subject second text)) := by
  unfold patternSlug?
  dsimp only [Generator.subject]
  split
  · exact .none
  · split
    · exact .none
    · split
      · exact .some (.inr ⟨any_permissionSlug .., any_permissionSlug ..⟩)
      · exact .some (.inl rfl)

theorem derive?_subject_rel
    (rule : SlugRule) :
    Option.Rel Derivation.Alike
      ((rule.derive? generator (generator.subject first text)).map fun raw =>
        ⟨slugOf generator.limit raw, rule⟩)
      ((rule.derive? generator (generator.subject second text)).map fun raw =>
        ⟨slugOf generator.limit raw, rule⟩) := by
  by_cases isPattern : rule = .pattern
  · subst isPattern
    unfold SlugRule.derive?
    rcases none_or_some_of_rel (patternSlug?_subject_rel generator first second text) with
      ⟨ofFirst, ofSecond⟩ | ⟨firstRaw, secondRaw, ofFirst, ofSecond, related⟩
    · rw [ofFirst, ofSecond]
      exact .none
    · rw [ofFirst, ofSecond]
      refine .some ⟨rfl, ?_, fun notPattern => absurd rfl notPattern⟩
      rcases related with rfl | ⟨firstLetter, secondLetter⟩
      · rfl
      · exact isEmpty_slugOf_of_any generator.limit firstLetter secondLetter
  · rw [derive?_subject_eq generator first second text isPattern]
    cases rule.derive? generator (generator.subject second text) with
    | none => exact .none
    | some raw => exact .some (.refl _)

/-- The first derivations that two chains give are related if their rules are, one by one. -/
theorem findSome?_rel
    {ofFirst ofSecond : SlugRule → Option Derivation}
    {related : Derivation → Derivation → Prop}
    (oneByOne : ∀ rule, Option.Rel related (ofFirst rule) (ofSecond rule))
    (rules : List SlugRule) :
    Option.Rel related (rules.findSome? ofFirst) (rules.findSome? ofSecond) := by
  induction rules with
  | nil => exact .none
  | cons rule rest inductionHypothesis =>
      rw [List.findSome?_cons, List.findSome?_cons]
      rcases none_or_some_of_rel (oneByOne rule) with
        ⟨noFirst, noSecond⟩ | ⟨first, second, isFirst, isSecond, holds⟩
      · rw [noFirst, noSecond]
        exact inductionHypothesis
      · rw [isFirst, isSecond]
        exact .some holds

/-- The derivations of a text for two groups. -/
theorem derive_alike :
    (generator.derive first text).Alike (generator.derive second text) := by
  have related := findSome?_rel (derive?_subject_rel generator first second text) SlugRule.chain
  rw [findSome?_chain, findSome?_chain] at related
  cases related with
  | some alike => exact alike

end Groups

end Key
end KeyedText
