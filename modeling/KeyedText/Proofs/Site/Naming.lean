import KeyedText.Proofs.Source.Scanning
import KeyedText.Site.Collect
import Mathlib.Data.List.Nodup
import Mathlib.Data.List.Range

/-!
# Names of interpolations

The expressions of a template get names that differ from each other and from the
option that holds the text, and each of them is spelled like a name.
-/

namespace KeyedText
namespace Site

open Source

/-! ## Numbered names -/

theorem numbered_injective :
    Function.Injective fun index : Nat => "value" ++ toString index := by
  intro left right same
  have spelled := congrArg String.toList same
  simp only [String.toList_append, Nat.toString_eq_repr, Nat.toList_repr] at spelled
  have digits := List.append_cancel_left spelled
  rw [← Nat.ofDigitChars_ten_toDigits (n := left), digits, Nat.ofDigitChars_ten_toDigits]

theorem continuesIdentifier_of_isDigit
    {character : Char}
    (isDigit : character.isDigit = true) :
    Character.continuesIdentifier character = true := by
  simp only [Char.isDigit, Bool.and_eq_true, decide_eq_true_eq] at isDigit
  obtain ⟨atLeast, atMost⟩ := isDigit
  have isAscii : Character.isAscii character = true := by
    rw [Character.isAscii, decide_eq_true_eq]
    exact Nat.lt_of_le_of_lt (UInt32.le_iff_toNat_le.mp atMost) (by decide)
  have isAsciiDigit : Character.isAsciiDigit character = true := by
    rw [Character.isAsciiDigit, Bool.and_eq_true, decide_eq_true_eq, decide_eq_true_eq]
    exact ⟨atLeast, atMost⟩
  rw [Character.continuesIdentifier, if_pos isAscii, Character.isAsciiAlphanumeric,
    isAsciiDigit, Bool.or_true, Bool.true_or, Bool.true_or]

theorem spellsName_numbered (index : Nat) :
    spellsName ("value" ++ toString index).toList = true := by
  have digits : (toString index).toList.all Character.continuesIdentifier = true := by
    rw [List.all_eq_true]
    intro character isIn
    rw [Nat.toString_eq_repr, Nat.toList_repr] at isIn
    exact continuesIdentifier_of_isDigit
      (Nat.isDigit_of_mem_toDigits (by decide) (by decide) isIn)
  rw [String.toList_append, spellsName, List.all_append, digits, Bool.and_true]
  have startsName : Character.startsIdentifier 'v' = true := by decide
  have continuesName : "value".toList.all Character.continuesIdentifier = true := by decide
  rw [continuesName, Bool.and_true]
  exact startsName

theorem numbered_ne_textOption (index : Nat) :
    "value" ++ toString index ≠ textOption := by
  intro same
  have spelled := congrArg (fun name => name.toList.head?) same
  rw [String.toList_append] at spelled
  have differs : some 'v' ≠ textOption.toList.head? := by decide
  exact differs spelled

/-! ## The names of a template -/

theorem length_templateNames (expressions : List Node) :
    (templateNames expressions).2.length = expressions.length := by
  rcases expressions with _ | ⟨only, _ | ⟨next, others⟩⟩
  · rfl
  · cases suggested : suggestedName? only <;> simp [templateNames, suggested]
  · simp [templateNames]

/-- The names of a template are one name that its expression suggests, or numbered
ones. -/
theorem templateNames_cases (expressions : List Node) :
    (∃ only name, expressions = [only] ∧ suggestedName? only = some name ∧
      (templateNames expressions).2 = [if name == textOption then "value" else name]) ∨
    (templateNames expressions).2 =
      (List.range expressions.length).map fun index => "value" ++ toString index := by
  rcases expressions with _ | ⟨only, _ | ⟨next, others⟩⟩
  · exact Or.inr rfl
  · cases suggested : suggestedName? only with
    | none => exact Or.inr (by simp [templateNames, suggested])
    | some name => exact Or.inl ⟨only, name, rfl, suggested, by simp [templateNames, suggested]⟩
  · exact Or.inr rfl

theorem nodup_templateNames (expressions : List Node) :
    (templateNames expressions).2.Nodup := by
  rcases templateNames_cases expressions with ⟨only, name, -, -, names⟩ | names
  · rw [names]
    exact List.nodup_singleton _
  · rw [names]
    exact List.nodup_range.map numbered_injective

theorem textOption_notMem_templateNames (expressions : List Node) :
    textOption ∉ (templateNames expressions).2 := by
  intro isName
  rcases templateNames_cases expressions with ⟨only, name, -, -, names⟩ | names
  · rw [names, List.mem_singleton] at isName
    split at isName
    · exact absurd isName (by decide)
    · next differs => exact differs (beq_iff_eq.mpr isName.symm)
  · rw [names] at isName
    obtain ⟨index, -, same⟩ := List.mem_map.mp isName
    exact numbered_ne_textOption index same

/-- Every name is spelled like one if those that the expressions suggest are. -/
theorem spellsName_of_mem_templateNames
    {expressions : List Node}
    (suggested : ∀ expression ∈ expressions, ∀ name,
      suggestedName? expression = some name → spellsName name.toList = true)
    {name : String}
    (isName : name ∈ (templateNames expressions).2) :
    spellsName name.toList = true := by
  rcases templateNames_cases expressions with ⟨only, given, are, suggests, names⟩ | names
  · rw [names, List.mem_singleton] at isName
    subst are isName
    split
    · decide
    · exact suggested only List.mem_cons_self given suggests
  · rw [names] at isName
    obtain ⟨index, -, rfl⟩ := List.mem_map.mp isName
    exact spellsName_numbered index

/-- The names of interpolated expressions follow from the names that these
suggest. -/
theorem templateNames_congr
    {left right : List Node}
    (same : left.map suggestedName? = right.map suggestedName?) :
    templateNames left = templateNames right := by
  have sameLength : left.length = right.length := by
    simpa using congrArg List.length same
  match left, right with
  | [], [] => rfl
  | [_], [_] =>
      simp only [List.map_cons, List.map_nil, List.cons.injEq, and_true] at same
      simp [templateNames, same]
  | _ :: _ :: _, _ :: _ :: _ => simp [templateNames, sameLength]

/-! ## The site of a template -/

/-- What the site of a template holds of its expressions. -/
theorem interpolations_of_template
    {source : List Char}
    {situation : Situation}
    {chunks : List (Option String)}
    {span : Span}
    {expressions : List Node}
    {site : Site}
    (found : own? source situation (.template chunks) span expressions = some site) :
    site.kind = (templateNames expressions).1 ∧
      site.interpolations =
        ((templateNames expressions).2.zip expressions).map fun (name, expression) =>
          ⟨name, expression.span.slice source⟩ := by
  cases suppressed : situation.suppressed with
  | true => simp [own?, suppressed] at found
  | false =>
      simp only [own?, suppressed, Bool.false_eq_true, if_false, template?] at found
      split at found
      · cases found
        exact ⟨rfl, rfl⟩
      · cases found

theorem needsBraces_templateNames (expressions : List Node) :
    (templateNames expressions).1.needsBraces = false := by
  rcases expressions with _ | ⟨only, _ | ⟨next, others⟩⟩
  · rfl
  · cases suggested : suggestedName? only <;> simp [templateNames, suggested] <;> rfl
  · rfl

theorem category_templateNames (expressions : List Node) :
    (templateNames expressions).1.category = .templates := by
  rcases expressions with _ | ⟨only, _ | ⟨next, others⟩⟩
  · rfl
  · cases suggested : suggestedName? only <;> simp [templateNames, suggested] <;> rfl
  · rfl

end Site
end KeyedText
