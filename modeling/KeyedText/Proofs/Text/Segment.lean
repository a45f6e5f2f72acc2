import KeyedText.Proofs.Character.Range
import KeyedText.Text.Segment
import Mathlib.Data.List.Basic
import Mathlib.Data.List.Chain

/-!
# Names of segments

The name that stands for a segment of a path has only small letters, digits,
underscores and hyphens.  It is empty only if the segment is: a character that
a name cannot hold leaves an underscore behind, and several underscores in a row
leave one.  A text of that kind is its own name, so a name is a name of itself.
-/

namespace KeyedText
namespace Text

theorem mem_of_mem_squeeze
    {text : List Char}
    {character : Char}
    (member : character ∈ squeeze text) :
    character ∈ text := by
  induction text with
  | nil => exact member
  | cons first rest inductionHypothesis =>
      unfold squeeze at member
      split at member
      · exact List.mem_cons_of_mem _ (inductionHypothesis member)
      · rcases List.mem_cons.mp member with rfl | inRest
        · exact List.mem_cons_self
        · exact List.mem_cons_of_mem _ (inductionHypothesis inRest)

theorem squeeze_eq_nil_iff
    {text : List Char} :
    squeeze text = [] ↔ text = [] := by
  induction text with
  | nil => rfl
  | cons first rest inductionHypothesis =>
      unfold squeeze
      split
      · next repeated =>
          -- an underscore is dropped only in front of another one, so the rest is not empty
          have nonempty : rest ≠ [] := by
            rintro rfl
            simp at repeated
          simp [inductionHypothesis, nonempty]
      · simp

theorem separateCapitals_eq_nil_iff
    {text : List Char} :
    separateCapitals text = [] ↔ text = [] := by
  cases text with
  | nil => rfl
  | cons first rest => simp [separateCapitals]

theorem isSegmentCharacter_of_mem_segmentName
    {segment : List Char}
    {character : Char}
    (member : character ∈ segmentName segment) :
    isSegmentCharacter character = true := by
  obtain ⟨original, -, rfl⟩ := List.mem_map.mp (mem_of_mem_squeeze member)
  split
  · next holds => exact holds
  · rfl

theorem segmentName_eq_nil_iff
    {segment : List Char} :
    segmentName segment = [] ↔ segment = [] := by
  rw [segmentName, squeeze_eq_nil_iff, List.map_eq_nil_iff, separateCapitals_eq_nil_iff]

/-! ## Underscores in a row -/

/-- Of two neighbours at most one is an underscore. -/
def Unrepeated (text : List Char) : Prop :=
  text.IsChain fun before behind => before ≠ '_' ∨ behind ≠ '_'

theorem head?_squeeze
    (text : List Char) :
    (squeeze text).head? = text.head? := by
  induction text with
  | nil => rfl
  | cons first rest inductionHypothesis =>
      unfold squeeze
      split
      · next repeated =>
          rw [Bool.and_eq_true, beq_iff_eq, beq_iff_eq] at repeated
          rw [inductionHypothesis, repeated.2, List.head?_cons, repeated.1]
      · rfl

theorem unrepeated_squeeze
    (text : List Char) :
    Unrepeated (squeeze text) := by
  unfold Unrepeated
  induction text with
  | nil => exact .nil
  | cons first rest inductionHypothesis =>
      unfold squeeze
      split
      · exact inductionHypothesis
      · next kept =>
          rw [Bool.and_eq_true, beq_iff_eq, beq_iff_eq] at kept
          apply inductionHypothesis.cons
          intro second isSecond
          rw [head?_squeeze, Option.mem_def] at isSecond
          by_contra! both
          exact kept ⟨both.1, both.2 ▸ isSecond⟩

theorem squeeze_eq_self
    {text : List Char}
    (unrepeated : Unrepeated text) :
    squeeze text = text := by
  induction text with
  | nil => rfl
  | cons first rest inductionHypothesis =>
      obtain ⟨apart, ofRest⟩ := List.isChain_cons.mp unrepeated
      have kept : ¬(first == '_' && rest.head? == some '_') = true := by
        rw [Bool.and_eq_true, beq_iff_eq, beq_iff_eq]
        rintro ⟨isUnderscore, goesOn⟩
        rcases apart '_' goesOn with differs | differs
        · exact differs isUnderscore
        · exact differs rfl
      rw [squeeze, if_neg kept, inductionHypothesis ofRest]

/-- What is dropped from a text is nothing but underscores. -/
theorem filter_squeeze
    (text : List Char) :
    (squeeze text).filter (· != '_') = text.filter (· != '_') := by
  induction text with
  | nil => rfl
  | cons first rest inductionHypothesis =>
      unfold squeeze
      split
      · next repeated =>
          rw [Bool.and_eq_true, beq_iff_eq] at repeated
          rw [inductionHypothesis, repeated.1, List.filter_cons_of_neg (by decide)]
      · rw [List.filter_cons, List.filter_cons, inductionHypothesis]

/-! ## Characters that stay -/

/-- Whether a character stays in the name of a segment, if in lower case. -/
def staysInName (character : Char) : Bool :=
  Character.isAsciiAlphanumeric character || character == '-'

/-- What a character of a segment leaves in its name, apart from underscores in a row. -/
def nameCharacter (character : Char) : Char :=
  if isSegmentCharacter character then character else '_'

theorem isAsciiUpper_of_isSegmentCharacter
    {character : Char}
    (isCharacter : isSegmentCharacter character = true) :
    Character.isAsciiUpper character = false := by
  rw [Bool.eq_false_iff]
  intro isUpper
  obtain ⟨least, greatest⟩ := Character.isAsciiUpper_iff.mp isUpper
  simp only [isSegmentCharacter, Bool.or_eq_true, Character.isAsciiLower_iff,
    Character.isAsciiDigit_iff, beq_iff_eq] at isCharacter
  rcases isCharacter with ((isLower | isDigit) | rfl) | rfl
  · omega
  · omega
  · exact absurd greatest (by decide)
  · exact absurd least (by decide)

/-- Alone in lower case, a character stays or leaves an underscore. -/
theorem nameCharacter_asciiLower
    (character : Char) :
    [nameCharacter (Character.asciiLower character)].filter (· != '_') =
      ([character].filter staysInName).map Character.asciiLower := by
  cases isUpper : Character.isAsciiUpper character with
  | true =>
      have isLower := Character.isAsciiLower_asciiLower isUpper
      have isCharacter : isSegmentCharacter (Character.asciiLower character) = true := by
        simp [isSegmentCharacter, isLower]
      have stays : staysInName character = true := by
        simp [staysInName, Character.isAsciiAlphanumeric, isUpper]
      have differs : Character.asciiLower character ≠ '_' := by
        intro same
        rw [same] at isLower
        exact absurd isLower (by decide)
      simp [nameCharacter, isCharacter, stays, differs]
  | false =>
      rw [Character.asciiLower_eq_self isUpper]
      by_cases isUnderscore : character = '_'
      · rw [isUnderscore]
        rfl
      · have stays : staysInName character = isSegmentCharacter character := by
          have differs : (character == '_') = false := beq_eq_false_iff_ne.mpr isUnderscore
          simp [staysInName, isSegmentCharacter, Character.isAsciiAlphanumeric, isUpper, differs]
        cases isCharacter : isSegmentCharacter character with
        | true =>
            simp [nameCharacter, isCharacter, stays, isUnderscore,
              Character.asciiLower_eq_self isUpper]
        | false => simp [nameCharacter, isCharacter, stays]

/-- Behind the first one, a capital has an underscore in front, which makes no difference to the
characters that stay. -/
theorem filter_nameCharacter_separated
    (character : Char) :
    ((if Character.isAsciiUpper character then ['_', Character.asciiLower character]
        else [character]).map nameCharacter).filter (· != '_') =
      ([character].filter staysInName).map Character.asciiLower := by
  rw [← nameCharacter_asciiLower]
  cases isUpper : Character.isAsciiUpper character with
  | true => rfl
  | false =>
      rw [if_neg Bool.false_ne_true, Character.asciiLower_eq_self isUpper]
      rfl

/-- Letters, digits and hyphens of a segment stay in its name, in lower case and in order. -/
theorem filter_segmentName
    (segment : List Char) :
    (segmentName segment).filter (· != '_') =
      (segment.filter staysInName).map Character.asciiLower := by
  rw [segmentName, filter_squeeze]
  change ((separateCapitals segment).map nameCharacter).filter (· != '_') = _
  cases segment with
  | nil => rfl
  | cons first rest =>
      have ofRest :
          ((rest.flatMap fun character =>
              if Character.isAsciiUpper character then ['_', Character.asciiLower character]
              else [character]).map nameCharacter).filter (· != '_') =
            (rest.filter staysInName).map Character.asciiLower := by
        induction rest with
        | nil => rfl
        | cons second later inductionHypothesis =>
            rw [List.flatMap_cons, List.map_append, List.filter_append,
              filter_nameCharacter_separated, inductionHypothesis, ← List.map_append,
              ← List.filter_append, List.singleton_append]
      rw [separateCapitals, List.map_cons, ← List.singleton_append, List.filter_append,
        nameCharacter_asciiLower, ofRest, ← List.map_append, ← List.filter_append,
        List.singleton_append]

/-! ## Names of groups -/

/-- What the name of a segment looks like. -/
structure IsSegmentName (name : List Char) : Prop where
  characters : ∀ character ∈ name, isSegmentCharacter character = true
  unrepeated : Unrepeated name

theorem isSegmentName_segmentName
    (segment : List Char) :
    IsSegmentName (segmentName segment) :=
  ⟨fun _ => isSegmentCharacter_of_mem_segmentName, unrepeated_squeeze _⟩

/-- What has no capitals and no other characters stays as it is, also underscores that are not
repeated. -/
theorem segmentName_eq_self
    {name : List Char}
    (isName : IsSegmentName name) :
    segmentName name = name := by
  have separated : separateCapitals name = name := by
    cases name with
    | nil => rfl
    | cons first rest =>
        obtain ⟨ofFirst, ofRest⟩ := List.forall_mem_cons.mp isName.characters
        have alone : (rest.flatMap fun character =>
            if Character.isAsciiUpper character then ['_', Character.asciiLower character]
            else [character]) = rest.flatMap fun character => [character] := by
          apply List.flatMap_congr
          intro character isIn
          rw [isAsciiUpper_of_isSegmentCharacter (ofRest character isIn),
            if_neg Bool.false_ne_true]
        rw [separateCapitals, alone, List.flatMap_singleton',
          Character.asciiLower_eq_self (isAsciiUpper_of_isSegmentCharacter ofFirst)]
  have same : name.map nameCharacter = name := by
    have alike : ∀ character ∈ name, nameCharacter character = character :=
      fun character isIn => if_pos (isName.characters character isIn)
    rw [List.map_congr_left alike, List.map_id']
  unfold segmentName
  rw [separated]
  change squeeze (name.map nameCharacter) = name
  rw [same, squeeze_eq_self isName.unrepeated]

/-- The name of a segment has small letters, digits, hyphens and single underscores, and all
letters, digits and hyphens of the segment; it is empty only for an empty one; and what is of that
kind, and nothing else, is its own name. -/
theorem segmentName_names
    (segment : List Char) :
    IsSegmentName (segmentName segment) ∧
      (segmentName segment).filter (· != '_') =
          (segment.filter staysInName).map Character.asciiLower ∧
        (segmentName segment = [] ↔ segment = []) ∧
          segmentName (segmentName segment) = segmentName segment ∧
            (∀ name, segmentName name = name ↔ IsSegmentName name) ∧
              '.' ∉ segmentName segment ∧ ':' ∉ segmentName segment ∧
                '/' ∉ segmentName segment := by
  have isName := isSegmentName_segmentName segment
  have absent {character : Char} (isNone : isSegmentCharacter character = false) :
      character ∉ segmentName segment := by
    intro member
    rw [isName.characters character member] at isNone
    cases isNone
  refine ⟨isName, filter_segmentName segment, segmentName_eq_nil_iff, segmentName_eq_self isName,
    ?_, absent (by decide), absent (by decide), absent (by decide)⟩
  intro name
  constructor
  · intro same
    rw [← same]
    exact isSegmentName_segmentName name
  · exact segmentName_eq_self

/-- Two words, a dot and a name in brackets become words of small letters. -/
example : segmentName "Room__List.[ID-7]".toList = "room_list_i_d-7_".toList := by decide

end Text
end KeyedText
