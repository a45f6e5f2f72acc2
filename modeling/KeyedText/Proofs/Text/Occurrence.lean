import KeyedText.Text.Search
import Mathlib.Data.List.Infix

/-!
# First occurrences

A search for one of several texts cuts a text behind the leftmost place at which one of them stands.
If none of them starts another one, at most one stands there, so the place tells what is behind.
-/

namespace KeyedText
namespace Text

/-- Whether one of several texts stands between the front and the back of a text, and none of them
any further to the front. -/
structure StandsFirst (wanted : List (List Char)) (text front behind : List Char) : Prop where
  /-- One of the texts stands there. -/
  stands : ∃ found ∈ wanted, text = front ++ found ++ behind
  /-- None of them stands at an earlier place. -/
  first : ∀ place < front.length, ∀ other ∈ wanted, ¬other <+: text.drop place

theorem find?_isPrefixOf_eq_none_iff
    {wanted : List (List Char)}
    {text : List Char} :
    (wanted.find? fun other => other.isPrefixOf text) = none ↔
      ∀ other ∈ wanted, ¬other <+: text := by
  simp [List.find?_eq_none, List.isPrefixOf_iff_prefix]

theorem mem_and_prefix_of_find?
    {wanted : List (List Char)}
    {text other : List Char}
    (found : (wanted.find? fun other => other.isPrefixOf text) = some other) :
    other ∈ wanted ∧ other <+: text := by
  have starts : other.isPrefixOf text = true := by simpa using List.find?_some found
  exact ⟨List.mem_of_find?_eq_some found, List.isPrefixOf_iff_prefix.mp starts⟩

namespace StandsFirst

variable
    {wanted : List (List Char)}
    {text behind : List Char}

/-- Where one of the texts starts a text, the first place is the start. -/
theorem nil_iff :
    StandsFirst wanted text [] behind ↔ ∃ found ∈ wanted, text = found ++ behind :=
  ⟨fun standsFirst => standsFirst.stands, fun stands => ⟨stands, nofun⟩⟩

/-- Any other first place is one of the text behind the first character. -/
theorem cons_iff
    {character first : Char}
    {front : List Char} :
    StandsFirst wanted (character :: text) (first :: front) behind ↔
      first = character ∧ (∀ other ∈ wanted, ¬other <+: character :: text) ∧
        StandsFirst wanted text front behind := by
  constructor
  · rintro ⟨⟨found, isWanted, split⟩, isFirst⟩
    obtain ⟨rfl, rfl⟩ := List.cons.inj split
    refine ⟨rfl, isFirst 0 (Nat.succ_pos _), ⟨found, isWanted, rfl⟩, ?_⟩
    exact fun place earlier => isFirst (place + 1) (Nat.succ_lt_succ earlier)
  · rintro ⟨rfl, notHere, ⟨found, isWanted, rfl⟩, isFirst⟩
    refine ⟨⟨found, isWanted, rfl⟩, ?_⟩
    rintro (_ | place) earlier
    · exact notHere
    · exact isFirst place (Nat.lt_of_succ_lt_succ earlier)

/-- Where none of the texts starts a text, the first place is one behind the first character. -/
theorem exists_cons_iff
    {character : Char}
    (notHere : ∀ other ∈ wanted, ¬other <+: character :: text) :
    (∃ front, StandsFirst wanted (character :: text) front behind) ↔
      ∃ front, StandsFirst wanted text front behind := by
  constructor
  · rintro ⟨_ | ⟨first, front⟩, standsFirst⟩
    · obtain ⟨other, isWanted, split⟩ := nil_iff.mp standsFirst
      exact absurd ⟨behind, split.symm⟩ (notHere other isWanted)
    · exact ⟨front, (cons_iff.mp standsFirst).2.2⟩
  · rintro ⟨front, standsFirst⟩
    exact ⟨character :: front, cons_iff.mpr ⟨rfl, notHere, standsFirst⟩⟩

/-- Where one of the texts starts a text and none of them starts another one, what is behind the
first place is the rest. -/
theorem exists_iff_of_prefix
    (alone : ∀ one ∈ wanted, ∀ other ∈ wanted, one <+: other → one = other)
    {found : List Char}
    (isWanted : found ∈ wanted)
    (starts : found <+: text) :
    (∃ front, StandsFirst wanted text front behind) ↔ text.drop found.length = behind := by
  constructor
  · rintro ⟨_ | ⟨first, front⟩, standsFirst⟩
    · obtain ⟨other, isOther, rfl⟩ := nil_iff.mp standsFirst
      have same : other = found := by
        rcases List.prefix_or_prefix_of_prefix (List.prefix_append other behind) starts with
          inFound | inOther
        · exact alone other isOther found isWanted inFound
        · exact (alone found isWanted other isOther inOther).symm
      rw [same, List.drop_left]
    · exact absurd starts (standsFirst.first 0 (Nat.succ_pos _) found isWanted)
  · rintro rfl
    exact ⟨[], nil_iff.mpr ⟨found, isWanted, List.prefix_iff_eq_append.mp starts |>.symm⟩⟩

end StandsFirst

section Search

variable
    {wanted : List (List Char)}
    (nonempty : [] ∉ wanted)

include nonempty

/-- Nothing is found exactly if none of the texts is part of the text. -/
theorem behindAny?_eq_none_iff
    {text : List Char} :
    behindAny? wanted text = none ↔ ∀ other ∈ wanted, ¬other <:+: text := by
  induction text with
  | nil =>
      simp only [behindAny?, List.infix_nil, true_iff]
      rintro other isWanted rfl
      exact nonempty isWanted
  | cons character rest inductionHypothesis =>
      rw [behindAny?]
      cases found : wanted.find? fun other => other.isPrefixOf (character :: rest) with
      | none =>
          rw [find?_isPrefixOf_eq_none_iff] at found
          dsimp only
          rw [inductionHypothesis]
          refine forall₂_congr fun other isWanted => ?_
          rw [List.infix_cons_iff]
          simp [found other isWanted]
      | some other =>
          obtain ⟨isWanted, starts⟩ := mem_and_prefix_of_find? found
          simp only [reduceCtorEq, false_iff, not_forall, not_not]
          exact ⟨other, isWanted, starts.isInfix⟩

/-- A search gives what stands behind the first occurrence of any of the texts. -/
theorem behindAny?_eq_some_iff
    (alone : ∀ one ∈ wanted, ∀ other ∈ wanted, one <+: other → one = other)
    {text behind : List Char} :
    behindAny? wanted text = some behind ↔ ∃ front, StandsFirst wanted text front behind := by
  induction text with
  | nil =>
      simp only [behindAny?, reduceCtorEq, false_iff, not_exists]
      rintro front ⟨⟨found, isWanted, split⟩, -⟩
      obtain ⟨-, rfl⟩ := List.append_eq_nil_iff.mp (List.append_eq_nil_iff.mp split.symm).1
      exact nonempty isWanted
  | cons character rest inductionHypothesis =>
      rw [behindAny?]
      cases found : wanted.find? fun other => other.isPrefixOf (character :: rest) with
      | none =>
          rw [StandsFirst.exists_cons_iff (find?_isPrefixOf_eq_none_iff.mp found)]
          exact inductionHypothesis
      | some other =>
          obtain ⟨isWanted, starts⟩ := mem_and_prefix_of_find? found
          rw [StandsFirst.exists_iff_of_prefix alone isWanted starts]
          exact Option.some_inj

end Search

/-- A search for one text is a search for any of one. -/
theorem behind?_eq_behindAny?
    {wanted : List Char}
    (nonempty : wanted ≠ [])
    (text : List Char) :
    behind? wanted text = behindAny? [wanted] text := by
  unfold behind?
  induction text with
  | nil => rw [cut?, if_neg (mt List.isEmpty_iff.mp nonempty)]; rfl
  | cons character rest inductionHypothesis =>
      rw [cut?, behindAny?]
      cases starts : wanted.isPrefixOf (character :: rest) with
      | true => simp [starts]
      | false =>
          simp [starts, ← inductionHypothesis, Function.comp_def]

theorem behind?_eq_none_iff
    {wanted text : List Char}
    (nonempty : wanted ≠ []) :
    behind? wanted text = none ↔ ¬wanted <:+: text := by
  rw [behind?_eq_behindAny? nonempty, behindAny?_eq_none_iff (by simpa using nonempty.symm),
    List.forall_mem_singleton]

theorem behind?_eq_some_iff
    {wanted text behind : List Char}
    (nonempty : wanted ≠ []) :
    behind? wanted text = some behind ↔ ∃ front, StandsFirst [wanted] text front behind := by
  rw [behind?_eq_behindAny? nonempty]
  exact behindAny?_eq_some_iff (by simpa using nonempty.symm) (by simp)

end Text
end KeyedText
