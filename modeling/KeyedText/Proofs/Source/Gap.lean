import KeyedText.Proofs.Source.Scanning
import KeyedText.Proofs.Source.Tree

/-!
# Gaps behind marks

Between a mark and the part of a node that it introduces there is only a gap of
white space and comments.  No gap ends with a character of a name, so no name
reaches up to such a part.
-/

namespace KeyedText
namespace Source

/-! ## What gaps end with -/

/-- Whether a character can be the last one of a gap. -/
def endsGap (character : Char) : Bool :=
  isLineTerminator character || Character.isBlank character || character == '\ufeff'
    || character == '/'

theorem continuesIdentifier_eq_false_of_isBlank
    {character : Char}
    (blank : Character.isBlank character = true) :
    Character.continuesIdentifier character = false := by
  unfold Character.isBlank at blank
  rw [Bool.eq_false_iff]
  intro continues
  unfold Character.continuesIdentifier at continues
  split at continues
  · have isPart :
        Character.within
          [(0x24, 0x24), (0x30, 0x39), (0x41, 0x5a), (0x5f, 0x5f), (0x61, 0x7a)] character =
          true := by
      simp only [Character.isAsciiAlphanumeric, Bool.or_eq_true, beq_iff_eq,
        Character.isAsciiDigit_iff, Character.isAsciiLower_iff, Character.isAsciiUpper_iff]
        at continues
      simp only [Character.within, List.any_cons, List.any_nil, Bool.or_false, Bool.or_eq_true,
        Bool.and_eq_true, decide_eq_true_eq]
      rcases continues with (((lower | upper) | digit) | rfl) | rfl
      · exact Or.inr (Or.inr (Or.inr (Or.inr lower)))
      · exact Or.inr (Or.inr (Or.inl upper))
      · exact Or.inr (Or.inl digit)
      · exact Or.inr (Or.inr (Or.inr (Or.inl ⟨Nat.le_refl _, Nat.le_refl _⟩)))
      · exact Or.inl ⟨Nat.le_refl _, Nat.le_refl _⟩
    rw [within_of_disjoint (by decide) isPart] at blank
    cases blank
  · simp only [Bool.or_eq_true, beq_iff_eq] at continues
    rcases continues with (isPart | rfl) | rfl
    · rw [within_of_disjoint (by decide +kernel) isPart] at blank
      cases blank
    · cases blank
    · cases blank

theorem continuesIdentifier_eq_false_of_endsGap
    {character : Char}
    (ends : endsGap character = true) :
    Character.continuesIdentifier character = false := by
  simp only [endsGap, isLineTerminator, Bool.or_eq_true, beq_iff_eq] at ends
  rcases ends with (((((rfl | rfl) | rfl) | rfl) | blank) | rfl) | rfl
  · decide
  · decide
  · decide +kernel
  · decide +kernel
  · exact continuesIdentifier_eq_false_of_isBlank blank
  · decide +kernel
  · decide

/-- Whether a scan is outside comments. -/
def Gap.isFree : Gap → Bool
  | .free => true
  | _ => false

/-- Whether a scan is in front of the slash that closes a comment. -/
def Gap.isClosing : Gap → Bool
  | .blockClose => true
  | _ => false

/-- How the front of a text is skipped: what is skipped ends a gap unless the text does, and if
nothing is skipped no comment was open. -/
def Skips (gap : Gap) (position : Nat) (text : List Char) (reached : GapEnd) : Prop :=
  ∃ skipped,
    text = skipped ++ reached.rest ∧
      reached.stop = position + skipped.length ∧
        (reached.rest ≠ [] →
          (skipped = [] → gap.isFree = true) ∧
            ∀ character ∈ skipped.getLast?, endsGap character = true)

/-- A further character is skipped, with which a gap can end unless it leaves a comment open. -/
theorem Skips.cons
    {gap later : Gap}
    {position : Nat}
    {character : Char}
    {text : List Char}
    {reached : GapEnd}
    (skips : Skips later (position + 1) text reached)
    (ends : endsGap character = true ∨ later.isFree = false) :
    Skips gap position (character :: text) reached := by
  obtain ⟨skipped, rfl, stop, closed⟩ := skips
  refine ⟨character :: skipped, rfl, ?_, fun goesOn => ⟨?_, ?_⟩⟩
  · rw [stop, List.length_cons]
    omega
  · exact fun isEmpty => absurd isEmpty (List.cons_ne_nil _ _)
  · obtain ⟨isFree, isClosed⟩ := closed goesOn
    cases skipped with
    | nil =>
        rintro _ ⟨⟩
        exact ends.resolve_right (Bool.not_eq_false _ ▸ isFree rfl)
    | cons other rest => simpa using isClosed

theorem skips_skipGap
    (gap : Gap)
    (text : List Char)
    (closing : gap.isClosing = true → text.head? = some '/')
    (newline : Bool)
    (faults : List Fault)
    (position : Nat) :
    Skips gap position text (skipGap gap newline faults position text) := by
  induction text generalizing gap newline faults position with
  | nil => exact ⟨[], rfl, rfl, fun goesOn => absurd rfl goesOn⟩
  | cons character rest inductionHypothesis =>
      have goesOn : ∀ later newline faults, later.isClosing = false →
          Skips later (position + 1) rest (skipGap later newline faults (position + 1) rest) :=
        fun later newline faults notClosing => inductionHypothesis later
          (fun isClosing => absurd isClosing (Bool.eq_false_iff.mp notClosing)) newline faults _
      unfold skipGap
      cases gap with
      | line =>
          dsimp only
          split
          · next ends =>
              refine (goesOn .free _ _ rfl).cons (.inl ?_)
              rw [endsGap, ends]
              rfl
          · exact (goesOn .line _ _ rfl).cons (.inr rfl)
      | blockOpen start => exact (goesOn (.block start) _ _ rfl).cons (.inr rfl)
      | block start =>
          dsimp only
          split
          · next closes =>
              rw [Bool.and_eq_true, beq_iff_eq, beq_iff_eq] at closes
              exact (inductionHypothesis .blockClose (fun _ => closes.2) _ _ _).cons (.inr rfl)
          · exact (goesOn (.block start) _ _ rfl).cons (.inr rfl)
      | blockClose =>
          refine (goesOn .free _ _ rfl).cons (.inl ?_)
          cases Option.some.inj (closing rfl)
          decide
      | free =>
          dsimp only
          split_ifs with opensLine opensBlock opensMarkup ends blank
          · exact (goesOn .line _ _ rfl).cons (.inr rfl)
          · exact (goesOn (.blockOpen position) _ _ rfl).cons (.inr rfl)
          · exact (goesOn .line _ _ rfl).cons (.inr rfl)
          · refine (goesOn .free _ _ rfl).cons (.inl ?_)
            rw [endsGap, ends]
            rfl
          · refine (goesOn .free _ _ rfl).cons (.inl ?_)
            rw [endsGap, Bool.or_assoc (isLineTerminator character), blank, Bool.or_true]
            rfl
          · exact ⟨[], rfl, rfl, fun _ => ⟨fun _ => rfl, by simp⟩⟩

/-! ## Names in front -/

/-- Whether a text ends with a character of a name. -/
def endsWithName (text : List Char) : Bool :=
  text.getLast?.any Character.continuesIdentifier

/-- Whether a mark stands in front of a position of a text, with only a gap in between. -/
def standsBehind (text : List Char) (mark : Char) (position : Nat) : Bool :=
  (List.range position).any fun start =>
    text[start]? == some mark
      && (let reached := skipGap .free false [] (start + 1) (text.drop (start + 1))
          reached.stop == position && !reached.rest.isEmpty)

/-- No name reaches up to what stands behind a mark. -/
theorem endsWithName_take_of_standsBehind
    {text : List Char}
    {mark : Char}
    {position : Nat}
    (stands : standsBehind text mark position = true)
    (isMark : Character.continuesIdentifier mark = false) :
    endsWithName (text.take position) = false := by
  obtain ⟨start, -, found⟩ := List.any_eq_true.mp stands
  simp only [Bool.and_eq_true, beq_iff_eq, Bool.not_eq_true', List.isEmpty_eq_false_iff] at found
  obtain ⟨isThere, isStop, goesOn⟩ := found
  obtain ⟨skipped, split, stop, closed⟩ := skips_skipGap .free (text.drop (start + 1))
    (fun isClosing => absurd isClosing Bool.false_ne_true) false [] (start + 1)
  obtain ⟨-, isClosed⟩ := closed goesOn
  have inText : start < text.length := (List.getElem?_eq_some_iff.mp isThere).1
  have isFront : text.take position = text.take (start + 1) ++ skipped := by
    have whole : text = (text.take (start + 1) ++ skipped) ++
        (skipGap .free false [] (start + 1) (text.drop (start + 1))).rest := by
      rw [List.append_assoc, ← split, List.take_append_drop]
    conv_lhs => rw [whole]
    refine List.take_left' ?_
    rw [List.length_append, List.length_take, Nat.min_eq_left inText, ← stop, isStop]
  rw [isFront, endsWithName, List.getLast?_append]
  cases isLast : skipped.getLast? with
  | none =>
      rw [Option.none_or, List.take_add_one, isThere, Option.toList_some, List.getLast?_concat]
      exact isMark
  | some character => exact continuesIdentifier_eq_false_of_endsGap (isClosed character isLast)

/-! ## Trees with their marks -/

/-- The mark behind which a form has a part, given by its index. -/
def Form.markBefore? : Form → Nat → Option Char
  | .container, _ => some '\x7b'
  | .parentheses, _ => some '('
  | .conditional, 1 => some '?'
  | .conditional, _ + 2 => some ':'
  | .property _, 1 => some ':'
  | _, _ => none

/-- Whether a text has the marks of a node in front of its parts, as the grammar has them. -/
def introduces (text : List Char) (node : Node) : Bool :=
  node.parts.zipIdx.all fun (part, index) =>
    (node.form.markBefore? index).all fun mark => standsBehind text mark part.span.start

end Source
end KeyedText
