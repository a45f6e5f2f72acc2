import KeyedText.Proofs.Text.Pieces
import KeyedText.Proofs.Text.Spacing

/-!
# Words between separators

The words of a text are its pieces but the empty ones.  A text without separators is a word wherever
it stands with a separator, or an end of the text, on both sides; with a separator or the end behind
it alone, it ends a word.
-/

namespace KeyedText
namespace Text

variable
    {separator : Char}
    {text : List Char}

/-- A text without separators, or such a text in front of a separator and the rest. -/
theorem pieces_induction
    (separator : Char)
    {motive : List Char → Prop}
    (last : ∀ piece, separator ∉ piece → motive piece)
    (earlier : ∀ piece, separator ∉ piece →
      ∀ rest, motive rest → motive (piece ++ separator :: rest))
    (text : List Char) :
    motive text := by
  have without {piece : List Char}
      (unbroken : ∀ character ∈ piece, (character == separator) = false) :
      separator ∉ piece :=
    fun member => absurd (unbroken _ member) (by simp)
  induction text using splitOnP_induction (· == separator) with
  | line piece unbroken => exact last piece (without unbroken)
  | feed piece unbroken feed isEnd rest inductionHypothesis =>
      obtain rfl := beq_iff_eq.mp isEnd
      exact earlier piece (without unbroken) rest inductionHypothesis

/-- The runs of a text are its pieces but the empty ones. -/
theorem runs_eq_filter_pieces
    (separator : Char)
    (text : List Char) :
    runs (· == separator) text = (pieces separator text).filter fun piece => !piece.isEmpty := by
  have ofPiece {piece : List Char} (isPiece : separator ∉ piece) :
      runs (· == separator) piece = [piece].filter fun piece => !piece.isEmpty := by
    cases piece with
    | nil => rfl
    | cons first others =>
        refine runs_of_keeps (List.cons_ne_nil _ _) fun character member => ?_
        exact beq_eq_false_iff_ne.mpr fun same => isPiece (same ▸ member)
  induction text using pieces_induction separator with
  | last piece isPiece => rw [ofPiece isPiece, pieces_of_not_mem separator isPiece]
  | earlier piece isPiece rest inductionHypothesis =>
      have ofRow : runs (· == separator) (piece ++ separator :: rest) =
          runs (· == separator) piece ++ runs (· == separator) rest :=
        runs_append_cons (by simp) piece rest
      rw [ofRow, ofPiece isPiece, inductionHypothesis, pieces_append_cons,
        pieces_of_not_mem separator isPiece, List.filter_append]

theorem mem_runs_iff_mem_pieces
    {word : List Char} :
    word ∈ runs (· == separator) text ↔ word ∈ pieces separator text ∧ word ≠ [] := by
  rw [runs_eq_filter_pieces, List.mem_filter]
  simp

/-- Texts without separators are the pieces of their row. -/
theorem pieces_joinedBy
    {words : List (List Char)}
    (nonempty : words ≠ [])
    (areWords : ∀ word ∈ words, separator ∉ word) :
    pieces separator (joinedBy separator words) = words := by
  unfold joinedBy
  induction words with
  | nil => exact absurd rfl nonempty
  | cons first others inductionHypothesis =>
      obtain ⟨ofFirst, ofOthers⟩ := List.forall_mem_cons.mp areWords
      cases others with
      | nil => simpa using pieces_of_not_mem separator ofFirst
      | cons second later =>
          rw [List.intercalate_cons_cons, List.append_assoc, List.singleton_append,
            pieces_append_cons, pieces_of_not_mem separator ofFirst,
            inductionHypothesis (List.cons_ne_nil _ _) ofOthers, List.singleton_append]

/-! ## Places of words -/

/-- A piece stands with a separator, or an end of the text, on both sides. -/
theorem exists_of_mem_pieces
    {piece : List Char}
    (member : piece ∈ pieces separator text) :
    ∃ front back,
      text = front ++ piece ++ back ∧
        (∀ last ∈ front.getLast?, last = separator) ∧
          ∀ first ∈ back.head?, first = separator := by
  induction text using pieces_induction separator with
  | last whole isPiece =>
      rw [pieces_of_not_mem separator isPiece, List.mem_singleton] at member
      exact ⟨[], [], by simp [member], nofun, nofun⟩
  | earlier first isPiece rest inductionHypothesis =>
      rw [pieces_append_cons, pieces_of_not_mem separator isPiece, List.singleton_append,
        List.mem_cons] at member
      rcases member with rfl | later
      · exact ⟨[], separator :: rest, by simp, nofun, by simp⟩
      · obtain ⟨front, back, rfl, inFront, behind⟩ := inductionHypothesis later
        refine ⟨first ++ separator :: front, back, by simp, ?_, behind⟩
        intro last isLast
        rw [List.getLast?_append_cons, List.getLast?_cons] at isLast
        cases ofFront : front.getLast? with
        | none => simpa [ofFront] using isLast.symm
        | some other => exact inFront last (by simpa [ofFront] using isLast)

section Places

variable
    {word : List Char}
    (isPiece : separator ∉ word)

include isPiece

/-- A text in front of a separator or the end ends a piece, which starts where the last piece of
what stands in front does. -/
theorem exists_mem_pieces_append
    (front : List Char)
    {back : List Char}
    (behind : ∀ first ∈ back.head?, first = separator) :
    ∃ last,
      (pieces separator front).getLast? = some last ∧
        last ++ word ∈ pieces separator (front ++ word ++ back) := by
  have ofBack : ∃ others, pieces separator (word ++ back) = word :: others := by
    cases back with
    | nil => exact ⟨[], by rw [List.append_nil, pieces_of_not_mem separator isPiece]⟩
    | cons first rest =>
        obtain rfl : first = separator := behind first rfl
        exact ⟨_, by rw [pieces_append_cons, pieces_of_not_mem first isPiece]; rfl⟩
  obtain ⟨others, ofBack⟩ := ofBack
  obtain ⟨init, last, first, rest, ofFront, again, ofBoth⟩ :=
    pieces_append separator front (word ++ back)
  obtain ⟨rfl, rfl⟩ := List.cons.inj (ofBack.symm.trans again)
  refine ⟨last, by rw [ofFront, List.getLast?_concat], ?_⟩
  rw [List.append_assoc, ofBoth]
  simp

/-- Where a text without separators is a word. -/
theorem mem_runs_iff
    (nonempty : word ≠ []) :
    word ∈ runs (· == separator) text ↔
      ∃ front back,
        text = front ++ word ++ back ∧
          (∀ last ∈ front.getLast?, last = separator) ∧
            ∀ first ∈ back.head?, first = separator := by
  rw [mem_runs_iff_mem_pieces]
  constructor
  · exact fun member => exists_of_mem_pieces member.1
  · rintro ⟨front, back, rfl, inFront, behind⟩
    refine ⟨?_, nonempty⟩
    obtain ⟨last, isLast, member⟩ := exists_mem_pieces_append isPiece front behind
    rcases List.eq_nil_or_concat' front with rfl | ⟨others, final, rfl⟩
    · obtain rfl : [] = last := by simpa [pieces] using isLast
      exact member
    · obtain rfl : final = separator := inFront final (by simp)
      rw [pieces_append_cons] at isLast
      obtain rfl : [] = last := by simpa [pieces] using isLast
      exact member

/-- Where a text without separators ends a word. -/
theorem exists_suffix_mem_runs_iff
    (nonempty : word ≠ []) :
    (∃ whole ∈ runs (· == separator) text, word <:+ whole) ↔
      ∃ front back,
        text = front ++ word ++ back ∧ ∀ first ∈ back.head?, first = separator := by
  constructor
  · rintro ⟨whole, isRun, inFront, rfl⟩
    obtain ⟨front, back, rfl, -, behind⟩ :=
      exists_of_mem_pieces (mem_runs_iff_mem_pieces.mp isRun).1
    exact ⟨front ++ inFront, back, by simp, behind⟩
  · rintro ⟨front, back, rfl, behind⟩
    obtain ⟨last, -, member⟩ := exists_mem_pieces_append isPiece front behind
    exact ⟨last ++ word, mem_runs_iff_mem_pieces.mpr ⟨member, by simp [nonempty]⟩,
      List.suffix_append _ _⟩

end Places

end Text
end KeyedText
