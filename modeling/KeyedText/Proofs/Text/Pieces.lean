import KeyedText.Text.Pieces
import Mathlib.Data.List.Basic

/-!
# Pieces of two texts in a row

Two texts in a row have the pieces of the first and then those of the second,
but the last piece of the first and the first of the second are one.  So a piece
of the whole belongs to one of the texts alone, unless its index is the number of
separators in the first.
-/

namespace KeyedText
namespace Text

variable (separator : Char)

theorem pieces_cons_of_ne
    {character : Char}
    (differs : character ≠ separator)
    {text piece : List Char}
    {more : List (List Char)}
    (cut : pieces separator text = piece :: more) :
    pieces separator (character :: text) = (character :: piece) :: more := by
  rw [pieces, if_neg (mt beq_iff_eq.mp differs), cut]

theorem pieces_cons_self
    (text : List Char) :
    pieces separator (separator :: text) = [] :: pieces separator text := by
  rw [pieces, if_pos (beq_self_eq_true separator)]

/-- There is one piece more than separators. -/
theorem length_pieces
    (text : List Char) :
    (pieces separator text).length = text.count separator + 1 := by
  induction text with
  | nil => rfl
  | cons character rest inductionHypothesis =>
      by_cases separates : character = separator
      · subst separates
        rw [pieces_cons_self, List.length_cons, inductionHypothesis, List.count_cons_self]
      · obtain ⟨piece, more, cut⟩ := List.exists_cons_of_ne_nil (pieces_ne_nil separator rest)
        rw [pieces_cons_of_ne separator separates cut, List.count_cons_of_ne separates,
          ← inductionHypothesis, cut]
        rfl

/-- The pieces of two texts in a row. -/
theorem pieces_append
    (front back : List Char) :
    ∃ init last first rest,
      pieces separator front = init ++ [last] ∧
        pieces separator back = first :: rest ∧
          pieces separator (front ++ back) = init ++ (last ++ first) :: rest := by
  obtain ⟨first, rest, ofBack⟩ := List.exists_cons_of_ne_nil (pieces_ne_nil separator back)
  induction front with
  | nil => exact ⟨[], [], first, rest, rfl, ofBack, ofBack⟩
  | cons character front inductionHypothesis =>
      obtain ⟨init, last, first, rest, ofFront, ofBack, ofBoth⟩ := inductionHypothesis
      by_cases separates : character = separator
      · subst separates
        refine ⟨[] :: init, last, first, rest, ?_, ofBack, ?_⟩
        · rw [pieces_cons_self, ofFront, List.cons_append]
        · rw [List.cons_append, pieces_cons_self, ofBoth, List.cons_append]
      · cases init with
        | nil =>
            refine ⟨[], character :: last, first, rest, ?_, ofBack, ?_⟩
            · exact pieces_cons_of_ne separator separates ofFront
            · exact pieces_cons_of_ne separator separates ofBoth
        | cons piece more =>
            refine ⟨(character :: piece) :: more, last, first, rest, ?_, ofBack, ?_⟩
            · exact pieces_cons_of_ne separator separates ofFront
            · exact pieces_cons_of_ne separator separates ofBoth

/-- A separator between two texts separates their pieces. -/
theorem pieces_append_cons
    (front back : List Char) :
    pieces separator (front ++ separator :: back) =
      pieces separator front ++ pieces separator back := by
  obtain ⟨init, last, first, rest, ofFront, ofBack, ofBoth⟩ :=
    pieces_append separator front (separator :: back)
  rw [pieces_cons_self] at ofBack
  obtain ⟨rfl, rfl⟩ := List.cons.inj ofBack
  rw [ofBoth, ofFront, List.append_nil, List.append_assoc, List.singleton_append]

/-- A text without separators is its only piece. -/
theorem pieces_of_not_mem
    {text : List Char}
    (isNone : separator ∉ text) :
    pieces separator text = [text] := by
  induction text with
  | nil => rfl
  | cons character rest inductionHypothesis =>
      rw [List.mem_cons, not_or] at isNone
      exact pieces_cons_of_ne separator (Ne.symm isNone.1) (inductionHypothesis isNone.2)

/-- A piece that the front ends is one of the front. -/
theorem getElem?_pieces_append_left
    {front : List Char}
    (back : List Char)
    {index : Nat}
    (inFront : index < front.count separator) :
    (pieces separator (front ++ back))[index]? = (pieces separator front)[index]? := by
  obtain ⟨init, last, first, rest, ofFront, -, ofBoth⟩ := pieces_append separator front back
  have count := length_pieces separator front
  rw [ofFront, List.length_append, List.length_singleton] at count
  rw [ofFront, ofBoth, List.getElem?_append_left (by omega), List.getElem?_append_left (by omega)]

/-- A piece that starts behind the front is one of what stands there. -/
theorem getElem?_pieces_append_right
    {front : List Char}
    (back : List Char)
    {index : Nat}
    (behind : front.count separator < index) :
    (pieces separator (front ++ back))[index]? =
      (pieces separator back)[index - front.count separator]? := by
  obtain ⟨init, last, first, rest, ofFront, ofBack, ofBoth⟩ := pieces_append separator front back
  have count := length_pieces separator front
  rw [ofFront, List.length_append, List.length_singleton] at count
  obtain ⟨distance, isIndex⟩ : ∃ distance, index = init.length + (distance + 1) :=
    ⟨index - init.length - 1, by omega⟩
  have sameLength : front.count separator = init.length := by omega
  rw [ofBack, ofBoth, sameLength, isIndex, List.getElem?_append_right (by omega),
    Nat.add_sub_cancel_left, List.getElem?_cons_succ, List.getElem?_cons_succ]

end Text
end KeyedText
