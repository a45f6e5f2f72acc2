/-!
# Pieces of a text

A separator cuts a text into pieces, of which there is one more than separators; pieces may be
empty.  Joining the pieces by the separator gives the text back.
-/

namespace KeyedText
namespace Text

/-- The pieces into which a separator cuts a text. -/
def pieces (separator : Char) : List Char → List (List Char)
  | [] => [[]]
  | character :: rest =>
    if character == separator then [] :: pieces separator rest
    else
      match pieces separator rest with
      | [] => [[character]]
      | piece :: more => (character :: piece) :: more

/-- The pieces that separators end, and what stands behind the last one unless that is empty. -/
def endedPieces (separator : Char) (text : List Char) : List (List Char) :=
  let all := pieces separator text
  if all.getLast? == some [] then all.dropLast else all

theorem pieces_ne_nil (separator : Char) (text : List Char) : pieces separator text ≠ [] := by
  cases text with
  | nil => simp [pieces]
  | cons character rest =>
    simp only [pieces]
    split
    · simp
    · split <;> simp

/-- Nothing is lost: the pieces joined by the separator are the text. -/
theorem intercalate_pieces (separator : Char) (text : List Char) :
    [separator].intercalate (pieces separator text) = text := by
  induction text with
  | nil => rfl
  | cons character rest ih =>
    have nonempty := pieces_ne_nil separator rest
    simp only [pieces]
    cases cut : pieces separator rest with
    | nil => exact absurd cut nonempty
    | cons piece more =>
      rw [cut] at ih
      split
      · rename_i same
        simp only [beq_iff_eq] at same
        rw [List.intercalate_cons_cons, ih, same]
        rfl
      · cases more with
        | nil => simpa using ih
        | cons next others =>
          rw [List.intercalate_cons_cons] at ih
          simpa [List.intercalate_cons_cons] using ih

end Text
end KeyedText
