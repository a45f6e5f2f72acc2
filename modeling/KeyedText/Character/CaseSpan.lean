import KeyedText.Character.Range

/-!
# Runs of case mappings

Case mappings are stored as runs of code points with a common shift.
-/

namespace KeyedText
namespace Character

/-- A run of code points that one case mapping shifts by the same distance: every `step`-th code
point from `first` to `last`. -/
structure CaseSpan where
  /-- The first code point of the run. -/
  first : Nat
  /-- The last code point of the run. -/
  last : Nat
  /-- The distance between neighbours in the run. -/
  step : Nat
  /-- The distance from a code point to its image. -/
  shift : Int

/-- Whether a code point belongs to the run. -/
def CaseSpan.contains (span : CaseSpan) (code : Nat) : Bool :=
  span.first ≤ code && code ≤ span.last && (code - span.first) % span.step == 0

/-- Maps a character through the first run that contains it, and keeps it if there is none. -/
def shiftCase (spans : List CaseSpan) (character : Char) : Char :=
  match spans.find? (fun span => span.contains character.toNat) with
  | some span => Char.ofNat (character.toNat + span.shift).toNat
  | none => character

end Character
end KeyedText
