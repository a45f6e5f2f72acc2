/-!
# Searching a text

A search finds the first place at which a text holds another one, and cuts the text there.
-/

namespace KeyedText
namespace Text

/-- What stands before and behind the first occurrence of a text in another one. -/
def cut? (wanted : List Char) : List Char → Option (List Char × List Char)
  | [] => if wanted.isEmpty then some ([], []) else none
  | character :: rest =>
    if wanted.isPrefixOf (character :: rest) then
      some ([], (character :: rest).drop wanted.length)
    else (cut? wanted rest).map fun (before, behind) => (character :: before, behind)

/-- Whether a text occurs in another one. -/
def occurs (wanted text : List Char) : Bool :=
  (cut? wanted text).isSome

/-- What stands behind the first occurrence of a text in another one. -/
def behind? (wanted text : List Char) : Option (List Char) :=
  (cut? wanted text).map (·.2)

/-- What stands behind the first occurrence of any of several texts. -/
def behindAny? (wanted : List (List Char)) : List Char → Option (List Char)
  | [] => none
  | character :: rest =>
    match wanted.find? fun text => text.isPrefixOf (character :: rest) with
    | some found => some ((character :: rest).drop found.length)
    | none => behindAny? wanted rest

/-- A text is put together again from what a search cuts it into. -/
theorem eq_of_cut? {wanted text before behind : List Char}
    (found : cut? wanted text = some (before, behind)) : text = before ++ wanted ++ behind := by
  induction text generalizing before with
  | nil =>
    simp only [cut?] at found
    split at found
    · rename_i empty
      obtain ⟨rfl, rfl⟩ := by simpa using found
      simpa using empty
    · exact absurd found (by simp)
  | cons character rest ih =>
    simp only [cut?] at found
    split at found
    · rename_i starts
      obtain ⟨rest', same⟩ := List.isPrefixOf_iff_prefix.1 starts
      obtain ⟨rfl, rfl⟩ := by simpa using found
      simp [← same]
    · obtain ⟨⟨inner, after⟩, cut, same⟩ := Option.map_eq_some_iff.1 found
      obtain ⟨rfl, rfl⟩ := by simpa using same
      simp [ih cut]

end Text
end KeyedText
