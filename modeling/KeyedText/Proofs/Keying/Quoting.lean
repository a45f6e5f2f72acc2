import KeyedText.Key.Place
import KeyedText.Proofs.Source.Scanning

/-!
# Literals of a call

The key and the text of a call are rendered in single quotes.  Whatever stands behind such
a literal, a scan reads back the value that was quoted and leaves what stands behind, and the
literal holds no end of a line.
-/

namespace KeyedText
namespace Keying

open Source

/-! ## Escapes -/

/-- No character of an escape ends a line. -/
theorem isLineTerminator_of_mem_escaped
    {character written : Char}
    (isWritten : written ∈ escaped character) :
    isLineTerminator written = false := by
  have unbroken {text : List Char}
      (checked : text.all (fun character => !isLineTerminator character) = true)
      (isIn : written ∈ text) :
      isLineTerminator written = false := by
    simpa using List.all_eq_true.mp checked written isIn
  unfold escaped at isWritten
  split at isWritten
  -- An escape in letters and marks is a fixed text.
  iterate 7
    · exact unbroken (by decide) isWritten
  · next _ _ notLineFeed notReturn _ notLineSeparator notParagraphSeparator =>
      rw [List.mem_singleton.mp isWritten]
      simp only [isLineTerminator, Bool.or_eq_false_iff, beq_eq_false_iff_ne]
      exact ⟨⟨⟨notLineFeed, notReturn⟩, notLineSeparator⟩, notParagraphSeparator⟩

/-! ## Literals -/

/-- How a literal of a value is written: it is scanned as one string with that value, whatever
stands behind it, and stands on one line. -/
structure WritesString (written : List Char) (value : String) : Prop where
  /-- A scan takes exactly the literal, yields the value and leaves what stands behind. -/
  scans : ∀ position behind,
    scanToken position (written ++ behind) =
      ⟨.string (some value), behind, position + written.length, []⟩
  /-- No character of the literal ends a line. -/
  unbroken : ∀ character ∈ written, isLineTerminator character = false

theorem writesString_quoted (text : List Char) :
    WritesString (quoted text) (String.ofList text) where
  scans position behind := scanToken_quoted position text behind
  unbroken character isWritten := by
    rw [quoted, List.mem_append, List.mem_cons, List.mem_flatMap, List.mem_singleton] at isWritten
    rcases isWritten with (rfl | ⟨quotedCharacter, -, inEscape⟩) | rfl
    · rfl
    · exact isLineTerminator_of_mem_escaped inEscape
    · rfl

/-! ## Calls -/

/-- What a call writes in front of its key. -/
def beforeKey (lookup : String) (kind : SiteKind) : List Char :=
  (if kind.needsBraces then ['\x7b'] else []) ++ lookup.toList ++ ['(']

/-- What a call writes between its key and its text. -/
def betweenLiterals : List Char :=
  ", \x7b defaultValue: ".toList

/-- What a call writes behind its text. -/
def behindText (site : Site) : List Char :=
  site.interpolations.flatMap furtherProperty ++ " \x7d)".toList ++
    if site.kind.needsBraces then ['\x7d'] else []

theorem replacement_eq_literals
    (lookup key : String)
    (site : Site) :
    replacement lookup key site =
      beforeKey lookup site.kind ++ quoted key.toList ++ betweenLiterals ++ quoted site.text ++
        behindText site := by
  have isBetween : betweenLiterals = ", \x7b ".toList ++ "defaultValue: ".toList := by
    decide
  unfold replacement call beforeKey behindText
  rw [isBetween]
  split <;>
    simp only [List.append_assoc, List.nil_append, List.append_nil]

/-- Every quoted text is a literal of that text, and what is put in the place of a site holds
literals of its full key and of its text. -/
theorem replacement_writes_literals :
    (∀ text : List Char, WritesString (quoted text) (String.ofList text)) ∧
    ∀ (lookup : String) (place : Key.Place) (slug : String) (site : Site),
      ∃ keyLiteral textLiteral,
        replacement lookup (place.key slug) site =
          beforeKey lookup site.kind ++ keyLiteral ++ betweenLiterals ++ textLiteral ++
            behindText site ∧
        WritesString keyLiteral (place.key slug) ∧
        WritesString textLiteral (String.ofList site.text) := by
  refine ⟨writesString_quoted, fun lookup place slug site => ?_⟩
  refine ⟨_, _, replacement_eq_literals lookup (place.key slug) site, ?_,
    writesString_quoted site.text⟩
  have ofKey := writesString_quoted (place.key slug).toList
  rwa [String.ofList_toList] at ofKey

end Keying
end KeyedText
