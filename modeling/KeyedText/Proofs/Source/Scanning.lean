import KeyedText.Keying.Call
import KeyedText.Proofs.Character.Range
import KeyedText.Source.Scan
import Mathlib.Data.List.Basic

/-!
# Scanning rendered text

What a call is rendered with comes back when it is scanned: a quoted text is
one string with that text as its value, and a name is one word.
-/

namespace KeyedText
namespace Source

open Keying

/-! ## Values of strings -/

theorem isHighSurrogate_toNat (character : Char) :
    isHighSurrogate character.toNat = false := by
  have valid := character.valid
  simp only [isHighSurrogate, Bool.and_eq_false_iff, decide_eq_false_iff_not]
  simp only [UInt32.isValidChar, Nat.isValidChar] at valid
  simp only [Char.toNat]
  omega

theorem isLowSurrogate_toNat (character : Char) :
    isLowSurrogate character.toNat = false := by
  have valid := character.valid
  simp only [isLowSurrogate, Bool.and_eq_false_iff, decide_eq_false_iff_not]
  simp only [UInt32.isValidChar, Nat.isValidChar] at valid
  simp only [Char.toNat]
  omega

/-- The code points of a text are joined to the text itself. -/
theorem joinSurrogates_map_toNat (text : List Char) :
    joinSurrogates (text.map Char.toNat) = some text := by
  induction text with
  | nil => rfl
  | cons character rest inductionHypothesis =>
      cases rest with
      | nil =>
          simp [joinSurrogates, isHighSurrogate_toNat, isLowSurrogate_toNat]
      | cons next others =>
          rw [List.map_cons] at inductionHypothesis
          simp [joinSurrogates, isHighSurrogate_toNat, isLowSurrogate_toNat,
            inductionHypothesis]

theorem textOfCodes_map_toNat (text : List Char) :
    textOfCodes (text.map Char.toNat) = some (String.ofList text) := by
  rw [textOfCodes, joinSurrogates_map_toNat, Option.map_some]

/-! ## Quoted texts -/

/-- A character as it is written between quotes is scanned as that character. -/
theorem scanStringFrom_escaped
    (start : Nat)
    (codes : List Nat)
    (faults : List Fault)
    (position : Nat)
    (character : Char)
    (rest : List Char) :
    scanStringFrom '\'' start 0 codes faults position (escaped character ++ rest) =
      scanStringFrom '\'' start 0 (character.toNat :: codes) faults
        (position + (escaped character).length) rest := by
  unfold escaped
  split
  · rfl
  · rfl
  · rfl
  · rfl
  · rfl
  · rfl
  · rfl
  · next notBackslash notQuote notLineFeed notReturn notTab _ _ =>
      have plain : (character == '\'') = false ∧ (character == '\n') = false ∧
          (character == '\r') = false ∧ (character == '\\') = false :=
        ⟨beq_eq_false_iff_ne.mpr notQuote, beq_eq_false_iff_ne.mpr notLineFeed,
          beq_eq_false_iff_ne.mpr notReturn, beq_eq_false_iff_ne.mpr notBackslash⟩
      simp [scanStringFrom, plain]

/-- A text as it is written between quotes is scanned as that text. -/
theorem scanStringFrom_flatMap_escaped
    (start : Nat)
    (codes : List Nat)
    (faults : List Fault)
    (position : Nat)
    (text rest : List Char) :
    scanStringFrom '\'' start 0 codes faults position (text.flatMap escaped ++ '\'' :: rest) =
      ⟨.string (textOfCodes (codes.reverse ++ text.map Char.toNat)), rest,
        position + (text.flatMap escaped).length + 1, faults⟩ := by
  induction text generalizing codes position with
  | nil =>
      rw [List.map_nil, List.append_nil]
      rfl
  | cons character others inductionHypothesis =>
      rw [List.flatMap_cons, List.append_assoc, scanStringFrom_escaped, inductionHypothesis]
      simp [Nat.add_assoc]

/-- A quoted text is scanned as one string with that text as its value. -/
theorem scanToken_quoted
    (position : Nat)
    (text rest : List Char) :
    scanToken position (quoted text ++ rest) =
      ⟨.string (some (String.ofList text)), rest, position + (quoted text).length, []⟩ := by
  have isString : scanToken position (quoted text ++ rest) =
      scanStringFrom '\'' position 0 [] [] (position + 1)
        (text.flatMap escaped ++ '\'' :: rest) := by
    rw [quoted, List.append_assoc]
    rfl
  rw [isString, scanStringFrom_flatMap_escaped, List.reverse_nil, List.nil_append,
    textOfCodes_map_toNat]
  simp only [quoted, List.cons_append, List.length_cons, List.length_append, List.length_nil]
  congr 1
  omega

/-! ## Marks -/

/-- Whether a text starts with a token or is at its end, without a gap first. -/
def startsToken : List Char → Bool
  | [] => true
  | character :: rest =>
    !(character == '/' && (rest.head? == some '/' || rest.head? == some '*')
      || character == '<' && ['!', '-', '-'].isPrefixOf rest
      || isLineTerminator character || Character.isBlank character || character == '\ufeff')

theorem skipGap_of_startsToken
    (position : Nat)
    {text : List Char}
    (starts : startsToken text = true) :
    skipGap .free false [] position text = ⟨text, position, false, [], none⟩ := by
  cases text with
  | nil => rfl
  | cons character rest =>
      simp only [startsToken, Bool.not_eq_true', Bool.or_eq_false_iff, Bool.and_or_distrib_left]
        at starts
      obtain ⟨⟨⟨⟨⟨notLine, notBlock⟩, notMarkup⟩, notEnd⟩, notBlank⟩, notMark⟩ := starts
      simp [skipGap, notLine, notBlock, notMarkup, notEnd, notBlank, notMark]

theorem skipGap_space
    (position : Nat)
    {text : List Char}
    (starts : startsToken text = true) :
    skipGap .free false [] position (' ' :: text) = ⟨text, position + 1, false, [], none⟩ := by
  rw [← skipGap_of_startsToken (position + 1) starts]
  rfl

/-- The marks that stand around and between the arguments and properties of a
call. -/
def delimiters : List (Char × Mark) :=
  [('(', .openParen), (')', .closeParen), ('\x7b', .openBrace), ('\x7d', .closeBrace),
   (',', .comma), (':', .colon)]

theorem scanToken_delimiter
    {delimiter : Char}
    {mark : Mark}
    (isDelimiter : (delimiter, mark) ∈ delimiters)
    (position : Nat)
    (rest : List Char) :
    scanToken position (delimiter :: rest) = ⟨.mark mark, rest, position + 1, []⟩ := by
  simp only [delimiters, List.mem_cons, Prod.mk.injEq, List.not_mem_nil, or_false] at isDelimiter
  rcases isDelimiter with ⟨rfl, rfl⟩ | ⟨rfl, rfl⟩ | ⟨rfl, rfl⟩ | ⟨rfl, rfl⟩ | ⟨rfl, rfl⟩ |
    ⟨rfl, rfl⟩ <;> rfl

theorem startsToken_delimiter
    {delimiter : Char}
    (mark : Mark)
    (isDelimiter : (delimiter, mark) ∈ delimiters)
    (rest : List Char) :
    startsToken (delimiter :: rest) = true := by
  simp only [delimiters, List.mem_cons, Prod.mk.injEq, List.not_mem_nil, or_false] at isDelimiter
  rcases isDelimiter with ⟨rfl, rfl⟩ | ⟨rfl, rfl⟩ | ⟨rfl, rfl⟩ | ⟨rfl, rfl⟩ | ⟨rfl, rfl⟩ |
    ⟨rfl, rfl⟩ <;> rfl

/-! ## Names -/

/-- Whether a text is the name of a program entity or member, spelled without
escapes. -/
def spellsName (name : List Char) : Bool :=
  name.head?.any Character.startsIdentifier && name.all Character.continuesIdentifier

/-- A name holds no character that continues no name. -/
theorem notMem_of_spellsName
    {name : List Char}
    (named : spellsName name = true)
    {character : Char}
    (ends : Character.continuesIdentifier character = false) :
    character ∉ name := by
  intro isIn
  have continues := List.all_eq_true.mp ((Bool.and_eq_true _ _).mp named).2 _ isIn
  rw [ends] at continues
  cases continues

/-- Ranges that have no code point in common hold no common character. -/
theorem within_of_disjoint
    {left right : Character.Ranges}
    (disjoint : left.all (fun range => right.all fun other =>
      range.2 < other.1 || other.2 < range.1) = true)
    {character : Char}
    (inLeft : Character.within left character = true) :
    Character.within right character = false := by
  rw [Bool.eq_false_iff]
  intro inRight
  obtain ⟨range, inRanges, covers⟩ := List.any_eq_true.mp inLeft
  obtain ⟨other, inOthers, otherCovers⟩ := List.any_eq_true.mp inRight
  have apart := List.all_eq_true.mp (List.all_eq_true.mp disjoint range inRanges) other inOthers
  simp only [Bool.and_eq_true, Bool.or_eq_true, decide_eq_true_eq] at covers otherCovers apart
  omega

/-- A character that starts a name is in no gap. -/
theorem isBlank_of_startsIdentifier
    {character : Char}
    (starts : Character.startsIdentifier character = true) :
    Character.isBlank character = false := by
  unfold Character.startsIdentifier at starts
  split at starts
  · have isLetter :
        Character.within [(0x24, 0x24), (0x41, 0x5a), (0x5f, 0x5f), (0x61, 0x7a)] character =
          true := by
      simp only [Bool.or_eq_true, beq_iff_eq, Character.isAsciiLower_iff,
        Character.isAsciiUpper_iff] at starts
      simp only [Character.within, List.any_cons, List.any_nil, Bool.or_false, Bool.or_eq_true,
        Bool.and_eq_true, decide_eq_true_eq]
      rcases starts with ((lower | upper) | rfl) | rfl
      · exact Or.inr (Or.inr (Or.inr lower))
      · exact Or.inr (Or.inl upper)
      · exact Or.inr (Or.inr (Or.inl ⟨Nat.le_refl _, Nat.le_refl _⟩))
      · exact Or.inl ⟨Nat.le_refl _, Nat.le_refl _⟩
    exact within_of_disjoint (by decide) isLetter
  · exact within_of_disjoint (by decide +kernel) starts

theorem ne_of_startsIdentifier
    {character : Char}
    (starts : Character.startsIdentifier character = true)
    (other : Char)
    (differs : Character.startsIdentifier other = false) :
    (character == other) = false := by
  rw [beq_eq_false_iff_ne]
  rintro rfl
  rw [starts] at differs
  cases differs

/-- A text that starts with a name starts with a token. -/
theorem startsToken_of_startsIdentifier
    {character : Char}
    (starts : Character.startsIdentifier character = true)
    (rest : List Char) :
    startsToken (character :: rest) = true := by
  have notBlank := isBlank_of_startsIdentifier starts
  have notEnd : isLineTerminator character = false := by
    rw [Bool.eq_false_iff]
    intro ends
    simp only [isLineTerminator, Bool.or_eq_true, beq_iff_eq] at ends
    rcases ends with ((rfl | rfl) | rfl) | rfl <;> cases notBlank
  have notSlash := ne_of_startsIdentifier starts '/' (by decide)
  have notLess := ne_of_startsIdentifier starts '<' (by decide)
  have notMark := ne_of_startsIdentifier starts '\ufeff' (by decide +kernel)
  simp [startsToken, notBlank, notEnd, notSlash, notLess, notMark]

/-- Whether a character ends a name that stands in front of it. -/
def endsName (character : Char) : Bool :=
  !Character.continuesIdentifier character && character != '\\'

theorem scanName_of_continues
    {name : List Char}
    (continues : name.all Character.continuesIdentifier = true)
    (taken : List Char)
    (position : Nat)
    {delimiter : Char}
    (ends : endsName delimiter = true)
    (rest : List Char) :
    scanName 0 taken false position (name ++ delimiter :: rest) =
      ⟨taken.reverse ++ name, delimiter :: rest, position + name.length, false, none⟩ := by
  induction name generalizing taken position with
  | nil =>
      simp only [endsName, Bool.and_eq_true, Bool.not_eq_true', bne_iff_ne] at ends
      simp [scanName, ends]
  | cons character others inductionHypothesis =>
      rw [List.all_cons, Bool.and_eq_true] at continues
      have notEscape : (character == '\\') = false := by
        rw [beq_eq_false_iff_ne]
        rintro rfl
        exact absurd continues.1 (by decide)
      rw [List.cons_append, scanName]
      simp only [notEscape, continues.1, if_true, if_false, Bool.false_eq_true]
      rw [inductionHypothesis continues.2]
      simp only [List.reverse_cons, List.append_assoc, List.singleton_append, List.length_cons]
      congr 1
      omega

/-- A name in front of what ends it is scanned as one word. -/
theorem scanToken_name
    {name : List Char}
    (named : spellsName name = true)
    (position : Nat)
    {delimiter : Char}
    (ends : endsName delimiter = true)
    (rest : List Char) :
    scanToken position (name ++ delimiter :: rest) =
      ⟨.word (String.ofList name), delimiter :: rest, position + name.length, []⟩ := by
  obtain ⟨starts, continues⟩ := (Bool.and_eq_true _ _).mp named
  have scanned := scanName_of_continues continues [] position ends rest
  cases name with
  | nil => cases starts
  | cons character others =>
      have startsWord : Character.startsIdentifier character = true := starts
      rw [List.cons_append] at scanned ⊢
      simp [scanToken, startsWord, scanWord, scanned]

theorem startsToken_name
    {name : List Char}
    (named : spellsName name = true)
    (rest : List Char) :
    startsToken (name ++ rest) = true := by
  obtain ⟨starts, -⟩ := (Bool.and_eq_true _ _).mp named
  cases name with
  | nil => cases starts
  | cons character others => exact startsToken_of_startsIdentifier starts (others ++ rest)

end Source
end KeyedText
