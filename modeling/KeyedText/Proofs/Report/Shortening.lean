import KeyedText.Report.Survey
import Mathlib.Algebra.BigOperators.Group.Finset.Basic
import Mathlib.Algebra.GroupWithZero.Nat

/-!
# Shortened texts

A front of a text is at least as wide as every front of itself, so the fronts that fit a limit are
those of the longest one that does.  A text that is wider than the limit is shortened to that front,
and an ellipsis stands behind it.  The front goes on as long as characters without a width follow,
since these fit wherever what is in front of them does.  A text that is too wide can stay as it is
nevertheless, if all that is cut off is an ellipsis.
-/

namespace KeyedText
namespace Report

/-- The number of columns that a text takes. -/
def columns (width : Char → Nat) (text : List Char) : Nat :=
  (text.map width).sum

/-- The longest front of a text that fits a limit: each front that fits is one of it. -/
structure LongestFitting
    (width : Char → Nat)
    (limit : Nat)
    (text front : List Char) : Prop where
  /-- It is a front of the text. -/
  isPrefix : front <+: text
  /-- It fits the limit. -/
  fits : columns width front ≤ limit
  /-- No other front that fits goes on behind it. -/
  longest : ∀ other, other <+: text → columns width other ≤ limit → other <+: front

section Columns

variable
    {width : Char → Nat}
    {limit : Nat}
    {text : List Char}

@[simp] theorem columns_nil : columns width [] = 0 := rfl

@[simp] theorem columns_cons
    (first : Char)
    (rest : List Char) :
    columns width (first :: rest) = width first + columns width rest := by
  rw [columns, List.map_cons, List.sum_cons, columns]

@[simp] theorem columns_append
    (front back : List Char) :
    columns width (front ++ back) = columns width front + columns width back := by
  rw [columns, List.map_append, List.sum_append, columns, columns]

theorem columns_le_of_prefix
    {front : List Char}
    (isPrefix : front <+: text) :
    columns width front ≤ columns width text := by
  obtain ⟨back, rfl⟩ := isPrefix
  rw [columns_append]
  exact Nat.le_add_right _ _

/-! ## The longest front that fits -/

/-- A front is the longest one that fits if the character behind it does not fit any more. -/
theorem longestFitting_of_wide
    {front behind : List Char}
    {next : Char}
    (fits : columns width front ≤ limit)
    (wide : limit < columns width front + width next) :
    LongestFitting width limit (front ++ next :: behind) front := by
  refine ⟨List.prefix_append _ _, fits, fun other isPrefix otherFits => ?_⟩
  rcases Nat.lt_or_ge front.length other.length with longer | notLonger
  · have isFront : front ++ [next] <+: front ++ next :: behind := ⟨behind, by simp⟩
    have goesOn : front ++ [next] <+: other := by
      apply List.prefix_of_prefix_length_le isFront isPrefix
      rwa [List.length_append, List.length_singleton]
    have wider : columns width (front ++ [next]) ≤ columns width other :=
      columns_le_of_prefix goesOn
    simp only [columns_append, columns_cons, columns_nil] at wider
    omega
  · exact List.prefix_of_prefix_length_le isPrefix (List.prefix_append _ _) notLonger

theorem LongestFitting.unique
    {front other : List Char}
    (isLongest : LongestFitting width limit text front)
    (isLongestToo : LongestFitting width limit text other) :
    front = other := by
  have shorter := isLongestToo.longest front isLongest.isPrefix isLongest.fits
  have longer := isLongest.longest other isLongestToo.isPrefix isLongestToo.fits
  exact shorter.eq_of_length_le longer.length_le

end Columns

/-! ## Shortening -/

section Shortened

variable
    (width : Char → Nat)
    (limit : Nat)

/-- What fits behind the columns that are taken already stays. -/
theorem shortenedFrom_of_fits
    {taken : Nat}
    {text : List Char}
    (fits : taken + columns width text ≤ limit) :
    shortenedFrom width limit taken text = text := by
  induction text generalizing taken with
  | nil => rfl
  | cons first rest inductionHypothesis =>
      rw [columns_cons, ← Nat.add_assoc] at fits
      have firstFits : ¬limit < taken + width first :=
        Nat.not_lt.mpr (Nat.le_trans (Nat.le_add_right _ _) fits)
      rw [shortenedFrom, if_neg firstFits, inductionHypothesis fits]

/-- What does not fit behind the columns that are taken already is cut in front of the first
character that does not fit. -/
theorem shortenedFrom_of_wide
    {taken : Nat}
    {text : List Char}
    (inside : taken ≤ limit)
    (wide : limit < taken + columns width text) :
    ∃ front next behind,
      text = front ++ next :: behind ∧
        taken + columns width front ≤ limit ∧
          limit < taken + columns width front + width next ∧
            shortenedFrom width limit taken text = front ++ ['…'] := by
  induction text generalizing taken with
  | nil => exact absurd wide (Nat.not_lt.mpr inside)
  | cons first rest inductionHypothesis =>
      rw [shortenedFrom]
      by_cases firstWide : limit < taken + width first
      · rw [if_pos firstWide]
        exact ⟨[], first, rest, rfl, inside, firstWide, rfl⟩
      · rw [columns_cons, ← Nat.add_assoc] at wide
        obtain ⟨front, next, behind, rfl, fits, nextWide, isShortened⟩ :=
          inductionHypothesis (Nat.not_lt.mp firstWide) wide
        rw [if_neg firstWide, isShortened]
        refine ⟨first :: front, next, behind, rfl, ?_, ?_, rfl⟩
        · rwa [columns_cons, ← Nat.add_assoc]
        · rwa [columns_cons, ← Nat.add_assoc]

variable {text : List Char}

theorem shortened_of_fits
    (fits : columns width text ≤ limit) :
    shortened width limit text = text := by
  apply shortenedFrom_of_fits
  rwa [Nat.zero_add]

/-- A text that does not fit is shortened to the longest front that does, and what follows the front
has a width. -/
theorem shortened_of_wide
    (wide : limit < columns width text) :
    ∃ front next behind,
      LongestFitting width limit text front ∧
        text = front ++ next :: behind ∧
          0 < width next ∧
            shortened width limit text = front ++ ['…'] := by
  rw [← Nat.zero_add (columns width text)] at wide
  obtain ⟨front, next, behind, rfl, fits, nextWide, isShortened⟩ :=
    shortenedFrom_of_wide width limit (Nat.zero_le limit) wide
  rw [Nat.zero_add] at fits nextWide
  have takesColumns : 0 < width next := by omega
  exact ⟨front, next, behind, longestFitting_of_wide fits nextWide, rfl, takesColumns, isShortened⟩

/-- A text that is shortened stays exactly if it fits, or if nothing but an ellipsis stands behind
the longest front that does. -/
theorem shortened_eq_self_iff :
    shortened width limit text = text ↔
      columns width text ≤ limit ∨
        ∃ front, LongestFitting width limit text front ∧ text = front ++ ['…'] := by
  rcases Nat.lt_or_ge limit (columns width text) with wide | fits
  · obtain ⟨front, next, behind, isLongest, -, -, isShortened⟩ :=
      shortened_of_wide width limit wide
    rw [isShortened, or_iff_right (Nat.not_le_of_lt wide)]
    constructor
    · intro same
      exact ⟨front, isLongest, same.symm⟩
    · rintro ⟨other, isLongestToo, isEnded⟩
      rw [isLongest.unique isLongestToo, ← isEnded]
  · exact iff_of_true (shortened_of_fits width limit fits) (Or.inl fits)

/-- A text that fits stays.  One that is wider is shortened to the longest front that fits with an
ellipsis behind it, and what follows the front has a width.  So a text stays exactly if it fits, or
if nothing but an ellipsis stands behind the longest front that does. -/
theorem shortened_cuts
    (text : List Char) :
    (columns width text ≤ limit → shortened width limit text = text) ∧
      (limit < columns width text →
        ∃ front next behind,
          LongestFitting width limit text front ∧
            text = front ++ next :: behind ∧
              0 < width next ∧
                shortened width limit text = front ++ ['…']) ∧
        (shortened width limit text = text ↔
          columns width text ≤ limit ∨
            ∃ front, LongestFitting width limit text front ∧ text = front ++ ['…']) :=
  ⟨shortened_of_fits width limit, shortened_of_wide width limit, shortened_eq_self_iff width limit⟩

end Shortened

/-- A text of four letters and an accent, all letters but one of which take two columns. -/
def accentedText : List Char :=
  "日本e\u0301語".toList

/-- In five columns the accent stays with its letter; with the two columns behind it the text
fits. -/
theorem shortened_cuts_for_accentedText :
    columns Character.width accentedText ≤ 7 ∧
      shortened Character.width 7 accentedText = accentedText ∧
        5 < columns Character.width accentedText ∧
          LongestFitting Character.width 5 accentedText "日本e\u0301".toList ∧
            shortened Character.width 5 accentedText = "日本e\u0301…".toList := by
  have fits : columns Character.width accentedText ≤ 7 := by decide +kernel
  have wide : 5 < columns Character.width accentedText := by decide +kernel
  have isShortened : shortened Character.width 5 accentedText = "日本e\u0301…".toList := by
    decide +kernel
  obtain ⟨front, -, -, isLongest, -, -, isCut⟩ :=
    (shortened_cuts Character.width 5 accentedText).2.1 wide
  have isFront : front = "日本e\u0301".toList :=
    List.append_cancel_right (isCut.symm.trans isShortened)
  rw [isFront] at isLongest
  exact ⟨fits, (shortened_cuts Character.width 7 accentedText).1 fits, wide, isLongest,
    isShortened⟩

/-- A text as wide as a ranking has room for, and an ellipsis behind it. -/
def endedText : List Char :=
  List.replicate rankedWidth 'a' ++ ['…']

/-- The text is too wide and stays nevertheless: its own ellipsis is replaced by one. -/
theorem shortened_endedText :
    rankedWidth < columns Character.width endedText ∧
      shortened Character.width rankedWidth endedText = endedText ∧
        ¬∀ (width : Char → Nat) (limit : Nat) (text : List Char),
          shortened width limit text = text ↔ columns width text ≤ limit := by
  have wide : rankedWidth < columns Character.width endedText := by decide +kernel
  have stays : shortened Character.width rankedWidth endedText = endedText := by decide +kernel
  refine ⟨wide, stays, fun onlyIfFits => ?_⟩
  exact Nat.not_le_of_lt wide ((onlyIfFits _ _ _).mp stays)

end Report
end KeyedText
