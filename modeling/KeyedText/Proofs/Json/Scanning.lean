import KeyedText.Json.Scan
import Mathlib.Data.List.Basic

/-!
# Scanning numbers

The digits of a whole number are scanned as that number, whatever stands behind.
Where a number does not matter, its text is passed over all the same.
-/

namespace KeyedText
namespace Json

/-! ## Texts of numbers -/

/-- A text behind which a run of digits ends. -/
def EndsDigits (rest : List Char) : Prop :=
  ∀ character ∈ rest.head?, isDigit character = false

/-- A text behind which a number ends. -/
def EndsNumber (rest : List Char) : Prop :=
  ∀ character ∈ rest.head?,
    isDigit character = false ∧ character ≠ '.' ∧ character ≠ 'e' ∧ character ≠ 'E'

theorem EndsNumber.endsDigits
    {rest : List Char}
    (ends : EndsNumber rest) :
    EndsDigits rest :=
  fun character isHead => (ends character isHead).1

/-- A run of digits. -/
structure IsRun (digits : List Char) : Prop where
  /-- There are some. -/
  nonempty : digits ≠ []
  /-- There is nothing else. -/
  areDigits : ∀ character ∈ digits, isDigit character = true

section Run

variable
    {digits rest : List Char}

/-- A run of digits is taken whole. -/
theorem IsRun.takeWhile_append
    (isRun : IsRun digits)
    (ends : EndsDigits rest) :
    (digits ++ rest).takeWhile isDigit = digits := by
  rw [List.takeWhile_append_of_pos isRun.areDigits]
  cases rest with
  | nil => rw [List.takeWhile_nil, List.append_nil]
  | cons character others =>
      rw [List.takeWhile_cons_of_neg, List.append_nil]
      rw [ends character rfl]
      exact Bool.false_ne_true

theorem IsRun.isEmpty_eq_false
    (isRun : IsRun digits) :
    digits.isEmpty = false := by
  rw [List.isEmpty_eq_false_iff]
  exact isRun.nonempty

/-- A run of digits starts with a digit. -/
theorem IsRun.head?_ne
    (isRun : IsRun digits)
    {character : Char}
    (isOther : isDigit character = false)
    (rest : List Char) :
    (digits ++ rest).head? ≠ some character := by
  cases digits with
  | nil => exact absurd rfl isRun.nonempty
  | cons digit others =>
      intro same
      have isDigit := isRun.areDigits digit List.mem_cons_self
      rw [Option.some.inj same, isOther] at isDigit
      cases isDigit

end Run

/-- The digits of a whole number: a zero stands alone. -/
structure IsWhole (digits : List Char) : Prop extends IsRun digits where
  /-- No zero stands in front of other digits. -/
  unpadded : digits.head? = some '0' → digits.length = 1

/-- A whole number has no zero in front. -/
theorem IsWhole.notPadded
    {digits : List Char}
    (isWhole : IsWhole digits) :
    (digits.head? == some '0' && decide (1 < digits.length)) = false := by
  rw [Bool.and_eq_false_iff, beq_eq_false_iff_ne, decide_eq_false_iff_not]
  by_cases isZero : digits.head? = some '0'
  · exact .inr (by rw [isWhole.unpadded isZero]; decide)
  · exact .inl isZero

/-- Nothing, or a point and digits. -/
inductive IsFraction : List Char → Prop where
  | nothing : IsFraction []
  | point
      {digits : List Char}
      (isRun : IsRun digits) :
      IsFraction ('.' :: digits)

/-- Nothing, or the letter of an exponent, at most one sign and digits. -/
inductive IsExponent : List Char → Prop where
  | nothing : IsExponent []
  | letter
      {letter : Char}
      {sign digits : List Char}
      (isLetter : letter = 'e' ∨ letter = 'E')
      (isSign : sign = [] ∨ sign = ['+'] ∨ sign = ['-'])
      (isRun : IsRun digits) :
      IsExponent (letter :: (sign ++ digits))

/-- The text of a number. -/
inductive IsNumber : List Char → Prop where
  | parts
      {sign whole fraction exponent : List Char}
      (isSign : sign = [] ∨ sign = ['-'])
      (isWhole : IsWhole whole)
      (isFraction : IsFraction fraction)
      (isExponent : IsExponent exponent) :
      IsNumber (sign ++ (whole ++ (fraction ++ exponent)))

/-- The digits of an exponent are passed over with its sign. -/
theorem IsRun.scanIgnoredExponent
    {digits rest : List Char}
    (isRun : IsRun digits)
    (ends : EndsDigits rest)
    {sign : List Char}
    (isSign : sign = [] ∨ sign = ['+'] ∨ sign = ['-'])
    (letter : Char)
    (length : Nat) :
    scanIgnoredExponent length (letter :: (sign ++ (digits ++ rest))) =
      .done () (length + (sign.length + digits.length + 1)) := by
  have isRunAhead := isRun.takeWhile_append ends
  have isSome := isRun.isEmpty_eq_false
  have noSign : ((digits ++ rest).head? == some '+') = false ∧
      ((digits ++ rest).head? == some '-') = false :=
    ⟨beq_eq_false_iff_ne.mpr (isRun.head?_ne (by decide) rest),
      beq_eq_false_iff_ne.mpr (isRun.head?_ne (by decide) rest)⟩
  generalize digits ++ rest = text at *
  rcases isSign with rfl | rfl | rfl
  · simp [Json.scanIgnoredExponent, noSign, isRunAhead, isSome]
    omega
  · simp [Json.scanIgnoredExponent, isRunAhead, isSome]
    omega
  · simp [Json.scanIgnoredExponent, isRunAhead, isSome]
    omega

theorem atExponent_eq_false
    {rest : List Char}
    (ends : EndsNumber rest) :
    atExponent rest = false := by
  rw [atExponent, Bool.or_eq_false_iff, beq_eq_false_iff_ne, beq_eq_false_iff_ne]
  exact ⟨fun isHead => (ends _ isHead).2.2.1 rfl, fun isHead => (ends _ isHead).2.2.2 rfl⟩

theorem atExponent_cons
    {letter : Char}
    (isLetter : letter = 'e' ∨ letter = 'E')
    (rest : List Char) :
    atExponent (letter :: rest) = true := by
  rcases isLetter with rfl | rfl <;> rfl

theorem IsExponent.endsDigits_append
    {exponent rest : List Char}
    (isExponent : IsExponent exponent)
    (ends : EndsNumber rest) :
    EndsDigits (exponent ++ rest) := by
  cases isExponent with
  | nothing => exact ends.endsDigits
  | letter isLetter isSign isRun =>
      rintro character ⟨⟩
      rcases isLetter with rfl | rfl <;> decide

/-- What a scan does behind the whole digits of a number whose value does not matter. -/
def ignoredBehind (length : Nat) (rest : List Char) : Scan Unit :=
  if atExponent rest then scanIgnoredExponent length rest else .done () length

/-- An exponent is passed over. -/
theorem IsExponent.ignoredBehind_append
    {exponent rest : List Char}
    (isExponent : IsExponent exponent)
    (ends : EndsNumber rest)
    (length : Nat) :
    ignoredBehind length (exponent ++ rest) = .done () (length + exponent.length) := by
  unfold ignoredBehind
  cases isExponent with
  | nothing =>
      rw [List.nil_append, if_neg (by rw [atExponent_eq_false ends]; exact Bool.false_ne_true)]
      rfl
  | @letter letter sign digits isLetter isSign isRun =>
      rw [List.cons_append, List.append_assoc, if_pos (atExponent_cons isLetter _),
        isRun.scanIgnoredExponent ends.endsDigits isSign, List.length_cons, List.length_append]

/-- A scan of a number whose value does not matter, behind its sign. -/
def scanIgnoredUnsigned (signLength : Nat) (whole : List Char) : Scan Unit :=
  let run := whole.takeWhile isDigit
  let rest := whole.drop run.length
  let length := signLength + run.length
  if run.isEmpty then .broken .badNumber (signLength + min 1 whole.length)
  else if run.head? == some '0' && 1 < run.length then .broken .badNumber (signLength + 2)
  else if rest.head? == some '.' then
    let fraction := rest.tail.takeWhile isDigit
    if fraction.isEmpty then .broken .badNumber (length + 1 + fraction.length + 1)
    else ignoredBehind (length + 1 + fraction.length) (rest.tail.drop fraction.length)
  else ignoredBehind length rest

theorem scanIgnoredNumber_eq
    (text : List Char) :
    scanIgnoredNumber text =
      if text.head? == some '-' then scanIgnoredUnsigned 1 text.tail
      else scanIgnoredUnsigned 0 text := by
  unfold scanIgnoredNumber
  split
  · next isNegative =>
      rw [isNegative]
      rfl
  · next isPositive =>
      rw [eq_false_of_ne_true isPositive]
      rfl

/-- A number is passed over with its fraction and exponent. -/
theorem IsWhole.scanIgnoredUnsigned_append
    {whole fraction exponent rest : List Char}
    (isWhole : IsWhole whole)
    (isFraction : IsFraction fraction)
    (isExponent : IsExponent exponent)
    (ends : EndsNumber rest)
    (signLength : Nat) :
    scanIgnoredUnsigned signLength (whole ++ (fraction ++ (exponent ++ rest))) =
      .done () (signLength + (whole.length + (fraction.length + exponent.length))) := by
  have endsRun := isExponent.endsDigits_append ends
  have isSome := isWhole.isEmpty_eq_false
  have unpadded := isWhole.notPadded
  cases isFraction with
  | nothing =>
      have noPoint : ((exponent ++ rest).head? == some '.') = false := by
        cases isExponent with
        | nothing => exact beq_eq_false_iff_ne.mpr fun isHead => (ends _ isHead).2.1 rfl
        | letter isLetter _ _ => rcases isLetter with rfl | rfl <;> rfl
      have isRunAhead := isWhole.takeWhile_append endsRun
      have later := isExponent.ignoredBehind_append ends (signLength + whole.length)
      simp only [scanIgnoredUnsigned, List.nil_append, isRunAhead, isSome, unpadded,
        List.drop_left, noPoint, Bool.false_eq_true, if_false, later, List.length_nil]
      congr 1
      omega
  | @point digits isRun =>
      have isRunAhead : (whole ++ '.' :: (digits ++ (exponent ++ rest))).takeWhile isDigit =
          whole :=
        isWhole.takeWhile_append (by rintro character ⟨⟩; decide)
      have isFractionAhead := isRun.takeWhile_append endsRun
      have later := isExponent.ignoredBehind_append ends
        (signLength + whole.length + 1 + digits.length)
      simp only [List.cons_append, scanIgnoredUnsigned, isRunAhead, isSome, unpadded,
        List.drop_left, List.head?_cons, List.tail_cons, beq_self_eq_true, isFractionAhead,
        isRun.isEmpty_eq_false, Bool.false_eq_true, if_false, if_true, later, List.length_cons]
      congr 1
      omega

/-- A number whose value does not matter is passed over. -/
theorem IsNumber.scanIgnoredNumber_append
    {text rest : List Char}
    (isNumber : IsNumber text)
    (ends : EndsNumber rest) :
    scanIgnoredNumber (text ++ rest) = .done () text.length := by
  obtain ⟨isSign, isWhole, isFraction, isExponent⟩ := isNumber
  rename_i sign whole fraction exponent
  have scans := isWhole.scanIgnoredUnsigned_append isFraction isExponent ends
  rw [scanIgnoredNumber_eq, List.append_assoc, List.append_assoc, List.append_assoc]
  rcases isSign with rfl | rfl
  · have noSign : ((whole ++ (fraction ++ (exponent ++ rest))).head? == some '-') = false :=
      beq_eq_false_iff_ne.mpr (isWhole.head?_ne (by decide) _)
    rw [List.nil_append, if_neg (by rw [noSign]; exact Bool.false_ne_true), scans]
    simp
  · rw [List.singleton_append, if_pos (by rfl), List.tail_cons, scans]
    simp [Nat.add_comm 1]

/-! ## Whole numbers -/

theorem isDigit_eq
    (character : Char) :
    isDigit character = character.isDigit := by
  simp only [isDigit, Char.isDigit, Char.le_def]

theorem eq_zero_of_head?_toDigits
    {value : Nat}
    (isZero : (Nat.toDigits 10 value).head? = some '0') :
    value = 0 := by
  induction value using Nat.strongRecOn with
  | ind value inductionHypothesis =>
      by_cases isSmall : value < 10
      · rw [Nat.toDigits_of_lt_base isSmall] at isZero
        have single : ∀ digit < 10, digit.digitChar = '0' → digit = 0 := by decide
        exact single value isSmall (Option.some.inj isZero)
      · rw [Nat.toDigits_of_base_le (by decide) (by omega),
          List.head?_append_of_ne_nil _ Nat.toDigits_ne_nil] at isZero
        have isNone := inductionHypothesis (value / 10) (by omega) isZero
        omega

/-- The digits of a number are a whole number. -/
theorem isWhole_toDigits
    (value : Nat) :
    IsWhole (Nat.toDigits 10 value) where
  nonempty := Nat.toDigits_ne_nil
  areDigits character isIn := by
    rw [isDigit_eq]
    exact Nat.isDigit_of_mem_toDigits (by decide) (by decide) isIn
  unpadded isZero := by
    rw [eq_zero_of_head?_toDigits isZero]
    rfl

theorem le_ofDigitChars
    (digits : List Char)
    (value : Nat) :
    value ≤ Nat.ofDigitChars 10 digits value := by
  induction digits generalizing value with
  | nil => exact Nat.le_refl value
  | cons digit rest inductionHypothesis =>
      rw [Nat.ofDigitChars_cons]
      have grows := inductionHypothesis (10 * value + (digit.toNat - '0'.toNat))
      omega

/-- Digits are read to their end as long as the number is kept exactly. -/
theorem readDigits_eq
    {digits : List Char}
    {value : Nat}
    (isKept : Nat.ofDigitChars 10 digits value ≤ largestNatural) :
    readDigits value digits = (Nat.ofDigitChars 10 digits value, digits.length) := by
  induction digits generalizing value with
  | nil => rfl
  | cons digit rest inductionHypothesis =>
      rw [Nat.ofDigitChars_cons] at isKept ⊢
      have isNext : 10 * value + digitValue digit ≤ largestNatural :=
        Nat.le_trans (le_ofDigitChars rest _) isKept
      rw [readDigits]
      dsimp only
      rw [if_neg (Nat.not_lt.mpr isNext), digitValue, inductionHypothesis isKept,
        List.length_cons]

/-- The digits of a whole number that is kept exactly are scanned as that number. -/
theorem scanNumber_toDigits
    {value : Nat}
    (isKept : value ≤ largestNatural)
    {rest : List Char}
    (ends : EndsNumber rest) :
    scanNumber (Nat.toDigits 10 value ++ rest) =
      .done (.natural value) (Nat.toDigits 10 value).length := by
  have isWhole := isWhole_toDigits value
  have isRunAhead := isWhole.takeWhile_append ends.endsDigits
  have areRead : readDigits 0 (Nat.toDigits 10 value) =
      (value, (Nat.toDigits 10 value).length) := by
    have isValue : Nat.ofDigitChars 10 (Nat.toDigits 10 value) 0 = value :=
      Nat.ofDigitChars_ten_toDigits
    rw [readDigits_eq (by rwa [isValue]), isValue]
  have noSign : ((Nat.toDigits 10 value ++ rest).head? == some '-') = false :=
    beq_eq_false_iff_ne.mpr (isWhole.head?_ne (by decide) rest)
  have noPoint : (rest.head? == some '.') = false :=
    beq_eq_false_iff_ne.mpr fun isHead => (ends _ isHead).2.1 rfl
  have unpadded := isWhole.notPadded
  simp only [scanNumber, noSign, scanUnsigned, isRunAhead, areRead, isWhole.isEmpty_eq_false,
    unpadded, List.drop_left, noPoint, atExponent_eq_false ends, Bool.false_eq_true, if_false,
    Nat.lt_irrefl, Bool.not_false, if_true, Nat.zero_add]

end Json
end KeyedText
