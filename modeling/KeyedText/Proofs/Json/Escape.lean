import KeyedText.Json.Printer
import KeyedText.Json.Scan
import KeyedText.Proofs.Character.Range
import Mathlib.Data.List.Basic

/-!
# Spellings of strings

Between its quotes a string can be spelled in many ways: a character stands for
itself, or is escaped by a letter, by its code, or by the codes of the two halves
of a pair.  A scan reads exactly these spellings, whatever stands behind the
closing quote.  What is printed of a string is one of them.  Where its value does
not matter, a string is passed over all the same.
-/

namespace KeyedText
namespace Json

/-! ## Codes -/

/-- A hexadecimal digit and its value; letters can be small or large. -/
inductive HexDigit : Char → Nat → Prop where
  | decimal
      (value : Nat)
      (small : value < 10) :
      HexDigit (Char.ofNat (48 + value)) value
  | smallLetter
      (value : Nat)
      (small : value < 6) :
      HexDigit (Char.ofNat (97 + value)) (10 + value)
  | largeLetter
      (value : Nat)
      (small : value < 6) :
      HexDigit (Char.ofNat (65 + value)) (10 + value)

/-- A number written by four hexadecimal digits. -/
inductive SpellsCode : Nat → List Char → Prop where
  | digits
      {first second third fourth : Char}
      {firstValue secondValue thirdValue fourthValue : Nat}
      (isFirst : HexDigit first firstValue)
      (isSecond : HexDigit second secondValue)
      (isThird : HexDigit third thirdValue)
      (isFourth : HexDigit fourth fourthValue) :
      SpellsCode (16 * (16 * (16 * firstValue + secondValue) + thirdValue) + fourthValue)
        [first, second, third, fourth]

theorem hexValue?_of_hexDigit
    {character : Char}
    {value : Nat}
    (isDigit : HexDigit character value) :
    hexValue? character = some value ∧ character.utf8Size = 1 := by
  have decimals : ∀ value < 10, hexValue? (Char.ofNat (48 + value)) = some value ∧
      (Char.ofNat (48 + value)).utf8Size = 1 := by decide
  have smallLetters : ∀ value < 6, hexValue? (Char.ofNat (97 + value)) = some (10 + value) ∧
      (Char.ofNat (97 + value)).utf8Size = 1 := by decide
  have largeLetters : ∀ value < 6, hexValue? (Char.ofNat (65 + value)) = some (10 + value) ∧
      (Char.ofNat (65 + value)).utf8Size = 1 := by decide
  cases isDigit with
  | decimal value small => exact decimals value small
  | smallLetter value small => exact smallLetters value small
  | largeLetter value small => exact largeLetters value small

theorem hexDigit_of_hexValue?
    {character : Char}
    {value : Nat}
    (isValue : hexValue? character = some value) :
    HexDigit character value := by
  have isCode : Char.ofNat character.toNat = character := Char.ofNat_toNat character
  have zero : '0'.toNat = 48 := rfl
  have nine : '9'.toNat = 57 := rfl
  have smallA : 'a'.toNat = 97 := rfl
  have smallF : 'f'.toNat = 102 := rfl
  have largeA : 'A'.toNat = 65 := rfl
  have largeF : 'F'.toNat = 70 := rfl
  simp only [hexValue?, Bool.and_eq_true, decide_eq_true_eq, Char.le_def,
    UInt32.le_iff_toNat_le, Char.toNat_val, zero, nine, smallA, smallF, largeA, largeF] at isValue
  split at isValue
  · next isDecimal =>
      cases isValue
      have isDigit := HexDigit.decimal (character.toNat - 48) (by omega)
      rwa [Nat.add_sub_cancel' isDecimal.1, isCode] at isDigit
  split at isValue
  · next isSmall =>
      cases isValue
      have isDigit := HexDigit.smallLetter (character.toNat - 97) (by omega)
      rwa [Nat.add_sub_cancel' isSmall.1, isCode, Nat.add_comm] at isDigit
  split at isValue
  · next isLarge =>
      cases isValue
      have isDigit := HexDigit.largeLetter (character.toNat - 65) (by omega)
      rwa [Nat.add_sub_cancel' isLarge.1, isCode, Nat.add_comm] at isDigit
  · cases isValue

/-- Four digits are scanned as the number they write. -/
theorem scanQuad_append
    {code : Nat}
    {digits : List Char}
    (spells : SpellsCode code digits)
    (rest : List Char) :
    scanQuad (digits ++ rest) = .done code 4 := by
  obtain ⟨isFirst, isSecond, isThird, isFourth⟩ := spells
  obtain ⟨first, firstSize⟩ := hexValue?_of_hexDigit isFirst
  obtain ⟨second, secondSize⟩ := hexValue?_of_hexDigit isSecond
  obtain ⟨third, thirdSize⟩ := hexValue?_of_hexDigit isThird
  obtain ⟨fourth, fourthSize⟩ := hexValue?_of_hexDigit isFourth
  simp [scanQuad, byteCount, firstSize, secondSize, thirdSize, fourthSize, first, second, third,
    fourth]

theorem byteCount_of_mapM_hexValue?
    {digits : List Char}
    {values : List Nat}
    (areValues : digits.mapM hexValue? = some values) :
    byteCount digits = digits.length := by
  have counted : ∀ count, digits.foldl (fun size character => size + character.utf8Size) count =
      count + digits.length := by
    induction digits generalizing values with
    | nil => exact fun _ => rfl
    | cons digit rest inductionHypothesis =>
        simp only [List.mapM_cons, Option.pure_def, Option.bind_eq_bind, Option.bind_eq_some_iff]
          at areValues
        obtain ⟨value, isValue, others, areOthers, -⟩ := areValues
        obtain ⟨-, isByte⟩ := hexValue?_of_hexDigit (hexDigit_of_hexValue? isValue)
        intro count
        rw [List.foldl_cons, inductionHypothesis areOthers, isByte, List.length_cons]
        omega
  rw [byteCount, counted, Nat.zero_add]

/-- Nothing but four digits is scanned as a number. -/
theorem spellsCode_of_scanQuad
    {text : List Char}
    {code length : Nat}
    (scans : scanQuad text = .done code length) :
    ∃ digits rest, text = digits ++ rest ∧ SpellsCode code digits := by
  unfold scanQuad at scans
  dsimp only at scans
  split at scans
  · cases scans
  next enough =>
  split at scans
  · next values areValues =>
      cases scans
      have long : 4 ≤ text.length := by
        rw [byteCount_of_mapM_hexValue? areValues, List.length_take] at enough
        omega
      rcases text with _ | ⟨first, _ | ⟨second, _ | ⟨third, _ | ⟨fourth, rest⟩⟩⟩⟩
      · simp at long
      · simp at long
      · simp at long
      · simp at long
      simp only [List.take_succ_cons, List.take_zero, List.mapM_cons, List.mapM_nil,
        Option.pure_def, Option.bind_eq_bind, Option.bind_eq_some_iff, Option.some.injEq]
        at areValues
      obtain ⟨_, isFirst, _, ⟨_, isSecond, _, ⟨_, isThird, _, ⟨_, isFourth, _, rfl, rfl⟩, rfl⟩,
        rfl⟩, rfl⟩ := areValues
      have spells := SpellsCode.digits (hexDigit_of_hexValue? isFirst)
        (hexDigit_of_hexValue? isSecond) (hexDigit_of_hexValue? isThird)
        (hexDigit_of_hexValue? isFourth)
      exact ⟨[first, second, third, fourth], rest, rfl, by simpa using spells⟩
  · cases scans

/-! ## Escape sequences -/

/-- The letters that stand behind a backslash for a character. -/
def escapeLetters : List (Char × Char) :=
  [('"', '"'), ('\\', '\\'), ('/', '/'), ('b', '\x08'), ('f', '\x0c'), ('n', '\n'), ('r', '\r'),
    ('t', '\t')]

/-- What stands behind a backslash for a character: a letter, the code of the
character, or the codes of the halves of a pair. -/
inductive SpellsEscape : Char → List Char → Prop where
  | letter
      {letter meant : Char}
      (isEscape : (letter, meant) ∈ escapeLetters) :
      SpellsEscape meant [letter]
  | code
      {meant : Char}
      {digits : List Char}
      (spells : SpellsCode meant.toNat digits) :
      SpellsEscape meant ('u' :: digits)
  | pair
      {meant : Char}
      {high low : Nat}
      {first second : List Char}
      (isSum : meant.toNat = 0x10000 + 0x400 * high + low)
      (isLow : low < 0x400)
      (spellsFirst : SpellsCode (0xd800 + high) first)
      (spellsSecond : SpellsCode (0xdc00 + low) second) :
      SpellsEscape meant ('u' :: (first ++ '\\' :: 'u' :: second))

theorem simpleEscape?_eq_some_iff
    {letter meant : Char} :
    simpleEscape? letter = some meant ↔ (letter, meant) ∈ escapeLetters := by
  constructor
  · intro isEscape
    unfold simpleEscape? at isEscape
    split at isEscape <;> cases isEscape <;> decide
  · intro isEscape
    simp only [escapeLetters, List.mem_cons, Prod.mk.injEq, List.not_mem_nil, or_false]
      at isEscape
    rcases isEscape with ⟨rfl, rfl⟩ | ⟨rfl, rfl⟩ | ⟨rfl, rfl⟩ | ⟨rfl, rfl⟩ | ⟨rfl, rfl⟩ |
      ⟨rfl, rfl⟩ | ⟨rfl, rfl⟩ | ⟨rfl, rfl⟩ <;> rfl

theorem HexDigit.lt
    {character : Char}
    {value : Nat}
    (isDigit : HexDigit character value) :
    value < 16 := by
  cases isDigit with
  | decimal value small => omega
  | smallLetter value small => omega
  | largeLetter value small => omega

theorem SpellsCode.lt
    {code : Nat}
    {digits : List Char}
    (spells : SpellsCode code digits) :
    code < 0x10000 := by
  obtain ⟨isFirst, isSecond, isThird, isFourth⟩ := spells
  have first := isFirst.lt
  have second := isSecond.lt
  have third := isThird.lt
  have fourth := isFourth.lt
  omega

theorem SpellsCode.length_eq
    {code : Nat}
    {digits : List Char}
    (spells : SpellsCode code digits) :
    digits.length = 4 := by
  cases spells
  rfl

/-- What stands behind a backslash is scanned as the character it stands for. -/
theorem scanEscape_append
    {meant : Char}
    {escape : List Char}
    (spells : SpellsEscape meant escape)
    (rest : List Char) :
    scanEscape (escape ++ rest) = .done meant escape.length := by
  have valid : meant.toNat < 0xd800 ∨ 0xdfff < meant.toNat ∧ meant.toNat < 0x110000 := meant.valid
  cases spells with
  | @letter letter _ isEscape =>
      have stands := simpleEscape?_eq_some_iff.mpr isEscape
      have notCode : letter ≠ 'u' := by
        rintro rfl
        cases stands
      simp only [List.singleton_append, scanEscape, stands, List.length_singleton]
  | code spells =>
      have noLow : (decide (0xdc00 ≤ meant.toNat) && decide (meant.toNat ≤ 0xdfff)) = false := by
        simp only [Bool.and_eq_false_iff, decide_eq_false_iff_not]
        omega
      have noHigh : (decide (0xd800 ≤ meant.toNat) && decide (meant.toNat ≤ 0xdbff)) = false := by
        simp only [Bool.and_eq_false_iff, decide_eq_false_iff_not]
        omega
      simp [scanEscape, scanQuad_append spells, noLow, noHigh, spells.length_eq]
  | @pair _ high low first second isSum isLow spellsFirst spellsSecond =>
      have noLow :
          (decide (0xdc00 ≤ 0xd800 + high) && decide (0xd800 + high ≤ 0xdfff)) = false := by
        simp only [Bool.and_eq_false_iff, decide_eq_false_iff_not]
        omega
      have isHigh :
          (decide (0xd800 ≤ 0xd800 + high) && decide (0xd800 + high ≤ 0xdbff)) = true := by
        simp only [Bool.and_eq_true, decide_eq_true_eq]
        omega
      have isSecond :
          (decide (0xdc00 ≤ 0xdc00 + low) && decide (0xdc00 + low ≤ 0xdfff)) = true := by
        simp only [Bool.and_eq_true, decide_eq_true_eq]
        omega
      have joined : (0xd800 + high - 0xd800) * 0x400 + (0xdc00 + low - 0xdc00) + 0x10000 =
          meant.toNat := by omega
      have behind : (first ++ '\\' :: 'u' :: (second ++ rest)).drop 4 =
          '\\' :: 'u' :: (second ++ rest) := by
        rw [← spellsFirst.length_eq, List.drop_left]
      have scans : scanSecondHalf (0xd800 + high) ('\\' :: 'u' :: (second ++ rest)) =
          .done meant 11 := by
        simp only [scanSecondHalf, halfFault?, List.head?_cons, List.tail_cons,
          List.drop_succ_cons, List.drop_zero, beq_self_eq_true, if_true,
          scanQuad_append spellsSecond, isSecond, joined, Char.ofNat_toNat]
      simp only [List.cons_append, List.append_assoc, scanEscape, scanQuad_append spellsFirst,
        noLow, isHigh, behind, scans, Bool.false_eq_true, if_false, if_true, List.length_cons,
        List.length_append, spellsFirst.length_eq, spellsSecond.length_eq]

theorem eq_cons_of_halfFault?
    {wanted : Char}
    {offset : Nat}
    {text : List Char}
    (found : halfFault? wanted offset text = none) :
    ∃ rest, text = wanted :: rest := by
  unfold halfFault? at found
  cases text with
  | nil => cases found
  | cons character rest =>
      simp only [List.head?_cons, ite_eq_left_iff, reduceCtorEq, imp_false, not_not, beq_iff_eq]
        at found
      exact ⟨rest, by rw [found]⟩

theorem eq_broken_of_halfFault?
    {wanted : Char}
    {offset : Nat}
    {text : List Char}
    {fault : Scan Char}
    (isFault : halfFault? wanted offset text = some fault) :
    ∃ cause bytes, fault = .broken cause bytes := by
  unfold halfFault? at isFault
  split at isFault
  · cases isFault
    exact ⟨_, _, rfl⟩
  split at isFault
  · cases isFault
  · cases isFault
    exact ⟨_, _, rfl⟩

/-- Only a second half is scanned behind a first one. -/
theorem exists_of_scanSecondHalf
    {first size : Nat}
    {text : List Char}
    {meant : Char}
    (scans : scanSecondHalf first text = .done meant size) :
    ∃ second rest low, text = '\\' :: 'u' :: (second ++ rest) ∧
      SpellsCode (0xdc00 + low) second ∧ low < 0x400 ∧
      meant = Char.ofNat ((first - 0xd800) * 0x400 + low + 0x10000) ∧ size = 11 := by
  unfold scanSecondHalf at scans
  split at scans
  · next isFault =>
      obtain ⟨cause, bytes, rfl⟩ := eq_broken_of_halfFault? isFault
      cases scans
  next noFault =>
  obtain ⟨behind, rfl⟩ := eq_cons_of_halfFault? noFault
  split at scans
  · next isFault =>
      obtain ⟨cause, bytes, rfl⟩ := eq_broken_of_halfFault? isFault
      cases scans
  next noFault =>
  obtain ⟨later, isBehind⟩ := eq_cons_of_halfFault? noFault
  rw [List.tail_cons] at isBehind
  subst isBehind
  simp only [List.drop_succ_cons, List.drop_zero] at scans
  split at scans
  · cases scans
  next second length isCode =>
  obtain ⟨digits, rest, rfl, spells⟩ := spellsCode_of_scanQuad isCode
  split at scans
  · next isLow =>
      simp only [Bool.and_eq_true, decide_eq_true_eq] at isLow
      simp only [Scan.done.injEq] at scans
      refine ⟨digits, rest, second - 0xdc00, rfl, ?_, by omega, scans.1.symm, scans.2.symm⟩
      rwa [Nat.add_sub_cancel' isLow.1]
  · cases scans

/-- Nothing else behind a backslash is scanned as a character. -/
theorem spellsEscape_of_scanEscape
    {text : List Char}
    {meant : Char}
    {size : Nat}
    (scans : scanEscape text = .done meant size) :
    ∃ escape rest, text = escape ++ rest ∧ size = escape.length ∧ SpellsEscape meant escape := by
  unfold scanEscape at scans
  split at scans
  · cases scans
  · next behind =>
      split at scans
      · cases scans
      next code length isCode =>
      obtain ⟨digits, rest, rfl, spells⟩ := spellsCode_of_scanQuad isCode
      have bound := spells.lt
      split at scans
      · cases scans
      next noLow =>
      simp only [Bool.and_eq_true, decide_eq_true_eq] at noLow
      split at scans
      · next isHigh =>
          simp only [Bool.and_eq_true, decide_eq_true_eq] at isHigh
          rw [← spells.length_eq, List.drop_left] at scans
          obtain ⟨second, behind, low, rfl, isSecond, isLow, isSum, rfl⟩ :=
            exists_of_scanSecondHalf scans
          refine ⟨'u' :: (digits ++ '\\' :: 'u' :: second), behind, by simp, ?_, ?_⟩
          · simp [spells.length_eq, isSecond.length_eq]
          have spellsFirst : SpellsCode (0xd800 + (code - 0xd800)) digits := by
            rwa [Nat.add_sub_cancel' isHigh.1]
          have isValid : (code - 0xd800) * 0x400 + low + 0x10000 < 0x110000 := by omega
          refine .pair ?_ isLow spellsFirst isSecond
          rw [isSum, Character.toNat_ofNat (.inr ⟨by omega, isValid⟩), Nat.mul_comm]
          omega
      · next noHigh =>
          simp only [Bool.and_eq_true, decide_eq_true_eq] at noHigh
          cases scans
          refine ⟨'u' :: digits, rest, rfl, by simp [spells.length_eq], .code ?_⟩
          rwa [Character.toNat_ofNat (show code.isValidChar by unfold Nat.isValidChar; omega)]
  · next letter rest _ =>
      split at scans
      · next isEscape =>
          cases scans
          exact ⟨[letter], rest, rfl, rfl, .letter (simpleEscape?_eq_some_iff.mp isEscape)⟩
      · cases scans

/-- What stands behind a backslash is passed over, or its first half is if it is
a pair, and then another backslash follows. -/
theorem scanIgnoredEscape_append
    {meant : Char}
    {escape : List Char}
    (spells : SpellsEscape meant escape)
    (rest : List Char) :
    (∃ any, scanIgnoredEscape (escape ++ rest) = .done any escape.length) ∨
      ∃ first second code,
        escape = 'u' :: (first ++ '\\' :: 'u' :: second) ∧
        (∃ any, scanIgnoredEscape ('u' :: first ++ '\\' :: 'u' :: (second ++ rest)) =
          .done any ('u' :: first).length) ∧
        SpellsCode code second := by
  cases spells with
  | @letter letter _ isEscape =>
      have stands := simpleEscape?_eq_some_iff.mpr isEscape
      have notCode : letter ≠ 'u' := by
        rintro rfl
        cases stands
      refine .inl ⟨meant, ?_⟩
      simp only [List.singleton_append, scanIgnoredEscape, stands, List.length_singleton]
  | code spells =>
      exact .inl ⟨'?', by simp [scanIgnoredEscape, scanQuad_append spells, spells.length_eq]⟩
  | pair isSum isLow spellsFirst spellsSecond =>
      refine .inr ⟨_, _, _, rfl, ⟨'?', ?_⟩, spellsSecond⟩
      simp [scanIgnoredEscape, scanQuad_append spellsFirst, spellsFirst.length_eq]

/-! ## Strings -/

/-- The ways to spell a character in a string. -/
inductive SpellsCharacter : Char → List Char → Prop where
  | plain
      {character : Char}
      (isText : 32 ≤ character.toNat)
      (noQuote : character ≠ '"')
      (noBackslash : character ≠ '\\') :
      SpellsCharacter character [character]
  | escaped
      {character : Char}
      {escape : List Char}
      (spells : SpellsEscape character escape) :
      SpellsCharacter character ('\\' :: escape)

/-- The ways to spell the characters of a string one after another. -/
inductive SpellsText : List Char → List Char → Prop where
  | nil : SpellsText [] []
  | cons
      {character : Char}
      {rest front back : List Char}
      (spells : SpellsCharacter character front)
      (later : SpellsText rest back) :
      SpellsText (character :: rest) (front ++ back)

theorem SpellsText.append
    {first second front back : List Char}
    (spellsFirst : SpellsText first front)
    (spellsSecond : SpellsText second back) :
    SpellsText (first ++ second) (front ++ back) := by
  induction spellsFirst with
  | nil => exact spellsSecond
  | cons spells _ inductionHypothesis =>
      rw [List.cons_append, List.append_assoc]
      exact .cons spells inductionHypothesis

/-- Characters that need no escape spell themselves. -/
theorem spellsText_self
    {text : List Char}
    (arePlain : ∀ character ∈ text,
      32 ≤ character.toNat ∧ character ≠ '"' ∧ character ≠ '\\') :
    SpellsText text text := by
  induction text with
  | nil => exact .nil
  | cons character rest inductionHypothesis =>
      obtain ⟨⟨isText, noQuote, noBackslash⟩, others⟩ := List.forall_mem_cons.mp arePlain
      exact .cons (.plain isText noQuote noBackslash) (inductionHypothesis others)

/-- The characters of an escape sequence are passed over. -/
theorem scanStringFrom_skip
    (ignored : Bool)
    (taken : List Char)
    (length bytes : Nat)
    (front rest : List Char) :
    ∃ behind,
      scanStringFrom ignored front.length taken length bytes (front ++ rest) =
        scanStringFrom ignored 0 taken (length + front.length) behind rest := by
  induction front generalizing length bytes with
  | nil => exact ⟨bytes, rfl⟩
  | cons character others inductionHypothesis =>
      obtain ⟨behind, skips⟩ := inductionHypothesis (length + 1) (bytes + character.utf8Size)
      refine ⟨behind, ?_⟩
      rw [List.length_cons, List.cons_append, scanStringFrom, skips, Nat.add_assoc,
        Nat.add_comm 1]

/-- Behind a backslash a string goes on with what its escape sequence stands for. -/
theorem scanStringFrom_backslash
    (ignored : Bool)
    (taken : List Char)
    (length bytes : Nat)
    (front : List Char)
    {rest : List Char}
    {meant : Char}
    (scans : (if ignored then scanIgnoredEscape (front ++ rest) else scanEscape (front ++ rest)) =
      .done meant front.length) :
    ∃ behind,
      scanStringFrom ignored 0 taken length bytes ('\\' :: (front ++ rest)) =
        scanStringFrom ignored 0 (meant :: taken) (length + (front.length + 1)) behind rest := by
  obtain ⟨behind, skips⟩ :=
    scanStringFrom_skip ignored (meant :: taken) (length + 1) (bytes + 1) front rest
  refine ⟨behind, ?_⟩
  rw [Nat.add_comm front.length, ← Nat.add_assoc, ← skips, scanStringFrom]
  rw [if_neg (by decide), if_pos (by decide), scans]

/-- A spelled character is scanned as that character. -/
theorem scanStringFrom_spelled
    {character : Char}
    {front : List Char}
    (spells : SpellsCharacter character front)
    (taken : List Char)
    (length bytes : Nat)
    (rest : List Char) :
    ∃ behind,
      scanStringFrom false 0 taken length bytes (front ++ rest) =
        scanStringFrom false 0 (character :: taken) (length + front.length) behind rest := by
  cases spells with
  | plain isText noQuote noBackslash =>
      refine ⟨bytes + character.utf8Size, ?_⟩
      simp [scanStringFrom, noQuote, noBackslash, Nat.not_lt.mpr isText]
  | escaped spells =>
      exact scanStringFrom_backslash false taken length bytes _ (scanEscape_append spells rest)

/-- A spelled character is passed over where it does not matter, in two steps if
it is spelled by a pair. -/
theorem scanStringFrom_ignored_spelled
    {character : Char}
    {front : List Char}
    (spells : SpellsCharacter character front)
    (taken : List Char)
    (length bytes : Nat)
    (rest : List Char) :
    ∃ any behind,
      scanStringFrom true 0 taken length bytes (front ++ rest) =
        scanStringFrom true 0 any (length + front.length) behind rest := by
  cases spells with
  | plain isText noQuote noBackslash =>
      refine ⟨character :: taken, bytes + character.utf8Size, ?_⟩
      simp [scanStringFrom, noQuote, noBackslash, Nat.not_lt.mpr isText]
  | @escaped escape spells =>
      rcases scanIgnoredEscape_append spells rest with
        ⟨any, scans⟩ | ⟨first, second, code, rfl, ⟨any, scans⟩, spellsSecond⟩
      · exact ⟨_, scanStringFrom_backslash true taken length bytes escape scans⟩
      · obtain ⟨between, isFirst⟩ :=
          scanStringFrom_backslash true taken length bytes ('u' :: first) scans
        have scansSecond : scanIgnoredEscape ('u' :: second ++ rest) =
            .done '?' ('u' :: second).length := by
          simp [scanIgnoredEscape, scanQuad_append spellsSecond, spellsSecond.length_eq]
        obtain ⟨behind, isSecond⟩ := scanStringFrom_backslash true (any :: taken)
          (length + (('u' :: first).length + 1)) between ('u' :: second) scansSecond
        refine ⟨'?' :: any :: taken, behind, ?_⟩
        have parts : '\\' :: 'u' :: (first ++ '\\' :: 'u' :: second) ++ rest =
            '\\' :: ('u' :: first ++ '\\' :: ('u' :: second ++ rest)) := by simp
        rw [parts]
        refine (isFirst.trans isSecond).trans ?_
        congr 1
        simp only [List.length_cons, List.length_append]
        omega

/-- The spelling of a string up to its closing quote is scanned as that string. -/
theorem scanStringFrom_append
    {text spelling : List Char}
    (spells : SpellsText text spelling)
    (taken : List Char)
    (length bytes : Nat)
    (rest : List Char) :
    scanStringFrom false 0 taken length bytes (spelling ++ '"' :: rest) =
      .done (taken.reverse ++ text) (length + (spelling.length + 1)) := by
  induction spells generalizing taken length bytes with
  | nil => simp [scanStringFrom]
  | @cons character _ front _ spells _ inductionHypothesis =>
      obtain ⟨behind, first⟩ := scanStringFrom_spelled spells taken length bytes _
      rw [List.append_assoc, first, inductionHypothesis, List.reverse_cons, List.append_assoc,
        List.singleton_append, List.length_append]
      congr 1
      omega

theorem scanStringFrom_ignored_append
    {text spelling : List Char}
    (spells : SpellsText text spelling)
    (taken : List Char)
    (length bytes : Nat)
    (rest : List Char) :
    ∃ any,
      scanStringFrom true 0 taken length bytes (spelling ++ '"' :: rest) =
        .done any (length + (spelling.length + 1)) := by
  induction spells generalizing taken length bytes with
  | nil => exact ⟨taken.reverse, by simp [scanStringFrom]⟩
  | @cons character _ front back spells _ inductionHypothesis =>
      obtain ⟨met, behind, first⟩ := scanStringFrom_ignored_spelled spells taken length bytes
        (back ++ '"' :: rest)
      obtain ⟨any, later⟩ := inductionHypothesis met (length + front.length) behind
      refine ⟨any, ?_⟩
      rw [List.append_assoc, first, later, List.length_append]
      congr 1
      omega

/-- Nothing but a spelling and a quote is scanned as a string. -/
theorem exists_of_scanStringFrom
    {taken text value : List Char}
    {length bytes size : Nat}
    (scans : scanStringFrom false 0 taken length bytes text = .done value size) :
    ∃ meant spelling rest, text = spelling ++ '"' :: rest ∧ SpellsText meant spelling ∧
      value = taken.reverse ++ meant ∧ size = length + (spelling.length + 1) := by
  induction isLength : text.length using Nat.strongRecOn generalizing taken text length bytes with
  | ind count inductionHypothesis =>
  cases text with
  | nil => cases scans
  | cons character rest =>
      have step : ∀ {met front back position behind}, SpellsCharacter met front →
          character :: rest = front ++ back →
          scanStringFrom false 0 (met :: taken) position behind back = .done value size →
          position = length + front.length →
          ∃ meant spelling rest', character :: rest = spelling ++ '"' :: rest' ∧
            SpellsText meant spelling ∧ value = taken.reverse ++ meant ∧
            size = length + (spelling.length + 1) := by
        intro met front back position behind spells isFront scansBack isPosition
        have shorter : back.length < count := by
          have isSum := congrArg List.length isFront
          have nonempty : 0 < front.length := by cases spells <;> simp
          rw [List.length_append] at isSum
          omega
        obtain ⟨meant, spelling, behind, rfl, later, isValue, isSize⟩ :=
          inductionHypothesis back.length shorter scansBack rfl
        refine ⟨met :: meant, front ++ spelling, behind, by rw [isFront, List.append_assoc],
          .cons spells later, by simp [isValue], ?_⟩
        rw [isSize, isPosition, List.length_append]
        omega
      rw [scanStringFrom] at scans
      split at scans
      · next isQuote =>
          cases scans
          exact ⟨[], [], rest, by rw [beq_iff_eq.mp isQuote]; rfl, .nil, by simp, rfl⟩
      next noQuote =>
      split at scans
      · next isBackslash =>
          rw [if_neg Bool.false_ne_true] at scans
          split at scans
          · next met amount isEscape =>
              obtain ⟨escape, back, rfl, rfl, spells⟩ := spellsEscape_of_scanEscape isEscape
              obtain ⟨behind, skips⟩ :=
                scanStringFrom_skip false (met :: taken) (length + 1) (bytes + 1) escape back
              rw [skips] at scans
              refine step (.escaped spells) (by rw [beq_iff_eq.mp isBackslash]; rfl) scans ?_
              rw [List.length_cons]
              omega
          · cases scans
      next noBackslash =>
      split at scans
      · cases scans
      · next isText =>
          refine step (.plain (Nat.not_lt.mp isText) ?_ ?_) rfl scans rfl
          · simpa using noQuote
          · simpa using noBackslash

/-- A string behind its opening quote is scanned as a value exactly if it spells
that value up to a quote. -/
theorem scanString_eq_done_iff
    {text value : List Char}
    {size : Nat} :
    scanString false text = .done value size ↔
      ∃ spelling rest, text = spelling ++ '"' :: rest ∧ SpellsText value spelling ∧
        size = spelling.length + 1 := by
  constructor
  · intro scans
    obtain ⟨_, spelling, rest, isText, spells, rfl, isSize⟩ := exists_of_scanStringFrom scans
    exact ⟨spelling, rest, isText, spells, by rw [isSize, Nat.zero_add]⟩
  · rintro ⟨spelling, rest, rfl, spells, rfl⟩
    rw [scanString, scanStringFrom_append spells, Nat.zero_add]
    rfl

/-- A string whose value does not matter is passed over up to its closing quote. -/
theorem scanString_ignored
    {text spelling : List Char}
    (spells : SpellsText text spelling)
    (rest : List Char) :
    ∃ any, scanString true (spelling ++ '"' :: rest) = .done any (spelling.length + 1) := by
  obtain ⟨any, scans⟩ := scanStringFrom_ignored_append spells [] 0 0 rest
  exact ⟨any, by rw [scanString, scans, Nat.zero_add]⟩

/-! ## Printed strings -/

theorem hexDigit_hexDigit :
    ∀ value < 16, HexDigit (hexDigit value) value := by
  have isDigit : ∀ value < 16, hexValue? (hexDigit value) = some value := by decide
  exact fun value small => hexDigit_of_hexValue? (isDigit value small)

/-- A character is printed as one of its spellings. -/
theorem spellsCharacter_escapedChar
    (character : Char) :
    SpellsCharacter character (escapedChar character) := by
  unfold escapedChar
  split
  · exact .escaped (.letter (by decide))
  · exact .escaped (.letter (by decide))
  · exact .escaped (.letter (by decide))
  · exact .escaped (.letter (by decide))
  · exact .escaped (.letter (by decide))
  · exact .escaped (.letter (by decide))
  · exact .escaped (.letter (by decide))
  · next noQuote noBackslash _ _ _ _ _ =>
      split
      · next isControl =>
          have isZero := hexDigit_hexDigit 0 (by decide)
          have digits := SpellsCode.digits isZero isZero
            (hexDigit_hexDigit (character.toNat / 16) (by omega))
            (hexDigit_hexDigit (character.toNat % 16) (by omega))
          have joined : 16 * (16 * (16 * 0 + 0) + character.toNat / 16) + character.toNat % 16 =
              character.toNat := by omega
          rw [joined] at digits
          exact .escaped (.code digits)
      · next notControl => exact .plain (Nat.not_lt.mp notControl) noQuote noBackslash

/-- The text of a string between its quotes. -/
def printedText (text : String) : List Char :=
  text.toList.flatMap escapedChar

theorem toList_quotedText
    (text : String) :
    (quotedText text).toList = '"' :: (printedText text ++ ['"']) := by
  simp [quotedText, printedText]

/-- A string is printed as one of its spellings. -/
theorem spellsText_printedText
    (text : String) :
    SpellsText text.toList (printedText text) := by
  unfold printedText
  induction text.toList with
  | nil => exact .nil
  | cons character rest inductionHypothesis =>
      rw [List.flatMap_cons]
      exact .cons (spellsCharacter_escapedChar character) inductionHypothesis

end Json
end KeyedText
