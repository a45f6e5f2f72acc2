import KeyedText.Json.Fault

/-!
# Scanning JSON strings and numbers

A scan reads a string or number at the front of a text.  It gives what it read with the number of
characters that this takes, or what is wrong with the number of bytes behind which it shows.
-/

namespace KeyedText
namespace Json

/-- The result of a scan. -/
inductive Scan (α : Type) where
  /-- A value and the number of its characters. -/
  | done (value : α) (length : Nat)
  /-- A fault and the number of bytes in front of it. -/
  | broken (cause : Cause) (bytes : Nat)

/-- The number of bytes of a text. -/
def byteCount (text : List Char) : Nat :=
  text.foldl (fun size character => size + character.utf8Size) 0

/-! ## Escape sequences -/

/-- The value of a hexadecimal digit. -/
def hexValue? (character : Char) : Option Nat :=
  if '0' ≤ character && character ≤ '9' then some (character.toNat - '0'.toNat)
  else if 'a' ≤ character && character ≤ 'f' then some (character.toNat - 'a'.toNat + 10)
  else if 'A' ≤ character && character ≤ 'F' then some (character.toNat - 'A'.toNat + 10)
  else none

/-- Scans four hexadecimal digits. -/
def scanQuad (text : List Char) : Scan Nat :=
  let front := text.take 4
  if byteCount front < 4 then .broken .endInString (byteCount front)
  else
    match front.mapM hexValue? with
    | some digits => .done (digits.foldl (fun value digit => 16 * value + digit) 0) 4
    | none => .broken .badEscape 4

/-- Requires a character at the front of the second half of a pair; `offset` bytes stand in front
of it. -/
def halfFault? (wanted : Char) (offset : Nat) (text : List Char) : Option (Scan Char) :=
  match text.head? with
  | none => some (.broken .endInString offset)
  | some found => if found == wanted then none else some (.broken .halfExpected (offset + 1))

/-- Scans the second half of a pair behind the first one. -/
def scanSecondHalf (first : Nat) (text : List Char) : Scan Char :=
  match halfFault? '\\' 5 text with
  | some fault => fault
  | none =>
    match halfFault? 'u' 6 text.tail with
    | some fault => fault
    | none =>
      match scanQuad (text.drop 2) with
      | .broken cause bytes => .broken cause (7 + bytes)
      | .done second _ =>
        if 0xdc00 ≤ second && second ≤ 0xdfff then
          .done (Char.ofNat ((first - 0xd800) * 0x400 + (second - 0xdc00) + 0x10000)) 11
        else .broken .loneHalf 11

/-- The character that a simple escape sequence stands for. -/
def simpleEscape? (character : Char) : Option Char :=
  match character with
  | '"' => some '"'
  | '\\' => some '\\'
  | '/' => some '/'
  | 'b' => some '\x08'
  | 'f' => some '\x0c'
  | 'n' => some '\n'
  | 'r' => some '\r'
  | 't' => some '\t'
  | _ => none

/-- Scans an escape sequence behind its backslash. -/
def scanEscape (text : List Char) : Scan Char :=
  match text with
  | [] => .broken .endInString 0
  | 'u' :: rest =>
    match scanQuad rest with
    | .broken cause bytes => .broken cause (1 + bytes)
    | .done code _ =>
      if 0xdc00 ≤ code && code ≤ 0xdfff then .broken .loneHalf 5
      else if 0xd800 ≤ code && code ≤ 0xdbff then scanSecondHalf code (rest.drop 4)
      else .done (Char.ofNat code) 5
  | character :: _ =>
    match simpleEscape? character with
    | some meant => .done meant 1
    | none => .broken .badEscape 1

/-- Scans an escape sequence whose meaning does not matter. -/
def scanIgnoredEscape (text : List Char) : Scan Char :=
  match text with
  | [] => .broken .endInString 0
  | 'u' :: rest =>
    match scanQuad rest with
    | .broken cause bytes => .broken cause (1 + bytes)
    | .done _ _ => .done '?' 5
  | character :: _ =>
    match simpleEscape? character with
    | some meant => .done meant 1
    | none => .broken .badEscape 1

/-! ## Strings -/

/-- Scans a string behind its opening quote.  The first `skip` characters belong to an escape
sequence, `taken` holds what was read so far, latest first, and `length` and `bytes` count what
was passed.  The value of an ignored string does not matter. -/
def scanStringFrom (ignored : Bool) (skip : Nat) (taken : List Char) (length bytes : Nat) :
    List Char → Scan (List Char)
  | [] => .broken .endInString bytes
  | character :: rest =>
    match skip with
    | skip + 1 =>
      scanStringFrom ignored skip taken (length + 1) (bytes + character.utf8Size) rest
    | 0 =>
      if character == '"' then .done taken.reverse (length + 1)
      else if character == '\\' then
        match (if ignored then scanIgnoredEscape rest else scanEscape rest) with
        | .done meant size =>
          scanStringFrom ignored size (meant :: taken) (length + 1) (bytes + 1) rest
        | .broken cause offset => .broken cause (bytes + 1 + offset)
      else if character.toNat < 32 then
        .broken .controlCharacter (if ignored then bytes else bytes + 1)
      else
        scanStringFrom ignored 0 (character :: taken) (length + 1)
          (bytes + character.utf8Size) rest

/-- Scans a string behind its opening quote. -/
def scanString (ignored : Bool) (text : List Char) : Scan (List Char) :=
  scanStringFrom ignored 0 [] 0 0 text

/-! ## Numbers -/

/-- A decimal digit. -/
def isDigit (character : Char) : Bool :=
  '0' ≤ character && character ≤ '9'

/-- The value of a decimal digit. -/
def digitValue (character : Char) : Nat :=
  character.toNat - '0'.toNat

/-- The largest whole number that is kept exactly. -/
def largestNatural : Nat := Nat.pow 2 64 - 1

/-- Reads digits on to a whole number as long as that is kept exactly; gives the number and how
many digits were read. -/
def readDigits (value : Nat) : List Char → Nat × Nat
  | [] => (value, 0)
  | digit :: rest =>
    let next := 10 * value + digitValue digit
    if largestNatural < next then (value, 0)
    else
      let (whole, count) := readDigits next rest
      (whole, count + 1)

/-- A power of ten in double precision. -/
def powerOfTen (exponent : Nat) : Float :=
  Float.ofScientific 1 false exponent

/-- A whole number of double precision, divided by powers of ten; the first argument bounds the
rounds. -/
def dividedBy : Nat → Float → Nat → Float
  | 0, value, _ => value
  | bound + 1, value, exponent =>
    if exponent ≤ 308 then value / powerOfTen exponent
    else if value == 0 then value
    else dividedBy bound (value / powerOfTen 308) (exponent - 308)

/-- A whole number times a power of ten in double precision, if that is in range. -/
def scaled? (value : Nat) (exponent : Int) : Option Float :=
  let whole := Float.ofNat value
  if exponent < 0 then some (dividedBy 8 whole (-exponent).toNat)
  else if exponent ≤ 308 then
    let product := whole * powerOfTen exponent.toNat
    if product.isInf then none else some product
  else if whole == 0 then some whole
  else none

/-- A number of double precision with its sign, at the end of a scan. -/
def endDecimal (isNegative : Bool) (value : Nat) (exponent : Int) (length : Nat) :
    Scan JsonNumber :=
  match scaled? value exponent with
  | some size => .done (.ofFloat (if isNegative then -size else size)) length
  | none => .broken .numberOutOfRange length

/-- The largest exponent that is read digit by digit. -/
def largestExponent : Nat := Nat.pow 2 31 - 1

/-- Reads the digits of an exponent; gives nothing but their number if the exponent is too
large. -/
def readExponent (value : Nat) : List Char → Option Nat × Nat
  | [] => (some value, 0)
  | digit :: rest =>
    let next := 10 * value + digitValue digit
    if largestExponent < next then (none, 1)
    else
      let (whole, count) := readExponent next rest
      (whole, count + 1)

/-- Scans an exponent from its letter on; `length` characters stand in front. -/
def scanExponent (isNegative : Bool) (value : Nat) (start : Int) (length : Nat)
    (text : List Char) : Scan JsonNumber :=
  let behind := text.tail
  let isSigned := behind.head? == some '+' || behind.head? == some '-'
  let lowers := behind.head? == some '-'
  let digits := if isSigned then behind.tail else behind
  let length := length + 1 + if isSigned then 1 else 0
  let run := digits.takeWhile isDigit
  if run.isEmpty then
    if digits.isEmpty then .broken .endInValue length else .broken .badNumber (length + 1)
  else
    match readExponent 0 run with
    | (some exponent, _) =>
      endDecimal isNegative value (if lowers then start - exponent else start + exponent)
        (length + run.length)
    | (none, count) =>
      if value != 0 && !lowers then .broken .numberOutOfRange (length + count)
      else endDecimal isNegative 0 0 (length + run.length)

/-- Whether an exponent stands at the front of a text. -/
def atExponent (text : List Char) : Bool :=
  text.head? == some 'e' || text.head? == some 'E'

/-- Scans a fraction from its point on; `length` characters stand in front. -/
def scanFraction (isNegative : Bool) (value : Nat) (start : Int) (length : Nat)
    (text : List Char) : Scan JsonNumber :=
  let behind := text.tail
  let run := behind.takeWhile isDigit
  let rest := behind.drop run.length
  let (whole, count) := readDigits value run
  let length := length + 1 + run.length
  if run.isEmpty then
    if behind.isEmpty then .broken .endInValue length else .broken .badNumber (length + 1)
  else if atExponent rest then scanExponent isNegative whole (start - count) length rest
  else endDecimal isNegative whole (start - count) length

/-- Scans a number behind its sign; `length` characters stand in front. -/
def scanUnsigned (isNegative : Bool) (length : Nat) (text : List Char) : Scan JsonNumber :=
  let run := text.takeWhile isDigit
  let rest := text.drop run.length
  let (value, count) := readDigits 0 run
  let finish := length + run.length
  if run.isEmpty then
    if text.isEmpty then .broken .endInValue length else .broken .badNumber (length + 1)
  else if run.head? == some '0' && 1 < run.length then .broken .badNumber (length + 2)
  else
    let left : Int := run.length - count
    if rest.head? == some '.' then scanFraction isNegative value left finish rest
    else if atExponent rest then scanExponent isNegative value left finish rest
    else if count < run.length then endDecimal isNegative value left finish
    else if !isNegative then .done (.natural value) finish
    else if value == 0 || Nat.pow 2 63 < value then endDecimal true value 0 finish
    else .done (.negative value) finish

/-- Scans a number. -/
def scanNumber (text : List Char) : Scan JsonNumber :=
  if text.head? == some '-' then scanUnsigned true 1 text.tail else scanUnsigned false 0 text

/-- Scans an exponent whose value does not matter. -/
def scanIgnoredExponent (length : Nat) (text : List Char) : Scan Unit :=
  let behind := text.tail
  let isSigned := behind.head? == some '+' || behind.head? == some '-'
  let digits := if isSigned then behind.tail else behind
  let length := length + 1 + if isSigned then 1 else 0
  let run := digits.takeWhile isDigit
  if run.isEmpty then .broken .badNumber (length + min 1 digits.length)
  else .done () (length + run.length)

/-- Scans a number whose value does not matter. -/
def scanIgnoredNumber (text : List Char) : Scan Unit :=
  let isNegative := text.head? == some '-'
  let whole := if isNegative then text.tail else text
  let signLength := if isNegative then 1 else 0
  let run := whole.takeWhile isDigit
  let rest := whole.drop run.length
  let length := signLength + run.length
  if run.isEmpty then .broken .badNumber (signLength + min 1 whole.length)
  else if run.head? == some '0' && 1 < run.length then .broken .badNumber (signLength + 2)
  else if rest.head? == some '.' then
    let fraction := rest.tail.takeWhile isDigit
    let behind := rest.tail.drop fraction.length
    let length := length + 1 + fraction.length
    if fraction.isEmpty then .broken .badNumber (length + 1)
    else if atExponent behind then scanIgnoredExponent length behind
    else .done () length
  else if atExponent rest then scanIgnoredExponent length rest
  else .done () length

end Json
end KeyedText
