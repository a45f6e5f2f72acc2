import KeyedText.Character.Range
import KeyedText.Source.Fault

/-!
# Escape sequences

A backslash in a string or template starts an escape sequence.  The value of a string is a
sequence of code points in which halves of surrogate pairs can stand alone; such a sequence is no
valid text.
-/

namespace KeyedText
namespace Source

/-- The value of a digit in a base of at most sixteen. -/
def digitValue? (base : Nat) (character : Char) : Option Nat :=
  let value :=
    if Character.isAsciiDigit character then character.toNat - 48
    else if Character.isAsciiLower character then character.toNat - 87
    else if Character.isAsciiUpper character then character.toNat - 55
    else 36
  if value < base then some value else none

/-- The number that a list of digits spells, or nothing if one of them is no digit. -/
def digitsValue? (base : Nat) (digits : List Char) : Option Nat :=
  digits.foldl
    (fun value? digit =>
      match value?, digitValue? base digit with
      | some value, some next => some (value * base + next)
      | _, _ => none)
    (some 0)

/-- What a backslash stands for, with the number of characters behind it that belong to it. -/
inductive Escape where
  /-- A code point. -/
  | code (code length : Nat)
  /-- A continued line, which stands for nothing. -/
  | nothing (length : Nat)
  /-- A code point in the octal form that strict code refuses. -/
  | octal (code length : Nat)
  /-- No escape sequence at all. -/
  | malformed (length : Nat)
deriving DecidableEq, Repr

/-- Reads the escape sequence `u` from what follows that letter. -/
def unicodeEscape (text : List Char) : Escape :=
  match text with
  | '{' :: rest =>
    let digits := rest.takeWhile fun character => (digitValue? 16 character).isSome
    match digitsValue? 16 digits, rest.drop digits.length with
    | some code, '}' :: _ =>
      if digits.isEmpty || code > 0x10ffff then .malformed 1
      else .code code (digits.length + 3)
    | _, _ => .malformed 1
  | a :: b :: c :: d :: _ =>
    match digitsValue? 16 [a, b, c, d] with
    | some code => .code code 5
    | none => .malformed 1
  | _ => .malformed 1

/-- Reads up to three octal digits whose number fits a byte. -/
def octalEscape (text : List Char) : Escape :=
  let digits := (text.take 3).takeWhile fun character => (digitValue? 8 character).isSome
  match digitsValue? 8 digits with
  | some code =>
    if code < 256 then .octal code digits.length
    else .octal (code / 8) (digits.length - 1)
  | none => .malformed 1

/-- Reads an escape sequence from what follows the backslash. -/
def escapeSequence (text : List Char) : Escape :=
  match text with
  | [] => .malformed 0
  | 'n' :: _ => .code 10 1
  | 'r' :: _ => .code 13 1
  | 't' :: _ => .code 9 1
  | 'b' :: _ => .code 8 1
  | 'v' :: _ => .code 11 1
  | 'f' :: _ => .code 12 1
  | '\r' :: '\n' :: _ => .nothing 2
  | '\r' :: _ => .nothing 1
  | '\n' :: _ => .nothing 1
  | '\u2028' :: _ => .nothing 1
  | '\u2029' :: _ => .nothing 1
  | 'x' :: a :: b :: _ =>
    match digitsValue? 16 [a, b] with
    | some code => .code code 3
    | none => .malformed 1
  | 'x' :: _ => .malformed 1
  | 'u' :: rest => unicodeEscape rest
  | '0' :: rest =>
    match rest with
    | next :: _ => if (digitValue? 8 next).isSome then octalEscape text else .code 0 1
    | [] => .code 0 1
  | character :: _ =>
    if (digitValue? 8 character).isSome then octalEscape text
    else .code character.toNat 1

/-- Whether a code point is the first half of a surrogate pair. -/
def isHighSurrogate (code : Nat) : Bool :=
  0xd800 ≤ code && code ≤ 0xdbff

/-- Whether a code point is the second half of a surrogate pair. -/
def isLowSurrogate (code : Nat) : Bool :=
  0xdc00 ≤ code && code ≤ 0xdfff

/-- The characters of a sequence of code points, halves of pairs joined; nothing if a half stands
alone. -/
def joinSurrogates : List Nat → Option (List Char)
  | [] => some []
  | high :: low :: rest =>
    if isHighSurrogate high && isLowSurrogate low then
      (joinSurrogates rest).map fun characters =>
        Char.ofNat (0x10000 + (high - 0xd800) * 0x400 + (low - 0xdc00)) :: characters
    else if isHighSurrogate high || isLowSurrogate high then none
    else (joinSurrogates (low :: rest)).map fun characters => Char.ofNat high :: characters
  | [code] =>
    if isHighSurrogate code || isLowSurrogate code then none else some [Char.ofNat code]

/-- The text that a sequence of code points forms, if it is valid. -/
def textOfCodes (codes : List Nat) : Option String :=
  (joinSurrogates codes).map String.ofList

end Source
end KeyedText
