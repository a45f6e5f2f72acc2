/-!
# Glob patterns

A pattern is a sequence of tokens.  A question mark stands for one character, a star for any run
of characters, brackets for one of several characters; two stars in the place of a directory
stand for any number of directories.
-/

namespace KeyedText
namespace Glob

/-- A character or range of characters between brackets. -/
inductive Choice where
  | one (character : Char)
  | range (first last : Char)
deriving DecidableEq, Repr

/-- A token of a pattern. -/
inductive Token where
  /-- This character. -/
  | char (character : Char)
  /-- Any character. -/
  | anyChar
  /-- A character among the choices. -/
  | within (choices : List Choice)
  /-- A character that is not among the choices. -/
  | except (choices : List Choice)
  /-- Any run of characters. -/
  | many
  /-- Any number of directories. -/
  | deep
deriving DecidableEq, Repr

/-- A pattern. -/
structure Pattern where
  /-- What a text has to be made of. -/
  tokens : List Token
deriving DecidableEq, Repr

/-! ## Faults -/

/-- What is wrong with a pattern. -/
inductive Cause where
  /-- More than two stars stand together. -/
  | stars
  /-- Two stars stand beside something else between slashes. -/
  | notAlone
  /-- Brackets are not closed, or hold nothing. -/
  | brackets
deriving DecidableEq, Repr

/-- The wording of a cause. -/
def Cause.message : Cause → String
  | stars => "wildcards are either regular \x60*\x60 or recursive \x60**\x60"
  | notAlone => "recursive wildcards must form a single path component"
  | brackets => "invalid range pattern"

/-- A fault of a pattern. -/
structure Fault where
  /-- The number of characters in front of the fault. -/
  position : Nat
  /-- What is wrong. -/
  cause : Cause
deriving DecidableEq, Repr

/-- The wording of a fault. -/
def Fault.message (fault : Fault) : String :=
  "Pattern syntax error near position " ++ toString fault.position ++ ": " ++ fault.cause.message

/-! ## Reading -/

/-- What stands between brackets, behind the opening one; a closing bracket in the first place is
a character like any other. -/
def bracketed? : List Char → Option (List Char)
  | [] => none
  | first :: rest =>
    if rest.contains ']' then some (first :: rest.takeWhile (· != ']')) else none

/-- The choices that a text between brackets names. -/
def choices : List Char → List Choice
  | first :: '-' :: last :: rest => .range first last :: choices rest
  | character :: rest => .one character :: choices rest
  | [] => []

/-- Puts a token for directories behind others.  Two such tokens in a row are one, except at the
start of a pattern. -/
def pushDeep : List Token → List Token
  | .deep :: before :: more => .deep :: before :: more
  | tokens => .deep :: tokens

/-- Reads a pattern; the number of characters in front of the rest, the last of them and the
tokens for them, latest first, are given. -/
def readFrom (position : Nat) (previous : Option Char) (tokens : List Token) :
    List Char → Except Fault (List Token)
  | [] => .ok tokens.reverse
  | '?' :: rest => readFrom (position + 1) (some '?') (.anyChar :: tokens) rest
  | '*' :: '*' :: '*' :: _ => .error ⟨position + 2, .stars⟩
  | '*' :: '*' :: rest =>
    if previous.all (· == '/') then
      match rest with
      | [] => .ok (pushDeep tokens).reverse
      | '/' :: more => readFrom (position + 3) (some '/') (pushDeep tokens) more
      | _ => .error ⟨position + 2, .notAlone⟩
    else .error ⟨position - 1, .notAlone⟩
  | '*' :: rest => readFrom (position + 1) (some '*') (.many :: tokens) rest
  | '[' :: '!' :: rest =>
    match bracketed? rest with
    | none => .error ⟨position, .brackets⟩
    | some inner =>
      readFrom (position + inner.length + 3) (some ']') (.except (choices inner) :: tokens)
        (rest.drop (inner.length + 1))
  | '[' :: rest =>
    match bracketed? rest with
    | none => .error ⟨position, .brackets⟩
    | some inner =>
      readFrom (position + inner.length + 2) (some ']') (.within (choices inner) :: tokens)
        (rest.drop (inner.length + 1))
  | character :: rest =>
    readFrom (position + 1) (some character) (.char character :: tokens) rest
termination_by rest => rest.length
decreasing_by all_goals simp_all <;> omega

/-- The pattern that a text spells. -/
def Pattern.ofText (text : List Char) : Except Fault Pattern :=
  (readFrom 0 none [] text).map Pattern.mk

/-- Whether a text holds a star or question mark.  Other texts are names and no patterns. -/
def hasWildcard (text : List Char) : Bool :=
  text.contains '*' || text.contains '?'

/-- The text that is the only one to fit a pattern, if the pattern spells it out. -/
def Pattern.literal? (pattern : Pattern) : Option (List Char) :=
  pattern.tokens.mapM fun token =>
    match token with
    | .char character => some character
    | _ => none

end Glob
end KeyedText
