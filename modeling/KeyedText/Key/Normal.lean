import KeyedText.Character.Fold
import KeyedText.Character.Lower
import KeyedText.Character.Word
import KeyedText.Text.Runs

/-!
# Normal form of a text

Keys are derived from a normal form: lower-case words of ASCII letters and digits, each separated
from the next by one space, after synonyms have been put in the place of whole words.
-/

namespace KeyedText
namespace Key

/-- A word and what is put in its place. -/
structure Synonym where
  /-- The word, which is found whatever its case. -/
  word : List Char
  /-- What is put in its place. -/
  replacement : List Char
deriving DecidableEq, Repr

/-- Whether a boundary of a word lies between two neighbours. -/
def isBoundary (before behind : Option Char) : Bool :=
  before.any Character.isWord != behind.any Character.isWord

/-- Whether a text starts with a word, whatever its case. -/
def startsFolded : List Char → List Char → Bool
  | [], _ => true
  | _ :: _, [] => false
  | character :: word, found :: text =>
    Character.sameFold character found && startsFolded word text

/-- Whether a whole word stands at the front of a text; `before` is the character in front. -/
def isWordAt (word : List Char) (before : Option Char) (text : List Char) : Bool :=
  let last := if word.isEmpty then before else (text.take word.length).getLast?
  startsFolded word text && isBoundary before text.head?
    && isBoundary last (text.drop word.length).head?

/-- Puts a replacement in the place of a word wherever that stands in a text; the first `skip`
characters belong to an occurrence that was replaced. -/
def replaceFrom (synonym : Synonym) (skip : Nat) (before : Option Char) :
    List Char → List Char
  | [] =>
    if skip == 0 && synonym.word.isEmpty && isWordAt [] before [] then synonym.replacement else []
  | character :: rest =>
    match skip with
    | skip + 1 => replaceFrom synonym skip (some character) rest
    | 0 =>
      if isWordAt synonym.word before (character :: rest) then
        match synonym.word with
        | [] => synonym.replacement ++ character :: replaceFrom synonym 0 (some character) rest
        | _ :: others =>
          synonym.replacement ++ replaceFrom synonym others.length (some character) rest
      else character :: replaceFrom synonym 0 (some character) rest

/-- Puts a replacement in the place of a word wherever that stands in a text. -/
def Synonym.replace (synonym : Synonym) (text : List Char) : List Char :=
  replaceFrom synonym 0 none text

/-- Whether a character can stand in a word of a normal form. -/
def isKeyCharacter (character : Char) : Bool :=
  Character.isAsciiLower character || Character.isAsciiDigit character

/-- The words of a text that consist of small letters and digits of ASCII. -/
def keyWords (text : List Char) : List (List Char) :=
  Text.runs (fun character => !isKeyCharacter character) text

/-- The normal form of a text. -/
def normalForm (synonyms : List Synonym) (text : List Char) : List Char :=
  let replaced :=
    synonyms.foldl (fun text synonym => synonym.replace text) (Character.lower text)
  Text.joinedBy ' ' (keyWords (Character.lower replaced))

end Key
end KeyedText
