import KeyedText.Text.Runs
import KeyedText.Character.Range

/-!
# Slugs

A slug is the last part of a key: small letters and digits of ASCII in words that single
underscores join, within a bound for its length.
-/

namespace KeyedText
namespace Key

/-- The words of a text for a slug: its longest runs of ASCII letters and digits, in lower case. -/
def slugWords (text : List Char) : List (List Char) :=
  (Text.runs (fun character => !Character.isAsciiAlphanumeric character) text).map
    (·.map Character.asciiLower)

/-- Drops the underscores at the end of a text. -/
def dropTrailing (text : List Char) : List Char :=
  (text.reverse.dropWhile (· == '_')).reverse

/-- The slug that a text stands for, cut to a length. -/
def slugOf (limit : Nat) (text : List Char) : List Char :=
  dropTrailing ((Text.joinedBy '_' (slugWords text)).take limit)

/-- Words that carry no meaning in a key. -/
def stopwords : List String :=
  ["a", "an", "the", "to", "of", "is", "has", "have", "had", "been", "be", "are", "was", "were",
   "no", "not", "and", "or", "for", "in", "on", "at", "by", "with", "this", "that", "these",
   "those", "you", "how", "being", "select", "as", "both"]

/-- The first words of a text that are neither stopwords nor excluded, joined by underscores. -/
def significant (text : List Char) (excluded : List (List Char)) (limit : Nat) : List Char :=
  let words := Text.runs (· == ' ') text
  let kept :=
    words.filter fun word =>
      !stopwords.contains (String.ofList word) && !excluded.contains word
  Text.joinedBy '_' (kept.take limit)

end Key
end KeyedText
