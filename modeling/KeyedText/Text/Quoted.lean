import KeyedText.Character.Printable

/-!
# Quoted texts

Messages show a text between double quotes.  A character that would not be seen as itself is
shown by an escape, and so are the backslash and the quotes.
-/

namespace KeyedText
namespace Text

/-- A character as a quoted text shows it; some marks have a backslash in front of them. -/
def shown (marks : List Char) (character : Char) : List Char :=
  match character with
  | '\x00' => ['\\', '0']
  | '\t' => ['\\', 't']
  | '\n' => ['\\', 'n']
  | '\r' => ['\\', 'r']
  | other =>
    if marks.contains other then ['\\', other]
    else if Character.isPrintable other then [other]
    else ['\\', 'u', '\x7b'] ++ Nat.toDigits 16 other.toNat ++ ['\x7d']

/-- A text between double quotes. -/
def quoted (text : String) : String :=
  "\"" ++ String.ofList (text.toList.flatMap (shown ['"', '\\'])) ++ "\""

/-- A path between double quotes, in which single quotes are marked too. -/
def quotedPath (path : List Char) : String :=
  "\"" ++ String.ofList (path.flatMap (shown ['"', '\\', '\''])) ++ "\""

end Text
end KeyedText
