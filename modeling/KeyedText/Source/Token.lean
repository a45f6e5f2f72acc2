import KeyedText.Source.Fault

/-!
# Tokens

A source text is read as a sequence of tokens: words, marks of punctuation, numbers and strings.
Templates, regular expressions and the text of elements are read piece by piece at the request of
the grammar, because only the grammar knows where they can stand.
-/

namespace KeyedText
namespace Source

/-- The marks of punctuation. -/
inductive Mark where
  | openParen | closeParen | openBracket | closeBracket | openBrace | closeBrace
  | semicolon | comma | dot | ellipsis | question | questionDot | colon | arrow
  | hash | atSign | backquote
  | assign | nullishAssign | andAssign | orAssign
  | addAssign | subtractAssign | multiplyAssign | powerAssign | divideAssign | remainderAssign
  | shiftLeftAssign | shiftRightAssign | unsignedShiftAssign
  | bitAndAssign | bitOrAssign | bitXorAssign
  | nullish | logicalOr | logicalAnd | bitOr | bitXor | bitAnd
  | equal | notEqual | identical | notIdentical
  | less | lessEqual | greater | greaterEqual
  | shiftLeft | shiftRight | unsignedShift
  | plus | minus | star | slash | percent | power
  | bang | tilde | increment | decrement
deriving DecidableEq, Repr

/-- The spelling of a mark. -/
def Mark.spelling : Mark → String
  | openParen => "(" | closeParen => ")" | openBracket => "[" | closeBracket => "]"
  | openBrace => "\x7b" | closeBrace => "\x7d"
  | semicolon => ";" | comma => "," | dot => "." | ellipsis => "..."
  | question => "?" | questionDot => "?." | colon => ":" | arrow => "=>"
  | hash => "#" | atSign => "@" | backquote => "\x60"
  | assign => "=" | nullishAssign => "??=" | andAssign => "&&=" | orAssign => "||="
  | addAssign => "+=" | subtractAssign => "-=" | multiplyAssign => "*=" | powerAssign => "**="
  | divideAssign => "/=" | remainderAssign => "%="
  | shiftLeftAssign => "<<=" | shiftRightAssign => ">>=" | unsignedShiftAssign => ">>>="
  | bitAndAssign => "&=" | bitOrAssign => "|=" | bitXorAssign => "^="
  | nullish => "??" | logicalOr => "||" | logicalAnd => "&&"
  | bitOr => "|" | bitXor => "^" | bitAnd => "&"
  | equal => "==" | notEqual => "!=" | identical => "===" | notIdentical => "!=="
  | less => "<" | lessEqual => "<=" | greater => ">" | greaterEqual => ">="
  | shiftLeft => "<<" | shiftRight => ">>" | unsignedShift => ">>>"
  | plus => "+" | minus => "-" | star => "*" | slash => "/" | percent => "%" | power => "**"
  | bang => "!" | tilde => "~" | increment => "++" | decrement => "--"

/-- Whether a mark assigns the value on its right, plainly or after an operation. -/
def Mark.assigns : Mark → Bool
  | assign | nullishAssign | andAssign | orAssign | addAssign | subtractAssign | multiplyAssign
  | powerAssign | divideAssign | remainderAssign | shiftLeftAssign | shiftRightAssign
  | unsignedShiftAssign | bitAndAssign | bitOrAssign | bitXorAssign => true
  | _ => false

/-- How tightly a binary operator binds. -/
def Mark.precedence? : Mark → Option Nat
  | nullish => some 1
  | logicalOr => some 2
  | logicalAnd => some 3
  | bitOr => some 4
  | bitXor => some 5
  | bitAnd => some 6
  | equal | notEqual | identical | notIdentical => some 7
  | less | lessEqual | greater | greaterEqual => some 8
  | shiftLeft | shiftRight | unsignedShift => some 9
  | plus | minus => some 10
  | star | slash | percent => some 11
  | power => some 12
  | _ => none

/-- A token. -/
inductive Token where
  /-- A name or a keyword. -/
  | word (name : String)
  /-- A mark of punctuation. -/
  | mark (punctuation : Mark)
  /-- A number, or a big integer. -/
  | number (big : Bool)
  /-- A string with its value, which is missing if it is no valid text. -/
  | string (value : Option String)
  /-- A piece of the text of an element, with its value. -/
  | elementText (value : String)
  /-- The end of the text. -/
  | finish
  /-- Characters that form no token. -/
  | broken (fault : Fault)
deriving DecidableEq, Repr

/-- The spelling of a token in messages. -/
def Token.spelling : Token → String
  | word name => name
  | .mark punctuation => punctuation.spelling
  | number _ => "numeric literal"
  | string _ => "string literal"
  | elementText _ => "jsx text"
  | finish => "<eof>"
  | broken _ => "<invalid>"

/-- The words that can never name a variable. -/
def reservedWords : List String :=
  ["break", "case", "catch", "class", "const", "continue", "debugger", "default", "delete", "do",
   "else", "enum", "export", "extends", "false", "finally", "for", "function", "if", "import",
   "in", "instanceof", "new", "null", "return", "super", "switch", "this", "throw", "true", "try",
   "typeof", "var", "void", "while", "with"]

/-- The words that strict code sets aside beyond the reserved ones. -/
def strictWords : List String :=
  ["implements", "interface", "let", "package", "private", "protected", "public", "static",
   "yield"]

/-- Whether a word can never name a variable. -/
def isReserved (name : String) : Bool :=
  reservedWords.contains name

/-- Whether a word is reserved in the strict code of a module. -/
def isReservedInModule (name : String) : Bool :=
  isReserved name || strictWords.contains name || name == "await"

/-- Whether a word is a name that strict code refuses to bind. -/
def isRestricted (name : String) : Bool :=
  name == "eval" || name == "arguments"

end Source
end KeyedText
