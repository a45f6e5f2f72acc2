import KeyedText.Character.Blank
import KeyedText.Character.Identifier
import KeyedText.Source.Entity
import KeyedText.Source.Token

/-!
# Scanning

Each scan reads one token, or one piece of a template, regular expression or element text, from
the front of a text.  The scans recurse on the text itself; where one step takes several
characters at once, it counts how many of them are still ahead.
-/

namespace KeyedText
namespace Source

/-- A scanned token. -/
structure Scanned where
  /-- The token. -/
  token : Token
  /-- The text behind it. -/
  rest : List Char
  /-- The position behind it. -/
  stop : Nat
  /-- The faults that were noted on the way. -/
  faults : List Fault := []

/-- Whether a character ends a line of program text. -/
def isLineTerminator (character : Char) : Bool :=
  character == '\n' || character == '\r' || character == '\u2028' || character == '\u2029'

/-! ## Gaps between tokens -/

/-- What kind of gap between two tokens a scan is in. -/
inductive Gap where
  /-- Outside comments. -/
  | free
  /-- Inside a comment that ends with its line. -/
  | line
  /-- Behind the slash that opens a comment. -/
  | blockOpen (start : Nat)
  /-- Inside a comment that ends with an asterisk and a slash. -/
  | block (start : Nat)
  /-- Behind the asterisk that closes a comment. -/
  | blockClose

/-- The end of a gap. -/
structure GapEnd where
  /-- The text behind the gap. -/
  rest : List Char
  /-- The position behind the gap. -/
  stop : Nat
  /-- Whether the gap holds a line break. -/
  newline : Bool
  /-- The faults that were noted on the way. -/
  faults : List Fault
  /-- The fault that ends the reading, if there is one. -/
  broken : Option Fault

/-- Skips white space and comments. -/
def skipGap (gap : Gap) (newline : Bool) (faults : List Fault) (position : Nat) :
    List Char → GapEnd
  | [] =>
    let broken :=
      match gap with
      | .block start | .blockOpen start => some ⟨start, .unterminatedComment⟩
      | _ => none
    ⟨[], position, newline, faults, broken⟩
  | character :: rest =>
    match gap with
    | .line =>
      if isLineTerminator character then skipGap .free true faults (position + 1) rest
      else skipGap .line newline faults (position + 1) rest
    | .blockOpen start => skipGap (.block start) newline faults (position + 1) rest
    | .block start =>
      if character == '*' && rest.head? == some '/' then
        skipGap .blockClose newline faults (position + 1) rest
      else
        skipGap (.block start) (newline || isLineTerminator character) faults (position + 1) rest
    | .blockClose => skipGap .free newline faults (position + 1) rest
    | .free =>
      if character == '/' && rest.head? == some '/' then
        skipGap .line newline faults (position + 1) rest
      else if character == '/' && rest.head? == some '*' then
        skipGap (.blockOpen position) newline faults (position + 1) rest
      else if (character == '<' && ['!', '-', '-'].isPrefixOf rest)
          || (character == '-' && newline && ['-', '>'].isPrefixOf rest) then
        skipGap .line newline (⟨position, .markupComment⟩ :: faults) (position + 1) rest
      else if isLineTerminator character then skipGap .free true faults (position + 1) rest
      else if Character.isBlank character || character == '\ufeff' then
        skipGap .free newline faults (position + 1) rest
      else ⟨character :: rest, position, newline, faults, none⟩

/-! ## Words -/

/-- A scanned name. -/
structure NameScan where
  /-- The characters of the name, escapes resolved. -/
  name : List Char
  /-- The text behind it. -/
  rest : List Char
  /-- The position behind it. -/
  stop : Nat
  /-- Whether the name is spelled with escapes. -/
  escaped : Bool
  /-- The fault that ends the reading, if there is one. -/
  broken : Option Fault

/-- Reads the characters of a name; `taken` holds those read so far, latest first. -/
def scanName (skip : Nat) (taken : List Char) (escaped : Bool) (position : Nat) :
    List Char → NameScan
  | [] => ⟨taken.reverse, [], position, escaped, none⟩
  | character :: rest =>
    match skip with
    | skip + 1 => scanName skip taken escaped (position + 1) rest
    | 0 =>
      if character == '\\' then
        match (if rest.head? == some 'u' then unicodeEscape rest.tail else .malformed 0) with
        | .code code length =>
          let meant := Char.ofNat code
          let fits :=
            if taken.isEmpty then Character.startsIdentifier meant
            else Character.continuesIdentifier meant
          if fits then scanName length (meant :: taken) true (position + 1) rest
          else ⟨taken.reverse, rest, position + 1, true, some ⟨position, .badEscape⟩⟩
        | _ => ⟨taken.reverse, rest, position + 1, true, some ⟨position, .badEscape⟩⟩
      else if Character.continuesIdentifier character then
        scanName 0 (character :: taken) escaped (position + 1) rest
      else ⟨taken.reverse, character :: rest, position, escaped, none⟩

/-- Scans a word. -/
def scanWord (position : Nat) (text : List Char) : Scanned :=
  let scan := scanName 0 [] false position text
  let name := String.ofList scan.name
  let token :=
    match scan.broken with
    | some fault => .broken fault
    | none =>
      if scan.escaped && isReservedInModule name then
        .broken ⟨position, .escapedReservedWord⟩
      else .word name
  ⟨token, scan.rest, scan.stop, []⟩

/-! ## Numbers -/

/-- The digits and separators at the front of a text. -/
def digitRun (base : Nat) (text : List Char) : List Char :=
  text.takeWhile fun character => (digitValue? base character).isSome || character == '_'

/-- Whether no two separators of a run touch. -/
def separatorsApart : List Char → Bool
  | '_' :: '_' :: _ => false
  | _ :: rest => separatorsApart rest
  | [] => true

/-- The fault of a run in which a separator does not stand between two digits. -/
def separatorFaults (position : Nat) (run : List Char) : List Fault :=
  if run.head? == some '_' || run.getLast? == some '_' || !separatorsApart run then
    [⟨position, .misplacedSeparator⟩]
  else []

/-- Ends a number, which no name may touch. -/
def endNumber (position : Nat) (text : List Char) (big : Bool) (length : Nat)
    (faults : List Fault) : Scanned :=
  let rest := text.drop length
  let touched := rest.head?.any Character.startsIdentifier
  let token :=
    if touched then .broken ⟨position + length, .nameAfterNumber⟩ else .number big
  ⟨token, rest, position + length, faults⟩

/-- Scans a number in a base other than ten; the text starts with the two characters of its
mark. -/
def scanBased (base : Nat) (position : Nat) (text : List Char) : Scanned :=
  let run := digitRun base (text.drop 2)
  let length := 2 + run.length
  let faults := separatorFaults position run
  if run.isEmpty then ⟨.broken ⟨position, .digitExpected⟩, text.drop 2, position + 2, []⟩
  else if text[length]? == some 'n' then endNumber position text true (length + 1) faults
  else endNumber position text false length faults

/-- Scans the exponent of a number, which may be missing. -/
def scanExponent (position : Nat) (text : List Char) (length : Nat) (faults : List Fault) :
    Scanned :=
  match text.drop length with
  | mark :: rest =>
    if mark == 'e' || mark == 'E' then
      let signed := rest.head? == some '+' || rest.head? == some '-'
      let digits := if signed then rest.tail else rest
      let run := digitRun 10 digits
      let length := length + 1 + (if signed then 1 else 0)
      if run.isEmpty then
        ⟨.broken ⟨position, .digitExpected⟩, text.drop length, position + length, faults⟩
      else
        endNumber position text false (length + run.length)
          (separatorFaults position run ++ faults)
    else endNumber position text false length faults
  | [] => endNumber position text false length faults

/-- Scans a number in base ten, or in the old octal form. -/
def scanDecimal (position : Nat) (text : List Char) : Scanned :=
  let whole := digitRun 10 text
  let faults := separatorFaults position whole
  let zeroFirst := whole.head? == some '0' && 1 < whole.length
  if text[whole.length]? == some 'n' && !whole.isEmpty && !zeroFirst then
    ⟨.number true, text.drop (whole.length + 1), position + whole.length + 1, faults⟩
  else if zeroFirst && !whole.any (fun digit => digit == '8' || digit == '9') then
    endNumber position text false whole.length (⟨position, .legacyOctal⟩ :: faults)
  else
    let faults := if zeroFirst then ⟨position, .legacyDecimal⟩ :: faults else faults
    if text[whole.length]? == some '.' then
      let fraction := digitRun 10 (text.drop (whole.length + 1))
      scanExponent position text (whole.length + 1 + fraction.length)
        (separatorFaults position fraction ++ faults)
    else scanExponent position text whole.length faults

/-- Scans a number. -/
def scanNumber (position : Nat) (text : List Char) : Scanned :=
  match text with
  | '0' :: mark :: _ =>
    if mark == 'x' || mark == 'X' then scanBased 16 position text
    else if mark == 'o' || mark == 'O' then scanBased 8 position text
    else if mark == 'b' || mark == 'B' then scanBased 2 position text
    else scanDecimal position text
  | _ => scanDecimal position text

/-! ## Strings -/

/-- Scans the inside of a string; `codes` holds what was read so far, latest first. -/
def scanStringFrom (quote : Char) (start : Nat) (skip : Nat) (codes : List Nat)
    (faults : List Fault) (position : Nat) : List Char → Scanned
  | [] =>
    ⟨.string (textOfCodes codes.reverse), [], position, ⟨start, .unterminatedString⟩ :: faults⟩
  | character :: rest =>
    match skip with
    | skip + 1 => scanStringFrom quote start skip codes faults (position + 1) rest
    | 0 =>
      if character == quote then
        ⟨.string (textOfCodes codes.reverse), rest, position + 1, faults⟩
      else if character == '\n' || character == '\r' then
        ⟨.string (textOfCodes codes.reverse), character :: rest, position,
          ⟨start, .unterminatedString⟩ :: faults⟩
      else if character == '\\' then
        match escapeSequence rest with
        | .code code length =>
          scanStringFrom quote start length (code :: codes) faults (position + 1) rest
        | .nothing length => scanStringFrom quote start length codes faults (position + 1) rest
        | .octal code length =>
          scanStringFrom quote start length (code :: codes)
            (⟨position, .legacyOctal⟩ :: faults) (position + 1) rest
        | .malformed _ => ⟨.broken ⟨position, .badEscape⟩, rest, position + 1, faults⟩
      else
        scanStringFrom quote start 0 (character.toNat :: codes) faults (position + 1) rest

/-- Scans a string, which starts with its quote. -/
def scanString (position : Nat) (text : List Char) : Scanned :=
  match text with
  | quote :: rest => scanStringFrom quote position 0 [] [] (position + 1) rest
  | [] => ⟨.finish, [], position, []⟩

/-! ## Marks -/

/-- The marks by their spelling, longer spellings first.  Of the marks that start with `>` only
the shortest is scanned, because it also closes a list of types. -/
def markSpellings : List (List Char × Mark) :=
  [(['?', '?', '='], .nullishAssign), (['&', '&', '='], .andAssign), (['|', '|', '='], .orAssign),
   (['*', '*', '='], .powerAssign), (['<', '<', '='], .shiftLeftAssign),
   (['=', '=', '='], .identical), (['!', '=', '='], .notIdentical), (['.', '.', '.'], .ellipsis),
   (['=', '>'], .arrow), (['?', '?'], .nullish), (['|', '|'], .logicalOr),
   (['&', '&'], .logicalAnd), (['=', '='], .equal), (['!', '='], .notEqual),
   (['<', '='], .lessEqual), (['<', '<'], .shiftLeft), (['*', '*'], .power),
   (['+', '+'], .increment), (['-', '-'], .decrement), (['+', '='], .addAssign),
   (['-', '='], .subtractAssign), (['*', '='], .multiplyAssign), (['/', '='], .divideAssign),
   (['%', '='], .remainderAssign), (['&', '='], .bitAndAssign), (['|', '='], .bitOrAssign),
   (['^', '='], .bitXorAssign), (['('], .openParen), ([')'], .closeParen), (['['], .openBracket),
   ([']'], .closeBracket), (['{'], .openBrace), (['}'], .closeBrace), ([';'], .semicolon),
   ([','], .comma), (['.'], .dot), (['?'], .question), ([':'], .colon), (['#'], .hash),
   (['@'], .atSign), (['\x60'], .backquote), (['='], .assign), (['|'], .bitOr), (['^'], .bitXor),
   (['&'], .bitAnd), (['<'], .less), (['>'], .greater), (['+'], .plus), (['-'], .minus),
   (['*'], .star), (['/'], .slash), (['%'], .percent), (['!'], .bang), (['~'], .tilde)]

/-- The marks that start with `>`, longer spellings first. -/
def greaterSpellings : List (List Char × Mark) :=
  [(['>', '>', '>', '='], .unsignedShiftAssign), (['>', '>', '>'], .unsignedShift),
   (['>', '>', '='], .shiftRightAssign), (['>', '>'], .shiftRight), (['>', '='], .greaterEqual),
   (['>'], .greater)]

/-- The first mark of a list that a text starts with. -/
def firstMark? (spellings : List (List Char × Mark)) (text : List Char) :
    Option (List Char × Mark) :=
  spellings.find? fun entry => entry.1.isPrefixOf text

/-- Scans a mark.  A question mark and a dot belong together unless a digit follows. -/
def scanMark? (text : List Char) : Option (List Char × Mark) :=
  match text with
  | '?' :: '.' :: rest =>
    if rest.head?.any Character.isAsciiDigit then some (['?'], .question)
    else some (['?', '.'], .questionDot)
  | _ => firstMark? markSpellings text

/-! ## Tokens -/

/-- Scans the token at the front of a text that starts with no gap. -/
def scanToken (position : Nat) (text : List Char) : Scanned :=
  match text with
  | [] => ⟨.finish, [], position, []⟩
  | character :: rest =>
    if Character.startsIdentifier character || character == '\\' then scanWord position text
    else if Character.isAsciiDigit character
        || (character == '.' && rest.head?.any Character.isAsciiDigit) then
      scanNumber position text
    else if character == '"' || character == '\'' then scanString position text
    else
      match scanMark? text with
      | some (spelling, mark) =>
        ⟨.mark mark, text.drop spelling.length, position + spelling.length, []⟩
      | none => ⟨.broken ⟨position, .strayCharacter character⟩, rest, position + 1, []⟩

/-! ## Templates and regular expressions -/

/-- A scanned chunk of a template. -/
structure ChunkScan where
  /-- The code points of the chunk. -/
  codes : List Nat
  /-- The first escape sequence of the chunk that stands for nothing. -/
  malformed : Option Fault
  /-- Whether the chunk is the last one; nothing if the text ends inside the chunk. -/
  last : Option Bool
  /-- The text behind the chunk and the mark that ends it. -/
  rest : List Char
  /-- The position of that text. -/
  stop : Nat

/-- Scans a chunk of a template up to its end or to an interpolated expression. -/
def scanChunk (skip : Nat) (codes : List Nat) (malformed : Option Fault) (position : Nat) :
    List Char → ChunkScan
  | [] => ⟨codes.reverse, malformed, none, [], position⟩
  | character :: rest =>
    match skip with
    | skip + 1 => scanChunk skip codes malformed (position + 1) rest
    | 0 =>
      if character == '\x60' then ⟨codes.reverse, malformed, some true, rest, position + 1⟩
      else if character == '$' && rest.head? == some '{' then
        ⟨codes.reverse, malformed, some false, rest.tail, position + 2⟩
      else if character == '\r' then
        scanChunk (if rest.head? == some '\n' then 1 else 0) (10 :: codes) malformed
          (position + 1) rest
      else if character == '\\' then
        match escapeSequence rest with
        | .code code length => scanChunk length (code :: codes) malformed (position + 1) rest
        | .nothing length => scanChunk length codes malformed (position + 1) rest
        | .octal _ length | .malformed length =>
          scanChunk length codes (some (malformed.getD ⟨position, .badEscape⟩))
            (position + 1) rest
      else scanChunk 0 (character.toNat :: codes) malformed (position + 1) rest

/-- Scans a regular expression from behind its first slash: the text and position behind its last
one, or nothing if its line ends first. -/
def scanRegex (inClass escaped : Bool) (position : Nat) :
    List Char → Option (List Char × Nat)
  | [] => none
  | character :: rest =>
    if isLineTerminator character then none
    else if escaped then scanRegex inClass false (position + 1) rest
    else if character == '/' && !inClass then some (rest, position + 1)
    else
      let inClass :=
        if character == '[' then true else if character == ']' then false else inClass
      scanRegex inClass (character == '\\') (position + 1) rest

/-- Whether the flags of a regular expression are known and differ. -/
def regexFlagsFit (flags : List Char) : Bool :=
  flags.all (fun flag => "dgimsuvy".toList.contains flag) && flags.Nodup

/-! ## Elements -/

/-- Scans a piece of the text of an element, or the mark that ends the text.  A closing bracket of
either kind is noted as a fault. -/
def scanElementToken (position : Nat) (text : List Char) : Scanned :=
  match text with
  | [] => ⟨.finish, [], position, []⟩
  | '<' :: rest => ⟨.mark .less, rest, position + 1, []⟩
  | '{' :: rest => ⟨.mark .openBrace, rest, position + 1, []⟩
  | _ =>
    let raw := text.takeWhile fun character => character != '<' && character != '{'
    let stray := raw.takeWhile fun character => character != '>' && character != '}'
    let faults :=
      if stray.length < raw.length then
        [⟨position + stray.length, .strayInElementText⟩]
      else []
    ⟨.elementText (String.ofList (resolveReferences raw)), text.drop raw.length,
      position + raw.length, faults⟩

/-- Scans the quoted value of an attribute, which starts with its quote. -/
def scanAttributeValue (position : Nat) (text : List Char) : Scanned :=
  match text with
  | [] => ⟨.finish, [], position, []⟩
  | quote :: rest =>
    let raw := rest.takeWhile (· != quote)
    let value := String.ofList (resolveReferences (doubleLineFeeds raw))
    let behind := rest.drop raw.length
    let faults := if behind.isEmpty then [⟨position, .unterminatedString⟩] else []
    let closing := if behind.isEmpty then 0 else 1
    ⟨.string (some value), behind.tail, position + 1 + raw.length + closing, faults⟩

/-- The rest of a tag or attribute name, in which hyphens can stand. -/
def scanElementName (text : List Char) : List Char :=
  text.takeWhile fun character => Character.continuesIdentifier character || character == '-'

end Source
end KeyedText
