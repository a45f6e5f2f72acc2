import KeyedText.Character.Decimal
import KeyedText.Character.Fold
import KeyedText.Character.Lower
import KeyedText.Text.Search

/-!
# Verdicts

A chain of rules decides whether a text is meant for people; the first rule with an opinion
counts.  The chain leans towards yes: a wrong yes costs a reader a glance, a wrong no leaves a
text untranslated.
-/

namespace KeyedText
namespace Verdict

/-- What the rules know besides the text. -/
structure Criteria where
  /-- The attributes that hold short codes rather than prose. -/
  structural : List String
  /-- The name of the lookup function. -/
  lookup : String
deriving DecidableEq, Repr

/-- Marks of punctuation. -/
def punctuation : List Char :=
  ['.', ',', '!', '?', ';', ':', '(', ')', '[', ']', '\x7b', '\x7d', '"', '\'', '\x60', '~', '@',
   '#', '$', '%', '^', '&', '*', '+', '=', '|', '\\', '/', '<', '>']

/-- Words that are common on buttons and labels. -/
def commonWords : List String :=
  ["create", "edit", "delete", "save", "cancel", "close", "open", "add", "remove", "select",
   "choose", "enable", "disable", "show", "hide", "search", "filter", "sort", "refresh",
   "update", "submit", "reset", "back", "next", "previous", "first", "last", "home",
   "settings", "profile", "account", "user", "admin", "guest", "public", "private", "space",
   "room", "message", "notification", "error", "warning", "info", "success", "loading",
   "processing", "waiting", "ready", "online", "offline", "active", "inactive", "visible",
   "hidden", "enabled", "disabled", "required", "optional", "valid", "invalid", "empty",
   "full", "new", "old", "current", "all", "none", "some", "many", "few", "more", "less",
   "most", "least", "best", "good", "bad", "yes", "no", "ok", "confirm", "deny", "accept",
   "reject", "allow", "grant", "revoke", "lock", "unlock", "secure", "shared", "personal",
   "global", "local", "remote", "incoming", "outgoing", "upload", "download", "import",
   "export", "copy", "paste", "cut", "undo", "redo", "zoom", "move", "resize", "left",
   "right", "top", "bottom", "start", "end", "begin", "finish", "complete", "done",
   "pending", "scheduled", "expired", "collapsed", "expanded", "selected", "checked",
   "pinned", "archived", "deleted", "restored", "copied", "renamed", "created", "updated",
   "changed", "added", "removed", "cleared", "connected", "disconnected", "joined",
   "opened", "closed", "started", "stopped", "paused", "failed", "completed", "available",
   "unavailable", "restricted", "limited", "unlimited", "free", "basic", "advanced",
   "important", "urgent", "unknown", "manual", "automatic"]

/-- The rules of the chain. -/
inductive Rule where
  /-- At most one character. -/
  | tooShort
  /-- Two underscores or two hyphens in a row. -/
  | separator
  /-- A single mark of punctuation. -/
  | singlePunctuation
  /-- Nothing but digits. -/
  | numeric
  /-- A tag without attributes. -/
  | markupTag
  /-- A short word in an attribute that holds codes. -/
  | structuralAttribute
  /-- A fragment of program text. -/
  | codeFragment
  /-- A text with a space. -/
  | hasSpace
  /-- A text that starts with a capital. -/
  | capitalized
  /-- A text with a common word in it. -/
  | commonWord
  /-- Three characters or more, not all digits and punctuation. -/
  | wordlike
  /-- No rule has an opinion. -/
  | undecided
deriving DecidableEq, Repr

/-- The rules in the order of the chain. -/
def Rule.chain : List Rule :=
  [tooShort, separator, singlePunctuation, numeric, markupTag, structuralAttribute, codeFragment,
   hasSpace, capitalized, commonWord, wordlike]

/-- The name of a rule in traces. -/
def Rule.name : Rule → String
  | tooShort => "too-short"
  | separator => "separator"
  | singlePunctuation => "single-punctuation"
  | numeric => "numeric"
  | markupTag => "html-tag"
  | structuralAttribute => "structural-attribute"
  | codeFragment => "code-fragment"
  | hasSpace => "has-space"
  | capitalized => "capitalized"
  | commonWord => "ui-word"
  | wordlike => "wordlike"
  | undecided => "no-match"

/-- Whether a character is a letter of ASCII up to case. -/
def isTagLetter (character : Char) : Bool :=
  Character.isAsciiLower (Character.fold character)

/-- Whether a text is a tag without attributes. -/
def isTag (text : List Char) : Bool :=
  match text with
  | '<' :: rest =>
    let name := if rest.head? == some '/' then rest.tail else rest
    match name with
    | first :: others =>
      isTagLetter first && others.getLast? == some '>'
        && others.dropLast.all fun character =>
          isTagLetter character || Character.isAsciiDigit character
    | [] => false
  | _ => false

/-- Whether a text is a fragment of program text. -/
def isCode (lookup : String) (text : List Char) : Bool :=
  "ERROR:".toList.isPrefixOf text || "M_".toList.isPrefixOf text
    || Text.occurs "console.".toList text || (lookup.toList ++ ['(']).isPrefixOf text

/-- The opinion of a rule on a text, which may stand in an attribute. -/
def Rule.opinion? (criteria : Criteria) (holder : Option String) (text : List Char) :
    Rule → Option Bool
  | tooShort => if text.length ≤ 1 then some false else none
  | separator =>
    if Text.occurs ['_', '_'] text || Text.occurs ['-', '-'] text then some false else none
  | singlePunctuation =>
    match text with
    | [only] => if punctuation.contains only then some false else none
    | _ => none
  | numeric => if !text.isEmpty && text.all Character.isDecimal then some false else none
  | markupTag => if isTag text then some false else none
  | structuralAttribute =>
    if holder.any criteria.structural.contains && !text.contains ' ' && text.length < 10 then
      some false
    else none
  | codeFragment => if isCode criteria.lookup text then some false else none
  | hasSpace => if text.contains ' ' then some true else none
  | capitalized => if text.head?.any Character.isAsciiUpper then some true else none
  | commonWord =>
    let lowered := Character.lower text
    if commonWords.any fun word => Text.occurs word.toList lowered then some true else none
  | wordlike =>
    let isSymbol (character : Char) : Bool :=
      Character.isAsciiDigit character || punctuation.contains character
    if 2 < text.length && !text.all isSymbol then some true else none
  | undecided => some false

end Verdict

/-- Whether a text is meant for people, and the rule that decided. -/
structure Verdict where
  /-- Whether it is. -/
  accepted : Bool
  /-- The rule that decided. -/
  rule : Verdict.Rule
deriving DecidableEq, Repr

/-- The verdict on a text, which may stand in an attribute. -/
def Verdict.on (criteria : Criteria) (holder : Option String) (text : List Char) : Verdict :=
  let decided := Rule.chain.findSome? fun rule =>
    (rule.opinion? criteria holder text).map fun accepted => Verdict.mk accepted rule
  decided.getD ⟨false, .undecided⟩

end KeyedText
