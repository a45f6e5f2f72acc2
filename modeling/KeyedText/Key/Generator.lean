import KeyedText.Key.Normal
import KeyedText.Key.Slug
import KeyedText.Text.Search

/-!
# Deriving slugs

A chain of rules derives the slug of a text; the first rule that gives one decides.  The last rule
always does.  A table of patterns can decide ahead of the general rules.
-/

namespace KeyedText
namespace Key

/-- Texts and what they stand for, in the order in which they are tried. -/
abbrev Table := List (String × String)

/-- The tables that steer the derivation. -/
structure Tables where
  /-- Patterns and the slugs of the texts that contain them. -/
  patterns : Table
  /-- Words and what is put in their place. -/
  synonyms : Table
deriving DecidableEq, Repr

/-- What derives slugs. -/
structure Generator where
  /-- The synonyms of the normal form. -/
  synonyms : List Synonym
  /-- Patterns in normal form, none of them empty, and their slugs. -/
  patterns : List (List Char × String)
  /-- The bound for the length of a slug. -/
  limit : Nat

/-- The entries of a table as synonyms. -/
def Table.toSynonyms (table : Table) : List Synonym :=
  table.map fun (word, replacement) => ⟨word.toList, replacement.toList⟩

/-- The generator for tables and a bound. -/
def Generator.ofTables (tables : Tables) (limit : Nat) : Generator :=
  let synonyms := tables.synonyms.toSynonyms
  let patterns := tables.patterns.map fun (pattern, slug) =>
    (normalForm synonyms pattern.toList, slug)
  ⟨synonyms, patterns.filter fun (pattern, _) => !pattern.isEmpty, limit⟩

/-- A text whose slug is derived. -/
structure Subject where
  /-- The text without blanks at its ends. -/
  trimmed : List Char
  /-- The normal form of the text. -/
  base : List Char
  /-- The group of the key. -/
  group : String

/-! ## Rules -/

/-- The rules of the chain. -/
inductive SlugRule where
  /-- Texts of at most three characters. -/
  | shortText
  /-- Texts without any word. -/
  | emptyText
  /-- Phrases that tell what one or several persons do. -/
  | singularPlural
  /-- The table of patterns. -/
  | pattern
  /-- Phrases about the use of images. -/
  | imagesUsage
  /-- Phrases that tell what failed. -/
  | failurePhrase
  /-- Phrases that tell what has ended. -/
  | noLongerActive
  /-- The first significant words of any other text. -/
  | fallback
deriving DecidableEq, Repr

/-- The rules in the order of the chain. -/
def SlugRule.chain : List SlugRule :=
  [shortText, emptyText, singularPlural, pattern, imagesUsage, failurePhrase, noLongerActive,
   fallback]

/-- The name of a rule in traces. -/
def SlugRule.name : SlugRule → String
  | shortText => "short-text"
  | emptyText => "empty-text"
  | singularPlural => "singular-plural"
  | pattern => "keymap"
  | imagesUsage => "images-usage"
  | failurePhrase => "failure-phrase"
  | noLongerActive => "no-longer-active"
  | fallback => "fallback"

/-- The slug of a short text: its letters and digits, or the name of a mark. -/
def shortSlug (text : List Char) : List Char :=
  match text with
  | [','] => "comma".toList
  | ['.'] => "period".toList
  | ['!'] => "exclamation".toList
  | ['?'] => "question".toList
  | _ => (text.filter Character.isAsciiAlphanumeric).map Character.asciiLower

/-- Verbs that one or several persons are told to do, and the slugs of these phrases. -/
def sharedVerbs : List (String × String) :=
  [("following", "following_conversation"), ("typing", "typing"), ("online", "online"),
   ("offline", "offline")]

/-- The slug of a phrase that starts with a shared verb. -/
def sharedVerbSlug? (base : List Char) : Option (List Char) :=
  sharedVerbs.findSome? fun (verb, slug) =>
    if ("is " ++ verb).toList.isPrefixOf base then some (slug ++ "_single").toList
    else if ("are " ++ verb).toList.isPrefixOf base then some slug.toList
    else none

/-- The words that a pattern may have in the place of a slug to leave the text to later rules. -/
def passingSlugs : List String := ["failed_after", "_failed_after"]

/-- The words that a pattern may have in the place of a slug for what is not permitted. -/
def permissionSlugs : List String := ["permission_denied_after", "_permission_denied_after"]

/-- What a phrase about a permission asks permission for; `behind` is the text behind the pattern
that found the phrase. -/
def action? (base behind : List Char) : Option (List Char) :=
  let leading :=
    let phrase := Text.trimmed behind
    if ("to ".toList).isPrefixOf phrase then some (phrase.drop 3) else none
  (Text.behind? "permission to ".toList base).or
    (leading.or (Text.behindAny? ["not allowed to ".toList, "forbidden to ".toList] base))

/-- The slug of a phrase about a permission. -/
def permissionSlug (generator : Generator) (subject : Subject) (behind : List Char) :
    List Char :=
  match action? subject.base behind with
  | none => "permission_denied".toList
  | some action =>
    let segments := Text.runs (· == '.') subject.group.toList
    let words := significant (normalForm generator.synonyms action) segments 2
    let subjectWords := if words.isEmpty then "action".toList else words
    subjectWords ++ "_permission_denied".toList

/-- The slug that the first fitting pattern of a table gives. -/
def patternSlug? (generator : Generator) (subject : Subject) : Option (List Char) :=
  let hit := generator.patterns.findSome? fun (pattern, slug) =>
    (Text.behind? pattern subject.base).map fun behind => (behind, slug)
  match hit with
  | none => none
  | some (behind, slug) =>
    if passingSlugs.contains slug then none
    else if permissionSlugs.contains slug then some (permissionSlug generator subject behind)
    else some slug.toList

/-- Whether a text ends with another one. -/
def endsWith (ending text : List Char) : Bool :=
  ending.isSuffixOf text

/-- Whether a phrase is about the use of images. -/
def isAboutImages (base : List Char) : Bool :=
  let words := Text.runs (· == ' ') base
  let namesImages := words.any fun word => word == "image".toList || word == "images".toList
  let namesUse := words.any fun word =>
    ["use", "usage", "used", "using"].any fun ending => endsWith ending.toList word
  namesImages && namesUse

/-- What a phrase tells to have failed. -/
def failedAction? (base : List Char) : Option (List Char) :=
  Text.behindAny? ["failed to ".toList, "unable to ".toList, "could not ".toList] base

/-- The raw slug that a rule derives, if it applies. -/
def SlugRule.derive? (generator : Generator) (subject : Subject) : SlugRule → Option (List Char)
  | shortText =>
    if subject.trimmed.length ≤ 3 then some (shortSlug subject.trimmed) else none
  | emptyText => if subject.base.isEmpty then some "empty_text".toList else none
  | singularPlural => sharedVerbSlug? subject.base
  | pattern => patternSlug? generator subject
  | imagesUsage => if isAboutImages subject.base then some "images_usage".toList else none
  | failurePhrase =>
    (failedAction? subject.base).map fun action => significant action [] 3 ++ "_failed".toList
  | noLongerActive =>
    if Text.occurs "no longer active".toList subject.base then some "inactive".toList else none
  | fallback =>
    let words := significant subject.base [] 4
    some (if words.isEmpty then "text".toList else words)

/-! ## Derivation -/

/-- A slug and the rule that derived it. -/
structure Derivation where
  /-- The slug, which is empty if the text gives none. -/
  slug : List Char
  /-- The rule that decided. -/
  rule : SlugRule
deriving DecidableEq, Repr

/-- The subject of a text inside a group. -/
def Generator.subject (generator : Generator) (group : String) (text : List Char) : Subject :=
  ⟨Text.trimmed text, normalForm generator.synonyms text, group⟩

/-- Derives the slug of a text inside a group. -/
def Generator.derive (generator : Generator) (group : String) (text : List Char) : Derivation :=
  let subject := generator.subject group text
  let decided := SlugRule.chain.findSome? fun rule =>
    (rule.derive? generator subject).map fun raw => Derivation.mk (slugOf generator.limit raw) rule
  decided.getD ⟨slugOf generator.limit "text".toList, .fallback⟩

end Key
end KeyedText
