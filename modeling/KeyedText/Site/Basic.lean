import KeyedText.Site.Kind
import KeyedText.Source.Position

/-!
# Sites

A site carries the text that it holds, the span that a replacement covers, and what surrounds it.
-/

namespace KeyedText

/-- An expression that a template interpolates, under a name. -/
structure Interpolation where
  /-- The name. -/
  name : String
  /-- The expression as the source text spells it. -/
  source : List Char
deriving DecidableEq, Repr

/-- A place in a source text that holds text. -/
structure Site where
  /-- Where in the syntax the text stands. -/
  kind : SiteKind
  /-- The text, with the names of interpolations in double braces. -/
  text : List Char
  /-- The expressions that a template interpolates. -/
  interpolations : List Interpolation
  /-- The translatable attribute around the site, if there is one. -/
  holder : Option String
  /-- The innermost element around the site. -/
  tag : Option String
  /-- The number of elements around the site. -/
  depth : Nat
  /-- What a replacement covers. -/
  span : Source.Span
  /-- The line on which the site starts. -/
  line : Nat
  /-- The pieces of a template between its interpolations. -/
  chunks : List (List Char)
  /-- Why the site is left to a person, if it is. -/
  review : Option ReviewReason
deriving DecidableEq, Repr

end KeyedText
