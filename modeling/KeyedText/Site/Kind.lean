/-!
# Kinds of sites

A site is a place in a source text that holds text for people.  Its kind tells where in the syntax
it stands; kinds are counted in categories.
-/

namespace KeyedText

/-- Where in the syntax a text stands. -/
inductive SiteKind where
  /-- The quoted value of an attribute. -/
  | attributeValue
  /-- Text between tags. -/
  | elementText
  /-- A string in the braces of an element or attribute. -/
  | bracedLiteral
  /-- A branch of a conditional expression. -/
  | branch
  /-- The value of a property named `text`. -/
  | textProperty
  /-- A template with a name interpolated. -/
  | namedTemplate
  /-- Any other template. -/
  | mixedTemplate
deriving DecidableEq, Repr

/-- The categories in which conversions are counted. -/
inductive Category where
  | attributes
  | textContent
  | expressions
  | conditionals
  | arrays
  | templates
deriving DecidableEq, Repr

/-- All categories, in the order of reports. -/
def Category.all : List Category :=
  [attributes, textContent, expressions, conditionals, arrays, templates]

/-- The name of a category in reports. -/
def Category.name : Category → String
  | attributes => "attributes"
  | textContent => "text content"
  | expressions => "jsx expressions"
  | conditionals => "conditionals"
  | arrays => "arrays"
  | templates => "templates"

/-- The category of a kind. -/
def SiteKind.category : SiteKind → Category
  | attributeValue => .attributes
  | elementText => .textContent
  | bracedLiteral => .expressions
  | branch => .conditionals
  | textProperty => .arrays
  | namedTemplate | mixedTemplate => .templates

/-- Whether an expression can stand at a site only inside braces. -/
def SiteKind.needsBraces : SiteKind → Bool
  | attributeValue | elementText => true
  | _ => false

/-- Why a site is left to a person. -/
inductive ReviewReason where
  /-- No key can be derived from the text. -/
  | emptyKey
  /-- The text is one half of a sentence around an element. -/
  | splitAroundTag
deriving DecidableEq, Repr

/-- The name of a reason in logs. -/
def ReviewReason.name : ReviewReason → String
  | emptyKey => "empty-key-generated"
  | splitAroundTag => "split-around-tag"

end KeyedText
