import KeyedText.Site.Basic

/-!
# Lookup calls

A site is replaced by a call of the lookup function with the key and an object, which holds the
text and the interpolated expressions.
-/

namespace KeyedText
namespace Keying

/-- A character as it is written between single quotes. -/
def escaped (character : Char) : List Char :=
  match character with
  | '\\' => ['\\', '\\']
  | '\'' => ['\\', '\'']
  | '\n' => ['\\', 'n']
  | '\r' => ['\\', 'r']
  | '\t' => ['\\', 't']
  | '\u2028' => ['\\', 'u', '2', '0', '2', '8']
  | '\u2029' => ['\\', 'u', '2', '0', '2', '9']
  | other => [other]

/-- A text as a string in single quotes. -/
def quoted (text : List Char) : List Char :=
  '\'' :: text.flatMap escaped ++ ['\'']

/-- An interpolation as a further property. -/
def furtherProperty (interpolation : Interpolation) : List Char :=
  [',', ' '] ++ interpolation.name.toList ++ [':', ' '] ++ interpolation.source

/-- The call that replaces a site. -/
def call (lookup key : String) (site : Site) : List Char :=
  let properties :=
    "defaultValue: ".toList ++ quoted site.text ++ site.interpolations.flatMap furtherProperty
  lookup.toList ++ ['('] ++ quoted key.toList ++ ", \x7b ".toList ++ properties
    ++ " \x7d)".toList

/-- What is put in the place of a site: the call, in braces where the site needs them. -/
def replacement (lookup key : String) (site : Site) : List Char :=
  let call := call lookup key site
  if site.kind.needsBraces then ['\x7b'] ++ call ++ ['\x7d'] else call

end Keying
end KeyedText
