import KeyedText.Site.Basic
import KeyedText.Site.Situation

/-!
# Collecting sites

Every node has at most one site of its own: a string in a role, text between tags, or a template.
The sites of a program are those of all its nodes that are looked at.
-/

namespace KeyedText
namespace Site

open Source

/-- A site at a span of a source text. -/
def plainSite (source : List Char) (situation : Situation) (kind : SiteKind) (text : List Char)
    (span : Span) : Site where
  kind := kind
  text := text
  interpolations := []
  holder := situation.holder
  tag := situation.tags.head?
  depth := situation.tags.length
  span := span
  line := lineAt source span.start
  chunks := []
  review := none

/-! ## Text between tags -/

/-- The span of text between tags without the layout at its ends. -/
def proseSpan (source : List Char) (span : Span) : Span :=
  let raw := span.slice source
  let start := span.start + (raw.takeWhile Character.isLayout).length
  ⟨start, start + (Text.trimmedBy Character.isLayout raw).length⟩

/-! ## Templates -/

/-- The name that an interpolated expression suggests: that of a variable or of a member. -/
def suggestedName? (expression : Node) : Option String :=
  match expression.unwrapped.form with
  | .identifier name | .member name => some name
  | _ => none

/-- The option of a lookup that holds the text. -/
def textOption : String := "defaultValue"

/-- A name in the double braces in which a text refers to it. -/
def placeholder (name : String) : List Char :=
  ['\x7b', '\x7b'] ++ name.toList ++ ['\x7d', '\x7d']

/-- The chunks of a template with placeholders between them. -/
def filledWith : List (List Char) → List String → List Char
  | [], _ => []
  | chunk :: chunks, [] => chunk ++ filledWith chunks []
  | chunk :: chunks, name :: names => chunk ++ placeholder name ++ filledWith chunks names

/-- The names of the interpolated expressions, and the kind of site: a single expression is known
by the name that it suggests, others by their number. -/
def templateNames (expressions : List Node) : SiteKind × List String :=
  let numbered := (List.range expressions.length).map fun index => "value" ++ toString index
  match expressions with
  | [only] =>
    match suggestedName? only with
    | some name => (.namedTemplate, [if name == textOption then "value" else name])
    | none => (.mixedTemplate, numbered)
  | _ => (.mixedTemplate, numbered)

/-- The site of a template with valid chunks and at least one expression. -/
def template? (source : List Char) (situation : Situation) (chunks : List (Option String))
    (span : Span) (expressions : List Node) : Option Site :=
  match chunks.mapM id, expressions with
  | some valid, _ :: _ =>
    let chunks := valid.map String.toList
    let (kind, names) := templateNames expressions
    let interpolations := (names.zip expressions).map fun (name, expression) =>
      Interpolation.mk name (expression.span.slice source)
    some
      { plainSite source situation kind (filledWith chunks names) span with
        interpolations := interpolations
        chunks := chunks }
  | _, _ => none

/-! ## Nodes -/

/-- The site of a node itself, if it has one. -/
def own? (source : List Char) (situation : Situation) (form : Form) (span : Span)
    (parts : List Node) : Option Site :=
  if situation.suppressed then none
  else
    match form, situation.role with
    | .string (some value), some kind =>
      let site := plainSite source situation kind value.toList span
      if situation.split then some { site with review := some .splitAroundTag } else some site
    | .elementText value, _ =>
      let text := Text.collapseSpacing value.toList
      if text.isEmpty then none
      else some (plainSite source situation .elementText text (proseSpan source span))
    | .template chunks, _ => template? source situation chunks span parts
    | _, _ => none

mutual

/-- The sites in a node. -/
def sites (interest : Interest) (source : List Char) (situation : Situation) :
    Node → List Site
  | .mk form span parts =>
    (own? source situation form span parts).toList
      ++ sitesFrom interest source (situation.descend interest form parts) 0 parts
termination_by structural node => node

/-- The sites in the parts of a node from an index on; `descend` gives the situation of each. -/
def sitesFrom (interest : Interest) (source : List Char) (descend : Nat → Option Situation)
    (index : Nat) : List Node → List Site
  | [] => []
  | part :: rest =>
    let here :=
      match descend index with
      | some situation => sites interest source situation part
      | none => []
    here ++ sitesFrom interest source descend (index + 1) rest
termination_by structural parts => parts

end

/-- Whether a site comes before another one: it starts first, or holds the other. -/
def precedes (left right : Site) : Bool :=
  left.span.start < right.span.start
    || (left.span.start == right.span.start && right.span.stop ≤ left.span.stop)

/-- The sites of a program, each in front of those that it holds. -/
def collect (interest : Interest) (source : List Char) (program : Node) : List Site :=
  (sites interest source .outermost program).mergeSort precedes

end Site
end KeyedText
