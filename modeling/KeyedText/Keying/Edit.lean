import KeyedText.Source.Position

/-!
# Edits

An edit replaces a span of a text.  Edits are applied in the order of their spans; what lies
outside the spans is copied.  A replacement with fewer line feeds than the span is followed by the
missing ones, so every later line keeps its number.
-/

namespace KeyedText
namespace Keying

open Source

/-- A span and what is put in its place. -/
structure Edit where
  /-- What is replaced. -/
  span : Span
  /-- What is put in its place. -/
  replacement : List Char
deriving DecidableEq, Repr

/-- The number of line feeds in a text. -/
def lineFeeds (text : List Char) : Nat :=
  text.count '\n'

/-- The line feeds of the span of an edit that its replacement lacks. -/
def Edit.retained (edit : Edit) (text : List Char) : List Char :=
  List.replicate (lineFeeds (edit.span.slice text) - lineFeeds edit.replacement) '\n'

/-- What stands in the place of the span of an edit: the replacement and the missing line feeds. -/
def Edit.filling (edit : Edit) (text : List Char) : List Char :=
  edit.replacement ++ edit.retained text

/-- Whether an edit can be applied behind a position. -/
def Edit.fits (edit : Edit) (text : List Char) (cursor : Nat) : Bool :=
  cursor ≤ edit.span.start && edit.span.stop ≤ text.length && edit.span.start ≤ edit.span.stop

/-- Applies ordered edits to a text from a position on.  An edit that does not fit is dropped. -/
def spliceFrom (text : List Char) (cursor : Nat) : List Edit → List Char
  | [] => text.drop cursor
  | edit :: rest =>
    if edit.fits text cursor then
      Span.slice ⟨cursor, edit.span.start⟩ text ++ edit.filling text
        ++ spliceFrom text edit.span.stop rest
    else spliceFrom text cursor rest

/-- Whether an edit is applied before another one. -/
def Edit.precedes (left right : Edit) : Bool :=
  left.span.start < right.span.start
    || (left.span.start == right.span.start && left.span.stop ≤ right.span.stop)

/-- Applies edits to a text. -/
def splice (text : List Char) (edits : List Edit) : List Char :=
  spliceFrom text 0 (edits.mergeSort Edit.precedes)

@[simp] theorem splice_nil (text : List Char) : splice text [] = text := by
  simp [splice, spliceFrom]

end Keying
end KeyedText
