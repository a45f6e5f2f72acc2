/-!
# Positions in a source text

A source text is a list of characters and a position counts the characters in front of it.  A
span is a half-open range of positions.  Lines are counted from one; a line feed, a carriage
return, and the pair of both each end a line.
-/

namespace KeyedText
namespace Source

/-- A half-open range of positions. -/
structure Span where
  /-- The position of the first character. -/
  start : Nat
  /-- The position behind the last character. -/
  stop : Nat
deriving DecidableEq, Repr

/-- The characters of a text that a span covers. -/
def Span.slice (span : Span) (text : List Char) : List Char :=
  (text.drop span.start).take (span.stop - span.start)

/-- Whether a span lies inside another one. -/
def Span.within (inner outer : Span) : Prop :=
  outer.start ≤ inner.start ∧ inner.stop ≤ outer.stop

/-- Whether a span ends before another one starts. -/
def Span.before (left right : Span) : Prop :=
  left.stop ≤ right.start

/-- Whether a character ends a line, seen with what follows it.  A carriage return in front of a
line feed leaves that to the line feed. -/
def endsLine (character : Char) (after : List Char) : Bool :=
  character == '\n' || (character == '\r' && after.head? != some '\n')

/-- The line of a position, counted from one.  The end of a text that ends with a line break
belongs to the line that this break ends. -/
def lineAt : List Char → Nat → Nat
  | [], _ => 1
  | _ :: _, 0 => 1
  | character :: after, position + 1 =>
    if endsLine character after && !after.isEmpty then lineAt after position + 1
    else lineAt after position

@[simp] theorem lineAt_nil (position : Nat) : lineAt [] position = 1 := by
  cases position <;> rfl

@[simp] theorem lineAt_zero (text : List Char) : lineAt text 0 = 1 := by
  cases text <;> rfl

end Source
end KeyedText
