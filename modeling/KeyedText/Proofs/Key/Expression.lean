import KeyedText.Key.Normal
import Mathlib.Data.List.Basic

/-!
# Search expressions

An expression tells what a search looks for.  At one place of a text it may match in several ways,
which are tried in an order: of several texts the first that stands there, of a run of characters
the longest.  A search finds the first way at the first place that has one, and what the expression
keeps of it.
-/

namespace KeyedText
namespace Key

/-- What a search looks for. -/
inductive Expression where
  /-- The start of the text. -/
  | start
  /-- A place at which a word starts or ends. -/
  | edge
  /-- One of several texts. -/
  | anyOf (texts : List (List Char))
  /-- One or more characters of a class. -/
  | run (fits : Char → Bool)
  /-- What an expression takes, to be kept. -/
  | kept (inner : Expression)
  /-- An expression with another one behind it. -/
  | followedBy (first second : Expression)

/-- A way in which an expression matches at the front of a text. -/
structure Way where
  /-- The text that is matched. -/
  taken : List Char
  /-- What is kept of it. -/
  kept : Option (List Char)
  /-- The text behind it. -/
  rest : List Char

/-- The ways to take characters of a class, the longest first. -/
def runWays (fits : Char → Bool) : List Char → List Way
  | [] => []
  | character :: rest =>
    if fits character then
      (runWays fits rest).map (fun way => { way with taken := character :: way.taken })
        ++ [⟨[character], none, rest⟩]
    else []

namespace Expression

/-- The ways in which an expression matches at the front of a text, in the order in which they are
tried; `before` is the character in front. -/
def ways : Expression → Option Char → List Char → List Way
  | start, before, text => if before.isNone then [⟨[], none, text⟩] else []
  | edge, before, text => if isBoundary before text.head? then [⟨[], none, text⟩] else []
  | anyOf texts, _, text =>
    (texts.filter (·.isPrefixOf text)).map fun found => ⟨found, none, text.drop found.length⟩
  | run fits, _, text => runWays fits text
  | kept inner, before, text =>
    (inner.ways before text).map fun way => { way with kept := some way.taken }
  | followedBy first second, before, text =>
    (first.ways before text).flatMap fun way =>
      (second.ways (way.taken.getLast?.or before) way.rest).map fun next =>
        ⟨way.taken ++ next.taken, next.kept.or way.kept, next.rest⟩

/-- The first way at the first place of a text that has one; `before` is the character in front. -/
def findFrom? (expression : Expression) (before : Option Char) : List Char → Option Way
  | [] => (expression.ways before []).head?
  | character :: rest =>
    (expression.ways before (character :: rest)).head?.or
      (expression.findFrom? (some character) rest)

/-- What a search of a text keeps. -/
def keeps? (expression : Expression) (text : List Char) : Option (List Char) :=
  (expression.findFrom? none text).bind Way.kept

/-- Whether a search of a text finds anything. -/
def occurs (expression : Expression) (text : List Char) : Bool :=
  (expression.findFrom? none text).isSome

/-! ## Places with a way -/

theorem getLast?_cons_or
    (character : Char)
    (front : List Char)
    (before : Option Char) :
    (character :: front).getLast?.or before = front.getLast?.or (some character) := by
  rw [List.getLast?_cons]
  cases front.getLast? <;> rfl

theorem ways_edge_ne_nil_iff
    {before : Option Char}
    {text : List Char} :
    edge.ways before text ≠ [] ↔ isBoundary before text.head? = true := by
  rw [ways]
  split <;> simp [*]

theorem ways_edge_followedBy_ne_nil_iff
    {second : Expression}
    {before : Option Char}
    {text : List Char} :
    (edge.followedBy second).ways before text ≠ [] ↔
      isBoundary before text.head? = true ∧ second.ways before text ≠ [] := by
  rw [ways, ways]
  split <;> simp [*]

/-- One of several texts matches in front of another expression where it stands and the other one
matches behind it. -/
theorem ways_anyOf_followedBy_ne_nil_iff
    {texts : List (List Char)}
    {second : Expression}
    {before : Option Char}
    {text : List Char} :
    ((anyOf texts).followedBy second).ways before text ≠ [] ↔
      ∃ found ∈ texts, ∃ rest,
        text = found ++ rest ∧ second.ways (found.getLast?.or before) rest ≠ [] := by
  simp only [ways, ne_eq, List.flatMap_eq_nil_iff, List.map_eq_nil_iff, List.forall_mem_map,
    not_forall, List.mem_filter, List.isPrefixOf_iff_prefix]
  constructor
  · rintro ⟨found, ⟨isText, rest, rfl⟩, matched⟩
    rw [List.drop_left] at matched
    exact ⟨found, isText, rest, rfl, matched⟩
  · rintro ⟨found, isText, rest, rfl, matched⟩
    refine ⟨found, ⟨isText, List.prefix_append _ _⟩, ?_⟩
    rwa [List.drop_left]

/-- A search finds something exactly if the expression matches at some place. -/
theorem isSome_findFrom?_iff
    {expression : Expression}
    {before : Option Char}
    {text : List Char} :
    (expression.findFrom? before text).isSome = true ↔
      ∃ front back,
        text = front ++ back ∧ expression.ways (front.getLast?.or before) back ≠ [] := by
  induction text generalizing before with
  | nil => simp [findFrom?]
  | cons character rest inductionHypothesis =>
      rw [findFrom?, Option.isSome_or, Bool.or_eq_true, List.isSome_head?, inductionHypothesis]
      constructor
      · rintro (here | ⟨front, back, rfl, later⟩)
        · exact ⟨[], character :: rest, rfl, here⟩
        · refine ⟨character :: front, back, rfl, ?_⟩
          rwa [getLast?_cons_or]
      · rintro ⟨_ | ⟨first, front⟩, back, split, matched⟩
        · exact Or.inl (split ▸ matched)
        · obtain ⟨rfl, rfl⟩ := List.cons.inj split
          rw [getLast?_cons_or] at matched
          exact Or.inr ⟨front, back, rfl, matched⟩

end Expression
end Key
end KeyedText
