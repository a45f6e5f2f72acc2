import KeyedText.Proofs.Keying.Splicing
import KeyedText.Proofs.Text.Pieces
import Mathlib.Data.List.TakeWhile

/-!
# Retention of lines

Where every replaced span is given a piece with the same number of line feeds,
what lies behind the span stays on its line.  If moreover no replaced span ends
with a line feed, the span touches every line that its piece reaches into, so a
line that no span touches is the same as before.
-/

namespace KeyedText
namespace Keying

open Source

/-! ## Lines of positions -/

/-- The index of the line on which a position of a text lies. -/
def lineIndex (text : List Char) (position : Nat) : Nat :=
  lineFeeds (text.take position)

@[simp] theorem lineFeeds_nil : lineFeeds [] = 0 := rfl

@[simp] theorem lineFeeds_append
    (front back : List Char) :
    lineFeeds (front ++ back) = lineFeeds front + lineFeeds back :=
  List.count_append

@[simp] theorem lineIndex_zero
    (text : List Char) :
    lineIndex text 0 = 0 := rfl

/-- Behind a slice the line is as many lines further as the slice has line feeds. -/
theorem lineIndex_add_slice
    (text : List Char)
    {start stop : Nat}
    (ordered : start ≤ stop) :
    lineIndex text stop = lineIndex text start + lineFeeds (Span.slice ⟨start, stop⟩ text) := by
  unfold lineIndex Span.slice
  rw [← lineFeeds_append, ← List.take_add, Nat.add_sub_cancel' ordered]

/-- A line feed is the last character of its line. -/
theorem lineIndex_succ
    (text : List Char)
    (position : Nat) :
    lineIndex text (position + 1) =
      lineIndex text position + if text[position]? = some '\n' then 1 else 0 := by
  unfold lineIndex
  rw [List.take_add_one, lineFeeds_append]
  cases text[position]? with
  | none => rfl
  | some character =>
      have single : lineFeeds [character] = if some character = some '\n' then 1 else 0 := by
        simp [lineFeeds, List.count_singleton]
      rw [Option.toList_some, single]

/-- Between two positions there is one on every line in between. -/
theorem exists_lineIndex
    (text : List Char)
    {start stop line : Nat}
    (ordered : start ≤ stop)
    (above : lineIndex text start ≤ line)
    (below : line ≤ lineIndex text stop) :
    ∃ position, start ≤ position ∧ position ≤ stop ∧ lineIndex text position = line := by
  obtain ⟨distance, rfl⟩ := Nat.exists_eq_add_of_le ordered
  clear ordered
  induction distance with
  | zero => exact ⟨start, Nat.le_refl _, Nat.le_refl _, Nat.le_antisymm above below⟩
  | succ distance inductionHypothesis =>
      by_cases earlier : line ≤ lineIndex text (start + distance)
      · obtain ⟨position, behind, before, isLine⟩ := inductionHypothesis earlier
        exact ⟨position, behind, by omega, isLine⟩
      · have step := lineIndex_succ text (start + distance)
        refine ⟨start + (distance + 1), by omega, Nat.le_refl _, ?_⟩
        rw [← Nat.add_assoc] at below ⊢
        split at step
        · omega
        · omega

/-- Whether every carriage return of a text stands in front of a line feed. -/
def ReturnsPaired (text : List Char) : Prop :=
  ∀ front back, text = front ++ '\r' :: back → back.head? = some '\n'

theorem ReturnsPaired.tail
    {character : Char}
    {text : List Char}
    (paired : ReturnsPaired (character :: text)) :
    ReturnsPaired text := by
  intro front back split
  exact paired (character :: front) back (congrArg (character :: ·) split)

/-- Where carriage returns come with line feeds, only these end lines. -/
theorem lineAt_eq
    {text : List Char}
    (paired : ReturnsPaired text)
    {position : Nat}
    (inText : position < text.length) :
    lineAt text position = lineIndex text position + 1 := by
  induction text generalizing position with
  | nil => exact absurd inText (Nat.not_lt_zero _)
  | cons character after inductionHypothesis =>
      cases position with
      | zero => rw [lineAt_zero, lineIndex_zero]
      | succ position =>
          have inAfter : position < after.length := Nat.lt_of_succ_lt_succ inText
          have ofAfter := inductionHypothesis paired.tail inAfter
          have visible : after.isEmpty = false := by
            rw [List.isEmpty_eq_false_iff]
            exact List.ne_nil_of_length_pos (Nat.zero_lt_of_lt inAfter)
          have ends : endsLine character after = (character == '\n') := by
            unfold endsLine
            cases isReturn : character == '\r' with
            | false => rw [Bool.false_and, Bool.or_false]
            | true =>
                have followed := paired [] after (by rw [beq_iff_eq.mp isReturn]; rfl)
                rw [followed, bne_self_eq_false, Bool.and_false, Bool.or_false]
          have index : lineIndex (character :: after) (position + 1) =
              lineIndex after position + if character == '\n' then 1 else 0 := by
            unfold lineIndex lineFeeds
            rw [List.take_succ_cons, List.count_cons]
          rw [lineAt, ofAfter, ends, visible, index, Bool.not_false, Bool.and_true]
          split
          · omega
          · omega

/-! ## Pieces in the place of spans -/

theorem slice_self
    (text : List Char)
    (position : Nat) :
    Span.slice ⟨position, position⟩ text = [] := by
  unfold Span.slice
  rw [Nat.sub_self, List.take_zero]

theorem slice_succ
    (text : List Char)
    (position : Nat) :
    Span.slice ⟨position, position + 1⟩ text = text[position]?.toList := by
  unfold Span.slice
  rw [Nat.add_sub_cancel_left, List.take_one, List.head?_drop]

/-- A slice is cut in two at a position inside it. -/
theorem slice_append
    (text : List Char)
    {start middle stop : Nat}
    (first : start ≤ middle)
    (second : middle ≤ stop) :
    Span.slice ⟨start, stop⟩ text =
      Span.slice ⟨start, middle⟩ text ++ Span.slice ⟨middle, stop⟩ text := by
  unfold Span.slice
  have split : stop - start = (middle - start) + (stop - middle) := by omega
  have later : text.drop middle = (text.drop start).drop (middle - start) := by
    rw [List.drop_drop, Nat.add_sub_cancel' first]
  rw [split, later, List.take_add]

/-- A slice of a front of the text is one of the text. -/
theorem slice_take
    (text : List Char)
    {start stop position : Nat}
    (reaches : stop ≤ position) :
    Span.slice ⟨start, stop⟩ (text.take position) = Span.slice ⟨start, stop⟩ text := by
  unfold Span.slice
  rw [List.drop_take, List.take_take, Nat.min_eq_left (Nat.sub_le_sub_right reaches start)]

/-- Whether a piece can stand in the place of a span of a text and leave every line behind it as it
is. -/
structure Retains (text : List Char) (edit : Span × List Char) : Prop where
  nonempty : edit.1.start < edit.1.stop
  bounded : edit.1.stop ≤ text.length
  closed : text[edit.1.stop - 1]? ≠ some '\n'
  balanced : lineFeeds edit.2 = lineFeeds (edit.1.slice text)

/-- The spans of edits lie side by side, in order. -/
def Ordered (edits : List (Span × List Char)) : Prop :=
  edits.Pairwise fun left right => left.1.before right.1

section Replaced

variable
    {text : List Char}
    {edits : List (Span × List Char)}

/-- Pieces that retain lines retain the number of line feeds. -/
theorem lineFeeds_replaced
    {cursor : Nat}
    (retains : ∀ edit ∈ edits, Retains text edit)
    (ordered : Ordered edits)
    (behind : ∀ edit ∈ edits, cursor ≤ edit.1.start) :
    lineFeeds (replaced text cursor edits) = lineFeeds (text.drop cursor) := by
  induction edits generalizing cursor with
  | nil => rfl
  | cons edit rest inductionHypothesis =>
      obtain ⟨first, others⟩ := List.pairwise_cons.mp ordered
      have retained := retains edit List.mem_cons_self
      have later := inductionHypothesis (fun other isOther => retains other (by simp [isOther]))
        others first
      rw [replaced, lineFeeds_append, lineFeeds_append, later, retained.balanced,
        drop_eq_slice_append text (behind edit List.mem_cons_self),
        drop_eq_slice_append text (Nat.le_of_lt retained.nonempty), lineFeeds_append,
        lineFeeds_append, Nat.add_assoc]

/-- A gap in front of some edits can be cut anywhere. -/
theorem replaced_of_gap
    {cursor position : Nat}
    (fromCursor : cursor ≤ position)
    (behind : ∀ edit ∈ edits, position ≤ edit.1.start) :
    replaced text cursor edits =
      Span.slice ⟨cursor, position⟩ text ++ replaced text position edits := by
  cases edits with
  | nil => exact drop_eq_slice_append text fromCursor
  | cons edit rest =>
      have reaches := behind edit List.mem_cons_self
      rw [replaced, replaced, slice_append text fromCursor reaches]
      simp only [List.append_assoc]

/-- Edits in front of a position are made in the text in front of it, the others behind. -/
theorem replaced_append
    {cursor position : Nat}
    {front back : List (Span × List Char)}
    (inFront : ∀ edit ∈ front, edit.1.start ≤ edit.1.stop ∧ edit.1.stop ≤ position)
    (behind : ∀ edit ∈ back, position ≤ edit.1.start)
    (fromCursor : cursor ≤ position) :
    replaced text cursor (front ++ back) =
      replaced (text.take position) cursor front ++ replaced text position back := by
  induction front generalizing cursor with
  | nil =>
      rw [List.nil_append, replaced_of_gap fromCursor behind, replaced, Span.slice, List.drop_take]
  | cons edit rest inductionHypothesis =>
      obtain ⟨ordered, reaches⟩ := inFront edit List.mem_cons_self
      have later := inductionHypothesis (fun other isOther => inFront other (by simp [isOther]))
        reaches
      rw [List.cons_append, replaced, replaced, later,
        slice_take text (Nat.le_trans ordered reaches), List.append_assoc, List.append_assoc,
        List.append_assoc]

/-- Behind the last edit a text is copied up to its end. -/
theorem replaced_take
    {middle position : Nat}
    (inFront : ∀ edit ∈ edits, edit.1.start ≤ edit.1.stop ∧ edit.1.stop ≤ middle)
    (reaches : middle ≤ position) :
    replaced (text.take position) 0 edits =
      replaced (text.take middle) 0 edits ++ Span.slice ⟨middle, position⟩ text := by
  have cut : replaced (text.take position) 0 (edits ++ []) =
      replaced ((text.take position).take middle) 0 edits ++
        replaced (text.take position) middle [] :=
    replaced_append inFront (List.forall_mem_nil _) (Nat.zero_le _)
  rwa [List.append_nil, List.take_take, Nat.min_eq_left reaches, replaced, List.drop_take] at cut

/-- Behind as many line feeds, lines are the same if they are so in what follows. -/
theorem getElem?_pieces_of_sameCount
    {first second firstRest secondRest : List Char}
    (sameCount : lineFeeds first = lineFeeds second)
    {index : Nat}
    (behind : lineFeeds second < index)
    (sameRest : (Text.pieces '\n' firstRest)[index - lineFeeds second]? =
      (Text.pieces '\n' secondRest)[index - lineFeeds second]?) :
    (Text.pieces '\n' (first ++ firstRest))[index]? =
      (Text.pieces '\n' (second ++ secondRest))[index]? := by
  unfold lineFeeds at sameCount behind sameRest
  have behindFirst : first.count '\n' < index := by
    rw [sameCount]
    exact behind
  rw [Text.getElem?_pieces_append_right '\n' _ behindFirst,
    Text.getElem?_pieces_append_right '\n' _ behind, sameCount, sameRest]

/-- A line that no replaced span touches is the same as before; lines are counted from that of the
position from which on spans are replaced. -/
theorem getElem?_pieces_replaced
    {cursor : Nat}
    (retains : ∀ edit ∈ edits, Retains text edit)
    (ordered : Ordered edits)
    (behind : ∀ edit ∈ edits, cursor ≤ edit.1.start)
    {index : Nat}
    (untouched : ∀ edit ∈ edits, ∀ position, edit.1.start ≤ position → position < edit.1.stop →
      lineIndex text position ≠ lineIndex text cursor + index) :
    (Text.pieces '\n' (replaced text cursor edits))[index]? =
      (Text.pieces '\n' (text.drop cursor))[index]? := by
  induction edits generalizing cursor index with
  | nil => rfl
  | cons edit rest inductionHypothesis =>
      obtain ⟨first, others⟩ := List.pairwise_cons.mp ordered
      obtain ⟨nonempty, -, closed, balanced⟩ := retains edit List.mem_cons_self
      have fromCursor := behind edit List.mem_cons_self
      let gap := Span.slice ⟨cursor, edit.1.start⟩ text
      have toStart : lineIndex text edit.1.start = lineIndex text cursor + lineFeeds gap :=
        lineIndex_add_slice text fromCursor
      have toStop : lineIndex text edit.1.stop =
          lineIndex text edit.1.start + lineFeeds (edit.1.slice text) :=
        lineIndex_add_slice text (Nat.le_of_lt nonempty)
      have cut : text.drop cursor = gap ++ edit.1.slice text ++ text.drop edit.1.stop := by
        rw [drop_eq_slice_append text fromCursor,
          drop_eq_slice_append text (Nat.le_of_lt nonempty), List.append_assoc]
      rw [replaced, cut]
      have counts := lineFeeds_append gap (edit.1.slice text)
      rcases Nat.lt_or_ge index (lineFeeds gap) with inGap | behindGap
      · rw [List.append_assoc, List.append_assoc, Text.getElem?_pieces_append_left _ _ inGap,
          Text.getElem?_pieces_append_left _ _ inGap]
      · rcases Nat.lt_or_ge (lineFeeds (gap ++ edit.1.slice text)) index with later | touched
        · refine getElem?_pieces_of_sameCount ?_ later ?_
          · rw [lineFeeds_append, lineFeeds_append, balanced]
          · refine inductionHypothesis (fun other isOther => retains other (by simp [isOther]))
              others first ?_
            intro other isOther position starts stops
            have elsewhere := untouched other (by simp [isOther]) position starts stops
            omega
        · -- The span has a position on every line that it reaches, so it touches this one.
          have lastLine := lineIndex_succ text (edit.1.stop - 1)
          rw [if_neg closed, Nat.sub_add_cancel (Nat.one_le_of_lt nonempty)] at lastLine
          have above : lineIndex text edit.1.start ≤ lineIndex text cursor + index := by omega
          have below : lineIndex text cursor + index ≤ lineIndex text (edit.1.stop - 1) := by omega
          obtain ⟨position, starts, stops, isLine⟩ :=
            exists_lineIndex text (Nat.le_sub_one_of_lt nonempty) above below
          exact absurd isLine
            (untouched edit List.mem_cons_self position starts (by omega))

end Replaced

/-! ## Where positions go -/

/-- Where a position of a text lies behind edits: at the end of what the edits that stop in front
of it make of the text up to it. -/
def moved (text : List Char) (edits : List (Span × List Char)) (position : Nat) : Nat :=
  (replaced (text.take position) 0 (edits.takeWhile (·.1.stop ≤ position))).length

section Moved

variable
    {text : List Char}
    {edits front back : List (Span × List Char)}
    {position : Nat}

/-- Edits can be parted at a position that lies inside none of their spans. -/
theorem exists_parts
    (retains : ∀ edit ∈ edits, Retains text edit)
    (ordered : Ordered edits)
    (apart : ∀ edit ∈ edits, position ≤ edit.1.start ∨ edit.1.stop ≤ position) :
    ∃ front back,
      edits = front ++ back ∧
      (∀ edit ∈ front, edit.1.stop ≤ position) ∧ ∀ edit ∈ back, position ≤ edit.1.start := by
  induction edits with
  | nil => exact ⟨[], [], rfl, by simp, by simp⟩
  | cons edit rest inductionHypothesis =>
      obtain ⟨first, others⟩ := List.pairwise_cons.mp ordered
      rcases apart edit List.mem_cons_self with behind | before
      · refine ⟨[], edit :: rest, rfl, by simp, ?_⟩
        intro other isOther
        rcases List.mem_cons.mp isOther with rfl | isLater
        · exact behind
        · have nonempty := (retains edit List.mem_cons_self).nonempty
          have later := first other isLater
          unfold Span.before at later
          omega
      · obtain ⟨front, back, rfl, stops, starts⟩ := inductionHypothesis
          (fun other isOther => retains other (by simp [isOther])) others
          (fun other isOther => apart other (by simp [isOther]))
        refine ⟨edit :: front, back, rfl, ?_, starts⟩
        intro other isOther
        rcases List.mem_cons.mp isOther with rfl | inFront
        · exact before
        · exact stops other inFront

variable
    (retains : ∀ edit ∈ front ++ back, Retains text edit)
    (stops : ∀ edit ∈ front, edit.1.stop ≤ position)
    (starts : ∀ edit ∈ back, position ≤ edit.1.start)

include retains stops starts

/-- Edits are made apart in front of a position and behind it. -/
theorem replaced_parts :
    replaced text 0 (front ++ back) =
      replaced (text.take position) 0 front ++ replaced text position back := by
  refine replaced_append ?_ starts (Nat.zero_le _)
  intro edit isFront
  exact ⟨Nat.le_of_lt (retains edit (List.mem_append_left _ isFront)).nonempty, stops edit isFront⟩

/-- A position moves to where the replaced text in front of it ends. -/
theorem moved_parts :
    moved text (front ++ back) position =
      (replaced (text.take position) 0 front).length := by
  have isFront : (front ++ back).takeWhile (·.1.stop ≤ position) = front := by
    rw [List.takeWhile_append_of_pos (by simpa using stops)]
    cases back with
    | nil => rw [List.takeWhile_nil, List.append_nil]
    | cons edit rest =>
        have nonempty := (retains edit (by simp)).nonempty
        have reaches := starts edit List.mem_cons_self
        have notBefore : ¬edit.1.stop ≤ position := by omega
        rw [List.takeWhile_cons_of_neg (by simpa using notBefore), List.append_nil]
  unfold moved
  rw [isFront]

theorem drop_moved :
    (replaced text 0 (front ++ back)).drop (moved text (front ++ back) position) =
      replaced text position back := by
  rw [replaced_parts retains stops starts, moved_parts retains stops starts, List.drop_left]

/-- A position outside of the spans stays on its line. -/
theorem lineIndex_moved
    (ordered : Ordered (front ++ back)) :
    lineIndex (replaced text 0 (front ++ back)) (moved text (front ++ back) position) =
      lineIndex text position := by
  have retainsFront : ∀ edit ∈ front, Retains (text.take position) edit := by
    intro edit isFront
    obtain ⟨nonempty, bounded, closed, balanced⟩ := retains edit (List.mem_append_left _ isFront)
    have reaches := stops edit isFront
    refine ⟨nonempty, ?_, ?_, ?_⟩
    · rw [List.length_take]
      omega
    · rw [List.getElem?_take_of_lt (by omega)]
      exact closed
    · rw [balanced]
      exact congrArg lineFeeds (slice_take text reaches).symm
  have count := lineFeeds_replaced retainsFront (List.pairwise_append.mp ordered).1
    (fun _ _ => Nat.zero_le _)
  unfold lineIndex
  rw [replaced_parts retains stops starts, moved_parts retains stops starts, List.take_left, count,
    List.drop_zero]

end Moved

/-! ## Retained lines -/

/-- Whether one of the replaced spans has a character on a line. -/
def Touches (text : List Char) (edits : List (Span × List Char)) (line : Nat) : Prop :=
  ∃ edit ∈ edits, ∃ position, edit.1.start ≤ position ∧ position < edit.1.stop ∧
    lineIndex text position = line

/-- How the lines of a text are found again in what edits make of it. -/
structure RetainsLines
    (text : List Char)
    (edits : List (Span × List Char))
    (output : List Char) : Prop where
  /-- There are as many lines. -/
  count : lineFeeds output = lineFeeds text
  /-- A character outside of the replaced spans stays on its line. -/
  outside : ∀ position < text.length,
    (∀ edit ∈ edits, position < edit.1.start ∨ edit.1.stop ≤ position) →
      output[moved text edits position]? = text[position]? ∧
        lineIndex output (moved text edits position) = lineIndex text position
  /-- A line that no replaced span touches is the same. -/
  untouched : ∀ line, ¬Touches text edits line →
    (Text.pieces '\n' output)[line]? = (Text.pieces '\n' text)[line]?
  /-- What is put in the place of a span starts on the line on which the span did. -/
  starts : ∀ edit ∈ edits,
    edit.2 <+: output.drop (moved text edits edit.1.start) ∧
      lineIndex output (moved text edits edit.1.start) = lineIndex text edit.1.start

/-- Edits that keep their line feeds keep the lines of the text. -/
theorem retainsLines_replaced
    {text : List Char}
    {edits : List (Span × List Char)}
    (retains : ∀ edit ∈ edits, Retains text edit)
    (ordered : Ordered edits) :
    RetainsLines text edits (replaced text 0 edits) where
  count := lineFeeds_replaced retains ordered fun _ _ => Nat.zero_le _
  outside := by
    intro position inText outside
    obtain ⟨front, back, rfl, stops, starts⟩ := exists_parts retains ordered
      fun edit isEdit => (outside edit isEdit).imp_left Nat.le_of_lt
    refine ⟨?_, lineIndex_moved retains stops starts ordered⟩
    have behind : ∀ edit ∈ back, position + 1 ≤ edit.1.start := by
      intro edit isBack
      have isEdit : edit ∈ front ++ back := List.mem_append_right _ isBack
      have nonempty := (retains edit isEdit).nonempty
      have reaches := starts edit isBack
      have apart := outside edit isEdit
      omega
    rw [← List.head?_drop, drop_moved retains stops starts,
      replaced_of_gap (Nat.le_succ position) behind, slice_succ,
      List.getElem?_eq_getElem inText]
    rfl
  untouched := by
    intro line untouched
    refine getElem?_pieces_replaced retains ordered (fun _ _ => Nat.zero_le _) ?_
    intro edit isEdit position starts stops isLine
    rw [lineIndex_zero, Nat.zero_add] at isLine
    exact untouched ⟨edit, isEdit, position, starts, stops, isLine⟩
  starts := by
    intro edit isEdit
    obtain ⟨front, rest, rfl⟩ := List.append_of_mem isEdit
    obtain ⟨-, others, apart⟩ := List.pairwise_append.mp ordered
    have stops : ∀ other ∈ front, other.1.stop ≤ edit.1.start :=
      fun other isFront => apart other isFront edit List.mem_cons_self
    have starts : ∀ other ∈ edit :: rest, edit.1.start ≤ other.1.start := by
      intro other isOther
      rcases List.mem_cons.mp isOther with rfl | isLater
      · exact Nat.le_refl _
      · have nonempty := (retains edit isEdit).nonempty
        have later := (List.pairwise_cons.mp others).1 other isLater
        unfold Span.before at later
        omega
    refine ⟨?_, lineIndex_moved retains stops starts ordered⟩
    rw [drop_moved retains stops starts, replaced, slice_self, List.nil_append]
    exact List.prefix_append _ _

end Keying
end KeyedText
