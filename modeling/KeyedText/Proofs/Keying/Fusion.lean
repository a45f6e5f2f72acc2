import KeyedText.Proofs.Keying.Lines
import KeyedText.Proofs.Source.Gap

/-!
# Calls and the names in front of them

A string or template delimits itself, but the call that replaces it starts with a
name.  Strings that are sites without braces stand behind marks, so their calls
start tokens of their own.  A template can stand directly behind a word, and there
its call and the word become one name.
-/

namespace KeyedText
namespace Keying

open Source

/-! ## Sites behind marks -/

section Sites

variable
    {interest : Site.Interest}
    {text : List Char}

/-- A part in which a string is a site without braces stands behind a mark. -/
theorem exists_mark_of_descend
    {situation inner : Site.Situation}
    {form : Form}
    {parts : List Node}
    {index : Nat}
    (looked : situation.descend interest form parts index = some inner)
    {kind : SiteKind}
    (isRole : inner.role = some kind)
    (bare : kind.needsBraces = false) :
    ∃ mark, form.markBefore? index = some mark ∧
      Character.continuesIdentifier mark = false := by
  have noRole : (none : Option SiteKind) ≠ some kind := (Option.some_ne_none kind).symm
  unfold Site.Situation.descend at looked
  split at looked
  · -- Elements and fragments give a string no role.
    dsimp only at looked
    split at looked
    · cases looked
      exact absurd isRole noRole
    · split at looked
      · cases looked
      · cases looked
        exact absurd isRole noRole
  · cases looked
    exact absurd isRole noRole
  · -- In an attribute a string needs braces.
    have isValue : inner.role = some .attributeValue := by
      cases looked
      unfold Site.Situation.inAttribute
      split <;> rfl
    cases isValue.symm.trans isRole
    cases bare
  · exact ⟨'\x7b', rfl, by decide⟩
  · exact ⟨'(', rfl, by decide⟩
  · match index with
    | 0 =>
        cases looked
        exact absurd isRole noRole
    | 1 => exact ⟨'?', rfl, by decide⟩
    | _ + 2 => exact ⟨':', rfl, by decide⟩
  · split at looked
    · next isText =>
        rw [Bool.and_eq_true, beq_iff_eq, beq_iff_eq] at isText
        obtain ⟨-, rfl⟩ := isText
        exact ⟨':', rfl, by decide⟩
    · cases looked
      exact absurd isRole noRole
  · split at looked
    · cases looked
    · cases looked
      exact absurd isRole noRole
  · cases looked
    exact absurd isRole noRole

/-- A site without braces that is no template is the string of its node, in the role that the
situation gives it. -/
theorem role_of_own?
    {situation : Site.Situation}
    {form : Form}
    {span : Span}
    {parts : List Node}
    {site : Site}
    (own : Site.own? text situation form span parts = some site)
    (bare : site.kind.needsBraces = false)
    (isString : site.kind.category ≠ .templates) :
    situation.role = some site.kind ∧ site.span = span := by
  unfold Site.own? at own
  split at own
  · cases own
  · split at own
    · next kind isRole =>
        dsimp only at own
        split at own <;>
          · cases own
            exact ⟨isRole, rfl⟩
    · dsimp only at own
      split at own
      · cases own
      · cases own
        cases bare
    · unfold Site.template? at own
      split at own
      · cases own
        exact absurd (Site.category_templateNames _) isString
      · cases own
    · cases own

/-- No name reaches up to a string that is a site without braces. -/
theorem endsWithName_of_mem_sites
    {node : Node}
    (introduced : node.All fun node => introduces text node = true)
    {situation : Site.Situation}
    (ready : ∀ kind, situation.role = some kind → kind.needsBraces = false →
      endsWithName (text.take node.span.start) = false)
    {site : Site}
    (isSite : site ∈ Site.sites interest text situation node)
    (bare : site.kind.needsBraces = false)
    (isString : site.kind.category ≠ .templates) :
    endsWithName (text.take site.span.start) = false := by
  induction node using Node.induction generalizing situation with
  | step form span parts inside =>
      rw [Site.sites_mk, List.mem_append, Option.mem_toList] at isSite
      rcases isSite with own | later
      · obtain ⟨isRole, isSpan⟩ := role_of_own? own bare isString
        rw [isSpan]
        exact ready site.kind isRole bare
      · obtain ⟨index, part, inner, isPart, looked, found⟩ :=
          Site.exists_getElem?_of_mem_sitesFrom later
        rw [Nat.zero_add] at looked
        have inParts := List.mem_of_getElem? isPart
        refine inside part inParts (introduced.inside part inParts) (fun kind isRole isBare => ?_)
          found
        obtain ⟨mark, isMark, isNoName⟩ := exists_mark_of_descend looked isRole isBare
        have stands : standsBehind text mark part.span.start = true := by
          have isNumbered : (part, index) ∈ parts.zipIdx := by
            rwa [List.mem_zipIdx_iff_getElem?]
          have introducesPart := List.all_eq_true.mp introduced.here _ isNumbered
          dsimp only [Node.form_mk] at introducesPart
          rwa [isMark] at introducesPart
        exact endsWithName_take_of_standsBehind stands isNoName

end Sites

/-! ## What stands in front of calls -/

theorem endsWithName_append
    (front : List Char)
    {back : List Char}
    (nonempty : back ≠ []) :
    endsWithName (front ++ back) = endsWithName back := by
  unfold endsWithName
  rw [List.getLast?_append_of_ne_nil _ nonempty]

/-- Behind a piece that ends with no character of a name, only the rest can end with one. -/
theorem endsWithName_append_piece
    (front : List Char)
    {piece : List Char}
    {last : Char}
    (isLast : piece.getLast? = some last)
    (closes : Character.continuesIdentifier last = false)
    (back : List Char) :
    endsWithName (front ++ piece ++ back) = endsWithName back := by
  cases back with
  | nil =>
      rw [List.append_nil, endsWithName, List.getLast?_append, isLast, Option.some_or]
      exact closes
  | cons first rest => exact endsWithName_append _ (List.cons_ne_nil first rest)

theorem exists_getLast?_replacement
    (lookup key : String)
    (site : Site) :
    ∃ last, (replacement lookup key site).getLast? = some last ∧
      Character.continuesIdentifier last = false := by
  unfold replacement
  split
  · refine ⟨'\x7d', ?_, by decide⟩
    rw [List.getLast?_append_of_ne_nil _ (List.cons_ne_nil _ _)]
    rfl
  · refine ⟨')', ?_, by decide⟩
    unfold call
    rw [List.getLast?_append_of_ne_nil _ (by decide)]
    decide

/-- What is put in the place of a site ends with no character of a name. -/
theorem exists_getLast?_filling
    (lookup : String)
    (place : Key.Place)
    (conversion : Conversion)
    (text : List Char) :
    ∃ last, ((conversion.edit lookup place).filling text).getLast? = some last ∧
      Character.continuesIdentifier last = false := by
  unfold Edit.filling Edit.retained
  cases lineFeeds ((conversion.edit lookup place).span.slice text) -
      lineFeeds (conversion.edit lookup place).replacement with
  | zero =>
      rw [List.replicate_zero, List.append_nil]
      exact exists_getLast?_replacement _ _ _
  | succ missing =>
      refine ⟨'\n', ?_, by decide⟩
      rw [List.replicate_succ', ← List.append_assoc, List.getLast?_concat]

/-- A name in front of a position is still in front of it when spans up to there are replaced,
unless one of them ends there. -/
theorem endsWithName_replaced_iff
    {text : List Char}
    {cursor position : Nat}
    {edits : List (Span × List Char)}
    (inFront : ∀ edit ∈ edits, edit.1.start ≤ edit.1.stop ∧ edit.1.stop ≤ position)
    (ordered : Ordered edits)
    (behind : ∀ edit ∈ edits, cursor ≤ edit.1.start)
    (closed : ∀ edit ∈ edits, ∃ last, edit.2.getLast? = some last ∧
      Character.continuesIdentifier last = false)
    (inText : position ≤ text.length) :
    endsWithName (replaced (text.take position) cursor edits) = true ↔
      cursor < position ∧ endsWithName (text.take position) = true ∧
        ∀ edit ∈ edits, edit.1.stop ≠ position := by
  induction edits generalizing cursor with
  | nil =>
      rw [replaced]
      by_cases ahead : cursor < position
      · have nonempty : (text.take position).drop cursor ≠ [] := by
          rw [ne_eq, List.drop_eq_nil_iff, List.length_take]
          omega
        have same := endsWithName_append ((text.take position).take cursor) nonempty
        rw [List.take_append_drop] at same
        simp [same, ahead]
      · have isEmpty : (text.take position).drop cursor = [] := by
          rw [List.drop_eq_nil_iff, List.length_take]
          omega
        simp [isEmpty, ahead, endsWithName]
  | cons edit rest inductionHypothesis =>
      obtain ⟨first, others⟩ := List.pairwise_cons.mp ordered
      obtain ⟨last, isLast, closes⟩ := closed edit List.mem_cons_self
      have ofRest := inductionHypothesis (fun other isOther => inFront other (by simp [isOther]))
        others first fun other isOther => closed other (by simp [isOther])
      obtain ⟨isOrdered, reaches⟩ := inFront edit List.mem_cons_self
      have fromCursor := behind edit List.mem_cons_self
      rw [replaced, endsWithName_append_piece _ isLast closes, ofRest, List.forall_mem_cons]
      constructor
      · rintro ⟨ahead, ends, noneEnds⟩
        exact ⟨by omega, ends, by omega, noneEnds⟩
      · rintro ⟨-, ends, notHere, noneEnds⟩
        exact ⟨by omega, ends, noneEnds⟩

/-! ## Whole conversions -/

/-- How the call of a conversion without braces stands in an outcome, behind what is in front of its
site and the earlier conversions. -/
structure Outcome.Begins
    (converter : Converter)
    (place : Key.Place)
    (source : List Char)
    (earlier : List Conversion)
    (conversion : Conversion)
    (outcome : Outcome) : Prop where
  /-- The call stands directly behind what is in front of the site. -/
  stands : ∃ back,
    outcome.output =
      replaced ((withoutMark source).take conversion.span.start) 0
          (insertions converter place source earlier) ++
        (call converter.interest.lookup (place.key conversion.slug) conversion.site ++ back)
  /-- The call goes on with a name exactly if a name reaches up to the site, and no earlier site. -/
  fuses :
    endsWithName (replaced ((withoutMark source).take conversion.span.start) 0
        (insertions converter place source earlier)) = true ↔
      endsWithName ((withoutMark source).take conversion.span.start) = true ∧
        ∀ other ∈ earlier, other.span.stop ≠ conversion.span.start
  /-- Only up to a template a name can reach. -/
  template : endsWithName ((withoutMark source).take conversion.span.start) = true →
    conversion.site.kind.category = .templates

section Begins

variable
    {converter : Converter}
    {place : Key.Place}
    {source : List Char}
    {earlier later : List Conversion}
    {conversion : Conversion}
    (bounded : ∀ other ∈ earlier ++ conversion :: later,
      other.span.start ≤ other.span.stop ∧ other.span.stop ≤ (withoutMark source).length)
    (disjoint : (earlier ++ conversion :: later).Pairwise
      fun left right => left.span.before right.span)

include bounded disjoint

theorem insertions_inFront :
    ∀ edit ∈ insertions converter place source earlier,
      edit.1.start ≤ edit.1.stop ∧ edit.1.stop ≤ conversion.span.start := by
  refine List.forall_mem_map.mpr fun other isEarlier => ⟨?_, ?_⟩
  · exact (bounded other (List.mem_append_left _ isEarlier)).1
  · exact (List.pairwise_append.mp disjoint).2.2 other isEarlier conversion List.mem_cons_self

/-- What replaces a site stands between what conversions make of the text in front of it and behind
it. -/
theorem replaced_insertions :
    replaced (withoutMark source) 0
        (insertions converter place source (earlier ++ conversion :: later)) =
      replaced ((withoutMark source).take conversion.span.start) 0
          (insertions converter place source earlier) ++
        ((conversion.edit converter.interest.lookup place).filling (withoutMark source) ++
          replaced (withoutMark source) conversion.span.stop
            (insertions converter place source later)) := by
  obtain ⟨-, laterDisjoint, -⟩ := List.pairwise_append.mp disjoint
  obtain ⟨isOrdered, -⟩ := bounded conversion (List.mem_append_right _ List.mem_cons_self)
  have behind : ∀ edit ∈ insertions converter place source (conversion :: later),
      conversion.span.start ≤ edit.1.start := by
    refine List.forall_mem_map.mpr (List.forall_mem_cons.mpr ⟨Nat.le_refl _, ?_⟩)
    intro other isLater
    exact Nat.le_trans isOrdered (List.rel_of_pairwise_cons laterDisjoint isLater)
  have split : insertions converter place source (earlier ++ conversion :: later) =
      insertions converter place source earlier ++
        insertions converter place source (conversion :: later) :=
    List.map_append
  rw [split, replaced_append (insertions_inFront bounded disjoint) behind (Nat.zero_le _)]
  congr 1
  unfold insertions
  rw [List.map_cons, replaced, slice_self, List.nil_append]

/-- A call goes on with a name exactly if a name reaches up to its site, and no earlier site. -/
theorem endsWithName_replaced_insertions_iff :
    endsWithName (replaced ((withoutMark source).take conversion.span.start) 0
        (insertions converter place source earlier)) = true ↔
      endsWithName ((withoutMark source).take conversion.span.start) = true ∧
        ∀ other ∈ earlier, other.span.stop ≠ conversion.span.start := by
  have inText : conversion.span.start ≤ (withoutMark source).length := by
    obtain ⟨isOrdered, isBounded⟩ :=
      bounded conversion (List.mem_append_right _ List.mem_cons_self)
    exact Nat.le_trans isOrdered isBounded
  have ordered : Ordered (insertions converter place source earlier) :=
    List.pairwise_map.mpr (List.pairwise_append.mp disjoint).1
  have closed : ∀ edit ∈ insertions converter place source earlier,
      ∃ last, edit.2.getLast? = some last ∧ Character.continuesIdentifier last = false :=
    List.forall_mem_map.mpr fun other _ => exists_getLast?_filling _ _ other _
  rw [endsWithName_replaced_iff (insertions_inFront bounded disjoint) ordered
    (fun _ _ => Nat.zero_le _) closed inText]
  constructor
  · rintro ⟨-, ends, noneEnds⟩
    exact ⟨ends, fun other isEarlier => noneEnds _ (List.mem_map_of_mem isEarlier)⟩
  · rintro ⟨ends, noneEnds⟩
    refine ⟨?_, ends, List.forall_mem_map.mpr noneEnds⟩
    -- In front of the whole text there is no name.
    by_contra atStart
    rw [Nat.eq_zero_of_not_pos atStart] at ends
    cases ends

end Begins

section Made

variable
    {converter : Converter}
    {place : Key.Place}
    {source : List Char}
    {program : Node}
    {earlier later : List Conversion}
    {conversion : Conversion}
    (isMade : converter.made place (withoutMark source) program = earlier ++ conversion :: later)

include isMade

/-- Sites around a conversion are among those that were collected. -/
theorem mem_collect_of_made :
    ∀ other ∈ earlier ++ conversion :: later,
      other.site ∈ Site.collect converter.interest (withoutMark source) program := by
  rw [← isMade]
  exact fun _ isOther => site_mem_of_mem_conversions isOther

/-- Conversions lie side by side in the source text, and in the output each stands between what is
made of the text in front of it and behind it. -/
theorem Accounts.around
    {outcome : Outcome}
    (accounts : Accounts converter place source
      (Site.collect converter.interest (withoutMark source) program) outcome) :
    (∀ other ∈ earlier ++ conversion :: later,
        other.span.start ≤ other.span.stop ∧ other.span.stop ≤ (withoutMark source).length) ∧
      ((earlier ++ conversion :: later).Pairwise
        fun left right => left.span.before right.span) ∧
        outcome.output =
          replaced ((withoutMark source).take conversion.span.start) 0
              (insertions converter place source earlier) ++
            ((conversion.edit converter.interest.lookup place).filling (withoutMark source) ++
              replaced (withoutMark source) conversion.span.stop
                (insertions converter place source later)) := by
  have bounded := accounts.bounded
  have disjoint := accounts.disjoint
  have output := accounts.replaces
  rw [← Converter.made, isMade] at bounded disjoint output
  exact ⟨bounded, disjoint, (output (List.append_ne_nil_of_right_ne_nil _
    (List.cons_ne_nil _ _))).trans (replaced_insertions bounded disjoint)⟩

end Made

/-- A call without braces is a token of its own unless its site is a template directly behind a
name; then the two become one name. -/
theorem calls_fuse_behind_names
    (converter : Converter)
    (path : String)
    (place : Key.Place)
    (source : List Char)
    (program : Node)
    (read : readProgram (withoutMark source) = .ok program)
    (laid : program.All (Node.Laid (withoutMark source).length))
    (introduced : program.All fun node => introduces (withoutMark source) node = true) :
    ∃ outcome, converter.convert path place source = .ok outcome ∧
      ∀ earlier conversion later,
        converter.made place (withoutMark source) program = earlier ++ conversion :: later →
          conversion.site.kind.needsBraces = false →
            outcome.Begins converter place source earlier conversion := by
  obtain ⟨outcome, isOutcome, accounts⟩ :=
    convert_accounts converter path place source program read laid
  refine ⟨outcome, isOutcome, fun earlier conversion later isMade bare => ?_⟩
  obtain ⟨bounded, disjoint, output⟩ := accounts.around isMade
  refine ⟨?_, endsWithName_replaced_insertions_iff bounded disjoint, fun reaches => ?_⟩
  · have isCall : replacement converter.interest.lookup (place.key conversion.slug)
        conversion.site =
          call converter.interest.lookup (place.key conversion.slug) conversion.site := by
      unfold replacement
      rw [bare]
      rfl
    rw [output, Edit.filling, Conversion.edit, Conversion.call, isCall]
    exact ⟨_, congrArg _ (List.append_assoc _ _ _)⟩
  · have isSite : conversion.site ∈
        Site.sites converter.interest (withoutMark source) .outermost program :=
      List.mem_mergeSort.mp
        (mem_collect_of_made isMade conversion (List.mem_append_right _ List.mem_cons_self))
    have noRole : ∀ kind, Site.Situation.outermost.role ≠ some kind :=
      fun kind => (Option.some_ne_none kind).symm
    by_contra isString
    have noName := endsWithName_of_mem_sites introduced
      (fun kind isRole => absurd isRole (noRole kind)) isSite bare isString
    rw [Conversion.span, noName] at reaches
    cases reaches

/-- A source text with a template directly behind a word. -/
def returnedSource : List Char :=
  "function f(name) \x7b return\x60Hello $\x7bname\x7d there\x60; \x7d".toList

/-- The word and the name of the lookup function become one name. -/
theorem calls_fuse_behind_names_for_returnedSource :
    ∃ program conversion outcome,
      readProgram (withoutMark returnedSource) = .ok program ∧
      program.All (Node.Laid (withoutMark returnedSource).length) ∧
      (program.All fun node => introduces (withoutMark returnedSource) node = true) ∧
      plainConverter.made ⟨"features", "app"⟩ (withoutMark returnedSource) program =
        [conversion] ∧
      conversion.site.kind.needsBraces = false ∧
      plainConverter.convert "App.tsx" ⟨"features", "app"⟩ returnedSource = .ok outcome ∧
      outcome.Begins plainConverter ⟨"features", "app"⟩ returnedSource [] conversion ∧
      "function f(name) \x7b returnt(".toList <+: outcome.output := by
  obtain ⟨program, read, checked⟩ := exists_ok_of_any (readProgram (withoutMark returnedSource))
    (fun program : Node =>
      let sites :=
        Site.sites plainConverter.interest (withoutMark returnedSource) .outermost program
      decide (program.All (Node.Placed (withoutMark returnedSource)))
        && decide (program.All fun node => introduces (withoutMark returnedSource) node = true)
        && decide (((conversions (plainConverter.course ⟨"features", "app"⟩ .start sites)).map
          fun conversion => (conversion.span.start, conversion.site.kind.needsBraces)) =
            [(25, false)]))
    (by decide +kernel)
  simp only [Bool.and_eq_true, decide_eq_true_eq] at checked
  obtain ⟨⟨placed, introduced⟩, isConverted⟩ := checked
  rw [← Site.collect_eq_sites placed, ← Converter.made] at isConverted
  obtain ⟨conversion, isMade, isFound⟩ := List.map_eq_singleton_iff.mp isConverted
  obtain ⟨isStart, bare⟩ := Prod.mk.inj isFound
  obtain ⟨outcome, isOutcome, begins⟩ := calls_fuse_behind_names plainConverter "App.tsx"
    ⟨"features", "app"⟩ returnedSource program read placed.laid introduced
  have beginsHere := begins [] conversion [] isMade bare
  refine ⟨program, conversion, outcome, read, placed.laid, introduced, isMade, bare, isOutcome,
    beginsHere, ?_⟩
  obtain ⟨back, output⟩ := beginsHere.stands
  have isFront : replaced ((withoutMark returnedSource).take 25) 0
      (insertions plainConverter ⟨"features", "app"⟩ returnedSource []) =
        "function f(name) \x7b return".toList := by
    decide
  have isLookup : plainConverter.interest.lookup = "t" := rfl
  have isJoined : "function f(name) \x7b returnt(".toList =
      "function f(name) \x7b return".toList ++ ("t".toList ++ ['(']) := by
    decide
  rw [output, isStart, isFront, isLookup, isJoined, List.prefix_append_right_inj]
  unfold call
  simp only [List.append_assoc, List.prefix_append_right_inj, List.prefix_append]

end Keying
end KeyedText
