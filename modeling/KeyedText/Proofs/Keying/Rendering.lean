import KeyedText.Proofs.Source.Reading
import KeyedText.Proofs.Source.Shape

/-!
# Properties in a rendered call

A call holds an object whose properties are rendered one behind the other, each as a
name with the source of its value.  The grammar reads the object back property by
property.  A value ends at a comma, so a value with commas of its own does not come
back.
-/

namespace KeyedText
namespace Keying

open Source Reader

/-! ## Properties as they are written -/

/-- A property as an object spells it: a name and a value. -/
def written (property : Interpolation) : List Char :=
  property.name.toList ++ ':' :: ' ' :: property.source

/-- What stands behind a property in an object: the further ones and the end of
the call that the object is handed to. -/
def behindProperty (further : List Interpolation) : List Char :=
  further.flatMap furtherProperty ++ [' ', '\x7d', ')']

/-- What an object spells from a property on. -/
def inObject : List Interpolation → List Char
  | [] => ['\x7d', ')']
  | property :: further => written property ++ behindProperty further

theorem behindProperty_cons
    (property : Interpolation)
    (further : List Interpolation) :
    behindProperty (property :: further) = ',' :: ' ' :: inObject (property :: further) := by
  simp only [behindProperty, furtherProperty, inObject, written, List.flatMap_cons,
    List.append_assoc, List.cons_append, List.nil_append]

theorem inObject_cons
    (property : Interpolation)
    (further : List Interpolation) :
    inObject (property :: further) =
      property.name.toList ++ ':' :: ' ' :: (property.source ++ behindProperty further) := by
  rw [inObject, written, List.append_assoc]
  rfl

theorem startsToken_inObject
    {properties : List Interpolation}
    (named : ∀ property ∈ properties, spellsName property.name.toList = true) :
    startsToken (inObject properties) = true := by
  cases properties with
  | nil => rfl
  | cons property further =>
      rw [inObject_cons]
      exact startsToken_name (named property List.mem_cons_self) _

theorem length_le_inObject (properties : List Interpolation) :
    properties.length ≤ (inObject properties).length := by
  induction properties with
  | nil => exact Nat.zero_le _
  | cons property further inductionHypothesis =>
      cases further with
      | nil =>
          rw [inObject_cons]
          simp only [List.length_append, List.length_cons, List.length_nil]
          omega
      | cons next others =>
          rw [inObject_cons, behindProperty_cons]
          simp only [List.length_append, List.length_cons] at inductionHypothesis ⊢
          omega

/-! ## Rounds over written properties -/

section Rounds

variable {cursor : Cursor} {read : List Node} {trailing : Option Nat}
  {property : Interpolation} {further : List Interpolation}

/-- Behind the last property the object ends. -/
theorem objectRound_end
    (surroundings : Surroundings)
    (here : cursor.At (inObject [])) :
    objectRound (read, trailing) surroundings cursor =
      .ok (.inr (read.reverse, trailing)) cursor := by
  obtain ⟨closes, -⟩ := here.isMark .closeBrace (by decide)
  rw [objectRound, bind_of_ok (at?_of_mark closes)]
  rfl

theorem at?_closeBrace_written
    (surroundings : Surroundings)
    (here : cursor.At (inObject (property :: further)))
    (named : spellsName property.name.toList = true) :
    at? .closeBrace surroundings cursor = .ok false cursor := by
  rw [inObject_cons] at here
  obtain ⟨word, -⟩ := here.isWord named (by decide)
  refine at?_of_other ?_
  rw [word]
  exact Token.noConfusion

/-- A written property is read up to its value, which is left to the recursion. -/
theorem objectProperty_written
    (surroundings : Surroundings)
    (here : cursor.At (inObject (property :: further)))
    (named : spellsName property.name.toList = true)
    (starts : startsToken (property.source ++ behindProperty further) = true) :
    ∃ key atValue,
      Cursor.At atValue (property.source ++ behindProperty further) ∧
      objectProperty surroundings cursor =
        (do
          let value ← descend .assignment
          node cursor.start (.property (some property.name)) [key, value] : Reader Node)
        surroundings atValue := by
  rw [inObject_cons] at here
  obtain ⟨key, atValue, atText, propertyRead⟩ :=
    objectProperty_at surroundings here named starts
  rw [String.ofList_toList] at propertyRead
  exact ⟨key, atValue, atText, propertyRead⟩

variable {value : List Char → Option (Node × List Char)} {scope : Scope} {limit : Nat}

variable (read trailing scope limit) in
/-- A property whose value is read up to what stands behind it is read as its
name with that value. -/
theorem objectRound_written
    (here : cursor.At (inObject (property :: further)))
    (named : ∀ each ∈ property :: further, spellsName each.name.toList = true)
    {result : Node}
    (starts : startsToken (property.source ++ behindProperty further) = true)
    (reads : value (property.source ++ behindProperty further) =
      some (result, behindProperty further)) :
    ∃ span key reached,
      objectRound (read, trailing) ⟨scope, limit, valuesBy value⟩ cursor =
        .ok (.inl (.mk (.property (some property.name)) span [key, result] :: read, none))
          reached ∧
      reached.At (inObject further) := by
  have isNamed := named property List.mem_cons_self
  have notEnd := at?_closeBrace_written ⟨scope, limit, valuesBy value⟩ here isNamed
  obtain ⟨key, atValue, atText, propertyRead⟩ :=
    objectProperty_written ⟨scope, limit, valuesBy value⟩ here isNamed starts
  have propertyIs :
      ∀ {met : Cursor},
        valuesBy value .assignment scope atValue = .ok result met →
        objectProperty ⟨scope, limit, valuesBy value⟩ cursor =
          .ok (.mk (.property (some property.name)) ⟨cursor.start, met.previousStop⟩
            [key, result]) met := by
    intro met valueRead
    have descends : descend .assignment ⟨scope, limit, valuesBy value⟩ atValue =
        .ok result met := valueRead
    rw [propertyRead, bind_of_ok descends]
    rfl
  cases further with
  | nil =>
      obtain ⟨met, valueRead, atEnd⟩ := valuesBy_at .assignment scope atText reads
        (startsToken_delimiter .closeBrace (by decide) _) (Or.inr rfl)
      obtain ⟨closes, -⟩ := atEnd.isMark .closeBrace (by decide)
      refine ⟨⟨cursor.start, met.previousStop⟩, key, met, ?_, atEnd⟩
      rw [objectRound, bind_of_ok notEnd, if_neg Bool.false_ne_true,
        bind_of_ok (propertyIs valueRead), bind_of_ok (at?_of_mark closes)]
      rfl
  | cons next others =>
      rw [behindProperty_cons] at reads atText
      obtain ⟨met, valueRead, atComma⟩ := valuesBy_at .assignment scope atText reads
        (startsToken_delimiter .comma (by decide) _) (Or.inl rfl)
      obtain ⟨comma, -⟩ := atComma.isMark .comma (by decide)
      have nextNamed : ∀ each ∈ next :: others, spellsName each.name.toList = true :=
        fun each isNext => named each (List.mem_cons_of_mem property isNext)
      obtain ⟨reached, commaTaken, atNext⟩ :=
        expect_at ⟨scope, limit, valuesBy value⟩ atComma .comma (by decide)
          (startsToken_inObject nextNamed) (Or.inr rfl)
      have positioned : position ⟨scope, limit, valuesBy value⟩ met = .ok met.start met := rfl
      have notLast : at? .closeBrace ⟨scope, limit, valuesBy value⟩ met = .ok false met :=
        at?_of_other (by rw [comma]; decide)
      have notClosed := at?_closeBrace_written ⟨scope, limit, valuesBy value⟩ atNext
        (nextNamed next List.mem_cons_self)
      refine ⟨⟨cursor.start, met.previousStop⟩, key, reached, ?_, atNext⟩
      rw [objectRound, bind_of_ok notEnd, if_neg Bool.false_ne_true,
        bind_of_ok (propertyIs valueRead), bind_of_ok notLast, if_neg Bool.false_ne_true,
        bind_of_ok positioned, bind_of_ok commaTaken, bind_of_ok notClosed]
      rfl

/-- A round that succeeds at a written property reads its name with a value that
the text behind the name holds. -/
theorem objectRound_reads
    (here : cursor.At (inObject (property :: further)))
    (named : spellsName property.name.toList = true)
    (starts : startsToken (property.source ++ behindProperty further) = true)
    {outcome : Sum (List Node × Option Nat) (List Node × Option Nat)}
    {reached : Cursor}
    (reads : objectRound (read, trailing) ⟨scope, limit, valuesBy value⟩ cursor =
      .ok outcome reached) :
    ∃ span key result left later,
      value (property.source ++ behindProperty further) = some (result, left) ∧
      outcome = .inl (.mk (.property (some property.name)) span [key, result] :: read, later) := by
  have notEnd := at?_closeBrace_written ⟨scope, limit, valuesBy value⟩ here named
  obtain ⟨key, atValue, atText, propertyRead⟩ :=
    objectProperty_written ⟨scope, limit, valuesBy value⟩ here named starts
  rcases objectRound_outcome reads with ⟨closes, -⟩ | ⟨read, met, later, isRead, outcomeIs⟩
  · rw [at?_of_mark closes] at notEnd
    cases notEnd
  · rw [propertyRead] at isRead
    obtain ⟨result, behind, descends, isRead⟩ := ok_of_bind isRead
    obtain ⟨left, holds⟩ := value_of_valuesBy atText descends
    cases isRead
    exact ⟨_, key, result, left, later, holds, outcomeIs⟩

/-! ## Objects of written properties -/

/-- The name and the value of a property that has both. -/
def binding? : Node → Option (String × Node)
  | .mk (.property (some name)) _ [_, value] => some (name, value.bare)
  | _ => none

/-- What an object is meant to hold: properties with the expressions that are
their values. -/
def bindings (properties : List (Interpolation × Node)) : List (String × Node) :=
  properties.map fun property => (property.1.name, property.2.bare)

theorem mapM_binding?_cons
    {property : Interpolation × Node}
    {further : List (Interpolation × Node)}
    {span : Span}
    {key result : Node}
    {rest : List Node} :
    (.mk (.property (some property.1.name)) span [key, result] :: rest : List Node).mapM
        binding? = some (bindings (property :: further)) ↔
      result.bare = property.2.bare ∧ rest.mapM binding? = some (bindings further) := by
  simp only [List.mapM_cons, binding?, bindings, List.map_cons, Option.bind_eq_bind,
    Option.bind_some, Option.bind_eq_some_iff, Option.pure_def, Option.some.injEq,
    List.cons.injEq, Prod.mk.injEq, true_and]
  constructor
  · rintro ⟨_, held, same, rfl⟩
    exact ⟨same, held⟩
  · rintro ⟨same, held⟩
    exact ⟨_, held, same, rfl⟩

/-- Whether a reading of values reads the source of an expression in front of a
text as it has to.  A value ends at a comma, so an expression with commas of its own
is not read as a whole. -/
structure ReadsValue
    (value : List Char → Option (Node × List Char))
    (source behind : List Char)
    (expression : Node) : Prop where
  /-- The source starts with a token. -/
  starts : startsToken (source ++ behind) = true
  /-- Expressions separated by commas are no value. -/
  single : expression.form = .sequence →
    ∀ result left, value (source ++ behind) = some (result, left) → result.form ≠ .sequence
  /-- Every other expression is read, up to the text behind it. -/
  whole : expression.form ≠ .sequence →
    ∃ result, value (source ++ behind) = some (result, behind) ∧
      result.bare = expression.bare

/-- Whether what a reading has found for an expression in front of a text is what it
has to find. -/
def foundAsExpected (behind : List Char) (expression : Node) (found : Option (Node × List Char)) :
    Bool :=
  if expression.form = .sequence then found.all fun result => result.1.form != .sequence
  else found.any fun result => result.2 == behind && result.1.bare == expression.bare

theorem readsValue_iff
    {value : List Char → Option (Node × List Char)}
    {source behind : List Char}
    {expression : Node} :
    ReadsValue value source behind expression ↔
      startsToken (source ++ behind) = true ∧
        foundAsExpected behind expression (value (source ++ behind)) = true := by
  constructor
  · rintro ⟨starts, single, whole⟩
    refine ⟨starts, ?_⟩
    rw [foundAsExpected]
    split
    · next sequence =>
        rw [Option.all_eq_true]
        intro found reads
        exact bne_iff_ne.mpr (single sequence found.1 found.2 reads)
    · next other =>
        obtain ⟨result, reads, same⟩ := whole other
        rw [reads, Option.any_some, same, beq_self_eq_true, beq_self_eq_true]
        rfl
  · rintro ⟨starts, expected⟩
    rw [foundAsExpected] at expected
    split at expected
    · next sequence =>
        refine ⟨starts, ?_, fun other => absurd sequence other⟩
        intro _ result left reads
        rw [Option.all_eq_true] at expected
        exact bne_iff_ne.mp (expected (result, left) reads)
    · next other =>
        refine ⟨starts, fun sequence => absurd sequence other, ?_⟩
        intro _
        cases reads : value (source ++ behind) with
        | none =>
            rw [reads] at expected
            cases expected
        | some found =>
            rw [reads, Option.any_some, Bool.and_eq_true, beq_iff_eq, beq_iff_eq] at expected
            obtain ⟨left, same⟩ := expected
            exact ⟨found.1, by rw [← left], same⟩

instance
    (value : List Char → Option (Node × List Char))
    (source behind : List Char)
    (expression : Node) :
    Decidable (ReadsValue value source behind expression) :=
  decidable_of_iff _ readsValue_iff.symm

/-- Whether a reading of values reads the value of each property in front of the
further ones. -/
def ReadsValues
    (value : List Char → Option (Node × List Char)) :
    List (Interpolation × Node) → Prop
  | [] => True
  | (property, expression) :: further =>
    ReadsValue value property.source (behindProperty (further.map Prod.fst)) expression ∧
      ReadsValues value further

/-- Whether all values are read as they have to be is decided one by one. -/
def decideReadsValues (value : List Char → Option (Node × List Char)) :
    (properties : List (Interpolation × Node)) → Decidable (ReadsValues value properties)
  | [] => .isTrue trivial
  | (property, expression) :: further =>
    have := decideReadsValues value further
    decidable_of_iff
      (ReadsValue value property.source (behindProperty (further.map Prod.fst)) expression ∧
        ReadsValues value further) Iff.rfl

instance
    (value : List Char → Option (Node × List Char))
    (properties : List (Interpolation × Node)) :
    Decidable (ReadsValues value properties) :=
  decideReadsValues value properties

variable (read trailing scope limit) in
/-- An object whose values are read one by one is read as its properties. -/
theorem objectRounds_written
    {properties : List (Interpolation × Node)}
    (named : ∀ property ∈ properties.map Prod.fst, spellsName property.name.toList = true)
    (valued : ReadsValues value properties)
    (single : ∀ property ∈ properties, property.2.form ≠ .sequence)
    {rounds : Nat}
    (enough : properties.length < rounds)
    (here : cursor.At (inObject (properties.map Prod.fst))) :
    ∃ parts later reached,
      repeatFor objectRound rounds (read, trailing) ⟨scope, limit, valuesBy value⟩ cursor =
        .ok (read.reverse ++ parts, later) reached ∧
      parts.mapM binding? = some (bindings properties) ∧
      reached.At (inObject []) := by
  induction properties generalizing rounds cursor read trailing with
  | nil =>
      obtain ⟨further, rfl⟩ : ∃ further, rounds = further + 1 := ⟨rounds - 1, by
        rw [List.length_nil] at enough
        omega⟩
      refine ⟨[], trailing, cursor, ?_, rfl, here⟩
      rw [repeatFor, bind_of_ok (objectRound_end _ here), List.append_nil]
      rfl
  | cons property further inductionHypothesis =>
      obtain ⟨others, rfl⟩ : ∃ others, rounds = others + 1 := ⟨rounds - 1, by omega⟩
      obtain ⟨reading, furtherValued⟩ := valued
      obtain ⟨result, reads, same⟩ := reading.whole (single property List.mem_cons_self)
      obtain ⟨span, key, met, round, atFurther⟩ :=
        objectRound_written read trailing scope limit here named reading.starts reads
      obtain ⟨parts, later, reached, loop, held, atEnd⟩ :=
        inductionHypothesis (.mk (.property (some property.1.name)) span [key, result] :: read)
          none (fun each isFurther => named each (List.mem_cons_of_mem _ isFurther))
          furtherValued (fun each isFurther => single each (List.mem_cons_of_mem _ isFurther))
          (Nat.lt_of_succ_lt_succ enough) atFurther
      refine ⟨.mk (.property (some property.1.name)) span [key, result] :: parts, later, reached,
        ?_, ?_, atEnd⟩
      · rw [repeatFor, bind_of_ok round]
        dsimp only
        rw [loop, List.reverse_cons, List.append_assoc]
        rfl
      · exact mapM_binding?_cons.mpr ⟨same, held⟩

/-- An object with a value that has commas of its own is not read as its
properties. -/
theorem objectRounds_sequence
    {properties : List (Interpolation × Node)}
    (named : ∀ property ∈ properties.map Prod.fst, spellsName property.name.toList = true)
    (valued : ReadsValues value properties)
    (several : ∃ property ∈ properties, property.2.form = .sequence)
    {rounds : Nat}
    (here : cursor.At (inObject (properties.map Prod.fst)))
    {parts : List Node}
    {later : Option Nat}
    {reached : Cursor}
    (ends : repeatFor objectRound rounds (read, trailing) ⟨scope, limit, valuesBy value⟩ cursor =
      .ok (read.reverse ++ parts, later) reached) :
    parts.mapM binding? ≠ some (bindings properties) := by
  induction properties generalizing rounds cursor read trailing parts with
  | nil =>
      obtain ⟨property, isProperty, -⟩ := several
      exact absurd isProperty List.not_mem_nil
  | cons property further inductionHypothesis =>
      intro held
      obtain ⟨reading, furtherValued⟩ := valued
      cases rounds with
      | zero => exact fail_ne_ok .tooDeep ends
      | succ others =>
          rw [repeatFor] at ends
          obtain ⟨outcome, met, round, ends⟩ := ok_of_bind ends
          obtain ⟨span, key, result, left, next, reads, rfl⟩ :=
            objectRound_reads here (named property.1 List.mem_cons_self) reading.starts round
          dsimp only at ends
          obtain ⟨rest, kept⟩ := objectRounds_keep ends
          rw [List.reverse_cons, List.append_assoc, List.append_cancel_left_eq,
            List.singleton_append] at kept
          subst kept
          obtain ⟨same, restHeld⟩ := mapM_binding?_cons.mp held
          by_cases sequence : property.2.form = .sequence
          · apply reading.single sequence result left reads
            apply Form.eq_sequence_of_shape
            rw [← Node.form_bare, same, Node.form_bare, sequence]
          · obtain ⟨whole, wholeRead, -⟩ := reading.whole sequence
            obtain ⟨_, _, there, again, atFurther⟩ :=
              objectRound_written read trailing scope limit here named reading.starts
                wholeRead
            rw [again] at round
            cases round
            have severalFurther : ∃ each ∈ further, each.2.form = .sequence := by
              obtain ⟨each, isEach, isSequence⟩ := several
              rcases List.mem_cons.mp isEach with rfl | isFurther
              · exact absurd isSequence sequence
              · exact ⟨each, isFurther, isSequence⟩
            rw [List.append_cons, ← List.reverse_cons] at ends
            exact inductionHypothesis
              (fun each isFurther => named each (List.mem_cons_of_mem _ isFurther))
              furtherValued severalFurther atFurther ends restHeld

end Rounds

end Keying
end KeyedText
