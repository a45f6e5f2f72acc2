import KeyedText.Proofs.Keying.Rendering
import KeyedText.Proofs.Site.Naming
import KeyedText.Source.Program

/-!
# What a rendered call denotes

The text that is put in the place of a template denotes a key and an object.  The
object holds the text and the interpolated expressions, each under its own name, as
long as no expression has commas of its own.
-/

namespace KeyedText
namespace Keying

open Source Reader

/-! ## Calls -/

/-- Reads from the start of a text what stands behind the name of a function: a
string and an object in parentheses, and nothing further. -/
def lookupArguments : Reader (Option String × Node) := do
  advance
  expect .openParen
  match ← token with
  | .string key =>
    advance
    expect .comma
    let options ← object
    expect .closeParen
    if ← atFinish then return (key, options) else fail .expressionExpected
  | _ => missing "string literal"

/-- What a call of a function with a key and an object denotes: the key, and the
names of the object with their values.  A reading of values reads the values.  The
name `__proto__` holds no value in an object but chooses where it inherits from, so
an object with that name denotes no list of values. -/
def denoted?
    (value : List Char → Option (Node × List Char))
    (lookup : String)
    (text : List Char) : Option (String × List (String × Node)) :=
  if lookup.toList.isPrefixOf text then
    let behind := text.drop lookup.toList.length
    match lookupArguments ⟨{}, behind.length + 2, valuesBy value⟩ (.atStart behind) with
    | .ok (some key, options) _ =>
      match options.parts.mapM binding? with
      | some found =>
        if found.any fun binding => binding.1 == "__proto__" then none else some (key, found)
      | none => none
    | _ => none
  else none

/-- The property that holds the text of a site. -/
def textProperty (site : Site) : Interpolation :=
  ⟨Site.textOption, quoted site.text⟩

theorem startsToken_quoted
    (text rest : List Char) :
    startsToken (quoted text ++ rest) = true := by
  rfl

section Calls

variable {value : List Char → Option (Node × List Char)}

/-- What stands in a call behind the name of the function. -/
def arguments (key : String) (properties : List Interpolation) : List Char :=
  '(' :: (quoted key.toList ++ ',' :: ' ' :: '\x7b' :: ' ' :: inObject properties)

theorem call_eq
    (lookup key : String)
    (site : Site) :
    call lookup key site =
      lookup.toList ++ arguments key (textProperty site :: site.interpolations) := by
  simp only [call, arguments, inObject_cons, behindProperty, textProperty, List.append_assoc]
  rfl

/-- The arguments of a call are read up to the properties of its object. -/
theorem lookupArguments_at
    (surroundings : Surroundings)
    (key : String)
    {properties : List Interpolation}
    (named : ∀ property ∈ properties, spellsName property.name.toList = true) :
    ∃ start reached, Cursor.At reached (inObject properties) ∧
      lookupArguments surroundings (.atStart (arguments key properties)) =
      (do
        let options ←
          (do
            let (properties, trailing) ←
              inScope containerScope (repeating objectRound ([], none))
            expect .closeBrace
            node start (.object trailing) properties)
        expect .closeParen
        if ← atFinish then return (some key, options) else fail .expressionExpected :
        Reader (Option String × Node)) surroundings reached := by
  obtain ⟨met, started, atOpen⟩ :=
    advance_at surroundings (.atStart (arguments key properties)) rfl
      (startsToken_delimiter .openParen (by decide) _) (Or.inl rfl)
  obtain ⟨atArguments, opened, atKey⟩ :=
    expect_at surroundings atOpen .openParen (by decide) (startsToken_quoted _ _) (Or.inl rfl)
  obtain ⟨keyToken, behindKey⟩ := atKey.isString
  rw [String.ofList_toList] at keyToken
  have looked : token surroundings atArguments =
      .ok (.string (some key)) atArguments := by
    rw [← keyToken]
    rfl
  obtain ⟨behind, keyTaken, atComma⟩ :=
    advance_at surroundings atArguments (by rw [keyToken]; rfl)
      (startsToken_delimiter .comma (by decide) _) (Or.inl behindKey)
  obtain ⟨atObject, commaTaken, atBrace⟩ :=
    expect_at surroundings atComma .comma (by decide)
      (startsToken_delimiter .openBrace (by decide) _) (Or.inr rfl)
  obtain ⟨reached, braceTaken, there⟩ :=
    expect_at surroundings atBrace .openBrace (by decide) (startsToken_inObject named) (Or.inr rfl)
  have positioned : position surroundings atObject = .ok atObject.start atObject := rfl
  refine ⟨atObject.start, reached, there, ?_⟩
  rw [lookupArguments, bind_of_ok started, bind_of_ok opened, bind_of_ok looked]
  dsimp only
  rw [bind_of_ok keyTaken, bind_of_ok commaTaken]
  refine bind_of_eq ?_ _
  rw [object_eq, bind_of_ok positioned, bind_of_ok braceTaken]

variable {properties : List (Interpolation × Node)} {scope : Scope} {limit : Nat}

/-- Arguments whose values are read one by one are read as a whole. -/
theorem lookupArguments_written
    (key : String)
    (named : ∀ property ∈ properties.map Prod.fst, spellsName property.name.toList = true)
    (valued : ReadsValues value properties)
    (single : ∀ property ∈ properties, property.2.form ≠ .sequence)
    (enough : properties.length < limit) :
    ∃ options finished,
      lookupArguments ⟨scope, limit, valuesBy value⟩
          (.atStart (arguments key (properties.map Prod.fst))) =
        .ok (some key, options) finished ∧
      options.parts.mapM binding? = some (bindings properties) := by
  obtain ⟨start, reached, there, readIs⟩ :=
    lookupArguments_at ⟨scope, limit, valuesBy value⟩ key named
  obtain ⟨parts, later, met, loop, held, atEnd⟩ :=
    objectRounds_written [] none (containerScope scope) limit named valued single enough there
  have looped : inScope containerScope (repeating objectRound ([], none))
      ⟨scope, limit, valuesBy value⟩ reached = .ok (parts, later) met := loop
  obtain ⟨behindBrace, closed, atParen⟩ :=
    expect_at ⟨scope, limit, valuesBy value⟩ atEnd .closeBrace (by decide)
      (startsToken_delimiter .closeParen (by decide) _) (Or.inl rfl)
  obtain ⟨finished, ended, atNothing⟩ :=
    expect_at ⟨scope, limit, valuesBy value⟩ atParen .closeParen (by decide) rfl (Or.inl rfl)
  have options :
      (do
        let (properties, trailing) ←
          inScope containerScope (repeating objectRound ([], none))
        expect .closeBrace
        node start (.object trailing) properties : Reader Node)
          ⟨scope, limit, valuesBy value⟩ reached =
        .ok (.mk (.object later) ⟨start, behindBrace.previousStop⟩ parts) behindBrace := by
    rw [bind_of_ok looped]
    dsimp only
    rw [bind_of_ok closed]
    rfl
  have isFinish : atFinish ⟨scope, limit, valuesBy value⟩ finished = .ok true finished := by
    obtain ⟨-, token, -⟩ := atNothing
    obtain ⟨_, _, _, _⟩ := finished
    cases token
    rfl
  refine ⟨.mk (.object later) ⟨start, behindBrace.previousStop⟩ parts, finished, ?_, held⟩
  rw [readIs, bind_of_ok options, bind_of_ok ended, bind_of_ok isFinish]
  rfl

/-- Arguments with a value that has commas of its own are not read as a whole. -/
theorem lookupArguments_sequence
    {key : String}
    (named : ∀ property ∈ properties.map Prod.fst, spellsName property.name.toList = true)
    (valued : ReadsValues value properties)
    (several : ∃ property ∈ properties, property.2.form = .sequence)
    {found : Option String}
    {options : Node}
    {finished : Cursor}
    (reads : lookupArguments ⟨scope, limit, valuesBy value⟩
        (.atStart (arguments key (properties.map Prod.fst))) =
      .ok (found, options) finished) :
    options.parts.mapM binding? ≠ some (bindings properties) := by
  obtain ⟨start, reached, there, readIs⟩ :=
    lookupArguments_at ⟨scope, limit, valuesBy value⟩ key named
  rw [readIs] at reads
  obtain ⟨object, _, objectRead, reads⟩ := ok_of_bind reads
  obtain ⟨_, _, -, reads⟩ := ok_of_bind reads
  obtain ⟨ended, _, -, reads⟩ := ok_of_bind reads
  obtain ⟨⟨parts, later⟩, met, looped, objectRead⟩ := ok_of_bind objectRead
  obtain ⟨_, _, -, objectRead⟩ := ok_of_bind objectRead
  have loop : repeatFor objectRound limit ([], none)
      ⟨containerScope scope, limit, valuesBy value⟩ reached =
        .ok ([].reverse ++ parts, later) met :=
    looped
  cases objectRead
  cases ended with
  | true =>
      cases reads
      exact objectRounds_sequence named valued several there loop
  | false => exact absurd reads (fail_ne_ok _)

/-- A call is read with its properties exactly if no value has commas of its own
and no name chooses where the object inherits from. -/
theorem denoted?_call_iff
    (lookup key : String)
    {site : Site}
    (are : properties.map Prod.fst = textProperty site :: site.interpolations)
    (named : ∀ property ∈ properties.map Prod.fst, spellsName property.name.toList = true)
    (valued : ReadsValues value properties) :
    denoted? value lookup (call lookup key site) = some (key, bindings properties) ↔
      ∀ property ∈ properties,
        property.2.form ≠ .sequence ∧ property.1.name ≠ "__proto__" := by
  rw [denoted?, call_eq, ← are, if_pos (List.isPrefixOf_iff_prefix.mpr (List.prefix_append _ _)),
    List.drop_left]
  dsimp only
  have enough : properties.length <
      (arguments key (properties.map Prod.fst)).length + 2 := by
    have spelled := length_le_inObject (properties.map Prod.fst)
    rw [List.length_map] at spelled
    simp only [arguments, List.length_cons, List.length_append]
    omega
  constructor
  · intro denoted
    split at denoted
    · next found options finished reads =>
        split at denoted
        · next read held =>
            split at denoted
            · cases denoted
            · next proper =>
                cases denoted
                intro property isProperty
                constructor
                · intro sequence
                  exact lookupArguments_sequence named valued ⟨property, isProperty, sequence⟩
                    reads held
                · intro chooses
                  apply proper
                  rw [List.any_eq_true]
                  exact ⟨_, List.mem_map_of_mem isProperty, by rw [chooses]; rfl⟩
        · cases denoted
    · cases denoted
  · intro proper
    obtain ⟨options, finished, reads, held⟩ :=
      lookupArguments_written key named valued
        (fun property isProperty => (proper property isProperty).1) enough
    have notChosen :
        ((bindings properties).any fun binding => binding.1 == "__proto__") = false := by
      rw [List.any_eq_false]
      intro binding isBinding
      obtain ⟨property, isProperty, rfl⟩ := List.mem_map.mp isBinding
      rw [beq_iff_eq]
      exact (proper property isProperty).2
    rw [reads]
    dsimp only
    rw [held]
    dsimp only
    rw [notChosen, if_neg Bool.false_ne_true]

end Calls

/-! ## Templates -/

/-- Whether a reading of values reads a string with which a text starts as it is
scanned. -/
def ReadsString
    (value : List Char → Option (Node × List Char))
    (text : List Char) : Prop :=
  ∀ content, (scanToken 0 text).token = .string (some content) →
    ∃ result, value text = some (result, (scanToken 0 text).rest) ∧
      result.bare = .mk (.string (some content)) ⟨0, 0⟩ []

/-- A text as the value of a property. -/
def textNode (text : List Char) : Node :=
  .mk (.string (some (String.ofList text))) ⟨0, 0⟩ []

theorem readsValue_quoted
    {value : List Char → Option (Node × List Char)}
    {text behind : List Char}
    (textRead : ReadsString value (quoted text ++ behind)) :
    ReadsValue value (quoted text) behind (textNode text) where
  starts := startsToken_quoted text behind
  single := nofun
  whole := by
    intro _
    unfold ReadsString at textRead
    rw [scanToken_quoted] at textRead
    exact textRead (String.ofList text) rfl

/-- The properties of a call in the place of a template, with the values that they
are meant to have. -/
def templateProperties (site : Site) (expressions : List Node) : List (Interpolation × Node) :=
  (textProperty site, textNode site.text) :: site.interpolations.zip expressions

section Template

variable {site : Site} {expressions : List Node}

theorem map_fst_templateProperties
    (count : site.interpolations.length = expressions.length) :
    (templateProperties site expressions).map Prod.fst =
      textProperty site :: site.interpolations := by
  rw [templateProperties, List.map_cons, List.map_fst_zip (Nat.le_of_eq count)]

theorem bindings_templateProperties :
    bindings (templateProperties site expressions) =
      (Site.textOption, textNode site.text) ::
        (site.interpolations.map Interpolation.name).zip (expressions.map Node.bare) := by
  rw [List.zip_map]
  rfl

theorem spellsName_templateProperties
    (count : site.interpolations.length = expressions.length)
    (named : ∀ name ∈ site.interpolations.map Interpolation.name,
      spellsName name.toList = true) :
    ∀ property ∈ (templateProperties site expressions).map Prod.fst,
      spellsName property.name.toList = true := by
  rw [map_fst_templateProperties count, List.forall_mem_cons]
  constructor
  · have isName : spellsName Site.textOption.toList = true := by decide
    exact isName
  · exact List.forall_mem_map.mp named

theorem readsValues_templateProperties
    {value : List Char → Option (Node × List Char)}
    (count : site.interpolations.length = expressions.length)
    (textRead : ReadsString value (quoted site.text ++ behindProperty site.interpolations))
    (valued : ReadsValues value (site.interpolations.zip expressions)) :
    ReadsValues value (templateProperties site expressions) := by
  refine ⟨readsValue_quoted ?_, valued⟩
  rw [List.map_fst_zip (Nat.le_of_eq count)]
  exact textRead

theorem forall_templateProperties
    (count : site.interpolations.length = expressions.length) :
    (∀ property ∈ templateProperties site expressions,
      property.2.form ≠ .sequence ∧ property.1.name ≠ "__proto__") ↔
      (∀ expression ∈ expressions, expression.form ≠ .sequence) ∧
        "__proto__" ∉ site.interpolations.map Interpolation.name := by
  constructor
  · intro proper
    have further : ∀ property ∈ site.interpolations.zip expressions,
        property.2.form ≠ .sequence ∧ property.1.name ≠ "__proto__" :=
      fun property isProperty => proper property (List.mem_cons_of_mem _ isProperty)
    constructor
    · rw [← List.map_snd_zip (Nat.le_of_eq count.symm), List.forall_mem_map]
      exact fun property isProperty => (further property isProperty).1
    · intro chooses
      rw [← List.map_fst_zip (Nat.le_of_eq count), List.map_map] at chooses
      obtain ⟨property, isProperty, same⟩ := List.mem_map.mp chooses
      exact (further property isProperty).2 same
  · rintro ⟨single, proper⟩ property isProperty
    rcases List.mem_cons.mp isProperty with rfl | isFurther
    · have differs : Site.textOption ≠ "__proto__" := by decide
      exact ⟨nofun, differs⟩
    · obtain ⟨isKey, isValue⟩ := List.of_mem_zip isFurther
      refine ⟨single property.2 isValue, ?_⟩
      intro chooses
      exact proper (List.mem_map.mpr ⟨property.1, isKey, chooses⟩)

end Template

/-- The call in the place of a template denotes the key and an object with the text
and every expression under a name of its own, exactly if no expression has commas
of its own and none is known by the name of the prototype. -/
theorem replacement_denotes
    {surroundings : Surroundings}
    {cursor reached : Cursor}
    {chunks : List (Option String)}
    {span : Span}
    {expressions : List Node}
    (read : template surroundings cursor =
      .ok (.mk (.template chunks) span expressions) reached)
    (suggested : ∀ expression ∈ expressions, ∀ name,
      Site.suggestedName? expression = some name → spellsName name.toList = true)
    {source : List Char}
    {situation : Site.Situation}
    {site : Site}
    (found : Site.own? source situation (.template chunks) span expressions = some site)
    {value : List Char → Option (Node × List Char)}
    (textRead : ReadsString value (quoted site.text ++ behindProperty site.interpolations))
    (valued : ReadsValues value (site.interpolations.zip expressions))
    (lookup key : String) :
    (site.interpolations.map Interpolation.name).Nodup ∧
      Site.textOption ∉ site.interpolations.map Interpolation.name ∧
      site.interpolations.length = expressions.length ∧
      site.interpolations.length + 1 = chunks.length ∧
      (denoted? value lookup (replacement lookup key site) =
          some (key, (Site.textOption, textNode site.text) ::
            (site.interpolations.map Interpolation.name).zip (expressions.map Node.bare)) ↔
        (∀ expression ∈ expressions, expression.form ≠ .sequence) ∧
          "__proto__" ∉ site.interpolations.map Interpolation.name) := by
  obtain ⟨kind, interpolations⟩ := Site.interpolations_of_template found
  have names : site.interpolations.map Interpolation.name =
      (Site.templateNames expressions).2 := by
    rw [interpolations, List.map_map]
    exact List.map_fst_zip (Nat.le_of_eq (Site.length_templateNames expressions))
  have count : site.interpolations.length = expressions.length := by
    rw [← List.length_map (f := Interpolation.name), names, Site.length_templateNames]
  have named : ∀ name ∈ site.interpolations.map Interpolation.name,
      spellsName name.toList = true := by
    rw [names]
    exact fun name isName => Site.spellsName_of_mem_templateNames suggested isName
  have isCall : replacement lookup key site = call lookup key site := by
    rw [replacement, kind, Site.needsBraces_templateNames, if_neg Bool.false_ne_true]
  refine ⟨?_, ?_, count, ?_, ?_⟩
  · rw [names]
    exact Site.nodup_templateNames expressions
  · rw [names]
    exact Site.textOption_notMem_templateNames expressions
  · rw [count, length_chunks_of_template read]
  · rw [isCall, ← bindings_templateProperties,
      denoted?_call_iff lookup key (map_fst_templateProperties count)
        (spellsName_templateProperties count named)
        (readsValues_templateProperties count textRead valued),
      forall_templateProperties count]

/-- The reading of values by the grammar itself, at the top level of a module. -/
def readValue (text : List Char) : Option (Node × List Char) :=
  let limit := text.length + 2
  match (do advance; descend .assignment : Reader Node)
      ⟨.ofModule, limit, readAt limit (16 * limit)⟩ (.atStart text) with
  | .ok result reached => some (result, text.drop reached.previousStop)
  | .error _ _ => none

/-- A template with a variable and with two variables separated by a comma. -/
def pairSource : List Char :=
  "\x60A $\x7bx\x7d or ".toList ++ "$\x7by, z\x7d\x60".toList

/-- The expressions of the template. -/
def pairExpressions : List Node :=
  [.mk (.identifier "x") ⟨5, 6⟩ [],
   .mk .sequence ⟨13, 17⟩ [.mk (.identifier "y") ⟨13, 14⟩ [], .mk (.identifier "z") ⟨16, 17⟩ []]]

/-- The site of the template. -/
def pairSite : Site where
  kind := .mixedTemplate
  text := "A \x7b\x7bvalue0\x7d\x7d or ".toList ++ "\x7b\x7bvalue1\x7d\x7d".toList
  interpolations := [⟨"value0", ['x']⟩, ⟨"value1", ['y', ',', ' ', 'z']⟩]
  holder := none
  tag := none
  depth := 0
  span := ⟨0, 19⟩
  line := 1
  chunks := [['A', ' '], " or ".toList, []]
  review := none

/-- The pair is not read back as a value, so its call does not denote the text with
both expressions. -/
theorem replacement_denotes_for_pairSite :
    pairSite.interpolations.map Interpolation.name = ["value0", "value1"] ∧
      denoted? readValue "t" (replacement "t" "a:b" pairSite) ≠
        some ("a:b", (Site.textOption, textNode pairSite.text) ::
          ["value0", "value1"].zip (pairExpressions.map Node.bare)) := by
  have readable :
      (match (do advance; template : Reader Node)
          ⟨.ofModule, 21, readAt 21 336⟩ (.atStart pairSource) with
      | .ok result _ =>
        decide (result =
          .mk (.template [some "A ", some " or ", some ""]) ⟨0, 19⟩ pairExpressions)
      | .error _ _ => false) = true := by
    decide +kernel
  split at readable
  · next result reached ran =>
      obtain ⟨_, cursor, -, read⟩ := ok_of_bind ran
      rw [of_decide_eq_true readable] at read
      have found : Site.own? pairSource .outermost
          (.template [some "A ", some " or ", some ""]) ⟨0, 19⟩ pairExpressions =
            some pairSite := by
        decide +kernel
      have suggested : ∀ expression ∈ pairExpressions, ∀ name,
          Site.suggestedName? expression = some name → spellsName name.toList = true := by
        intro expression isExpression name suggests
        simp only [pairExpressions, List.mem_cons, List.not_mem_nil, or_false] at isExpression
        rcases isExpression with rfl | rfl
        · cases suggests
          decide
        · cases suggests
      have textRead : ReadsString readValue
          (quoted pairSite.text ++ behindProperty pairSite.interpolations) := by
        intro content scanned
        have isText : content = String.ofList pairSite.text := by
          rw [scanToken_quoted] at scanned
          cases scanned
          rfl
        have reads : foundAsExpected (behindProperty pairSite.interpolations)
            (textNode pairSite.text)
            (readValue (quoted pairSite.text ++ behindProperty pairSite.interpolations)) =
              true := by
          decide +kernel
        rw [isText, scanToken_quoted]
        exact (readsValue_iff.mpr ⟨startsToken_quoted _ _, reads⟩).whole nofun
      have valued : ReadsValues readValue (pairSite.interpolations.zip pairExpressions) := by
        decide +kernel
      obtain ⟨-, -, -, -, denotes⟩ :=
        replacement_denotes read suggested found textRead valued "t" "a:b"
      refine ⟨by decide, ?_⟩
      intro denoted
      obtain ⟨single, -⟩ := denotes.mp denoted
      exact single _ (List.mem_cons_of_mem _ List.mem_cons_self) rfl
  · cases readable

end Keying
end KeyedText
