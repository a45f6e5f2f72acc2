import KeyedText.Proofs.Source.Scanning
import KeyedText.Source.Grammar.Expression

/-!
# Reading the properties of an object

The grammar reads an object property by property and leaves the values to its
recursion.  With any reading of values in the place of that recursion, an object
whose properties are names with values is read as exactly these.
-/

namespace KeyedText
namespace Source

open Keying Reader

/-! ## Readers -/

/-- Readers in a row go on where the first one ends. -/
theorem bind_of_ok
    {reader : Reader α}
    {surroundings : Surroundings}
    {cursor reached : Cursor}
    {result : α}
    (reads : reader surroundings cursor = .ok result reached)
    (next : α → Reader β) :
    (reader >>= next) surroundings cursor = next result surroundings reached := by
  simp only [bind, ReaderT.bind, EStateM.bind, reads]

/-- Readers in a row fail as the first one does. -/
theorem bind_of_error
    {reader : Reader α}
    {surroundings : Surroundings}
    {cursor reached : Cursor}
    {fault : Fault}
    (fails : reader surroundings cursor = .error fault reached)
    (next : α → Reader β) :
    (reader >>= next) surroundings cursor = .error fault reached := by
  simp only [bind, ReaderT.bind, EStateM.bind, fails]

theorem bind_of_eq
    {first second : Reader α}
    {surroundings : Surroundings}
    {cursor reached : Cursor}
    (same : first surroundings cursor = second surroundings reached)
    (next : α → Reader β) :
    (first >>= next) surroundings cursor = (second >>= next) surroundings reached := by
  simp only [bind, ReaderT.bind, EStateM.bind, same]

/-- A reader that starts with another one succeeds only if that one does. -/
theorem ok_of_bind
    {reader : Reader α}
    {next : α → Reader β}
    {surroundings : Surroundings}
    {cursor finished : Cursor}
    {outcome : β}
    (reads : (reader >>= next) surroundings cursor = .ok outcome finished) :
    ∃ result reached, reader surroundings cursor = .ok result reached ∧
      next result surroundings reached = .ok outcome finished := by
  cases first : reader surroundings cursor with
  | ok result reached =>
      rw [bind_of_ok first] at reads
      exact ⟨result, reached, rfl, reads⟩
  | error fault reached =>
      rw [bind_of_error first] at reads
      cases reads

theorem fail_ne_ok
    (cause : Cause)
    {surroundings : Surroundings}
    {cursor reached : Cursor}
    {result : α} :
    fail cause surroundings cursor ≠ .ok result reached := by
  intro reads
  obtain ⟨_, _, token, _⟩ := cursor
  cases token <;> cases reads

/-- A result with a property holds of a loop whose rounds keep an invariant that
gives the property in the end. -/
theorem repeatFor_preserves
    {step : σ → Reader (Sum σ α)}
    {surroundings : Surroundings}
    (invariant : σ → Prop)
    (holds : α → Prop)
    (preserves : ∀ state cursor next reached, invariant state →
      step state surroundings cursor = .ok (.inl next) reached → invariant next)
    (gives : ∀ state cursor result reached, invariant state →
      step state surroundings cursor = .ok (.inr result) reached → holds result)
    (rounds : Nat)
    {state : σ}
    (initially : invariant state)
    {cursor reached : Cursor}
    {result : α}
    (ends : repeatFor step rounds state surroundings cursor = .ok result reached) :
    holds result := by
  induction rounds generalizing state cursor with
  | zero =>
      exact absurd ends (fail_ne_ok .tooDeep)
  | succ rounds inductionHypothesis =>
      rw [repeatFor] at ends
      obtain ⟨outcome, met, first, ends⟩ := ok_of_bind ends
      cases outcome with
      | inl next =>
          exact inductionHypothesis (preserves state cursor next met initially first) ends
      | inr finished =>
          have gave : holds finished := gives state cursor finished met initially first
          cases ends
          exact gave

/-! ## Cursors -/

/-- Whether a cursor stands at the token with which a text starts. -/
structure Cursor.At (cursor : Cursor) (text : List Char) : Prop where
  /-- The text starts at the current token. -/
  ahead : cursor.text = text
  /-- The current token is the first one of the text. -/
  token : cursor.token = (scanToken cursor.start text).token
  /-- Behind the token stands the rest of the text. -/
  behind : cursor.rest = (scanToken cursor.start text).rest

/-- Whether a token is one that a reader can move past. -/
def Token.isWhole : Token → Bool
  | .broken _ => false
  | _ => true

/-- Moving past a token leads to the text behind it, gaps skipped. -/
theorem advance_at
    (surroundings : Surroundings)
    (cursor : Cursor)
    (whole : cursor.token.isWhole = true)
    {text : List Char}
    (starts : startsToken text = true)
    (leads : cursor.rest = text ∨ cursor.rest = ' ' :: text) :
    ∃ reached, advance surroundings cursor = .ok () reached ∧ reached.At text := by
  obtain ⟨position, gap⟩ : ∃ position,
      skipGap .free false [] cursor.stop cursor.rest = ⟨text, position, false, [], none⟩ := by
    rcases leads with here | spaced
    · rw [here]
      exact ⟨_, skipGap_of_startsToken cursor.stop starts⟩
    · rw [spaced]
      exact ⟨_, skipGap_space cursor.stop starts⟩
  have settles : advance surroundings cursor =
      settle text position false [] (scanToken position text) surroundings cursor := by
    cases token : cursor.token with
    | broken fault =>
        rw [token] at whole
        cases whole
    | _ =>
        have looked : (get : Reader Cursor) surroundings cursor = .ok cursor cursor := rfl
        rw [advance, advanceWith, bind_of_ok looked, token]
        dsimp only
        rw [gap]
  rw [settles]
  exact ⟨_, rfl, ⟨rfl, rfl, rfl⟩⟩

/-! ## Looking and taking -/

section Taking

variable {surroundings : Surroundings} {cursor reached : Cursor} {mark : Mark}

theorem at?_of_mark
    (here : cursor.token = .mark mark) :
    at? mark surroundings cursor = .ok true cursor := by
  obtain ⟨_, _, token, _⟩ := cursor
  cases here
  refine congrArg (EStateM.Result.ok · _) ?_
  exact beq_self_eq_true mark

theorem at?_of_other
    (other : cursor.token ≠ .mark mark) :
    at? mark surroundings cursor = .ok false cursor := by
  obtain ⟨_, _, token, _⟩ := cursor
  cases token with
  | mark found =>
      refine congrArg (EStateM.Result.ok · _) ?_
      rw [beq_eq_false_iff_ne]
      rintro rfl
      exact other rfl
  | _ => rfl

/-- A mark that is there is accepted. -/
theorem accept_of_mark
    (here : cursor.token = .mark mark)
    (advances : advance surroundings cursor = .ok () reached) :
    accept mark surroundings cursor = .ok true reached := by
  rw [accept, bind_of_ok (at?_of_mark here), if_pos rfl, bind_of_ok advances]
  rfl

theorem accept_of_other
    (other : cursor.token ≠ .mark mark) :
    accept mark surroundings cursor = .ok false cursor := by
  rw [accept, bind_of_ok (at?_of_other other)]
  rfl

/-- A mark that is expected and there is passed. -/
theorem expect_of_mark
    (here : cursor.token = .mark mark)
    (advances : advance surroundings cursor = .ok () reached) :
    expect mark surroundings cursor = .ok () reached := by
  rw [expect, bind_of_ok (accept_of_mark here advances)]
  rfl

/-- In front of a delimiter the reader is at its mark. -/
theorem Cursor.At.isMark
    {delimiter : Char}
    {rest : List Char}
    (here : cursor.At (delimiter :: rest))
    (mark : Mark)
    (isDelimiter : (delimiter, mark) ∈ delimiters) :
    cursor.token = .mark mark ∧ cursor.rest = rest := by
  obtain ⟨-, token, behind⟩ := here
  rw [scanToken_delimiter isDelimiter] at token behind
  exact ⟨token, behind⟩

/-- In front of a name the reader is at that word. -/
theorem Cursor.At.isWord
    {name rest : List Char}
    {delimiter : Char}
    (here : cursor.At (name ++ delimiter :: rest))
    (named : spellsName name = true)
    (ends : endsName delimiter = true) :
    cursor.token = .word (String.ofList name) ∧ cursor.rest = delimiter :: rest := by
  obtain ⟨-, token, behind⟩ := here
  rw [scanToken_name named cursor.start ends] at token behind
  exact ⟨token, behind⟩

/-- In front of a quoted text the reader is at that string. -/
theorem Cursor.At.isString
    {text rest : List Char}
    (here : cursor.At (quoted text ++ rest)) :
    cursor.token = .string (some (String.ofList text)) ∧ cursor.rest = rest := by
  obtain ⟨-, token, behind⟩ := here
  rw [scanToken_quoted] at token behind
  exact ⟨token, behind⟩

/-- A mark in front of a text is taken, and the text stands behind it. -/
theorem expect_at
    (surroundings : Surroundings)
    {delimiter : Char}
    {rest text : List Char}
    (here : cursor.At (delimiter :: rest))
    (mark : Mark)
    (isDelimiter : (delimiter, mark) ∈ delimiters)
    (starts : startsToken text = true)
    (leads : rest = text ∨ rest = ' ' :: text) :
    ∃ reached, expect mark surroundings cursor = .ok () reached ∧ reached.At text := by
  obtain ⟨token, behind⟩ := here.isMark mark isDelimiter
  have whole : cursor.token.isWhole = true := by rw [token]; rfl
  rw [← behind] at leads
  obtain ⟨reached, advances, there⟩ := advance_at surroundings _ whole starts leads
  exact ⟨reached, expect_of_mark token advances, there⟩

theorem next_of_advance
    {fits : Token → Bool → Bool}
    (advances : advance surroundings { cursor with muted := true } = .ok () reached) :
    next fits surroundings cursor = .ok (fits reached.token reached.newline) cursor := by
  have answers : (do advance; let cursor ← get; return fits cursor.token cursor.newline :
      Reader Bool) surroundings { cursor with muted := true } =
        .ok (fits reached.token reached.newline) reached := by
    rw [bind_of_ok advances]
    rfl
  rw [next, ahead, answers]

theorem leaf_of_advance
    (form : Form)
    (advances : advance surroundings cursor = .ok () reached) :
    leaf form surroundings cursor =
      .ok (.mk form ⟨cursor.start, reached.previousStop⟩ []) reached := by
  have positioned : position surroundings cursor = .ok cursor.start cursor := rfl
  rw [leaf, bind_of_ok positioned, bind_of_ok advances]
  rfl

end Taking

/-! ## Properties -/

section Properties

variable {cursor : Cursor} {name rest : List Char}

/-- A word in front of a colon is no modifier. -/
theorem parameterModifier?_at
    (surroundings : Surroundings)
    (here : cursor.At (name ++ ':' :: rest))
    (named : spellsName name = true) :
    parameterModifier? surroundings cursor = .ok false cursor := by
  obtain ⟨token, behind⟩ := here.isWord named (by decide)
  have isColon : (':', Mark.colon) ∈ delimiters := by decide
  have whole : cursor.token.isWhole = true := by rw [token]; rfl
  obtain ⟨reached, advances, there⟩ :=
    advance_at surroundings { cursor with muted := true } whole
      (startsToken_delimiter .colon isColon rest) (Or.inl behind)
  obtain ⟨colon, -⟩ := there.isMark .colon isColon
  obtain ⟨isModifier, looked⟩ : ∃ answer,
      atAnyWord ["public", "protected", "private", "readonly"] surroundings cursor =
        .ok answer cursor := by
    obtain ⟨_, _, token, _⟩ := cursor
    cases token
    exact ⟨_, rfl⟩
  rw [parameterModifier?, bind_of_ok looked, bind_of_ok (next_of_advance advances), colon]
  cases isModifier with
  | false => rfl
  | true => rfl

/-- The key in front of a colon is the word that stands there. -/
theorem propertyKey_at
    (surroundings : Surroundings)
    (here : cursor.At (name ++ ':' :: rest))
    (named : spellsName name = true) :
    ∃ key reached,
      propertyKey surroundings cursor = .ok (key, some (String.ofList name)) reached ∧
      reached.At (':' :: rest) := by
  obtain ⟨word, behind⟩ := here.isWord named (by decide)
  have isColon : (':', Mark.colon) ∈ delimiters := by decide
  have whole : cursor.token.isWhole = true := by rw [word]; rfl
  obtain ⟨reached, advances, there⟩ :=
    advance_at surroundings _ whole (startsToken_delimiter .colon isColon rest) (Or.inl behind)
  have positioned : position surroundings cursor = .ok cursor.start cursor := rfl
  have looked : token surroundings cursor = .ok (.word (String.ofList name)) cursor := by
    rw [← word]
    rfl
  refine ⟨.mk (.identifier (String.ofList name)) ⟨cursor.start, reached.previousStop⟩ [],
    reached, ?_, there⟩
  rw [propertyKey, bind_of_ok positioned, bind_of_ok looked]
  dsimp only
  rw [bind_of_ok (leaf_of_advance _ advances)]
  rfl

/-- A property that is a name with a value is read up to its value, which the
recursion reads. -/
theorem objectProperty_at
    (surroundings : Surroundings)
    {text : List Char}
    (here : cursor.At (name ++ ':' :: ' ' :: text))
    (named : spellsName name = true)
    (starts : startsToken text = true) :
    ∃ key reached, reached.At text ∧
      objectProperty surroundings cursor =
        (do
          let value ← descend .assignment
          node cursor.start (.property (some (String.ofList name))) [key, value] : Reader Node)
        surroundings reached := by
  obtain ⟨word, -⟩ := here.isWord named (by decide)
  obtain ⟨key, met, keyRead, atColon⟩ := propertyKey_at surroundings here named
  obtain ⟨colon, behind⟩ := atColon.isMark .colon (by decide)
  have whole : met.token.isWhole = true := by rw [colon]; rfl
  obtain ⟨reached, advances, there⟩ :=
    advance_at surroundings _ whole starts (Or.inr behind)
  have positioned : position surroundings cursor = .ok cursor.start cursor := rfl
  have notSpread : accept .ellipsis surroundings cursor = .ok false cursor :=
    accept_of_other (by rw [word]; exact Token.noConfusion)
  have notGenerator : accept .star surroundings cursor = .ok false cursor :=
    accept_of_other (by rw [word]; exact Token.noConfusion)
  have looked : word? surroundings cursor = .ok (some (String.ofList name)) cursor := by
    obtain ⟨_, _, token, _⟩ := cursor
    cases word
    rfl
  have goesOn : atPropertyRest surroundings met = .ok true met := by
    obtain ⟨_, _, token, _⟩ := met
    cases colon
    rfl
  refine ⟨key, reached, there, ?_⟩
  rw [objectProperty, bind_of_ok positioned, bind_of_ok notSpread, if_neg Bool.false_ne_true,
    bind_of_ok notGenerator, if_neg Bool.false_ne_true,
    bind_of_ok (parameterModifier?_at surroundings here named), bind_of_ok positioned,
    bind_of_ok looked, bind_of_ok keyRead]
  dsimp only
  rw [bind_of_ok goesOn, if_neg (by decide), bind_of_ok (accept_of_mark colon advances),
    if_pos rfl]

end Properties

/-! ## Objects -/

/-- A round of reading an object: its end, or one more property. -/
def objectRound (state : List Node × Option Nat) :
    Reader (Sum (List Node × Option Nat) (List Node × Option Nat)) := do
  let (read, trailing) := state
  if ← at? .closeBrace then return .inr (read.reverse, trailing)
  else
    let property ← objectProperty
    if ← at? .closeBrace then return .inl (property :: read, none)
    else
      let comma ← position
      expect .comma
      return .inl (property :: read, if ← at? .closeBrace then some comma else none)

/-- An object is read in rounds between its braces. -/
theorem object_eq :
    object =
      (do
        let start ← position
        expect .openBrace
        let (properties, trailing) ←
          inScope containerScope (repeating objectRound ([], none))
        expect .closeBrace
        node start (.object trailing) properties) :=
  rfl

/-- A round that succeeds ends the object or puts one property behind those that
are read already. -/
theorem objectRound_outcome
    {state : List Node × Option Nat}
    {surroundings : Surroundings}
    {cursor reached : Cursor}
    {outcome : Sum (List Node × Option Nat) (List Node × Option Nat)}
    (reads : objectRound state surroundings cursor = .ok outcome reached) :
    (cursor.token = .mark .closeBrace ∧ outcome = .inr (state.1.reverse, state.2)) ∨
      ∃ property met trailing,
        objectProperty surroundings cursor = .ok property met ∧
        outcome = .inl (property :: state.1, trailing) := by
  obtain ⟨read, trailing⟩ := state
  by_cases closes : cursor.token = .mark .closeBrace
  · rw [objectRound, bind_of_ok (at?_of_mark closes)] at reads
    cases reads
    exact Or.inl ⟨closes, rfl⟩
  · rw [objectRound, bind_of_ok (at?_of_other closes)] at reads
    obtain ⟨property, met, propertyRead, reads⟩ := ok_of_bind reads
    obtain ⟨atLast, _, -, reads⟩ := ok_of_bind reads
    cases atLast with
    | true =>
        cases reads
        exact Or.inr ⟨property, met, none, propertyRead, rfl⟩
    | false =>
        obtain ⟨comma, _, -, reads⟩ := ok_of_bind reads
        obtain ⟨_, _, -, reads⟩ := ok_of_bind reads
        obtain ⟨_, _, -, reads⟩ := ok_of_bind reads
        cases reads
        exact Or.inr ⟨property, met, _, propertyRead, rfl⟩

/-- The properties that are read already stay the first ones of the object. -/
theorem objectRounds_keep
    {surroundings : Surroundings}
    {cursor reached : Cursor}
    {state finished : List Node × Option Nat}
    {rounds : Nat}
    (ends : repeatFor objectRound rounds state surroundings cursor = .ok finished reached) :
    state.1.reverse <+: finished.1 := by
  refine repeatFor_preserves (fun later => state.1.reverse <+: later.1.reverse)
    (fun result => state.1.reverse <+: result.1) ?_ ?_ rounds (List.prefix_refl _) ends
  · intro later met next behind kept reads
    rcases objectRound_outcome reads with ⟨-, ended⟩ | ⟨property, _, trailing, -, went⟩
    · cases ended
    · cases went
      rw [List.reverse_cons]
      exact kept.trans (List.prefix_append _ _)
  · intro later met result behind kept reads
    rcases objectRound_outcome reads with ⟨-, ended⟩ | ⟨property, _, trailing, -, went⟩
    · cases ended
      exact kept
    · cases went

/-! ## Templates -/

/-- A template has one chunk more than expressions. -/
theorem length_chunks_of_template
    {surroundings : Surroundings}
    {cursor reached : Cursor}
    {chunks : List (Option String)}
    {span : Span}
    {expressions : List Node}
    (reads : template surroundings cursor = .ok (.mk (.template chunks) span expressions) reached) :
    chunks.length = expressions.length + 1 := by
  obtain ⟨start, _, -, reads⟩ := ok_of_bind reads
  obtain ⟨parts, met, partsRead, reads⟩ := ok_of_bind reads
  have counted : parts.1.length = parts.2.length + 1 := by
    obtain ⟨_, _, -, partsRead⟩ := ok_of_bind partsRead
    refine repeatFor_preserves (fun state => state.1.length = state.2.length)
      (fun result => result.1.length = result.2.length + 1) ?_ ?_ _ rfl partsRead
    · intro state _ next _ even round
      obtain ⟨⟨chunk, last⟩, _, -, round⟩ := ok_of_bind round
      cases last with
      | true => cases round
      | false =>
          obtain ⟨interpolated, _, -, round⟩ := ok_of_bind round
          obtain ⟨_, _, -, round⟩ := ok_of_bind round
          cases round
          simp only [List.length_cons, even]
    · intro state _ result _ even round
      obtain ⟨⟨chunk, last⟩, _, -, round⟩ := ok_of_bind round
      cases last with
      | true =>
          cases round
          simp only [List.length_reverse, List.length_cons, even]
      | false =>
          obtain ⟨interpolated, _, -, round⟩ := ok_of_bind round
          obtain ⟨_, _, -, round⟩ := ok_of_bind round
          cases round
  cases reads
  exact counted

/-! ## Values -/

/-- A recursion by which no construct can be read. -/
def unreadable (_ : Construct) (_ : Scope) : Step Node := fun cursor =>
  .error ⟨cursor.start, .expressionExpected⟩ cursor

/-- A reading of values in the place of the recursion of the grammar: it reads the
text at the cursor and tells what is left of it. -/
def valuesBy
    (value : List Char → Option (Node × List Char))
    (construct : Construct)
    (scope : Scope) : Step Node := fun cursor =>
  match value cursor.text with
  | some (result, rest) =>
    (do advance; return result : Reader Node)
      ⟨scope, 0, unreadable⟩ { cursor with token := .finish, rest }
  | none => unreadable construct scope cursor

section Values

variable {value : List Char → Option (Node × List Char)} {cursor : Cursor}

/-- A value that is read from a text leads to what it has left of that. -/
theorem valuesBy_at
    (construct : Construct)
    (scope : Scope)
    {text rest left : List Char}
    {result : Node}
    (here : cursor.At text)
    (reads : value text = some (result, left))
    (starts : startsToken rest = true)
    (leads : left = rest ∨ left = ' ' :: rest) :
    ∃ reached, valuesBy value construct scope cursor = .ok result reached ∧
      reached.At rest := by
  obtain ⟨reached, advances, there⟩ :=
    advance_at ⟨scope, 0, unreadable⟩ { cursor with token := .finish, rest := left } rfl
      starts leads
  have held : value cursor.text = some (result, left) := by
    rw [here.ahead]
    exact reads
  refine ⟨reached, ?_, there⟩
  simp only [valuesBy, held]
  rw [bind_of_ok advances]
  rfl

/-- A value that is read is the one that the text at the cursor holds. -/
theorem value_of_valuesBy
    {construct : Construct}
    {scope : Scope}
    {text : List Char}
    {result : Node}
    {reached : Cursor}
    (here : cursor.At text)
    (reads : valuesBy value construct scope cursor = .ok result reached) :
    ∃ left, value text = some (result, left) := by
  simp only [valuesBy, here.ahead] at reads
  cases held : value text with
  | none =>
      rw [held] at reads
      cases reads
  | some found =>
      rw [held] at reads
      obtain ⟨_, met, -, reads⟩ := ok_of_bind reads
      cases reads
      exact ⟨found.2, rfl⟩

end Values

end Source
end KeyedText
