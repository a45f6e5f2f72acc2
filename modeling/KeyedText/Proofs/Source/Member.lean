import KeyedText.Proofs.Source.Reading
import KeyedText.Text.Runs

/-!
# Reading the callee of a call

A name with further names behind dots is read as a chain of members, and a call
of it as a call with that chain as its callee.
-/

namespace KeyedText
namespace Source

open Reader

/-! ## Chains of members -/

/-- The names of a variable and of the members behind it, if a node is nothing else. -/
def memberNames? : Node → Option (List String)
  | .mk (.identifier name) _ [] => some [name]
  | .mk (.member name) _ [owner] => (memberNames? owner).map (· ++ [name])
  | _ => none

/-- A chain of members is a variable, or a member of a shorter chain. -/
theorem memberNames?_cases
    {node : Node}
    {names : List String}
    (are : memberNames? node = some names) :
    (∃ name span, node = .mk (.identifier name) span [] ∧ names = [name]) ∨
      ∃ name span owner shorter,
        node = .mk (.member name) span [owner] ∧
          memberNames? owner = some shorter ∧ names = shorter ++ [name] := by
  unfold memberNames? at are
  split at are
  · next name span =>
      cases are
      exact Or.inl ⟨name, span, rfl, rfl⟩
  · next name span owner =>
      obtain ⟨shorter, ofOwner, rfl⟩ := Option.map_eq_some_iff.mp are
      exact Or.inr ⟨name, span, owner, shorter, rfl, ofOwner, rfl⟩
  · cases are

theorem isChain_of_memberNames?
    {node : Node}
    {names : List String}
    (are : memberNames? node = some names) :
    isChain node = false := by
  rcases memberNames?_cases are with ⟨name, span, rfl, -⟩ | ⟨name, span, owner, -, rfl, -, -⟩
  · rfl
  · rfl

/-! ## Dots -/

/-- No digit starts a name. -/
theorem isAsciiDigit_of_startsIdentifier
    {character : Char}
    (starts : Character.startsIdentifier character = true) :
    Character.isAsciiDigit character = false := by
  rw [Bool.eq_false_iff]
  intro isDigit
  obtain ⟨least, greatest⟩ := Character.isAsciiDigit_iff.mp isDigit
  have ascii : Character.isAscii character = true := by
    rw [Character.isAscii, decide_eq_true_eq]
    omega
  rw [Character.startsIdentifier, if_pos ascii] at starts
  simp only [Bool.or_eq_true, beq_iff_eq, Character.isAsciiLower_iff,
    Character.isAsciiUpper_iff] at starts
  rcases starts with ((lower | upper) | rfl) | rfl
  · omega
  · omega
  · exact absurd greatest (by decide)
  · exact absurd least (by decide)

/-- A dot in front of a name is scanned as one. -/
theorem scanToken_dot
    (position : Nat)
    {character : Char}
    (starts : Character.startsIdentifier character = true)
    (rest : List Char) :
    scanToken position ('.' :: character :: rest) =
      ⟨.mark .dot, character :: rest, position + 1, []⟩ := by
  have notDigit := isAsciiDigit_of_startsIdentifier starts
  have notDot : ('.' == character) = false := by
    rw [Bool.beq_comm]
    exact ne_of_startsIdentifier starts '.' (by decide)
  have dotStarts : Character.startsIdentifier '.' = false := by decide
  have dotDigit : Character.isAsciiDigit '.' = false := by decide
  have scanned : scanMark? ('.' :: character :: rest) = some (['.'], .dot) := by
    simp [scanMark?, firstMark?, markSpellings, List.isPrefixOf, notDot]
  simp [scanToken, dotStarts, dotDigit, notDigit, scanned]

/-! ## Members and calls -/

/-- Reads the member, call or assertion that stands behind an operand, or ends there. -/
def subscriptAt (calls : Bool) (owner : Node) (kind : Owner) :
    Reader (Sum (Node × Owner) Node) := do
  match ← token with
  | .mark .bang =>
    if ← onNewLine then return .inr owner
    else if kind != .expression then fail .badKeywordUse
    else
      advance
      return .inl (← node owner.start .presentAsserted [owner], .expression)
  | .mark .questionDot =>
    if kind != .expression then fail .badKeywordUse
    else return .inl (← optionalPart owner kind, .expression)
  | .mark .openBracket =>
    if kind == .loader then fail .badKeywordUse
    else return .inl (← indexedMember owner kind false, .expression)
  | .mark .dot =>
    advance
    return .inl (← memberName owner kind false, .expression)
  | .mark .openParen =>
    if calls || kind == .loader then
      let read ← arguments
      let form := if isChain owner then Form.chain else .call
      return .inl (← node owner.start form (owner :: read), .expression)
    else if kind == .expression then return .inr owner
    else fail .badKeywordUse
  | .mark .backquote =>
    if kind != .expression then fail .badKeywordUse
    else if isChain owner then fail .badOptionalChain
    else return .inl (← taggedTemplate owner, .expression)
  | _ => if kind == .expression then return .inr owner else fail .badKeywordUse

/-- A round of reading what stands behind an operand. -/
def subscriptRound (calls : Bool) (state : Node × Owner) : Reader (Sum (Node × Owner) Node) := do
  let (owner, kind) := state
  let generic ← do
    if kind == .expression && (← atTypeList) then instantiated? calls owner else pure none
  match generic with
  | some read => return .inl (read, .expression)
  | none => subscriptAt calls owner kind

theorem subscripts_eq
    (calls : Bool)
    (kind : Owner)
    (first : Node) :
    subscripts calls kind first = repeating (subscriptRound calls) (first, kind) :=
  rfl

section Rounds

variable
    {surroundings : Surroundings}
    {cursor : Cursor}
    {owner : Node}

/-- At a mark that is none of some others the reader is at none of them. -/
theorem atAny_of_mark
    {mark : Mark}
    (here : cursor.token = .mark mark)
    {marks : List Mark}
    (other : marks.contains mark = false) :
    atAny marks surroundings cursor = .ok false cursor := by
  obtain ⟨_, _, token, _⟩ := cursor
  cases here
  exact congrArg (EStateM.Result.ok · _) other

theorem token_of_eq
    {token : Token}
    (here : cursor.token = token) :
    Reader.token surroundings cursor = .ok token cursor := by
  rw [← here]
  rfl

/-- Without type arguments a round goes by the token behind the operand. -/
theorem subscriptRound_of_mark
    (calls : Bool)
    {mark : Mark}
    (here : cursor.token = .mark mark)
    (noTypes : [Mark.less, .shiftLeft].contains mark = false) :
    subscriptRound calls (owner, .expression) surroundings cursor =
      subscriptAt calls owner .expression surroundings cursor := by
  have notTypes : atTypeList surroundings cursor = .ok false cursor := atAny_of_mark here noTypes
  rw [subscriptRound]
  dsimp only
  rw [bind_of_ok notTypes]
  rfl

/-- Members without calls end in front of arguments. -/
theorem subscriptRound_false_openParen
    (here : cursor.token = .mark .openParen) :
    subscriptRound false (owner, .expression) surroundings cursor = .ok (.inr owner) cursor := by
  rw [subscriptRound_of_mark false here rfl, subscriptAt, bind_of_ok (token_of_eq here)]
  rfl

/-- Members with calls go on with a call. -/
theorem subscriptRound_true_openParen
    (here : cursor.token = .mark .openParen)
    (single : isChain owner = false) :
    subscriptRound true (owner, .expression) surroundings cursor =
      (do
        let read ← arguments
        let made ← node owner.start .call (owner :: read)
        return .inl (made, .expression) : Reader (Sum (Node × Owner) Node))
          surroundings cursor := by
  rw [subscriptRound_of_mark true here rfl, subscriptAt, bind_of_ok (token_of_eq here)]
  dsimp only
  rw [single]
  rfl

/-- At a word the reader finds that word. -/
theorem word?_of_word
    {name : String}
    (here : cursor.token = .word name) :
    word? surroundings cursor = .ok (some name) cursor := by
  obtain ⟨_, _, token, _⟩ := cursor
  cases here
  rfl

/-- A word is read as a name. -/
theorem anyName_of_advance
    {reached : Cursor}
    {name : String}
    (here : cursor.token = .word name)
    (advances : advance surroundings cursor = .ok () reached) :
    anyName surroundings cursor =
      .ok (.mk (.identifier name) ⟨cursor.start, reached.previousStop⟩ []) reached := by
  rw [anyName, bind_of_ok (word?_of_word here)]
  exact leaf_of_advance _ advances

/-- The name behind a dot is that of a member. -/
theorem memberName_of_advance
    {reached : Cursor}
    {name : String}
    (here : cursor.token = .word name)
    (advances : advance surroundings cursor = .ok () reached)
    (single : isChain owner = false) :
    memberName owner .expression false surroundings cursor =
      .ok (.mk (.member name) ⟨owner.start, reached.previousStop⟩ [owner]) reached := by
  have notPrivate : at? .hash surroundings cursor = .ok false cursor :=
    at?_of_other (by rw [here]; exact Token.noConfusion)
  rw [memberName, bind_of_ok notPrivate, if_neg Bool.false_ne_true,
    bind_of_ok (anyName_of_advance here advances), single]
  rfl

/-- In front of a dot and a name the reader is at the dot. -/
theorem Cursor.At.isDot
    {name : List Char}
    {rest : List Char}
    (here : cursor.At ('.' :: (name ++ rest)))
    (named : spellsName name = true) :
    cursor.token = .mark .dot ∧ cursor.rest = name ++ rest := by
  obtain ⟨-, token, behind⟩ := here
  cases name with
  | nil => cases named
  | cons first others =>
      have starts : Character.startsIdentifier first = true := ((Bool.and_eq_true _ _).mp named).1
      rw [List.cons_append, scanToken_dot cursor.start starts] at token behind
      exact ⟨token, behind⟩

/-- A dot and a name are read as a member. -/
theorem subscriptRound_dot
    (surroundings : Surroundings)
    (calls : Bool)
    {name : String}
    {delimiter : Char}
    {rest : List Char}
    (here : cursor.At ('.' :: (name.toList ++ delimiter :: rest)))
    (named : spellsName name.toList = true)
    (ends : endsName delimiter = true)
    (starts : startsToken (delimiter :: rest) = true)
    (single : isChain owner = false) :
    ∃ span reached,
      subscriptRound calls (owner, .expression) surroundings cursor =
          .ok (.inl (.mk (.member name) span [owner], .expression)) reached ∧
        reached.At (delimiter :: rest) := by
  obtain ⟨dot, behindDot⟩ := here.isDot named
  obtain ⟨atWord, dotTaken, there⟩ :=
    advance_at surroundings cursor (by rw [dot]; rfl) (startsToken_name named (delimiter :: rest))
      (Or.inl behindDot)
  obtain ⟨word, behindName⟩ := there.isWord named ends
  rw [String.ofList_toList] at word
  obtain ⟨reached, nameTaken, atDelimiter⟩ :=
    advance_at surroundings atWord (by rw [word]; rfl) starts (Or.inl behindName)
  refine ⟨⟨owner.start, reached.previousStop⟩, reached, ?_, atDelimiter⟩
  rw [subscriptRound_of_mark calls dot rfl, subscriptAt, bind_of_ok (token_of_eq dot)]
  dsimp only
  rw [bind_of_ok dotTaken, bind_of_ok (memberName_of_advance word nameTaken single)]
  rfl

end Rounds

/-! ## Callees -/

/-- Names behind dots, in front of the parenthesis that opens arguments. -/
def membersText (members : List String) (rest : List Char) : List Char :=
  members.flatMap (fun name => '.' :: name.toList) ++ '(' :: rest

theorem membersText_cons
    (name : String)
    (others : List String)
    (rest : List Char) :
    membersText (name :: others) rest = '.' :: (name.toList ++ membersText others rest) := by
  simp only [membersText, List.flatMap_cons, List.cons_append, List.append_assoc]

/-- What stands behind a name of a chain ends it and starts a token. -/
theorem exists_delimiter
    (members : List String)
    (rest : List Char) :
    ∃ delimiter behind, membersText members rest = delimiter :: behind ∧
      endsName delimiter = true ∧ startsToken (delimiter :: behind) = true := by
  cases members with
  | nil => exact ⟨'(', rest, rfl, by decide, rfl⟩
  | cons name others => exact ⟨'.', _, membersText_cons name others rest, by decide, rfl⟩

/-- Names behind dots are read as members, up to the arguments. -/
theorem repeatFor_members
    (surroundings : Surroundings)
    {members : List String}
    (named : ∀ name ∈ members, spellsName name.toList = true)
    {rounds : Nat}
    (enough : members.length < rounds)
    {rest : List Char}
    {cursor : Cursor}
    (here : cursor.At (membersText members rest))
    {owner : Node}
    {names : List String}
    (owned : memberNames? owner = some names) :
    ∃ callee reached,
      repeatFor (subscriptRound false) rounds (owner, .expression) surroundings cursor =
          .ok callee reached ∧
        memberNames? callee = some (names ++ members) ∧ reached.At ('(' :: rest) := by
  induction members generalizing rounds cursor owner names with
  | nil =>
      obtain ⟨rounds, rfl⟩ := Nat.exists_eq_succ_of_ne_zero (Nat.ne_of_gt enough)
      obtain ⟨paren, -⟩ := here.isMark .openParen (by decide)
      refine ⟨owner, cursor, ?_, by rw [owned, List.append_nil], here⟩
      rw [repeatFor, bind_of_ok (subscriptRound_false_openParen paren)]
      rfl
  | cons name others inductionHypothesis =>
      obtain ⟨rounds, rfl⟩ := Nat.exists_eq_succ_of_ne_zero (Nat.ne_zero_of_lt enough)
      obtain ⟨delimiter, behind, text, ends, starts⟩ := exists_delimiter others rest
      rw [membersText_cons, text] at here
      obtain ⟨span, met, round, there⟩ := subscriptRound_dot surroundings false here
        (named name List.mem_cons_self) ends starts (isChain_of_memberNames? owned)
      rw [← text] at there
      have longer : memberNames? (.mk (.member name) span [owner]) = some (names ++ [name]) := by
        rw [memberNames?, owned]
        rfl
      obtain ⟨callee, reached, reads, are, atParen⟩ := inductionHypothesis
        (fun other isOther => named other (List.mem_cons_of_mem _ isOther))
        (Nat.lt_of_succ_lt_succ enough) there longer
      refine ⟨callee, reached, ?_, ?_, atParen⟩
      · rw [repeatFor, bind_of_ok round]
        exact reads
      · rw [are, List.append_assoc, List.singleton_append]

/-- Whether a text is the name of a variable that means nothing special anywhere. -/
def namesVariable (name : String) : Bool :=
  spellsName name.toList && !isReservedInModule name && name != "async" && name != "arguments"

/-- A name of a variable is no reserved word. -/
theorem free_of_namesVariable
    {name : String}
    (names : namesVariable name = true) :
    isReservedInModule name = false := by
  simp only [namesVariable, Bool.and_eq_true, Bool.not_eq_true'] at names
  exact names.1.1.2

/-- A name of a variable is not the one for all arguments. -/
theorem ordinary_of_namesVariable
    {name : String}
    (names : namesVariable name = true) :
    (name == "arguments") = false := by
  simp only [namesVariable, Bool.and_eq_true] at names
  exact (Bool.not_eq_true' _).mp names.2

section Variables

variable
    {surroundings : Surroundings}
    {cursor reached : Cursor}
    {name : String}

/-- A word that is free names a variable. -/
theorem variableName_of_advance
    (here : cursor.token = .word name)
    (free : isReservedInModule name = false)
    (ordinary : (name == "arguments") = false)
    (advances : advance surroundings cursor = .ok () reached) :
    variableName surroundings cursor =
      .ok (.mk (.identifier name) ⟨cursor.start, reached.previousStop⟩ []) reached := by
  have inScope : scope surroundings cursor = .ok surroundings.scope cursor := rfl
  simp only [isReservedInModule, Bool.or_eq_false_iff] at free
  obtain ⟨⟨notReserved, notStrict⟩, notAwait⟩ := free
  have notEnum : (name == "enum") = false := by
    rw [beq_eq_false_iff_ne]
    rintro rfl
    exact absurd notReserved (by decide)
  rw [variableName, bind_of_ok (word?_of_word here)]
  dsimp only
  rw [bind_of_ok inScope, notStrict, notEnum, notAwait, notReserved, ordinary]
  exact leaf_of_advance _ advances

theorem atName_of_mark
    {mark : Mark}
    (here : cursor.token = .mark mark) :
    atName surroundings cursor = .ok false cursor := by
  obtain ⟨_, _, token, _⟩ := cursor
  cases here
  rfl

/-- A variable in front of a mark other than an arrow is read as such. -/
theorem nameOrArrow_of_mark
    (mayBeArrow : Bool)
    {variableNode : Node}
    (reads : variableName surroundings cursor = .ok variableNode reached)
    (named : variableNode.form = .identifier name)
    {mark : Mark}
    (there : reached.token = .mark mark)
    (notArrow : mark ≠ .arrow) :
    nameOrArrow mayBeArrow surroundings cursor = .ok variableNode reached := by
  have positioned : position surroundings cursor = .ok cursor.start cursor := rfl
  have looked : onNewLine surroundings reached = .ok reached.newline reached := rfl
  have noArrow : at? .arrow surroundings reached = .ok false reached :=
    at?_of_other (by rw [there]; rintro ⟨rfl⟩; exact notArrow rfl)
  rw [nameOrArrow, bind_of_ok positioned, bind_of_ok reads, named]
  dsimp only
  rw [bind_of_ok looked, bind_of_ok (atName_of_mark there), Bool.and_false,
    if_neg Bool.false_ne_true, bind_of_ok noArrow, Bool.and_false, if_neg Bool.false_ne_true]
  rfl

/-- A word that is free differs from every reserved word. -/
theorem ne_of_isReserved
    (free : isReservedInModule name = false)
    {word : String}
    (reserved : isReservedInModule word = true) :
    name ≠ word := by
  rintro rfl
  rw [free] at reserved
  cases reserved

theorem atWord_of_word
    (here : cursor.token = .word name)
    {word : String}
    (differs : name ≠ word) :
    atWord word surroundings cursor = .ok false cursor := by
  obtain ⟨_, _, token, _⟩ := cursor
  cases here
  exact congrArg (EStateM.Result.ok · _) (beq_false_of_ne differs)

theorem acceptWord_of_word
    (here : cursor.token = .word name)
    {word : String}
    (differs : name ≠ word) :
    acceptWord word surroundings cursor = .ok false cursor := by
  rw [acceptWord, bind_of_ok (atWord_of_word here differs)]
  rfl

/-- A variable is read as a primary expression. -/
theorem primary_of_word
    (surroundings : Surroundings)
    (here : cursor.token = .word name)
    (names : namesVariable name = true) :
    ∃ mayBeArrow,
      primary surroundings cursor = nameOrArrow mayBeArrow surroundings cursor := by
  simp only [namesVariable, Bool.and_eq_true, Bool.not_eq_true', bne_iff_ne] at names
  obtain ⟨⟨⟨-, free⟩, notAsync⟩, -⟩ := names
  have positioned : position surroundings cursor = .ok cursor.start cursor := rfl
  have inScope : scope surroundings cursor = .ok surroundings.scope cursor := rfl
  refine ⟨surroundings.scope.arrowStart == some cursor.start, ?_⟩
  rw [primary, bind_of_ok positioned, bind_of_ok inScope, bind_of_ok (token_of_eq here)]
  refine congrFun (congrFun ?_ surroundings) cursor
  split
  · next is => exact absurd (Token.word.inj is) (ne_of_isReserved free (by decide))
  · next is => exact absurd (Token.word.inj is) notAsync
  · next is => exact absurd (Token.word.inj is) (ne_of_isReserved free (by decide))
  · next is => exact absurd (Token.word.inj is) (ne_of_isReserved free (by decide))
  · next is =>
      cases is
      have notNull : name ≠ "null" := ne_of_isReserved free (by decide)
      have notTrue : name ≠ "true" := ne_of_isReserved free (by decide)
      have notFalse : name ≠ "false" := ne_of_isReserved free (by decide)
      simp only [isReservedInModule, Bool.or_eq_false_iff] at free
      rw [beq_false_of_ne notNull, beq_false_of_ne notTrue, beq_false_of_ne notFalse, free.1.1]
      rfl
  case h_15 isWord _ _ _ _ _ _ _ _ _ => exact absurd rfl (isWord name)
  all_goals next is => cases is

end Variables

/-! ## Calls of chains -/

section Calls

variable
    {surroundings : Surroundings}
    {cursor : Cursor}
    {head : String}
    {members : List String}
    {rest : List Char}

/-- Behind a name of a chain stands a mark that goes on with the chain or opens arguments. -/
theorem exists_mark
    (named : ∀ name ∈ members, spellsName name.toList = true)
    (here : cursor.At (membersText members rest)) :
    ∃ mark, cursor.token = .mark mark ∧ mark ≠ .arrow := by
  cases members with
  | nil =>
      obtain ⟨paren, -⟩ := here.isMark .openParen (by decide)
      exact ⟨.openParen, paren, by decide⟩
  | cons name others =>
      rw [membersText_cons] at here
      obtain ⟨dot, -⟩ := here.isDot (named name List.mem_cons_self)
      exact ⟨.dot, dot, by decide⟩

/-- In front of a dotted name the reader is at its first word. -/
theorem isWord_of_head
    (headNamed : namesVariable head = true)
    (here : cursor.At (head.toList ++ membersText members rest)) :
    cursor.token = .word head ∧ cursor.rest = membersText members rest := by
  simp only [namesVariable, Bool.and_eq_true] at headNamed
  obtain ⟨⟨⟨spelled, -⟩, -⟩, -⟩ := headNamed
  obtain ⟨delimiter, behind, text, ends, -⟩ := exists_delimiter members rest
  rw [text] at here ⊢
  have isWord := here.isWord spelled ends
  rwa [String.ofList_toList] at isWord

/-- A chain of members in front of arguments is read up to these. -/
theorem construction_at
    (surroundings : Surroundings)
    (headNamed : namesVariable head = true)
    (named : ∀ name ∈ members, spellsName name.toList = true)
    (enough : members.length < surroundings.limit)
    (here : cursor.At (head.toList ++ membersText members rest)) :
    ∃ callee reached,
      construction surroundings cursor = .ok callee reached ∧
        memberNames? callee = some (head :: members) ∧ reached.At ('(' :: rest) := by
  obtain ⟨word, behindHead⟩ := isWord_of_head headNamed here
  have startsMembers : startsToken (membersText members rest) = true := by
    obtain ⟨delimiter, behind, text, -, starts⟩ := exists_delimiter members rest
    rw [text]
    exact starts
  obtain ⟨met, taken, there⟩ :=
    advance_at surroundings cursor (by rw [word]; rfl) startsMembers (Or.inl behindHead)
  obtain ⟨mark, isMark, notArrow⟩ := exists_mark named there
  obtain ⟨mayBeArrow, isPrimary⟩ := primary_of_word surroundings word headNamed
  have variableRead := variableName_of_advance word (free_of_namesVariable headNamed)
    (ordinary_of_namesVariable headNamed) taken
  have first := isPrimary.trans (nameOrArrow_of_mark mayBeArrow variableRead rfl isMark notArrow)
  have ofHead : memberNames? (.mk (.identifier head) ⟨cursor.start, met.previousStop⟩ []) =
      some [head] := rfl
  obtain ⟨callee, reached, reads, are, atParen⟩ :=
    repeatFor_members surroundings named enough there ofHead
  have notWord {word : String} (reserved : isReservedInModule word = true) : head ≠ word :=
    ne_of_isReserved (free_of_namesVariable headNamed) reserved
  have positioned : position surroundings cursor = .ok cursor.start cursor := rfl
  refine ⟨callee, reached, ?_, are, atParen⟩
  rw [construction, bind_of_ok positioned,
    bind_of_ok (acceptWord_of_word word (notWord (by decide))), if_neg Bool.false_ne_true,
    bind_of_ok (acceptWord_of_word word (notWord (by decide))), if_neg Bool.false_ne_true,
    bind_of_ok (atWord_of_word word (notWord (by decide))), if_neg Bool.false_ne_true,
    bind_of_ok first]
  exact reads

/-- Behind a chain of members, an operand goes on with calls. -/
theorem operand_of_construction
    (headNamed : namesVariable head = true)
    (word : cursor.token = .word head)
    {callee : Node}
    {reached : Cursor}
    {names : List String}
    (built : construction surroundings cursor = .ok callee reached)
    (are : memberNames? callee = some names) :
    operand surroundings cursor = subscripts true .expression callee surroundings reached := by
  have notWord {word : String} (reserved : isReservedInModule word = true) : head ≠ word :=
    ne_of_isReserved (free_of_namesVariable headNamed) reserved
  have positioned : position surroundings cursor = .ok cursor.start cursor := rfl
  have notElement : at? .less surroundings cursor = .ok false cursor :=
    at?_of_other (by rw [word]; exact Token.noConfusion)
  rw [operand, bind_of_ok positioned, bind_of_ok notElement, if_neg Bool.false_ne_true,
    bind_of_ok (acceptWord_of_word word (notWord (by decide))), if_neg Bool.false_ne_true,
    bind_of_ok (atWord_of_word word (notWord (by decide))), if_neg Bool.false_ne_true,
    bind_of_ok built]
  rcases memberNames?_cases are with ⟨name, span, rfl, -⟩ | ⟨name, span, owner, -, rfl, -, -⟩
  · rfl
  · rfl

/-- A call of a chain of members is read as such, with what stands behind it. -/
theorem operand_at
    (surroundings : Surroundings)
    (headNamed : namesVariable head = true)
    (named : ∀ name ∈ members, spellsName name.toList = true)
    (enough : members.length < surroundings.limit)
    (here : cursor.At (head.toList ++ membersText members rest)) :
    ∃ callee reached,
      memberNames? callee = some (head :: members) ∧
        reached.At ('(' :: rest) ∧
          operand surroundings cursor =
            (do
              let read ← arguments
              let made ← node callee.start .call (callee :: read)
              repeatFor (subscriptRound true) (surroundings.limit - 1) (made, .expression))
            surroundings reached := by
  obtain ⟨callee, reached, built, are, atParen⟩ :=
    construction_at surroundings headNamed named enough here
  refine ⟨callee, reached, are, atParen, ?_⟩
  obtain ⟨paren, -⟩ := atParen.isMark .openParen (by decide)
  obtain ⟨word, -⟩ := isWord_of_head headNamed here
  obtain ⟨rounds, isLimit⟩ := Nat.exists_eq_succ_of_ne_zero (Nat.ne_zero_of_lt enough)
  have rounded : subscripts true .expression callee surroundings reached =
      repeatFor (subscriptRound true) (rounds + 1) (callee, .expression) surroundings reached := by
    rw [subscripts_eq]
    exact congrArg (fun limit =>
      repeatFor (subscriptRound true) limit (callee, .expression) surroundings reached) isLimit
  rw [operand_of_construction headNamed word built are, rounded, isLimit, repeatFor]
  rw [bind_of_eq (subscriptRound_true_openParen paren (isChain_of_memberNames? are))]
  cases read : arguments surroundings reached with
  | error fault failed => rw [bind_of_error (bind_of_error read _), bind_of_error read]
  | ok nodes behind =>
      rw [bind_of_eq (bind_of_ok read _), bind_of_ok read]
      rfl

end Calls

end Source
end KeyedText
