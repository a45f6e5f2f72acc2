import KeyedText.Json.Reader
import KeyedText.Proofs.Json.Escape
import KeyedText.Proofs.Json.Scanning

/-!
# Texts that spell JSON values

A value is spelled by many texts: between its parts stand any blanks, strings and
keys are written in any of their spellings, and the members of an object stand in
their order.  What is printed is one of these texts, on one line or over several
lines.
-/

namespace KeyedText
namespace Json

/-! ## Spelling -/

/-- A text between the parts of a value. -/
def Blanks (text : List Char) : Prop :=
  ∀ character ∈ text, Step.isBlank character = true

/-- What stands in front of a part inside brackets: blanks, and a comma among them unless the part
is the first. -/
inductive Separates : Bool → List Char → Prop where
  | first
      {front : List Char}
      (blanks : Blanks front) :
      Separates true front
  | later
      {before after : List Char}
      (blanksBefore : Blanks before)
      (blanksAfter : Blanks after) :
      Separates false (before ++ ',' :: after)

/-- The texts of a number; a whole number has to be one that is kept exactly. -/
inductive SpellsNumber : JsonNumber → List Char → Prop where
  | natural
      {value : Nat}
      (isKept : value ≤ largestNatural) :
      SpellsNumber (.natural value) (Nat.toDigits 10 value)
  | negative
      (value : Nat) :
      SpellsNumber (.negative value) ('-' :: Nat.toDigits 10 value)
  | decimal
      {spelling : String}
      (isNumber : IsNumber spelling.toList) :
      SpellsNumber (.decimal spelling) spelling.toList

mutual

/-- The texts of a value. -/
inductive Spells : Json → List Char → Prop where
  | null : Spells .null "null".toList
  | yes : Spells (.bool true) "true".toList
  | no : Spells (.bool false) "false".toList
  | number
      {value : JsonNumber}
      {text : List Char}
      (spells : SpellsNumber value text) :
      Spells (.number value) text
  | string
      {value : String}
      {spelling : List Char}
      (spells : SpellsText value.toList spelling) :
      Spells (.string value) ('"' :: (spelling ++ ['"']))
  | array
      {elements : List Json}
      {text : List Char}
      (spells : SpellsElements true elements text) :
      Spells (.array elements) ('[' :: (text ++ [']']))
  | object
      {members : List (String × Json)}
      {text : List Char}
      (spells : SpellsMembers true members text) :
      Spells (.object members) ('\x7b' :: (text ++ ['\x7d']))

/-- The texts between the brackets of an array, from its first element on or behind an element. -/
inductive SpellsElements : Bool → List Json → List Char → Prop where
  | ends
      {isFirst : Bool}
      {text : List Char}
      (blanks : Blanks text) :
      SpellsElements isFirst [] text
  | element
      {isFirst : Bool}
      {element : Json}
      {rest : List Json}
      {front text behind : List Char}
      (separates : Separates isFirst front)
      (spells : Spells element text)
      (later : SpellsElements false rest behind) :
      SpellsElements isFirst (element :: rest) (front ++ (text ++ behind))

/-- The texts between the brackets of an object, from its first member on or behind a member. -/
inductive SpellsMembers : Bool → List (String × Json) → List Char → Prop where
  | ends
      {isFirst : Bool}
      {text : List Char}
      (blanks : Blanks text) :
      SpellsMembers isFirst [] text
  | member
      {isFirst : Bool}
      {key : String}
      {value : Json}
      {rest : List (String × Json)}
      {front spelling before after text behind : List Char}
      (separates : Separates isFirst front)
      (spellsKey : SpellsText key.toList spelling)
      (blanksBefore : Blanks before)
      (blanksAfter : Blanks after)
      (spells : Spells value text)
      (later : SpellsMembers false rest behind) :
      SpellsMembers isFirst ((key, value) :: rest)
        (front ++ '"' :: (spelling ++ '"' :: (before ++ ':' :: (after ++ (text ++ behind)))))

end

/-- A text that spells a value, with blanks around it. -/
def SpellsAlone (value : Json) (text : List Char) : Prop :=
  ∃ front inner back, Blanks front ∧ Blanks back ∧ Spells value inner ∧
    text = front ++ (inner ++ back)

/-! ## Blanks -/

theorem blanks_nil : Blanks [] :=
  nofun

/-- Blanks in a row are blanks. -/
theorem blanks_append
    {front back : List Char}
    (blanksFront : Blanks front)
    (blanksBack : Blanks back) :
    Blanks (front ++ back) := by
  intro character isIn
  rcases List.mem_append.mp isIn with inFront | inBack
  · exact blanksFront character inFront
  · exact blanksBack character inBack

theorem blanks_replicate
    (count : Nat) :
    Blanks (List.replicate count ' ') := by
  intro character isIn
  rw [List.eq_of_mem_replicate isIn]
  rfl

/-! ## How values start and end -/

/-- A text that starts with a character of a value. -/
inductive StartsValue : List Char → Prop where
  | starts
      {character : Char}
      (rest : List Char)
      (isPart : Step.isBlank character = false)
      (noComma : character ≠ ',')
      (noListEnd : character ≠ ']')
      (noObjectEnd : character ≠ '\x7d') :
      StartsValue (character :: rest)

/-- Whether a character starts a number. -/
def startsNumber (character : Char) : Bool :=
  character == '-' || isDigit character

/-- What starts a number is told from what cannot start one. -/
theorem ne_of_startsNumber
    {character other : Char}
    (starts : startsNumber character = true)
    (isOther : startsNumber other = false) :
    character ≠ other := by
  rintro rfl
  rw [starts] at isOther
  cases isOther

theorem isBlank_of_startsNumber
    {character : Char}
    (starts : startsNumber character = true) :
    Step.isBlank character = false := by
  simp only [Step.isBlank, Bool.or_eq_false_iff, beq_eq_false_iff_ne]
  exact ⟨⟨⟨ne_of_startsNumber starts (by decide), ne_of_startsNumber starts (by decide)⟩,
    ne_of_startsNumber starts (by decide)⟩, ne_of_startsNumber starts (by decide)⟩

/-- A numeral starts with a digit or a sign. -/
theorem IsNumber.exists_start
    {text : List Char}
    (isNumber : IsNumber text) :
    ∃ character rest, text = character :: rest ∧ startsNumber character = true := by
  obtain ⟨isSign, isWhole, -, -⟩ := isNumber
  rename_i sign whole fraction exponent
  rcases isSign with rfl | rfl
  · cases whole with
    | nil => exact absurd rfl isWhole.nonempty
    | cons digit others =>
        have isDigit := isWhole.areDigits digit List.mem_cons_self
        exact ⟨digit, _, rfl, by rw [startsNumber, isDigit, Bool.or_true]⟩
  · exact ⟨'-', _, rfl, rfl⟩

/-- A whole number is a number, with a sign or without. -/
theorem isNumber_of_isWhole
    {sign whole : List Char}
    (isSign : sign = [] ∨ sign = ['-'])
    (isWhole : IsWhole whole) :
    IsNumber (sign ++ whole) := by
  have isNumber := IsNumber.parts isSign isWhole .nothing .nothing
  rwa [List.append_nil, List.append_nil] at isNumber

/-- What spells a number is a number of the grammar. -/
theorem SpellsNumber.isNumber
    {value : JsonNumber}
    {text : List Char}
    (spells : SpellsNumber value text) :
    IsNumber text := by
  cases spells with
  | natural isKept => exact isNumber_of_isWhole (.inl rfl) (isWhole_toDigits _)
  | negative value => exact isNumber_of_isWhole (.inr rfl) (isWhole_toDigits value)
  | decimal isNumber => exact isNumber

/-- What spells a value starts as the reader expects a value to start. -/
theorem Spells.startsValue
    {value : Json}
    {text : List Char}
    (spells : Spells value text) :
    StartsValue text := by
  cases spells with
  | number spells =>
      obtain ⟨character, rest, rfl, starts⟩ := spells.isNumber.exists_start
      exact .starts rest (isBlank_of_startsNumber starts) (ne_of_startsNumber starts (by decide))
        (ne_of_startsNumber starts (by decide)) (ne_of_startsNumber starts (by decide))
  | null | yes | no | string | array | object =>
      exact .starts _ (by decide) (by decide) (by decide) (by decide)

theorem StartsValue.append
    {text : List Char}
    (starts : StartsValue text)
    (rest : List Char) :
    StartsValue (text ++ rest) := by
  obtain ⟨others, isPart, noComma, noListEnd, noObjectEnd⟩ := starts
  exact .starts _ isPart noComma noListEnd noObjectEnd

/-- A number ends in front of a blank, a comma or a closing bracket. -/
theorem endsNumber_cons
    {character : Char}
    (isEnd : Step.isBlank character = true ∨ character ∈ [',', ']', '\x7d'])
    (rest : List Char) :
    EndsNumber (character :: rest) := by
  rintro other ⟨⟩
  rcases isEnd with isBlank | isMark
  · simp only [Step.isBlank, Bool.or_eq_true, beq_iff_eq] at isBlank
    rcases isBlank with ((rfl | rfl) | rfl) | rfl <;> decide
  · simp only [List.mem_cons, List.not_mem_nil, or_false] at isMark
    rcases isMark with rfl | rfl | rfl <;> decide

theorem endsNumber_append
    {front rest : List Char}
    (blanks : Blanks front)
    (ends : EndsNumber rest) :
    EndsNumber (front ++ rest) := by
  cases front with
  | nil => exact ends
  | cons character others => exact endsNumber_cons (.inl (blanks character List.mem_cons_self)) _

/-- A number ends in front of what separates it from the next part. -/
theorem Separates.endsNumber
    {front : List Char}
    (separates : Separates false front)
    (rest : List Char) :
    EndsNumber (front ++ rest) := by
  cases separates with
  | later blanksBefore blanksAfter =>
      rw [List.append_assoc]
      exact endsNumber_append blanksBefore (endsNumber_cons (.inr (by decide)) _)

/-- A number ends in front of the elements behind it. -/
theorem SpellsElements.endsNumber
    {elements : List Json}
    {text : List Char}
    (spells : SpellsElements false elements text)
    (rest : List Char) :
    EndsNumber (text ++ ']' :: rest) := by
  cases spells with
  | ends blanks => exact endsNumber_append blanks (endsNumber_cons (.inr (by decide)) rest)
  | element separates _ _ =>
      rw [List.append_assoc]
      exact separates.endsNumber _

/-- A number ends in front of the members behind it. -/
theorem SpellsMembers.endsNumber
    {members : List (String × Json)}
    {text : List Char}
    (spells : SpellsMembers false members text)
    (rest : List Char) :
    EndsNumber (text ++ '\x7d' :: rest) := by
  cases spells with
  | ends blanks => exact endsNumber_append blanks (endsNumber_cons (.inr (by decide)) rest)
  | member separates _ _ _ _ _ =>
      rw [List.append_assoc]
      exact separates.endsNumber _

/-! ## Printed values -/

/-- Texts with a separator between them, the first one apart. -/
theorem intercalate_cons
    (separator first : List Char)
    (rest : List (List Char)) :
    separator.intercalate (first :: rest) = first ++ rest.flatMap (separator ++ ·) := by
  induction rest generalizing first with
  | nil => simp
  | cons second others inductionHypothesis =>
      rw [List.intercalate_cons_cons, inductionHypothesis, List.flatMap_cons]
      simp

/-- What is printed of a value spells it, on one line as well as from any level on. -/
structure Prints (value : Json) : Prop where
  compact : Spells value value.compact.toList
  pretty : ∀ level, Spells value (value.pretty level).toList

section Elements

variable
    {before after back : List Char}
    (blanksBefore : Blanks before)
    (blanksAfter : Blanks after)
    (blanksBack : Blanks back)
    {print : Json → List Char}

include blanksBefore blanksAfter blanksBack

/-- Printed elements behind an element, each with its comma, spell them. -/
theorem spellsElements_later
    {elements : List Json}
    (spells : ∀ element ∈ elements, Spells element (print element)) :
    SpellsElements false elements
      ((elements.map print).flatMap ((before ++ ',' :: after) ++ ·) ++ back) := by
  induction elements with
  | nil => exact .ends blanksBack
  | cons element rest inductionHypothesis =>
      obtain ⟨spellsFirst, spellsRest⟩ := List.forall_mem_cons.mp spells
      rw [List.map_cons, List.flatMap_cons, List.append_assoc, List.append_assoc _ (print element)]
      exact .element (.later blanksBefore blanksAfter) spellsFirst (inductionHypothesis spellsRest)

/-- Printed elements with commas between them spell the elements of an array. -/
theorem spellsElements_intercalate
    {front : List Char}
    (blanksFront : Blanks front)
    {elements : List Json}
    (spells : ∀ element ∈ elements, Spells element (print element)) :
    SpellsElements true elements
      (front ++ ((before ++ ',' :: after).intercalate (elements.map print) ++ back)) := by
  cases elements with
  | nil =>
      exact .ends (blanks_append blanksFront blanksBack)
  | cons element rest =>
      obtain ⟨spellsFirst, spellsRest⟩ := List.forall_mem_cons.mp spells
      rw [List.map_cons, intercalate_cons, List.append_assoc]
      exact .element (.first blanksFront) spellsFirst
        (spellsElements_later blanksBefore blanksAfter blanksBack spellsRest)

end Elements

section Members

variable
    {before after back : List Char}
    (blanksBefore : Blanks before)
    (blanksAfter : Blanks after)
    (blanksBack : Blanks back)
    {gap : List Char}
    (blanksGap : Blanks gap)
    (print : Json → List Char)

/-- A member in print, with blanks between its colon and its value. -/
def printedMember (gap : List Char) (print : Json → List Char) (member : String × Json) :
    List Char :=
  '"' :: (printedText member.1 ++ '"' :: ':' :: (gap ++ print member.2))

include blanksBefore blanksAfter blanksBack blanksGap

/-- Printed members behind a member, each with its comma, spell them. -/
theorem spellsMembers_later
    {members : List (String × Json)}
    (spells : ∀ member ∈ members, Spells member.2 (print member.2)) :
    SpellsMembers false members
      ((members.map (printedMember gap print)).flatMap ((before ++ ',' :: after) ++ ·) ++
        back) := by
  induction members with
  | nil => exact .ends blanksBack
  | cons member rest inductionHypothesis =>
      obtain ⟨spellsFirst, spellsRest⟩ := List.forall_mem_cons.mp spells
      have later := SpellsMembers.member (.later blanksBefore blanksAfter)
        (spellsText_printedText member.1) blanks_nil blanksGap spellsFirst
        (inductionHypothesis spellsRest)
      simpa [printedMember] using later

/-- Printed members with commas between them spell the members of an object. -/
theorem spellsMembers_intercalate
    {front : List Char}
    (blanksFront : Blanks front)
    {members : List (String × Json)}
    (spells : ∀ member ∈ members, Spells member.2 (print member.2)) :
    SpellsMembers true members
      (front ++ ((before ++ ',' :: after).intercalate (members.map (printedMember gap print)) ++
        back)) := by
  cases members with
  | nil =>
      exact .ends (blanks_append blanksFront blanksBack)
  | cons member rest =>
      obtain ⟨spellsFirst, spellsRest⟩ := List.forall_mem_cons.mp spells
      have later :=
        spellsMembers_later blanksBefore blanksAfter blanksBack blanksGap print spellsRest
      have all := SpellsMembers.member (.first blanksFront) (spellsText_printedText member.1)
        blanks_nil blanksGap spellsFirst later
      rw [List.map_cons, intercalate_cons]
      simpa [printedMember] using all

end Members

/-! ## Printers -/

theorem compactElements_eq_map
    (elements : List Json) :
    compactElements elements = elements.map compact := by
  induction elements with
  | nil => rfl
  | cons element rest inductionHypothesis =>
      rw [compactElements, inductionHypothesis, List.map_cons]

theorem compactMembers_eq_map
    (members : List (String × Json)) :
    compactMembers members =
      members.map fun member => quotedText member.1 ++ ":" ++ member.2.compact := by
  induction members with
  | nil => rfl
  | cons member rest inductionHypothesis =>
      rw [compactMembers, inductionHypothesis, List.map_cons]

theorem prettyElements_eq_map
    (level : Nat)
    (elements : List Json) :
    prettyElements level elements = elements.map (pretty level) := by
  induction elements with
  | nil => rfl
  | cons element rest inductionHypothesis =>
      rw [prettyElements, inductionHypothesis, List.map_cons]

theorem prettyMembers_eq_map
    (level : Nat)
    (members : List (String × Json)) :
    prettyMembers level members =
      members.map fun member => quotedText member.1 ++ ": " ++ member.2.pretty level := by
  induction members with
  | nil => rfl
  | cons member rest inductionHypothesis =>
      rw [prettyMembers, inductionHypothesis, List.map_cons]

/-- The blanks at the start of a line on a level. -/
def newLine (level : Nat) : List Char :=
  '\n' :: List.replicate (2 * level) ' '

theorem blanks_newLine
    (level : Nat) :
    Blanks (newLine level) :=
  List.forall_mem_cons.mpr ⟨rfl, blanks_replicate _⟩

theorem toList_bracketed_nil
    (opening closing : String)
    (level : Nat) :
    (bracketed opening closing level []).toList = opening.toList ++ closing.toList := by
  simp [bracketed]

/-- Lines in brackets stand one level further in, with commas between them. -/
theorem toList_bracketed
    (opening closing : String)
    (level : Nat)
    {lines : List String}
    (nonempty : lines ≠ []) :
    (bracketed opening closing level lines).toList =
      opening.toList ++ (newLine (level + 1) ++
        (([] ++ ',' :: newLine (level + 1)).intercalate (lines.map String.toList) ++
          newLine level) ++ closing.toList) := by
  have isSome : lines.isEmpty = false := List.isEmpty_eq_false_iff.mpr nonempty
  simp [bracketed, isSome, newLine]

/-- Strings are printed as texts that spell them. -/
theorem prints_string
    (value : String) :
    Prints (.string value) := by
  have spells : Spells (.string value) (quotedText value).toList := by
    rw [toList_quotedText]
    exact .string (spellsText_printedText value)
  exact ⟨spells, fun _ => spells⟩

theorem prints_bool
    (value : Bool) :
    Prints (.bool value) := by
  cases value with
  | true => exact ⟨.yes, fun _ => .yes⟩
  | false => exact ⟨.no, fun _ => .no⟩

/-- Whole numbers that are kept exactly are printed as texts that spell them. -/
theorem prints_natural
    {value : Nat}
    (isKept : value ≤ largestNatural) :
    Prints (.number (.natural value)) := by
  have spells : Spells (.number (.natural value)) (toString value).toList := by
    rw [Nat.toString_eq_repr, Nat.toList_repr]
    exact .number (.natural isKept)
  exact ⟨spells, fun _ => spells⟩

/-- Arrays are printed as texts that spell them if their elements are. -/
theorem prints_array
    {elements : List Json}
    (print : ∀ element ∈ elements, Prints element) :
    Prints (.array elements) where
  compact := by
    have spells := spellsElements_intercalate blanks_nil blanks_nil blanks_nil blanks_nil
      fun element isIn => (print element isIn).compact
    have all := Spells.array spells
    simpa [Json.compact, compactElements_eq_map, Function.comp_def] using all
  pretty level := by
    cases elements with
    | nil =>
        rw [Json.pretty, prettyElements_eq_map, List.map_nil, toList_bracketed_nil]
        exact .array (.ends blanks_nil)
    | cons first rest =>
        have spells := spellsElements_intercalate blanks_nil (blanks_newLine (level + 1))
          (blanks_newLine level) (blanks_newLine (level + 1))
          fun element isIn => (print element isIn).pretty (level + 1)
        have nonempty : prettyElements (level + 1) (first :: rest) ≠ [] := List.cons_ne_nil _ _
        rw [Json.pretty, toList_bracketed _ _ _ nonempty, prettyElements_eq_map, List.map_map]
        exact .array spells

/-- Objects are printed as texts that spell them if their members are. -/
theorem prints_object
    {members : List (String × Json)}
    (print : ∀ member ∈ members, Prints member.2) :
    Prints (.object members) where
  compact := by
    have spells := spellsMembers_intercalate blanks_nil blanks_nil blanks_nil blanks_nil
      (fun value => value.compact.toList) blanks_nil fun member isIn => (print member isIn).compact
    have all := Spells.object spells
    have printed : String.toList ∘
        (fun member : String × Json => quotedText member.1 ++ ":" ++ member.2.compact) =
          printedMember [] fun value => value.compact.toList := by
      funext member
      simp [printedMember, toList_quotedText]
    simpa [Json.compact, compactMembers_eq_map, printed] using all
  pretty level := by
    cases members with
    | nil =>
        rw [Json.pretty, prettyMembers_eq_map, List.map_nil, toList_bracketed_nil]
        exact .object (.ends blanks_nil)
    | cons first rest =>
        have blanksGap : Blanks [' '] := blanks_replicate 1
        have spells := spellsMembers_intercalate blanks_nil (blanks_newLine (level + 1))
          (blanks_newLine level) blanksGap (fun value => (value.pretty (level + 1)).toList)
          (blanks_newLine (level + 1)) fun member isIn => (print member isIn).pretty (level + 1)
        have printed : String.toList ∘
            (fun member : String × Json =>
              quotedText member.1 ++ ": " ++ member.2.pretty (level + 1)) =
              printedMember [' '] fun value => (value.pretty (level + 1)).toList := by
          funext member
          simp [printedMember, toList_quotedText]
        have nonempty : prettyMembers (level + 1) (first :: rest) ≠ [] := List.cons_ne_nil _ _
        rw [Json.pretty, toList_bracketed _ _ _ nonempty, prettyMembers_eq_map, List.map_map,
          printed]
        exact .object spells

end Json
end KeyedText
