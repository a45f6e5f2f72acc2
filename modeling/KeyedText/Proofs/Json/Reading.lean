import KeyedText.Proofs.Json.Spelling

/-!
# Reading JSON from front to back

What a reader takes from the front of a text does not depend on the position at
which it stands.  Each of the small readers takes what it is for: blanks, the
letters of a word, the quoted text of a string, the digits of a number.
-/

namespace KeyedText
namespace Json

/-- Wherever a reader stands, it takes a result from the front of a text and leaves the rest. -/
def Reads (step : Step α) (text : List Char) (result : α) (rest : List Char) : Prop :=
  ∀ position, ∃ reached, step ⟨text, position⟩ = .ok result ⟨rest, reached⟩

section Rules

variable
    {step : Step α}
    {next : α → Step β}
    {text between rest : List Char}
    {result : α}
    {last : β}

theorem reads_pure
    (result : α)
    (text : List Char) :
    Reads (pure result) text result text :=
  fun position => ⟨position, rfl⟩

/-- Steps in a row read texts in a row. -/
theorem reads_bind
    (first : Reads step text result between)
    (second : Reads (next result) between last rest) :
    Reads (step >>= next) text last rest := by
  intro position
  obtain ⟨met, isFirst⟩ := first position
  obtain ⟨reached, isSecond⟩ := second met
  refine ⟨reached, ?_⟩
  simp only [bind, EStateM.bind, isFirst]
  exact isSecond

/-- A reader that looks at its cursor sees the text ahead. -/
theorem reads_get_bind
    {next : Cursor → Step β}
    (later : ∀ cursor, cursor.rest = text → Reads (next cursor) text last rest) :
    Reads (get >>= next) text last rest :=
  fun position => later ⟨text, position⟩ rfl position

/-- A step that tells where it fails reads the same. -/
theorem reads_located
    (reads : Reads step text result rest) :
    Reads (Step.located step) text result rest := by
  intro position
  obtain ⟨reached, isRead⟩ := reads position
  refine ⟨reached, ?_⟩
  unfold Step.located
  rw [isRead]

/-- A step with its closing one reads both texts. -/
theorem reads_thenAlways
    {closing : Step Unit}
    (first : Reads step text result between)
    (second : Reads closing between () rest) :
    Reads (Step.thenAlways step closing) text result rest := by
  intro position
  obtain ⟨met, isFirst⟩ := first position
  obtain ⟨reached, isSecond⟩ := second met
  refine ⟨reached, ?_⟩
  unfold Step.thenAlways
  simp only [isFirst, isSecond]

end Rules

/-! ## Moving -/

/-- As many characters are passed over as are asked for. -/
theorem reads_pass
    (front rest : List Char) :
    Reads (Step.pass front.length) (front ++ rest) () rest := by
  intro position
  have passes : Step.pass front.length ⟨front ++ rest, position⟩ =
      .ok () ⟨(front ++ rest).drop front.length,
        position.after (byteCount ((front ++ rest).take front.length)) (front ++ rest)⟩ := rfl
  rw [List.drop_left] at passes
  exact ⟨_, passes⟩

theorem reads_pass_one
    (character : Char)
    (rest : List Char) :
    Reads (Step.pass 1) (character :: rest) () rest :=
  reads_pass [character] rest

/-- A text in front of which no blank stands. -/
def Stands (text : List Char) : Prop :=
  ∀ character ∈ text.head?, Step.isBlank character = false

/-- A text that starts with no blank stands where the reader looks. -/
theorem stands_cons
    {character : Char}
    (isPart : Step.isBlank character = false)
    (rest : List Char) :
    Stands (character :: rest) := by
  rintro other ⟨⟩
  exact isPart

/-- The blanks in front of a part are all passed over. -/
theorem takeWhile_isBlank_append
    {front text : List Char}
    (blanks : Blanks front)
    (stands : Stands text) :
    (front ++ text).takeWhile Step.isBlank = front := by
  rw [List.takeWhile_append_of_pos blanks]
  cases text with
  | nil => rw [List.takeWhile_nil, List.append_nil]
  | cons character rest =>
      rw [List.takeWhile_cons_of_neg, List.append_nil]
      rw [stands character rfl]
      exact Bool.false_ne_true

/-- Blanks are passed over up to what follows. -/
theorem reads_ahead
    {front text : List Char}
    (blanks : Blanks front)
    (stands : Stands text) :
    Reads Step.ahead (front ++ text) text.head? text := by
  refine reads_get_bind fun cursor isAhead => ?_
  rw [isAhead, takeWhile_isBlank_append blanks stands]
  refine reads_bind (reads_pass front text) ?_
  exact reads_get_bind fun _ isBehind => isBehind ▸ reads_pure _ _

/-- Behind blanks the next character is looked at. -/
theorem reads_ahead_cons
    {front : List Char}
    (blanks : Blanks front)
    {character : Char}
    (isPart : Step.isBlank character = false)
    (rest : List Char) :
    Reads Step.ahead (front ++ character :: rest) (some character) (character :: rest) :=
  reads_ahead blanks (stands_cons isPart rest)

/-- What a scan takes is read. -/
theorem reads_accept
    {scan : List Char → Scan α}
    {front rest : List Char}
    {result : α}
    (scans : scan (front ++ rest) = .done result front.length) :
    Reads (Step.accept scan) (front ++ rest) result rest := by
  refine reads_get_bind fun cursor isAhead => ?_
  rw [isAhead, scans]
  exact reads_bind (reads_pass front rest) (reads_pure _ _)

/-- A word is spelled out by itself. -/
theorem reads_spell
    (word rest : List Char) :
    Reads (Step.spell word) (word ++ rest) () rest := by
  induction word with
  | nil => exact reads_pure _ _
  | cons wanted others inductionHypothesis =>
      refine reads_get_bind fun cursor isAhead => ?_
      rw [isAhead]
      dsimp only [List.cons_append, List.head?_cons]
      rw [beq_self_eq_true, if_pos rfl]
      exact reads_bind (reads_pass_one wanted _) inductionHypothesis

/-- A scan that ends behind a quotation mark reads the text in front of it. -/
theorem reads_quoted
    {scan : List Char → Scan α}
    {spelling rest : List Char}
    {result : α}
    (scans : scan (spelling ++ '"' :: rest) = .done result (spelling.length + 1)) :
    Reads (Step.accept scan) (spelling ++ '"' :: rest) result rest := by
  have parts : spelling ++ '"' :: rest = (spelling ++ ['"']) ++ rest := by simp
  rw [parts] at scans ⊢
  exact reads_accept (by rw [scans, List.length_append, List.length_singleton])

/-- Behind its opening mark a string is read from any of its spellings. -/
theorem reads_stringRest
    {text : String}
    {spelling : List Char}
    (spells : SpellsText text.toList spelling)
    (rest : List Char) :
    Reads Step.stringRest (spelling ++ '"' :: rest) text rest := by
  have scans := scanString_eq_done_iff.mpr ⟨spelling, rest, rfl, spells, rfl⟩
  refine reads_bind (reads_quoted scans) ?_
  rw [String.ofList_toList]
  exact reads_pure _ _

/-! ## Parts inside brackets -/

/-- Behind what separates it, another element is announced. -/
theorem reads_hasElement
    {isFirst : Bool}
    {front text : List Char}
    (separates : Separates isFirst front)
    (starts : StartsValue text) :
    Reads (Step.hasElement isFirst) (front ++ text) true text := by
  obtain ⟨others, isPart, noComma, noListEnd, -⟩ := starts
  cases separates with
  | first blanks =>
      refine reads_bind (reads_ahead_cons blanks isPart others) ?_
      split
      · next isNone => cases isNone
      · next isEnd => exact absurd (Option.some.inj isEnd) noListEnd
      · exact reads_pure _ _
      · exact reads_pure _ _
  | later blanksBefore blanksAfter =>
      rw [List.append_assoc]
      refine reads_bind (reads_ahead_cons blanksBefore (by decide) _) ?_
      refine reads_bind (reads_pass_one ',' _) ?_
      refine reads_bind (reads_ahead_cons blanksAfter isPart others) ?_
      split
      · next isNone => cases isNone
      · next isEnd => exact absurd (Option.some.inj isEnd) noListEnd
      · exact reads_pure _ _

/-- In front of a bracket no element is announced. -/
theorem reads_hasElement_end
    (isFirst : Bool)
    {front : List Char}
    (blanks : Blanks front)
    (rest : List Char) :
    Reads (Step.hasElement isFirst) (front ++ ']' :: rest) false (']' :: rest) :=
  reads_bind (reads_ahead_cons blanks (by decide) rest) (reads_pure _ _)

theorem reads_endArray
    {front : List Char}
    (blanks : Blanks front)
    (rest : List Char) :
    Reads Step.endArray (front ++ ']' :: rest) () rest :=
  reads_bind (reads_ahead_cons blanks (by decide) rest) (reads_pass_one ']' rest)

/-- Behind what separates it, another member is announced. -/
theorem reads_hasMember
    {isFirst : Bool}
    {front : List Char}
    (separates : Separates isFirst front)
    (rest : List Char) :
    Reads (Step.hasMember isFirst) (front ++ '"' :: rest) true ('"' :: rest) := by
  cases separates with
  | first blanks =>
      exact reads_bind (reads_ahead_cons blanks (by decide) rest) (reads_pure _ _)
  | later blanksBefore blanksAfter =>
      rw [List.append_assoc]
      refine reads_bind (reads_ahead_cons blanksBefore (by decide) _) ?_
      refine reads_bind (reads_pass_one ',' _) ?_
      exact reads_bind (reads_ahead_cons blanksAfter (by decide) rest) (reads_pure _ _)

/-- In front of a brace no member is announced. -/
theorem reads_hasMember_end
    (isFirst : Bool)
    {front : List Char}
    (blanks : Blanks front)
    (rest : List Char) :
    Reads (Step.hasMember isFirst) (front ++ '\x7d' :: rest) false ('\x7d' :: rest) :=
  reads_bind (reads_ahead_cons blanks (by decide) rest) (reads_pure _ _)

theorem reads_endObject
    (rest : List Char) :
    Reads Step.endObject ('\x7d' :: rest) () rest :=
  reads_bind (reads_ahead_cons blanks_nil (by decide) rest) (reads_pass_one '\x7d' rest)

/-- A key ends with a colon, blanks aside. -/
theorem reads_colon
    {before : List Char}
    (blanks : Blanks before)
    (rest : List Char) :
    Reads Step.colon (before ++ ':' :: rest) () rest :=
  reads_bind (reads_ahead_cons blanks (by decide) _) (reads_pass_one ':' rest)

end Json
end KeyedText
