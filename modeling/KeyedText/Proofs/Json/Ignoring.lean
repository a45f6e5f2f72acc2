import KeyedText.Proofs.Json.Reading

/-!
# Passing over values

A value that does not matter is passed over with a list of the brackets around it
and a bound on the rounds.  Whatever the value is, its text is passed over
exactly: a value takes fewer rounds than its text has characters.
-/

namespace KeyedText
namespace Json
namespace Step

/-- What is done behind an ignored value, once the brackets around the next one are known. -/
def goOn (bound : Nat) : Option (List Bracket) → Step Unit
  | some brackets => ignoreFor bound brackets
  | none => pure ()

/-- Behind an ignored value inside brackets, a text is passed over up to its rest. -/
def Passes (bound : Nat) (outer : List Bracket) (text rest : List Char) : Prop :=
  ∃ following between,
    Reads (behindIgnored outer) text following between ∧
      Reads (goOn bound following) between () rest

/-- In front of an ignored value inside brackets, a text is passed over up to its rest. -/
def Ignores (bound : Nat) (outer : List Bracket) (text rest : List Char) : Prop :=
  Reads (ignoreFor bound outer) text () rest

theorem passes_nil
    (bound : Nat)
    (rest : List Char) :
    Passes bound [] rest rest :=
  ⟨none, rest, reads_pure _ _, reads_pure _ _⟩

/-- The character that opens brackets. -/
def Bracket.opening : Bracket → Char
  | array => '['
  | object => '\x7b'

/-- The character that closes brackets. -/
def Bracket.closing : Bracket → Char
  | array => ']'
  | object => '\x7d'

section Brackets

variable
    {bound : Nat}
    (bracket : Bracket)
    {outer : List Bracket}
    {front text rest behind : List Char}
    (blanks : Blanks front)

include blanks

/-- Behind the last part inside brackets, these are closed. -/
theorem passes_closing
    (passes : Passes bound outer rest behind) :
    Passes bound (bracket :: outer) (front ++ bracket.closing :: rest) behind := by
  obtain ⟨following, between, first, second⟩ := passes
  refine ⟨following, between, ?_, second⟩
  cases bracket with
  | array =>
      refine reads_bind (reads_ahead_cons blanks (by decide) rest) ?_
      exact reads_bind (reads_pass_one ']' rest) first
  | object =>
      refine reads_bind (reads_ahead_cons blanks (by decide) rest) ?_
      exact reads_bind (reads_pass_one '\x7d' rest) first

/-- Behind a part inside brackets, a comma leads to the next one. -/
theorem passes_comma
    {between : List Char}
    (passesKey : Reads (ignoreKey bracket) text () between)
    (ignores : Ignores bound (bracket :: outer) between rest) :
    Passes bound (bracket :: outer) (front ++ ',' :: text) rest := by
  refine ⟨some (bracket :: outer), between, ?_, ignores⟩
  refine reads_bind (reads_ahead_cons blanks (by decide) text) ?_
  refine reads_bind (reads_pass_one ',' text) ?_
  exact reads_bind passesKey (reads_pure _ _)

/-- An opening bracket is passed over. -/
theorem ignores_opening
    {following : Option (List Bracket)}
    {between : List Char}
    (opens : Reads (behindOpening bracket outer) text following between)
    (goesOn : Reads (goOn bound following) between () rest) :
    Ignores (bound + 1) outer (front ++ bracket.opening :: text) rest := by
  cases bracket with
  | array =>
      refine reads_bind (reads_ahead_cons blanks (by decide) text) ?_
      exact reads_bind (reads_pass_one '[' text) (reads_bind opens goesOn)
  | object =>
      refine reads_bind (reads_ahead_cons blanks (by decide) text) ?_
      exact reads_bind (reads_pass_one '\x7b' text) (reads_bind opens goesOn)

/-- Brackets around blanks are passed over. -/
theorem ignores_empty
    {blank : List Char}
    (areBlank : Blanks blank)
    (passes : Passes bound outer rest behind) :
    Ignores (bound + 1) outer (front ++ bracket.opening :: (blank ++ bracket.closing :: rest))
      behind := by
  obtain ⟨following, between, first, second⟩ := passes
  refine ignores_opening bracket blanks ?_ second
  cases bracket with
  | array =>
      refine reads_bind (reads_ahead_cons areBlank (by decide) rest) ?_
      exact reads_bind (reads_pass_one ']' rest) first
  | object =>
      refine reads_bind (reads_ahead_cons areBlank (by decide) rest) ?_
      exact reads_bind (reads_pass_one '\x7d' rest) first

/-- An opening bracket leads to the first part inside. -/
theorem ignores_first
    {blank between : List Char}
    (areBlank : Blanks blank)
    (starts : StartsValue text)
    (passesKey : Reads (ignoreKey bracket) text () between)
    (ignores : Ignores bound (bracket :: outer) between rest) :
    Ignores (bound + 1) outer (front ++ bracket.opening :: (blank ++ text)) rest := by
  obtain ⟨others, isPart, -, noListEnd, noObjectEnd⟩ := starts
  have goesOn : Reads (goOn bound (some (bracket :: outer))) between () rest := ignores
  refine ignores_opening bracket blanks ?_ goesOn
  refine reads_bind (reads_ahead_cons areBlank isPart others) ?_
  split
  · next isNone => cases isNone
  · next isEnd => exact absurd (Option.some.inj isEnd) noListEnd
  · next isEnd => exact absurd (Option.some.inj isEnd) noObjectEnd
  · exact reads_bind passesKey (reads_pure _ _)

end Brackets

theorem reads_ignoreKey
    {key front spelling before : List Char}
    (blanksFront : Blanks front)
    (spells : SpellsText key spelling)
    (blanks : Blanks before)
    (rest : List Char) :
    Reads (ignoreKey .object) (front ++ '"' :: (spelling ++ '"' :: (before ++ ':' :: rest))) ()
      rest := by
  obtain ⟨any, scans⟩ := scanString_ignored spells (before ++ ':' :: rest)
  refine reads_bind (reads_ahead_cons blanksFront (by decide) _) ?_
  refine reads_bind (reads_pass_one '"' _) ?_
  exact reads_bind (reads_quoted scans) (reads_colon blanks rest)

/-! ## Values without brackets -/

section Simple

variable
    {bound : Nat}
    {outer : List Bracket}
    {front text rest behind : List Char}
    (blanks : Blanks front)
    (passes : Passes bound outer rest behind)

include blanks passes

theorem ignores_null :
    Ignores (bound + 1) outer (front ++ ("null".toList ++ rest)) behind := by
  obtain ⟨following, between, first, second⟩ := passes
  refine reads_bind (reads_ahead_cons blanks (by decide) _) ?_
  exact reads_bind (reads_spell "null".toList rest) (reads_bind first second)

theorem ignores_true :
    Ignores (bound + 1) outer (front ++ ("true".toList ++ rest)) behind := by
  obtain ⟨following, between, first, second⟩ := passes
  refine reads_bind (reads_ahead_cons blanks (by decide) _) ?_
  exact reads_bind (reads_spell "true".toList rest) (reads_bind first second)

theorem ignores_false :
    Ignores (bound + 1) outer (front ++ ("false".toList ++ rest)) behind := by
  obtain ⟨following, between, first, second⟩ := passes
  refine reads_bind (reads_ahead_cons blanks (by decide) _) ?_
  exact reads_bind (reads_spell "false".toList rest) (reads_bind first second)

theorem ignores_string
    {value spelling : List Char}
    (spells : SpellsText value spelling) :
    Ignores (bound + 1) outer (front ++ '"' :: (spelling ++ '"' :: rest)) behind := by
  obtain ⟨following, between, first, second⟩ := passes
  obtain ⟨any, scans⟩ := scanString_ignored spells rest
  refine reads_bind (reads_ahead_cons blanks (by decide) _) ?_
  refine reads_bind (reads_pass_one '"' _) ?_
  exact reads_bind (reads_quoted scans) (reads_bind first second)

theorem ignores_number
    (isNumber : IsNumber text)
    (ends : EndsNumber rest) :
    Ignores (bound + 1) outer (front ++ (text ++ rest)) behind := by
  obtain ⟨following, between, first, second⟩ := passes
  have passesNumber := reads_accept (isNumber.scanIgnoredNumber_append ends)
  obtain ⟨character, others, rfl, starts⟩ := isNumber.exists_start
  refine reads_bind (reads_ahead_cons blanks (isBlank_of_startsNumber starts) _) ?_
  dsimp only
  split
  · next isNone => cases isNone
  · next isOther => exact absurd (Option.some.inj isOther) (ne_of_startsNumber starts (by decide))
  · next isOther => exact absurd (Option.some.inj isOther) (ne_of_startsNumber starts (by decide))
  · next isOther => exact absurd (Option.some.inj isOther) (ne_of_startsNumber starts (by decide))
  · next isOther => exact absurd (Option.some.inj isOther) (ne_of_startsNumber starts (by decide))
  · next isOther => exact absurd (Option.some.inj isOther) (ne_of_startsNumber starts (by decide))
  · next isOther => exact absurd (Option.some.inj isOther) (ne_of_startsNumber starts (by decide))
  · next isSame =>
      cases isSame
      rw [if_pos (by exact starts)]
      exact reads_bind passesNumber (reads_bind first second)

end Simple

/-! ## Rounds -/

theorem reads_ignoreKey_array
    (text : List Char) :
    Reads (ignoreKey .array) text () text :=
  reads_pure _ _

theorem startsValue_quote
    (rest : List Char) :
    StartsValue ('"' :: rest) :=
  .starts rest (by decide) (by decide) (by decide) (by decide)

mutual

/-- The text of a value is passed over in fewer rounds than it has characters. -/
theorem exists_ignores :
    ∀ {value : Json} {text : List Char}, Spells value text →
      ∃ rounds < text.length, ∀ {bound outer front rest behind},
        Blanks front → EndsNumber rest → Passes bound outer rest behind →
          Ignores (rounds + bound + 1) outer (front ++ (text ++ rest)) behind
  | .null, _, .null =>
      ⟨0, by decide, fun blanks _ passes => by simpa using ignores_null blanks passes⟩
  | .bool true, _, .yes =>
      ⟨0, by decide, fun blanks _ passes => by simpa using ignores_true blanks passes⟩
  | .bool false, _, .no =>
      ⟨0, by decide, fun blanks _ passes => by simpa using ignores_false blanks passes⟩
  | .number value, text, .number spells => by
      obtain ⟨character, others, rfl, -⟩ := spells.isNumber.exists_start
      refine ⟨0, Nat.zero_lt_succ _, fun blanks ends passes => ?_⟩
      rw [Nat.zero_add]
      exact ignores_number blanks passes spells.isNumber ends
  | .string value, _, .string spells =>
      ⟨0, Nat.zero_lt_succ _, fun blanks _ passes => by
        simpa using ignores_string blanks passes spells⟩
  | .array [], _, .array (.ends areBlank) => by
      refine ⟨0, Nat.zero_lt_succ _, fun {bound outer front rest behind} blanks _ passes => ?_⟩
      simpa [Bracket.opening, Bracket.closing] using ignores_empty .array blanks areBlank passes
  | .array (element :: others), _,
      .array (.element (.first areBlank) spells later) => by
      obtain ⟨rounds, few, ignoresFirst⟩ := exists_ignores spells
      obtain ⟨more, fewMore, passesOthers⟩ := exists_passes_elements later
      refine ⟨rounds + more + 1, ?_, fun {bound outer front rest behind} blanks _ passes => ?_⟩
      · simp only [List.length_cons, List.length_append]
        omega
      have inside := ignoresFirst blanks_nil (later.endsNumber rest) (passesOthers passes)
      have ignores := ignores_first .array blanks areBlank (spells.startsValue.append _)
        (reads_ignoreKey_array _) inside
      have sameRounds : rounds + more + 1 + bound = rounds + (more + bound) + 1 := by omega
      rw [sameRounds]
      simpa [Bracket.opening] using ignores
  | .object [], _, .object (.ends areBlank) => by
      refine ⟨0, Nat.zero_lt_succ _, fun {bound outer front rest behind} blanks _ passes => ?_⟩
      simpa [Bracket.opening, Bracket.closing] using ignores_empty .object blanks areBlank passes
  | .object ((key, value) :: others), _,
      .object (.member (.first areBlank) spellsKey blanksBefore blanksAfter spells later) => by
      obtain ⟨rounds, few, ignoresFirst⟩ := exists_ignores spells
      obtain ⟨more, fewMore, passesOthers⟩ := exists_passes_members later
      refine ⟨rounds + more + 1, ?_, fun {bound outer front rest behind} blanks _ passes => ?_⟩
      · simp only [List.length_cons, List.length_append]
        omega
      have inside := ignoresFirst blanksAfter (later.endsNumber rest) (passesOthers passes)
      have ignores := ignores_first .object blanks areBlank (startsValue_quote _)
        (reads_ignoreKey blanks_nil spellsKey blanksBefore _) inside
      have sameRounds : rounds + more + 1 + bound = rounds + (more + bound) + 1 := by omega
      rw [sameRounds]
      simpa [Bracket.opening] using ignores

/-- Behind an element, the other elements are passed over up to the bracket. -/
theorem exists_passes_elements :
    ∀ {elements : List Json} {text : List Char}, SpellsElements false elements text →
      ∃ rounds ≤ text.length, ∀ {bound outer rest behind},
        Passes bound outer rest behind →
          Passes (rounds + bound) (.array :: outer) (text ++ ']' :: rest) behind
  | [], _, .ends blanks =>
      ⟨0, Nat.zero_le _, fun passes => by
        rw [Nat.zero_add]
        exact passes_closing _ blanks passes⟩
  | element :: others, _, .element (.later blanksBefore blanksAfter) spells later => by
      obtain ⟨rounds, few, ignoresFirst⟩ := exists_ignores spells
      obtain ⟨more, fewMore, passesOthers⟩ := exists_passes_elements later
      refine ⟨rounds + more + 1, ?_, fun {bound outer rest behind} passes => ?_⟩
      · simp only [List.length_cons, List.length_append]
        omega
      have inside := ignoresFirst blanksAfter (later.endsNumber rest) (passesOthers passes)
      have passesAll := passes_comma .array blanksBefore (reads_ignoreKey_array _) inside
      have sameRounds : rounds + more + 1 + bound = rounds + (more + bound) + 1 := by omega
      rw [sameRounds]
      simpa using passesAll

/-- Behind a member, the other members are passed over up to the bracket. -/
theorem exists_passes_members :
    ∀ {members : List (String × Json)} {text : List Char}, SpellsMembers false members text →
      ∃ rounds ≤ text.length, ∀ {bound outer rest behind},
        Passes bound outer rest behind →
          Passes (rounds + bound) (.object :: outer) (text ++ '\x7d' :: rest) behind
  | [], _, .ends blanks =>
      ⟨0, Nat.zero_le _, fun passes => by
        rw [Nat.zero_add]
        exact passes_closing _ blanks passes⟩
  | (key, value) :: others, _,
      .member (.later blanksComma blanksKey) spellsKey blanksBefore blanksAfter spells later => by
      obtain ⟨rounds, few, ignoresFirst⟩ := exists_ignores spells
      obtain ⟨more, fewMore, passesOthers⟩ := exists_passes_members later
      refine ⟨rounds + more + 1, ?_, fun {bound outer rest behind} passes => ?_⟩
      · simp only [List.length_cons, List.length_append]
        omega
      have inside := ignoresFirst blanksAfter (later.endsNumber rest) (passesOthers passes)
      have passesAll := passes_comma .object blanksComma
        (reads_ignoreKey blanksKey spellsKey blanksBefore _) inside
      have sameRounds : rounds + more + 1 + bound = rounds + (more + bound) + 1 := by omega
      rw [sameRounds]
      simpa using passesAll

end

/-- A value that does not matter is passed over. -/
theorem reads_ignore
    {value : Json}
    {text : List Char}
    (spells : Spells value text)
    {front rest : List Char}
    (blanks : Blanks front)
    (ends : EndsNumber rest) :
    Reads ignore (front ++ (text ++ rest)) () rest := by
  obtain ⟨rounds, few, ignores⟩ := exists_ignores spells
  refine reads_get_bind fun cursor isAhead => ?_
  obtain ⟨left, isLeft⟩ : ∃ left, cursor.rest.length = rounds + left := by
    refine Nat.exists_eq_add_of_le ?_
    rw [isAhead, List.length_append, List.length_append]
    omega
  rw [isLeft]
  exact ignores blanks ends (passes_nil left rest)

end Step
end Json
end KeyedText
