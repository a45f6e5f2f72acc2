import KeyedText.Key.Place
import KeyedText.Proofs.Key.Derivation
import KeyedText.Proofs.Text.Run
import KeyedText.Proofs.Text.Segment

/-!
# Slugs and their bound

A slug is written in one pass over a text: an underscore is held back where one
stands already, or nothing.  What the pass writes are the words of the text,
joined, and perhaps one more underscore, which no cut can leave at the end.  So a
slug is a front of the joined words whatever the bound; a larger bound makes it
longer, and what looks like a slug stays as it is.
-/

namespace KeyedText
namespace Key

/-! ## Underscores at the end -/

/-- A text without the underscore that may stand at its end. -/
def withoutUnderscore (text : List Char) : List Char :=
  if text.getLast? = some '_' then text.dropLast else text

theorem dropTrailing_concat
    (text : List Char) :
    dropTrailing (text ++ ['_']) = dropTrailing text := by
  rw [dropTrailing_eq_rdropWhile, List.rdropWhile_concat_pos _ _ _ (by decide),
    dropTrailing_eq_rdropWhile]

theorem dropTrailing_eq_self
    {text : List Char}
    (ends : text.getLast? ≠ some '_') :
    dropTrailing text = text := by
  rw [dropTrailing_eq_rdropWhile, List.rdropWhile_eq_self_iff]
  intro nonempty isUnderscore
  rw [List.getLast?_eq_getLast_of_ne_nil nonempty, beq_iff_eq.mp isUnderscore] at ends
  exact ends rfl

/-- If underscores are not repeated, there is at most one at the end. -/
theorem dropTrailing_eq_withoutUnderscore
    {text : List Char}
    (unrepeated : Text.Unrepeated text) :
    dropTrailing text = withoutUnderscore text := by
  unfold withoutUnderscore
  split
  · next ends =>
      obtain ⟨front, rfl⟩ := List.getLast?_eq_some_iff.mp ends
      rw [dropTrailing_concat, List.dropLast_concat]
      apply dropTrailing_eq_self
      intro endsAgain
      have apart := (List.isChain_append.mp unrepeated).2.2 '_' endsAgain '_' rfl
      rcases apart with differs | differs
      · exact differs rfl
      · exact differs rfl
  · next ends => exact dropTrailing_eq_self ends

/-- The longer a text, the longer is what is left of it. -/
theorem dropTrailing_prefix
    {front text : List Char}
    (isFront : front <+: text) :
    dropTrailing front <+: dropTrailing text := by
  induction text using List.reverseRecOn with
  | nil =>
      obtain rfl := List.prefix_nil.mp isFront
      exact List.prefix_refl _
  | append_singleton init last inductionHypothesis =>
      rcases List.prefix_concat_iff.mp isFront with rfl | inInit
      · exact List.prefix_refl _
      · by_cases isUnderscore : last = '_'
        · rw [isUnderscore, dropTrailing_concat]
          exact inductionHypothesis inInit
        · have stays : dropTrailing (init ++ [last]) = init ++ [last] := by
            apply dropTrailing_eq_self
            simpa using isUnderscore
          rw [stays, dropTrailing_eq_rdropWhile]
          exact (List.rdropWhile_prefix _ _).trans isFront

/-! ## The words of a slug -/

/-- The words of a text, joined. -/
def joinedWords (text : List Char) : List Char :=
  Text.joinedBy '_' (slugWords text)

theorem joinedBy_map_asciiLower
    (words : List (List Char)) :
    Text.joinedBy '_' (words.map (·.map Character.asciiLower)) =
      (Text.joinedBy '_' words).map Character.asciiLower := by
  unfold Text.joinedBy
  induction words with
  | nil => rfl
  | cons first rest inductionHypothesis =>
      cases rest with
      | nil => simp
      | cons second later =>
          rw [List.map_cons] at inductionHypothesis
          rw [List.map_cons, List.map_cons, List.intercalate_cons_cons, inductionHypothesis,
            List.intercalate_cons_cons, List.map_append, List.map_append]
          rfl

theorem slugWords_cons_of_separates
    {character : Char}
    (separates : Character.isAsciiAlphanumeric character = false)
    (rest : List Char) :
    slugWords (character :: rest) = slugWords rest := by
  unfold slugWords
  rw [Text.runs_cons_of_separates (by rw [separates]; rfl)]

theorem joinedWords_cons_of_separates
    {character : Char}
    (separates : Character.isAsciiAlphanumeric character = false)
    (rest : List Char) :
    joinedWords (character :: rest) = joinedWords rest := by
  rw [joinedWords, slugWords_cons_of_separates separates, joinedWords]

/-- The underscore between the words of a text and a word in front of it. -/
def joint (text : List Char) : List Char :=
  if !(slugWords text).isEmpty && text.head?.any fun first => !Character.isAsciiAlphanumeric first
  then ['_'] else []

theorem joinedWords_cons
    {character : Char}
    (keeps : Character.isAsciiAlphanumeric character = true)
    (rest : List Char) :
    joinedWords (character :: rest) =
      Character.asciiLower character :: (joint rest ++ joinedWords rest) := by
  have notSeparates : (!Character.isAsciiAlphanumeric character) = false := by rw [keeps]; rfl
  unfold joinedWords joint slugWords
  rw [joinedBy_map_asciiLower, joinedBy_map_asciiLower, Text.joinedBy_runs_cons '_' notSeparates,
    List.map_cons, List.map_append, List.isEmpty_map]
  split
  · rfl
  · rfl

theorem unrepeated_joinedWords
    (text : List Char) :
    Text.Unrepeated (joinedWords text) :=
  single_joinedBy ne_nil_of_mem_slugWords isKeyCharacter_of_mem_slugWords

/-! ## Writing a slug in one pass -/

/-- What is written when a character comes: a letter or digit in lower case, and an underscore for
any other one, unless nothing or an underscore was written last. -/
def written (slug : List Char) (character : Char) : List Char :=
  if Character.isAsciiAlphanumeric character then slug ++ [Character.asciiLower character]
  else if slug.isEmpty || slug.getLast? == some '_' then slug
  else slug ++ ['_']

/-- Whether an underscore would be held back behind a slug. -/
def HoldsBack (slug : List Char) : Prop :=
  slug = [] ∨ slug.getLast? = some '_'

theorem holdsBack_concat_underscore
    (slug : List Char) :
    HoldsBack (slug ++ ['_']) :=
  Or.inr List.getLast?_concat

theorem not_holdsBack_concat
    (slug : List Char)
    {character : Char}
    (isAlphanumeric : Character.isAsciiAlphanumeric character = true) :
    ¬ HoldsBack (slug ++ [Character.asciiLower character]) := by
  rintro (isEmpty | endsWithUnderscore)
  · exact List.concat_ne_nil _ _ isEmpty
  · rw [List.getLast?_concat, Option.some.injEq] at endsWithUnderscore
    exact ne_underscore_of_isKeyCharacter (isKeyCharacter_asciiLower isAlphanumeric)
      endsWithUnderscore

theorem written_of_separates
    (slug : List Char)
    {character : Char}
    (separates : Character.isAsciiAlphanumeric character = false) :
    (HoldsBack slug ∧ written slug character = slug) ∨
      (¬ HoldsBack slug ∧ written slug character = slug ++ ['_']) := by
  have condition : (slug.isEmpty || slug.getLast? == some '_') = true ↔ HoldsBack slug := by
    rw [Bool.or_eq_true, List.isEmpty_iff, beq_iff_eq]
    rfl
  unfold written
  rw [separates, if_neg Bool.false_ne_true]
  by_cases holds : HoldsBack slug
  · exact Or.inl ⟨holds, if_pos (condition.mpr holds)⟩
  · exact Or.inr ⟨holds, if_neg (mt condition.mp holds)⟩

theorem joinedWords_eq_nil_iff
    {text : List Char} :
    joinedWords text = [] ↔ slugWords text = [] :=
  Text.joinedBy_eq_nil_iff ne_nil_of_mem_slugWords

theorem joint_cons_of_keeps
    {character : Char}
    (keeps : Character.isAsciiAlphanumeric character = true)
    (rest : List Char) :
    joint (character :: rest) = [] := by
  rw [joint, List.head?_cons, Option.any_some, keeps, Bool.not_true, Bool.and_false,
    if_neg Bool.false_ne_true]

theorem joint_cons_of_separates
    {character : Char}
    (separates : Character.isAsciiAlphanumeric character = false)
    (rest : List Char) :
    joint (character :: rest) = if joinedWords rest = [] then [] else ['_'] := by
  rw [joint, slugWords_cons_of_separates separates, List.head?_cons, Option.any_some, separates,
    Bool.not_false, Bool.and_true]
  by_cases wordless : slugWords rest = []
  · rw [if_pos (joinedWords_eq_nil_iff.mpr wordless), wordless]
    rfl
  · rw [if_neg (mt joinedWords_eq_nil_iff.mp wordless), List.isEmpty_eq_false_iff.mpr wordless]
    rfl

/-- What the pass writes behind the words of a text: perhaps one more underscore. -/
def IsTail (tail : List Char) : Prop :=
  tail = [] ∨ tail = ['_']

/-- Behind a slug the pass writes the words of a text, joined.  What decides how is the character
written last: behind a word an underscore comes before the next one as soon as anything stands
between the two, and it may turn out that no word follows; behind an underscore nothing comes
before the next word. -/
theorem exists_foldl_written
    (text slug : List Char) :
    (HoldsBack slug →
        ∃ tail, IsTail tail ∧ (joinedWords text = [] → tail = []) ∧
          text.foldl written slug = slug ++ (joinedWords text ++ tail)) ∧
      (¬ HoldsBack slug →
        ∃ tail, IsTail tail ∧
          text.foldl written slug = slug ++ (joint text ++ (joinedWords text ++ tail))) := by
  induction text generalizing slug with
  | nil =>
      have wordless : joinedWords [] = [] := rfl
      refine ⟨fun _ => ⟨[], Or.inl rfl, fun _ => rfl, ?_⟩, fun _ => ⟨[], Or.inl rfl, ?_⟩⟩
      · rw [wordless, List.foldl_nil, List.append_nil, List.append_nil]
      · rw [wordless, List.foldl_nil, List.append_nil, List.append_nil]
        exact (List.append_nil slug).symm
  | cons character rest inductionHypothesis =>
      rw [List.foldl_cons]
      cases ofCharacter : Character.isAsciiAlphanumeric character with
      | true =>
          have isWritten : written slug character = slug ++ [Character.asciiLower character] :=
            if_pos ofCharacter
          obtain ⟨tail, isTail, goesOn⟩ :=
            (inductionHypothesis _).2 (not_holdsBack_concat slug ofCharacter)
          have whole : rest.foldl written (written slug character) =
              slug ++ (joinedWords (character :: rest) ++ tail) := by
            rw [isWritten, goesOn, joinedWords_cons ofCharacter]
            simp
          refine ⟨fun _ => ⟨tail, isTail, fun wordless => ?_, whole⟩,
            fun _ => ⟨tail, isTail, ?_⟩⟩
          · rw [joinedWords_cons ofCharacter] at wordless
            cases wordless
          · rw [whole, joint_cons_of_keeps ofCharacter, List.nil_append]
      | false =>
          rw [joinedWords_cons_of_separates ofCharacter, joint_cons_of_separates ofCharacter]
          rcases written_of_separates slug ofCharacter with ⟨holds, isWritten⟩ | ⟨isOpen, isWritten⟩
          · rw [isWritten]
            exact ⟨(inductionHypothesis slug).1, fun notHeld => absurd holds notHeld⟩
          · refine ⟨fun held => absurd held isOpen, fun _ => ?_⟩
            obtain ⟨tail, isTail, wordless, goesOn⟩ :=
              (inductionHypothesis _).1 (holdsBack_concat_underscore slug)
            rw [isWritten, goesOn]
            by_cases isWordless : joinedWords rest = []
            · refine ⟨['_'], Or.inr rfl, ?_⟩
              rw [isWordless, wordless isWordless, if_pos rfl]
              simp
            · refine ⟨tail, isTail, ?_⟩
              rw [if_neg isWordless]
              simp

/-- Cut and freed from underscores at its end, what the pass writes is the slug. -/
theorem slugOf_eq_written
    (limit : Nat)
    (text : List Char) :
    slugOf limit text = dropTrailing ((text.foldl written []).take limit) := by
  obtain ⟨tail, isTail, -, whole⟩ := (exists_foldl_written text []).1 (Or.inl rfl)
  rw [List.nil_append] at whole
  rw [whole]
  change dropTrailing ((joinedWords text).take limit) = _
  rcases isTail with rfl | rfl
  · rw [List.append_nil]
  · by_cases isShort : limit ≤ (joinedWords text).length
    · rw [List.take_append_of_le_length isShort]
    · have fits : (joinedWords text ++ ['_']).length ≤ limit := by
        rw [List.length_append, List.length_singleton]
        omega
      rw [List.take_of_length_le fits, dropTrailing_concat, List.take_of_length_le (by omega)]

/-! ## Slugs of slugs -/

/-- What has the characters of a slug and no repeated or last underscore consists of its words,
behind the underscore that it may start with. -/
theorem eq_joinedWords
    {text : List Char}
    (characters : ∀ character ∈ text, isKeyCharacter character = true ∨ character = '_')
    (single : Text.Unrepeated text)
    (trailing : text.getLast? ≠ some '_') :
    text = (if text.head? = some '_' then ['_'] else []) ++ joinedWords text := by
  induction text with
  | nil => rfl
  | cons first rest inductionHypothesis =>
      obtain ⟨apart, ofRest⟩ := List.isChain_cons.mp single
      obtain ⟨ofFirst, characters⟩ := List.forall_mem_cons.mp characters
      have restEnds : rest.getLast? ≠ some '_' := by
        intro ends
        apply trailing
        rw [List.getLast?_cons, ends, Option.getD_some]
      have isRest := inductionHypothesis characters ofRest restEnds
      rcases ofFirst with isKey | rfl
      · have isAlphanumeric := isAsciiAlphanumeric_of_isKeyCharacter isKey
        have isJoint : joint rest = if rest.head? = some '_' then ['_'] else [] := by
          cases rest with
          | nil => rfl
          | cons second later =>
              rcases characters second List.mem_cons_self with isKeyToo | rfl
              · have differs : (second :: later).head? ≠ some '_' := by
                  simpa using ne_underscore_of_isKeyCharacter isKeyToo
                rw [joint_cons_of_keeps (isAsciiAlphanumeric_of_isKeyCharacter isKeyToo),
                  if_neg differs]
              · have hasWord : joinedWords later ≠ [] := by
                  intro wordless
                  rw [joinedWords_cons_of_separates (by decide), wordless] at isRest
                  rw [isRest] at restEnds
                  exact restEnds rfl
                rw [joint_cons_of_separates (by decide), if_neg hasWord]
                rfl
        rw [joinedWords_cons isAlphanumeric, isJoint, ← isRest,
          Character.asciiLower_eq_self (small_of_isKeyCharacter isKey).2, List.head?_cons,
          if_neg (by simpa using ne_underscore_of_isKeyCharacter isKey), List.nil_append]
      · have notAgain : rest.head? ≠ some '_' := by
          intro again
          rcases apart '_' again with differs | differs
          · exact differs rfl
          · exact differs rfl
        rw [if_neg notAgain, List.nil_append] at isRest
        rw [joinedWords_cons_of_separates (by decide), ← isRest]
        rfl

/-- What looks like a slug within a bound, and nothing else, is its own slug. -/
theorem slugOf_eq_self_iff
    {limit : Nat}
    {slug : List Char} :
    slugOf limit slug = slug ↔ WellFormedSlug limit slug := by
  constructor
  · intro same
    rw [← same]
    exact wellFormed_slugOf limit slug
  · intro wellFormed
    have isJoined := eq_joinedWords wellFormed.characters wellFormed.single wellFormed.trailing
    rw [if_neg wellFormed.leading, List.nil_append] at isJoined
    change dropTrailing ((joinedWords slug).take limit) = slug
    rw [← isJoined, List.take_of_length_le wellFormed.bounded,
      dropTrailing_eq_self wellFormed.trailing]

/-! ## Longer bounds -/

/-- A larger bound only makes a slug longer. -/
theorem slugOf_prefix_slugOf
    {least greatest : Nat}
    (ordered : least ≤ greatest)
    (text : List Char) :
    slugOf least text <+: slugOf greatest text := by
  apply dropTrailing_prefix
  exact List.take_prefix_take_left ordered

/-- The bound has no part in the derivation but for the length of the slug. -/
theorem exists_derive_eq
    (tables : Tables)
    (group : String)
    (text : List Char) :
    ∃ rule raw,
      ∀ limit, (Generator.ofTables tables limit).derive group text = ⟨slugOf limit raw, rule⟩ := by
  have sameRules (limit : Nat) (rule : SlugRule) :
      rule.derive? (.ofTables tables limit)
          ((Generator.ofTables tables limit).subject group text) =
        rule.derive? (.ofTables tables 0) ((Generator.ofTables tables 0).subject group text) := by
    cases rule <;> rfl
  have decided (limit : Nat) :
      some ((Generator.ofTables tables limit).derive group text) =
        (SlugRule.chain.findSome? fun rule =>
          (rule.derive? (.ofTables tables 0)
            ((Generator.ofTables tables 0).subject group text)).map fun raw => (rule, raw)).map
          fun decision => Derivation.mk (slugOf limit decision.2) decision.1 := by
    rw [← findSome?_chain, List.map_findSome?]
    congr 1
    ext1 rule
    rw [sameRules, Function.comp_apply, Option.map_map]
    rfl
  obtain ⟨⟨rule, raw⟩, isDecision, -⟩ := Option.map_eq_some_iff.mp (decided 0).symm
  refine ⟨rule, raw, fun limit => ?_⟩
  have isDerivation := decided limit
  rw [isDecision, Option.map_some] at isDerivation
  exact Option.some.inj isDerivation

/-- A key goes on with its slug. -/
theorem key_prefix_key
    (place : Place)
    {front whole : List Char}
    (isFront : front <+: whole) :
    (place.key (String.ofList front)).toList <+: (place.key (String.ofList whole)).toList := by
  unfold Place.key
  split
  · simpa using isFront
  · simpa using isFront

/-- A slug is the words of a text, which are its runs, joined in lower case, cut, and freed from the
underscore that the cut may leave at the end; the pass over the text writes it.  What looks like a
slug within a bound is its own slug, so a slug is a slug of itself.  Under a larger bound a slug
goes on where it ended under a smaller one, and so does the key of every text in every place. -/
theorem slugOf_under_bounds
    {least greatest : Nat}
    (ordered : least ≤ greatest)
    (text : List Char) :
    (∃ words,
        (∀ runs,
            Text.FallsInto (fun character => !Character.isAsciiAlphanumeric character) text runs ↔
              words = runs) ∧
          slugOf greatest text =
            withoutUnderscore
              ((Text.joinedBy '_' (words.map (·.map Character.asciiLower))).take greatest)) ∧
      slugOf greatest text = dropTrailing ((text.foldl written []).take greatest) ∧
        slugOf greatest (slugOf greatest text) = slugOf greatest text ∧
          (∀ slug, slugOf greatest slug = slug ↔ WellFormedSlug greatest slug) ∧
            slugOf least text <+: slugOf greatest text ∧
              ∀ (tables : Tables) (place : Place),
                let shorter := (Generator.ofTables tables least).derive place.group text
                let longer := (Generator.ofTables tables greatest).derive place.group text
                shorter.rule = longer.rule ∧
                  (place.key (String.ofList shorter.slug)).toList <+:
                    (place.key (String.ofList longer.slug)).toList := by
  refine ⟨⟨_, fun _ => Text.fallsInto_iff, ?_⟩, slugOf_eq_written greatest text,
    slugOf_eq_self_iff.mpr (wellFormed_slugOf greatest text), fun _ => slugOf_eq_self_iff,
    slugOf_prefix_slugOf ordered text, ?_⟩
  · change dropTrailing ((joinedWords text).take greatest) = _
    rw [dropTrailing_eq_withoutUnderscore]
    · rfl
    · exact (unrepeated_joinedWords text).take greatest
  · intro tables place shorter longer
    obtain ⟨rule, raw, isDerivation⟩ := exists_derive_eq tables place.group text
    have isShorter : shorter = ⟨slugOf least raw, rule⟩ := isDerivation least
    have isLonger : longer = ⟨slugOf greatest raw, rule⟩ := isDerivation greatest
    rw [isShorter, isLonger]
    exact ⟨rfl, key_prefix_key place (slugOf_prefix_slugOf ordered raw)⟩

/-- A slug that is cut behind an underscore ends with the word in front of it, and goes on from
there under a larger bound. -/
theorem slugOf_under_bounds_for_failure :
    let text := "Failed to load: 2 rooms".toList
    let place : Place := ⟨"features", "room"⟩
    let shorter := (Generator.ofTables ⟨[], []⟩ 10).derive place.group text
    let longer := (Generator.ofTables ⟨[], []⟩ 64).derive place.group text
    10 ≤ 64 ∧ slugOf 10 text = "failed_to".toList ∧
      slugOf 64 text = "failed_to_load_2_rooms".toList ∧ slugOf 10 text <+: slugOf 64 text ∧
        shorter.slug = "load_2_roo".toList ∧ longer.slug = "load_2_rooms_failed".toList ∧
          (place.key (String.ofList shorter.slug)).toList <+:
            (place.key (String.ofList longer.slug)).toList := by
  intro text place shorter longer
  have ordered : 10 ≤ 64 := by decide
  obtain ⟨-, -, -, -, isFront, ofKeys⟩ := slugOf_under_bounds ordered text
  refine ⟨ordered, ?_, ?_, isFront, ?_, ?_, (ofKeys ⟨[], []⟩ place).2⟩
  · decide +kernel
  · decide +kernel
  · decide +kernel
  · decide +kernel

end Key
end KeyedText
