import KeyedText.Proofs.Key.Pattern
import KeyedText.Proofs.Key.Phrase
import KeyedText.Proofs.Text.Occurrence

/-!
# Slugs of permissions

A pattern about a permission asks a text what the permission is for.  Three searches answer, one
after the other: for the words *permission to* in the whole text, for *to* at the start of what
stands behind the pattern, and for the words of a refusal in the whole text.  In a normal text they
keep just what stands behind the first occurrence of the words and a space, and the slug is made of
the first two words of it that count.
-/

namespace KeyedText
namespace Key

/-! ## Three searches -/

/-- The expression for what a text asks permission for. -/
def permissionTo : Expression :=
  phrase ["permission to".toList]

/-- The expression for what a text starts with that goes on from a pattern. -/
def leadingTo : Expression :=
  .followedBy .start (phrase ["to".toList])

/-- The expression for what a text refuses. -/
def refusedTo : Expression :=
  phrase ["not allowed to".toList, "forbidden to".toList]

/-- What a search of a base, then of what stands behind a pattern, and then of the base again keeps
of what permission is asked for. -/
def searchedAction? (base behind : List Char) : Option (List Char) :=
  (permissionTo.keeps? base).or
    ((leadingTo.keeps? (Text.trimmed behind)).or (refusedTo.keeps? base))

theorem keeps?_phrase
    {text : List Char}
    (tidy : Tidy text)
    (leads : List (List Char)) :
    (phrase leads).keeps? text = Text.behindAny? (leads.map (· ++ [' '])) text :=
  findFrom?_phrase tidy leads none

theorem keeps?_leadingTo
    {text : List Char}
    (tidy : Tidy text) :
    leadingTo.keeps? text =
      if "to ".toList.isPrefixOf text then some (text.drop 3) else none := by
  have spaced : "to".toList ++ [' '] = "to ".toList := by decide
  rw [leadingTo, Expression.keeps?, findFrom?_start, head?_ways_phrase tidy, List.find?_singleton,
    spaced]
  split <;> rfl

/-- The searches find what is found without them. -/
theorem searchedAction?_eq
    {base behind : List Char}
    (ofBase : Tidy base)
    (ofBehind : Tidy behind) :
    searchedAction? base behind = action? base behind := by
  rw [searchedAction?, action?, permissionTo, refusedTo, keeps?_phrase ofBase,
    keeps?_phrase ofBase, keeps?_leadingTo ofBehind.trimmed,
    Text.behind?_eq_behindAny? (by decide)]
  rfl

/-! ## Reading without a search -/

/-- What permission is asked for, if `behind` is the text behind the pattern: the rest behind the
first *permission to*; else the rest of a text behind the pattern that starts with *to*; else the
rest behind the first refusal; else nothing. -/
inductive Asks (base behind : List Char) : Option (List Char) → Prop where
  /-- The base has the words *permission to*. -/
  | permission {front action : List Char}
      (standsFirst : Text.StandsFirst ["permission to ".toList] base front action) :
      Asks base behind (some action)
  /-- The text behind the pattern starts with *to*. -/
  | leading {action : List Char}
      (noPermission : ¬"permission to ".toList <:+: base)
      (starts : Text.trimmed behind = "to ".toList ++ action) :
      Asks base behind (some action)
  /-- The base has the words of a refusal. -/
  | refusal {front action : List Char}
      (noPermission : ¬"permission to ".toList <:+: base)
      (notLeading : ¬"to ".toList <+: Text.trimmed behind)
      (standsFirst :
        Text.StandsFirst ["not allowed to ".toList, "forbidden to ".toList] base front action) :
      Asks base behind (some action)
  /-- The base has none of them. -/
  | nothing
      (noPermission : ¬"permission to ".toList <:+: base)
      (notLeading : ¬"to ".toList <+: Text.trimmed behind)
      (noRefusal : ¬"not allowed to ".toList <:+: base ∧ ¬"forbidden to ".toList <:+: base) :
      Asks base behind none

/-- Nothing stands behind a refusal exactly if the base has the words of none. -/
theorem behindAny?_refusal_eq_none_iff
    {base : List Char} :
    Text.behindAny? ["not allowed to ".toList, "forbidden to ".toList] base = none ↔
      ¬"not allowed to ".toList <:+: base ∧ ¬"forbidden to ".toList <:+: base := by
  rw [Text.behindAny?_eq_none_iff (by decide), List.forall_mem_cons, List.forall_mem_singleton]

theorem asks_action?
    (base behind : List Char) :
    Asks base behind (action? base behind) := by
  unfold action?
  dsimp only
  cases ofPermission : Text.behind? "permission to ".toList base with
  | some action =>
      obtain ⟨front, standsFirst⟩ := (Text.behind?_eq_some_iff (by decide)).mp ofPermission
      exact .permission standsFirst
  | none =>
      have noPermission := (Text.behind?_eq_none_iff (by decide)).mp ofPermission
      by_cases starts : "to ".toList <+: Text.trimmed behind
      · obtain ⟨action, whole⟩ := starts
        rw [if_pos (List.isPrefixOf_iff_prefix.mpr ⟨action, whole⟩), Option.none_or, Option.some_or,
          ← whole]
        exact .leading noPermission whole.symm
      · rw [if_neg (mt List.isPrefixOf_iff_prefix.mp starts), Option.none_or, Option.none_or]
        cases ofRefusal :
            Text.behindAny? ["not allowed to ".toList, "forbidden to ".toList] base with
        | some action =>
            obtain ⟨front, standsFirst⟩ :=
              (Text.behindAny?_eq_some_iff (by decide) (by decide)).mp ofRefusal
            exact .refusal noPermission starts standsFirst
        | none => exact .nothing noPermission starts (behindAny?_refusal_eq_none_iff.mp ofRefusal)

/-- The reading gives exactly what the rule for patterns takes. -/
theorem action?_eq_iff
    {base behind : List Char}
    {action : Option (List Char)} :
    action? base behind = action ↔ Asks base behind action := by
  refine ⟨fun taken => taken ▸ asks_action? base behind, fun asks => ?_⟩
  unfold action?
  dsimp only
  cases asks with
  | permission standsFirst =>
      rw [(Text.behind?_eq_some_iff (by decide)).mpr ⟨_, standsFirst⟩, Option.some_or]
  | leading noPermission starts =>
      rw [(Text.behind?_eq_none_iff (by decide)).mpr noPermission, starts,
        if_pos (List.isPrefixOf_iff_prefix.mpr (List.prefix_append _ _))]
      rfl
  | refusal noPermission notLeading standsFirst =>
      rw [(Text.behind?_eq_none_iff (by decide)).mpr noPermission,
        if_neg (mt List.isPrefixOf_iff_prefix.mp notLeading),
        (Text.behindAny?_eq_some_iff (by decide) (by decide)).mpr ⟨_, standsFirst⟩]
      rfl
  | nothing noPermission notLeading noRefusal =>
      rw [(Text.behind?_eq_none_iff (by decide)).mpr noPermission,
        if_neg (mt List.isPrefixOf_iff_prefix.mp notLeading),
        behindAny?_refusal_eq_none_iff.mpr noRefusal]
      rfl

/-! ## Slugs -/

/-- The words of a text that count for the slug of a permission in a group. -/
def actionWords (text : List Char) (group : String) : List (List Char) :=
  (Text.runs (· == ' ') text).filter fun word =>
    String.ofList word ∉ stopwords ∧ word ∉ Text.pieces '.' group.toList

/-- The slug of a permission before it is finalized: that of its first two words that count. -/
def permissionText (normal : List Char → List Char) (group : String) :
    Option (List Char) → List Char
  | none => "permission_denied".toList
  | some action =>
    match actionWords (normal action) group with
    | [] => "action_permission_denied".toList
    | [only] => only ++ "_permission_denied".toList
    | first :: second :: _ => first ++ '_' :: second ++ "_permission_denied".toList

theorem significantWords_action
    (text : List Char)
    (group : String)
    (limit : Nat) :
    significant text (Text.runs (· == '.') group.toList) limit =
      Text.joinedBy '_' ((actionWords text group).take limit) := by
  unfold significant actionWords
  dsimp only
  congr 2
  refine List.filter_congr fun word isRun => ?_
  have sameSegments : word ∈ Text.runs (· == '.') group.toList ↔
      word ∈ Text.pieces '.' group.toList := by
    simp [Text.mem_runs_iff_mem_pieces, Text.ne_nil_of_mem_runs isRun]
  simp [sameSegments]

theorem permissionSlug_eq
    (generator : Generator)
    (subject : Subject)
    (behind : List Char) :
    permissionSlug generator subject behind =
      permissionText (normalForm generator.synonyms) subject.group
        (action? subject.base behind) := by
  unfold permissionSlug permissionText
  cases action? subject.base behind with
  | none => rfl
  | some action =>
      dsimp only
      rw [significantWords_action]
      have nonempty : ∀ word ∈ actionWords (normalForm generator.synonyms action) subject.group,
          word ≠ [] :=
        fun word isWord => Text.ne_nil_of_mem_runs (List.mem_filter.mp isWord).1
      cases words : actionWords (normalForm generator.synonyms action) subject.group with
      | nil => rfl
      | cons first others =>
          have hasFirst : first ≠ [] := nonempty first (words ▸ List.mem_cons_self)
          cases others with
          | nil => simp [Text.joinedBy, hasFirst]
          | cons second more =>
              simp [Text.joinedBy, List.intercalate_cons_cons, hasFirst]

section FirstEntry

variable
    {tables : Tables}
    {text : List Char}
    {earlier later : Table}
    {pattern value : String}
    (entries : tables.patterns = earlier ++ (pattern, value) :: later)
    (notEarlier : ∀ entry ∈ earlier, ¬Fits tables.synonyms text entry)
    (wordy : normalForm tables.synonyms.toSynonyms pattern.toList ≠ [])
    {front behind : List Char}
    (standsFirst : Text.StandsFirst [normalForm tables.synonyms.toSynonyms pattern.toList]
      (normalForm tables.synonyms.toSynonyms text) front behind)

include entries notEarlier wordy standsFirst

theorem findSome?_hit? :
    tables.patterns.findSome? (hit? tables.synonyms text) = some (behind, value) := by
  have noneEarlier : earlier.findSome? (hit? tables.synonyms text) = none :=
    List.findSome?_eq_none_iff.mpr fun entry isEarlier =>
      hit?_eq_none_iff.mpr (notEarlier entry isEarlier)
  have ofEntry : hit? tables.synonyms text (pattern, value) = some (behind, value) := by
    rw [hit?, if_neg (mt List.isEmpty_iff.mp wordy),
      (Text.behind?_eq_some_iff wordy).mpr ⟨front, standsFirst⟩, Option.map_some]
  rw [entries, List.findSome?_append, noneEarlier, Option.none_or, List.findSome?_cons, ofEntry]

/-- The slug of a text is that of the permission that its first fitting entry asks for, unless the
text is short or tells what persons do. -/
theorem derive_of_permission
    (isPermission : value ∈ permissionSlugs)
    (limit : Nat)
    (group : String)
    (notShort : ((Generator.ofTables tables limit).derive group text).rule ≠ .shortText)
    (notShared : ((Generator.ofTables tables limit).derive group text).rule ≠ .singularPlural) :
    (Generator.ofTables tables limit).derive group text =
      ⟨slugOf limit (permissionText (normalForm tables.synonyms.toSynonyms) group
        (action? (normalForm tables.synonyms.toSynonyms text) behind)), .pattern⟩ := by
  have notPassing : value ∉ passingSlugs :=
    (by decide : ∀ value ∈ permissionSlugs, value ∉ passingSlugs) value isPermission
  have derived := patternSlug?_ofTables tables limit group text
  dsimp only at derived
  rw [findSome?_hit? entries notEarlier wordy standsFirst, Option.bind_some,
    if_neg (mt List.contains_iff_mem.mp notPassing),
    if_pos (List.contains_iff_mem.mpr isPermission), permissionSlug_eq] at derived
  have wordyBase : normalForm tables.synonyms.toSynonyms text ≠ [] := by
    obtain ⟨found, isPattern, split⟩ := standsFirst.stands
    rw [List.mem_singleton.mp isPattern] at split
    simp [split, wordy]
  exact derive_of_patternSlug? wordyBase derived notShort notShared

end FirstEntry

/-- If the first entry that fits a text is about a permission, and the text is neither short nor
tells what persons do, then the searches keep exactly what the text asks permission for, and the
slug is made of the first words of it that count. -/
theorem permissions_are_read
    (tables : Tables)
    (limit : Nat)
    (group : String)
    (text : List Char)
    {earlier later : Table}
    {pattern value : String}
    (entries : tables.patterns = earlier ++ (pattern, value) :: later)
    (notEarlier : ∀ entry ∈ earlier, ¬Fits tables.synonyms text entry)
    (isPermission : value ∈ permissionSlugs)
    (wordy : normalForm tables.synonyms.toSynonyms pattern.toList ≠ [])
    {front behind : List Char}
    (standsFirst : Text.StandsFirst [normalForm tables.synonyms.toSynonyms pattern.toList]
      (normalForm tables.synonyms.toSynonyms text) front behind)
    (notShort : ((Generator.ofTables tables limit).derive group text).rule ≠ .shortText)
    (notShared : ((Generator.ofTables tables limit).derive group text).rule ≠ .singularPlural) :
    let normal := normalForm tables.synonyms.toSynonyms
    ∃ action,
      (∀ other, Asks (normal text) behind other ↔ other = action) ∧
        searchedAction? (normal text) behind = action ∧
          (Generator.ofTables tables limit).derive group text =
            ⟨slugOf limit (permissionText normal group action), .pattern⟩ := by
  intro normal
  have ofBase : Tidy (normal text) := (isNormal_normalForm _ text).tidy
  have ofBehind : Tidy behind := by
    obtain ⟨found, -, split⟩ := standsFirst.stands
    exact ofBase.of_suffix ⟨front ++ found, split.symm⟩
  refine ⟨action? (normal text) behind, ?_, searchedAction?_eq ofBase ofBehind, ?_⟩
  · intro other
    rw [← action?_eq_iff, eq_comm]
  · exact derive_of_permission entries notEarlier wordy standsFirst isPermission limit group
      notShort notShared

/-- A pattern that ends inside a word, an action in which a synonym stands, and a group that names a
word of it. -/
theorem permissions_are_read_for_forbidden :
    let tables : Tables :=
      ⟨[("allow me", "failed_after"), ("Forbid", "_permission_denied_after")], [("boot", "kick")]⟩
    let text := "You are forbidden to boot members from this room!".toList
    Asks "you are forbidden to kick members from this room".toList
        "den to kick members from this room".toList
        (some "kick members from this room".toList) ∧
      (Generator.ofTables tables 64).derive "room.members" text =
        ⟨"kick_from_permission_denied".toList, .pattern⟩ := by
  intro tables text
  have base : normalForm tables.synonyms.toSynonyms text =
      "you are forbidden to kick members from this room".toList := by
    decide +kernel
  have pattern : normalForm tables.synonyms.toSynonyms "Forbid".toList = "forbid".toList := by
    decide +kernel
  have notEarlier : ∀ entry ∈ [("allow me", "failed_after")], ¬Fits tables.synonyms text entry := by
    rw [List.forall_mem_singleton, ← hit?_eq_none_iff]
    decide +kernel
  have wordy : normalForm tables.synonyms.toSynonyms "Forbid".toList ≠ [] := by
    rw [pattern]
    decide
  have standsFirst : Text.StandsFirst [normalForm tables.synonyms.toSynonyms "Forbid".toList]
      (normalForm tables.synonyms.toSynonyms text) "you are ".toList
      "den to kick members from this room".toList := by
    rw [base, pattern]
    exact ⟨⟨_, List.mem_singleton_self _, by decide⟩, by decide⟩
  have entries : tables.patterns =
      [("allow me", "failed_after")] ++ ("Forbid", "_permission_denied_after") :: [] :=
    rfl
  obtain ⟨action, reads, searched, derived⟩ := permissions_are_read tables 64 "room.members" text
    entries notEarlier (by decide) wordy standsFirst (by decide +kernel) (by decide +kernel)
  rw [base] at reads searched
  have isAction : searchedAction? "you are forbidden to kick members from this room".toList
      "den to kick members from this room".toList =
        some "kick members from this room".toList := by
    decide +kernel
  refine ⟨(reads _).mpr (isAction.symm.trans searched), derived.trans ?_⟩
  rw [← searched, isAction]
  decide +kernel

end Key
end KeyedText
