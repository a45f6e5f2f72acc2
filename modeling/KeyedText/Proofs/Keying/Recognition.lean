import KeyedText.Proofs.Keying.Denotation
import KeyedText.Proofs.Site.Admission
import KeyedText.Proofs.Source.Member
import KeyedText.Settings.Basic
import KeyedText.Settings.Check

/-!
# Recognition of lookup calls

A call keeps its text if its callee is the lookup function, a member named like
it, or a member of the console.  A call in a chain that stops at a missing value
never does, and a call that was put in the place of a site does only if the
lookup function is a single name: behind a dotted path the last name alone is
compared.
-/

namespace KeyedText
namespace Keying

open Source Reader

/-! ## Calls that are looked into -/

section Looking

variable {interest : Site.Interest} {source : List Char}

/-- Parts that are all looked at in one situation have their sites in a row. -/
theorem sitesFrom_of_const
    {descend : Nat → Option Site.Situation}
    {situation : Site.Situation}
    (same : ∀ index, descend index = some situation)
    (index : Nat)
    (parts : List Node) :
    Site.sitesFrom interest source descend index parts =
      parts.flatMap (Site.sites interest source situation) := by
  induction parts generalizing index with
  | nil => rfl
  | cons part rest inductionHypothesis =>
      rw [Site.sitesFrom, same index, inductionHypothesis (index + 1), List.flatMap_cons]

/-- A call in a chain that stops at a missing value has the sites of its parts. -/
theorem sites_chain
    (situation : Site.Situation)
    (span : Span)
    (parts : List Node) :
    Site.sites interest source situation (.mk .chain span parts) =
      parts.flatMap (Site.sites interest source situation.plain) := by
  have same : ∀ index,
      situation.descend interest .chain parts index = some situation.plain := fun _ => rfl
  rw [Site.sites_mk, Site.own?_eq_none rfl, sitesFrom_of_const same]
  rfl

/-- Any other call has the sites of its parts unless it keeps its text. -/
theorem sites_call
    (situation : Site.Situation)
    (span : Span)
    (callee : Node)
    (read : List Node) :
    Site.sites interest source situation (.mk .call span (callee :: read)) =
      if Site.keepsText interest.lookup callee then []
      else (callee :: read).flatMap (Site.sites interest source situation.plain) := by
  rw [Site.sites_mk, Site.own?_eq_none rfl]
  have looked : ∀ index, situation.descend interest .call (callee :: read) index =
      if Site.keepsText interest.lookup callee then none else some situation.plain :=
    fun _ => rfl
  cases keeps : Site.keepsText interest.lookup callee with
  | true =>
      simp only [keeps, if_true] at looked
      rw [Site.sitesFrom_eq_nil 0 fun offset => looked (0 + offset)]
      rfl
  | false =>
      simp only [keeps, Bool.false_eq_true, if_false] at looked
      rw [sitesFrom_of_const looked]
      rfl

end Looking

/-! ## Callees that are dotted paths -/

theorem ne_nil_of_memberNames?
    {node : Node}
    {names : List String}
    (are : memberNames? node = some names) :
    names ≠ [] := by
  rcases memberNames?_cases are with ⟨name, -, -, rfl⟩ | ⟨name, -, -, shorter, -, -, rfl⟩
  · exact List.cons_ne_nil _ _
  · exact List.append_ne_nil_of_right_ne_nil _ (List.cons_ne_nil _ _)

theorem unwrapped_of_memberNames?
    {node : Node}
    {names : List String}
    (are : memberNames? node = some names) :
    node.unwrapped = node := by
  rcases memberNames?_cases are with ⟨name, span, rfl, -⟩ | ⟨name, span, owner, -, rfl, -, -⟩
  · rfl
  · rfl

/-- A variable is a chain of a single name. -/
theorem form_eq_identifier_iff
    {node : Node}
    {names : List String}
    (are : memberNames? node = some names)
    (name : String) :
    node.unwrapped.form = .identifier name ↔ names = [name] := by
  rw [unwrapped_of_memberNames? are]
  rcases memberNames?_cases are with
    ⟨found, span, rfl, rfl⟩ | ⟨found, span, owner, shorter, rfl, ofOwner, rfl⟩
  · simp
  · have longer := List.length_pos_of_ne_nil (ne_nil_of_memberNames? ofOwner)
    constructor
    · intro isIdentifier
      cases isIdentifier
    · intro single
      have length := congrArg List.length single
      rw [List.length_append, List.length_singleton, List.length_singleton] at length
      omega

/-- A name and names behind dots. -/
def dotted (head : String) (members : List String) : List Char :=
  head.toList ++ members.flatMap fun name => '.' :: name.toList

/-- A path of several names is not the last of them. -/
theorem ne_of_dotted
    {lookup head name : String}
    {members : List String}
    (isLookup : lookup.toList = dotted head members)
    (longer : members ≠ [])
    (named : spellsName name.toList = true) :
    name ≠ lookup := by
  rintro rfl
  have hasDot : '.' ∈ name.toList := by
    obtain ⟨first, others, rfl⟩ := List.exists_cons_of_ne_nil longer
    rw [isLookup, dotted, List.flatMap_cons]
    simp
  have continues := List.all_eq_true.mp ((Bool.and_eq_true _ _).mp named).2 _ hasDot
  exact absurd continues (by decide)

/-- A dotted path keeps the text of its calls exactly if it is a single name or a member of the
console. -/
theorem keepsText_dotted_iff
    {lookup head : String}
    {callee : Node}
    {members : List String}
    (are : memberNames? callee = some (head :: members))
    (named : ∀ name ∈ members, spellsName name.toList = true)
    (isLookup : lookup.toList = dotted head members) :
    Site.KeepsText lookup callee ↔ members = [] ∨ head = "console" ∧ members.length = 1 := by
  have unwrapped := unwrapped_of_memberNames? are
  rcases memberNames?_cases are with
    ⟨found, span, rfl, names⟩ | ⟨found, span, owner, shorter, rfl, ofOwner, names⟩
  · cases names
    have same : head = lookup := by
      rw [← String.toList_inj, isLookup, dotted, List.flatMap_nil, List.append_nil]
    refine iff_of_true ?_ (Or.inl rfl)
    rw [← same]
    exact .lookupFunction span [] unwrapped
  · obtain ⟨first, more, rfl⟩ := List.exists_cons_of_ne_nil (ne_nil_of_memberNames? ofOwner)
    obtain ⟨rfl, rfl⟩ := List.cons.inj names
    have longer : more ++ [found] ≠ [] := by simp
    have differs := ne_of_dotted isLookup longer (named found (by simp))
    have ofConsole := form_eq_identifier_iff ofOwner "console"
    have several :
        more ++ [found] = [] ∨ head = "console" ∧ (more ++ [found]).length = 1 ↔
          head :: more = ["console"] := by
      simp
    refine Iff.trans ?_ (ofConsole.trans several.symm)
    constructor
    · intro keeps
      cases keeps with
      | lookupFunction span parts is =>
          rw [unwrapped] at is
          cases is
      | lookupMember span owner others is =>
          rw [unwrapped] at is
          cases is
          exact absurd rfl differs
      | consoleMember form span owner others is isMember isConsole =>
          rw [unwrapped] at is
          cases is
          exact isConsole
    · intro isConsole
      exact .consoleMember _ span owner [] unwrapped (Or.inl ⟨found, rfl⟩) isConsole

/-! ## Whole programs -/

/-- The sites of a program are collected with the paths at which they are placed. -/
theorem exists_perm_placed
    (interest : Site.Interest)
    (source : List Char)
    (program : Node) :
    ∃ collected : List (List Nat × Site),
      collected.map Prod.snd = Site.collect interest source program ∧
        collected.Perm (Site.placed interest source .outermost program) := by
  refine ⟨(Site.placed interest source .outermost program).mergeSort fun left right =>
    Site.precedes left.2 right.2, ?_, List.mergeSort_perm _ _⟩
  rw [Site.collect, ← Site.map_snd_placed]
  exact List.map_mergeSort fun _ _ _ _ => rfl

theorem call_dotted
    {lookup head : String}
    {members : List String}
    (isLookup : lookup.toList = dotted head members)
    (key : String)
    (site : Site)
    (rest : List Char) :
    ∃ behind, call lookup key site ++ rest = head.toList ++ membersText members behind := by
  refine ⟨(arguments key (textProperty site :: site.interpolations)).tail ++ rest, ?_⟩
  rw [call_eq, isLookup, dotted, arguments, membersText]
  simp only [List.append_assoc, List.cons_append, List.tail_cons]

/-- How the call of a dotted path that is put in the place of a site is read again: its callee is
that path, which keeps the text of its calls or not. -/
structure ReadAgain
    (lookup head : String)
    (members : List String)
    (surroundings : Surroundings)
    (cursor : Cursor)
    (callee : Node)
    (reached : Cursor) : Prop where
  /-- The callee is the path. -/
  names : memberNames? callee = some (head :: members)
  /-- Behind the callee the arguments open. -/
  opens : ∃ behind, reached.At ('(' :: behind)
  /-- They are those of a call of the callee, and what stands behind them goes on with that. -/
  reads : operand surroundings cursor =
    (do
      let read ← Source.arguments
      let made ← node callee.start .call (callee :: read)
      repeatFor (subscriptRound true) (surroundings.limit - 1) (made, .expression))
    surroundings reached
  /-- A single name and a member of the console keep the text of their calls, and no other path. -/
  keeps : Site.KeepsText lookup callee ↔ members = [] ∨ head = "console" ∧ members.length = 1

/-- No site is collected in a call that keeps its text, while a chain that stops at a missing value
has all sites of its parts.  A call in the place of a site is read again with the lookup function as
its callee, and keeps its text exactly if that is a single name or a member of the console. -/
theorem sites_in_calls
    (interest : Site.Interest)
    (source : List Char)
    (program : Node) :
    (∃ collected : List (List Nat × Site),
      collected.map Prod.snd = Site.collect interest source program ∧
        ∀ path site, (path, site) ∈ collected →
          ∃ around node,
            Site.walk? [] program path = some (around, node) ∧
              ∀ turn ∈ around, turn.form = .call →
                ∀ callee, turn.parts.head? = some callee →
                  ¬Site.KeepsText interest.lookup callee) ∧
      (∀ situation span callee read,
        Site.sites interest source situation (.mk .call span (callee :: read)) =
          if Site.keepsText interest.lookup callee then []
          else (callee :: read).flatMap (Site.sites interest source situation.plain)) ∧
      (∀ situation span parts,
        Site.sites interest source situation (.mk .chain span parts) =
          parts.flatMap (Site.sites interest source situation.plain)) ∧
      ∀ head members,
        namesVariable head = true →
        (∀ name ∈ members, spellsName name.toList = true) →
        interest.lookup.toList = dotted head members →
          ∀ key site rest surroundings cursor,
            Cursor.At cursor (call interest.lookup key site ++ rest) →
            members.length < surroundings.limit →
              ∃ callee reached,
                ReadAgain interest.lookup head members surroundings cursor callee reached := by
  refine ⟨?_, fun _ _ _ _ => sites_call _ _ _ _, fun _ _ _ => sites_chain _ _ _, ?_⟩
  · obtain ⟨collected, sites, placed⟩ := exists_perm_placed interest source program
    refine ⟨collected, sites, ?_⟩
    intro path site isCollected
    obtain ⟨around, node, walked, notExcluded, -⟩ :=
      Site.mem_placed_outermost_iff.mp (placed.mem_iff.mp isCollected)
    refine ⟨around, node, walked, ?_⟩
    intro turn onWay isCall callee isCallee keeps
    exact notExcluded (.keptCall turn callee onWay isCall isCallee keeps)
  · intro head members headNamed named isLookup key site rest surroundings cursor here enough
    obtain ⟨behind, isText⟩ := call_dotted isLookup key site rest
    rw [isText] at here
    obtain ⟨callee, reached, names, opens, reads⟩ :=
      operand_at surroundings headNamed named enough here
    exact ⟨callee, reached, names, ⟨behind, opens⟩, reads,
      keepsText_dotted_iff names named isLookup⟩

/-- Settings whose lookup function is a member. -/
def memberSettings : Settings :=
  { Settings.default with lookup := "i18n.t" }

/-- A text in the place of which a call is put. -/
def savedSite : Site where
  kind := .branch
  text := "Save the file".toList
  interpolations := []
  holder := none
  tag := none
  depth := 0
  span := ⟨0, 15⟩
  line := 1
  chunks := []
  review := none

/-- The surroundings of a module. -/
def moduleSurroundings (limit : Nat) : Surroundings :=
  ⟨.ofModule, limit, readAt limit limit⟩

/-- Settings with a member as the lookup function are sound, and calls of it are not recognised
when they are read again. -/
theorem sites_in_calls_for_member :
    memberSettings.fault? = none ∧
      ∃ cursor callee reached,
        Cursor.At cursor (call "i18n.t" "features:app.save_the_file" savedSite ++ []) ∧
          ReadAgain "i18n.t" "i18n" ["t"] (moduleSurroundings 90) cursor callee reached ∧
            ¬Site.KeepsText "i18n.t" callee := by
  obtain ⟨-, -, -, emitted⟩ := sites_in_calls (memberSettings.converter ⟨[], []⟩).interest []
    (.mk .program ⟨0, 0⟩ [])
  obtain ⟨cursor, -, here⟩ := advance_at (moduleSurroundings 90)
    (.atStart (call "i18n.t" "features:app.save_the_file" savedSite ++ [])) rfl rfl (Or.inl rfl)
  obtain ⟨callee, reached, again⟩ := emitted "i18n" ["t"] (by decide) (by decide) (by decide)
    "features:app.save_the_file" savedSite [] (moduleSurroundings 90) cursor here (by decide)
  refine ⟨by decide +kernel, cursor, callee, reached, here, again, ?_⟩
  intro keeps
  exact absurd (again.keeps.mp keeps) (by decide)

end Keying
end KeyedText
