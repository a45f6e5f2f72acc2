import KeyedText.Proofs.Site.Sentence
import KeyedText.Site.Collect

/-!
# Sites by their paths

A path leads from the root of a tree to a node.  What makes a node a site can
be read off the nodes that its path passes through, without going through the
tree: whether text is looked for there at all, what a string there is, and the
elements and the attribute around it.  The collected sites are exactly those
that this reading admits, each of them once.
-/

namespace KeyedText
namespace Site

open Source

/-! ## Paths -/

/-- A node on the way to another one, with the index of the part that the way
goes on with. -/
structure Turn where
  /-- The form of the node. -/
  form : Form
  /-- The parts of the node. -/
  parts : List Node
  /-- The index of the next part. -/
  index : Nat

/-- Follows a path down a tree.  Gives the nodes on the way, innermost first, in
front of those already passed, and the node at the end. -/
def walk? (passed : List Turn) : Node → List Nat → Option (List Turn × Node)
  | node, [] => some (passed, node)
  | .mk form _ parts, index :: path =>
    match parts[index]? with
    | some part => walk? (⟨form, parts, index⟩ :: passed) part path
    | none => none

/-! ## What a path tells -/

/-- The elements on the way, innermost first. -/
def tagsAround (around : List Turn) : List String :=
  around.filterMap fun turn =>
    match turn.form with
    | .element tag => some tag
    | _ => none

/-- Whether a node on the way is an element or fragment. -/
def Turn.isMarkup (turn : Turn) : Bool :=
  match turn.form with
  | .element _ | .fragment => true
  | _ => false

/-- The attributes on the way since the innermost element or fragment, innermost
first. -/
def attributesAround (around : List Turn) : List String :=
  (around.takeWhile (!·.isMarkup)).filterMap fun turn =>
    match turn.form with
    | .attribute name => some name
    | _ => none

/-- The innermost of these attributes, if it is a translatable one. -/
def holderAround (interest : Interest) (around : List Turn) : Option String :=
  (attributesAround around).head?.filter interest.attributes.contains

/-- What a string is where a path ends, looked at through parentheses. -/
inductive Role : List Turn → SiteKind → Prop
  | attributeValue {turn : Turn} {outer : List Turn} {name : String}
      (form : turn.form = .attribute name) :
      Role (turn :: outer) .attributeValue
  | bracedLiteral {turn : Turn} {outer : List Turn}
      (form : turn.form = .container) :
      Role (turn :: outer) .bracedLiteral
  | branch {turn : Turn} {outer : List Turn}
      (form : turn.form = .conditional)
      (notCondition : turn.index ≠ 0) :
      Role (turn :: outer) .branch
  | textProperty {turn : Turn} {outer : List Turn}
      (form : turn.form = .property (some "text"))
      (isValue : turn.index = 1) :
      Role (turn :: outer) .textProperty
  | parenthesized {turn : Turn} {outer : List Turn} {kind : SiteKind}
      (form : turn.form = .parentheses)
      (role : Role outer kind) :
      Role (turn :: outer) kind

/-- The ways that end in a child which is one half of a sentence around an
element, looked at through braces and parentheses. -/
inductive LeadsToHalf : List Turn → Prop
  | inside {turn : Turn} {outer : List Turn}
      (form : turn.form = .parentheses ∨ turn.form = .container)
      (half : LeadsToHalf outer) :
      LeadsToHalf (turn :: outer)
  | ofElement {turn : Turn} {outer : List Turn} {tag : String} {index : Nat}
      (form : turn.form = .element tag)
      (isChild : turn.index = index + 1)
      (half : IsHalfAmong turn.parts.tail index) :
      LeadsToHalf (turn :: outer)
  | ofFragment {turn : Turn} {outer : List Turn}
      (form : turn.form = .fragment)
      (half : IsHalfAmong turn.parts turn.index) :
      LeadsToHalf (turn :: outer)

/-! ## Where no text is looked for -/

/-- A callee whose calls keep their text: the lookup function, a member named
like it, or a member of the console. -/
inductive KeepsText (lookup : String) (callee : Node) : Prop
  | lookupFunction (span : Span) (parts : List Node)
      (is : callee.unwrapped = .mk (.identifier lookup) span parts)
  | lookupMember (span : Span) (owner : Node) (others : List Node)
      (is : callee.unwrapped = .mk (.member lookup) span (owner :: others))
  | consoleMember (form : Form) (span : Span) (owner : Node) (others : List Node)
      (is : callee.unwrapped = .mk form span (owner :: others))
      (isMember : (∃ name, form = .member name) ∨ form = .otherMember)
      (ofConsole : owner.unwrapped.form = .identifier "console")

/-- The ways to places where no text is looked for. -/
inductive Excluded (interest : Interest) (around : List Turn) : Prop
  /-- An element on the way translates its content itself. -/
  | richComponent (turn : Turn) (tag : String)
      (onWay : turn ∈ around)
      (form : turn.form = .element tag)
      (isRich : tag ∈ interest.richComponents)
  /-- The way leads through the children of an element that is skipped. -/
  | skippedTag (turn : Turn) (tag : String)
      (onWay : turn ∈ around)
      (form : turn.form = .element tag)
      (isSkipped : tag ∈ interest.skippedTags)
      (throughChild : turn.index ≠ 0)
  /-- The way leads through a call that keeps its text. -/
  | keptCall (turn : Turn) (callee : Node)
      (onWay : turn ∈ around)
      (form : turn.form = .call)
      (isCallee : turn.parts.head? = some callee)
      (keeps : KeepsText interest.lookup callee)
  /-- An attribute on the way, elements in between aside, is not translatable. -/
  | foreignAttribute (name : String)
      (onWay : name ∈ attributesAround around)
      (isForeign : name ∉ interest.attributes)

/-! ## Candidates -/

/-- A site at the end of a path, with what the path tells about it. -/
def siteAround
    (interest : Interest)
    (source : List Char)
    (around : List Turn)
    (kind : SiteKind)
    (text : List Char)
    (span : Span) : Site where
  kind := kind
  text := text
  interpolations := []
  holder := holderAround interest around
  tag := (tagsAround around).head?
  depth := (tagsAround around).length
  span := span
  line := lineAt source span.start
  chunks := []
  review := none

/-- The site that a node at the end of a path is, unless no text is looked for
there. -/
inductive Candidate
    (interest : Interest)
    (source : List Char)
    (around : List Turn) : Node → Site → Prop
  /-- A string that has a valid value and a role. -/
  | literal (value : String) (span : Span) (parts : List Node) (kind : SiteKind)
      (role : Role around kind)
      (whole : ¬LeadsToHalf around) :
      Candidate interest source around (.mk (.string (some value)) span parts)
        (siteAround interest source around kind value.toList span)
  /-- Such a string that is one half of a sentence. -/
  | half (value : String) (span : Span) (parts : List Node) (kind : SiteKind)
      (role : Role around kind)
      (half : LeadsToHalf around) :
      Candidate interest source around (.mk (.string (some value)) span parts)
        { siteAround interest source around kind value.toList span with
          review := some .splitAroundTag }
  /-- Text between tags that is not only layout. -/
  | prose (value : String) (span : Span) (parts : List Node)
      (visible : ∃ character ∈ value.toList, Character.isLayout character = false) :
      Candidate interest source around (.mk (.elementText value) span parts)
        (siteAround interest source around .elementText (Text.collapseSpacing value.toList)
          (proseSpan source span))
  /-- A template with at least one expression, all of whose chunks have a value. -/
  | template (chunks : List String) (span : Span) (expressions : List Node)
      (interpolates : expressions ≠ []) :
      Candidate interest source around (.mk (.template (chunks.map some)) span expressions)
        { siteAround interest source around (templateNames expressions).1
            (filledWith (chunks.map String.toList) (templateNames expressions).2) span with
          interpolations := ((templateNames expressions).2.zip expressions).map
            fun (name, expression) => ⟨name, expression.span.slice source⟩
          chunks := chunks.map String.toList }

/-- Whether a path admits a site at its end. -/
def Admits
    (interest : Interest)
    (source : List Char)
    (around : List Turn)
    (node : Node)
    (site : Site) : Prop :=
  ¬Excluded interest around ∧ Candidate interest source around node site

/-! ## The situation at the end of a path -/

/-- The kind of site that a string is where a path ends. -/
def roleAround? : List Turn → Option SiteKind
  | [] => none
  | turn :: outer =>
    match turn.form with
    | .parentheses => roleAround? outer
    | .attribute _ => some .attributeValue
    | .container => some .bracedLiteral
    | .conditional => if turn.index == 0 then none else some .branch
    | .property key =>
      if key == some "text" && turn.index == 1 then some .textProperty else none
    | _ => none

theorem roleAround?_eq_some_iff
    {around : List Turn}
    {kind : SiteKind} :
    roleAround? around = some kind ↔ Role around kind := by
  constructor
  · intro found
    induction around with
    | nil => cases found
    | cons turn outer inductionHypothesis =>
        unfold roleAround? at found
        split at found
        · next form => exact .parenthesized form (inductionHypothesis found)
        · next form =>
            cases found
            exact .attributeValue form
        · next form =>
            cases found
            exact .bracedLiteral form
        · next form =>
            split at found
            · cases found
            · next notCondition =>
                cases found
                exact .branch form (by simpa using notCondition)
        · next key form =>
            split at found
            · next isText =>
                simp only [Bool.and_eq_true, beq_iff_eq] at isText
                cases found
                exact .textProperty (isText.1 ▸ form) isText.2
            · cases found
        · cases found
  · intro role
    induction role with
    | attributeValue form => simp [roleAround?, form]
    | bracedLiteral form => simp [roleAround?, form]
    | branch form notCondition => simp [roleAround?, form, notCondition]
    | textProperty form isValue => simp [roleAround?, form, isValue]
    | parenthesized form _ inductionHypothesis =>
        simpa [roleAround?, form] using inductionHypothesis

/-- Whether a path ends in a child that is one half of a sentence. -/
def isHalf : List Turn → Bool
  | [] => false
  | turn :: outer =>
    match turn.form with
    | .parentheses | .container => isHalf outer
    | .element _ =>
      turn.index != 0 && (splitChildren turn.parts.tail).contains (turn.index - 1)
    | .fragment => (splitChildren turn.parts).contains turn.index
    | _ => false

theorem isHalf_iff
    {around : List Turn} :
    isHalf around = true ↔ LeadsToHalf around := by
  constructor
  · intro half
    induction around with
    | nil => cases half
    | cons turn outer inductionHypothesis =>
        unfold isHalf at half
        split at half
        · next form => exact .inside (.inl form) (inductionHypothesis half)
        · next form => exact .inside (.inr form) (inductionHypothesis half)
        · next tag form =>
            obtain ⟨notFirst, isMember⟩ := Bool.and_eq_true_iff.mp half
            have isChild := Nat.succ_pred_eq_of_ne_zero (bne_iff_ne.mp notFirst)
            exact .ofElement form isChild.symm
              (mem_splitChildren_iff.mp (List.contains_iff_mem.mp isMember))
        · next form =>
            exact .ofFragment form (mem_splitChildren_iff.mp (List.contains_iff_mem.mp half))
        · cases half
  · intro half
    induction half with
    | inside form _ inductionHypothesis =>
        rcases form with form | form
        · simpa [isHalf, form] using inductionHypothesis
        · simpa [isHalf, form] using inductionHypothesis
    | ofElement form isChild half => simp [isHalf, form, isChild, mem_splitChildren_iff.mpr half]
    | ofFragment form half => simp [isHalf, form, mem_splitChildren_iff.mpr half]

/-- Whether a node on the way is a component that translates its content. -/
def Turn.isRich (interest : Interest) (turn : Turn) : Bool :=
  match turn.form with
  | .element tag => interest.richComponents.contains tag
  | _ => false

/-- Whether the way goes on into a part that is never looked at. -/
def Turn.isBlocked (interest : Interest) (turn : Turn) : Bool :=
  match turn.form with
  | .element tag => turn.index != 0 && interest.skippedTags.contains tag
  | .call => turn.parts.head?.any (keepsText interest.lookup)
  | _ => false

/-- The situation that a path tells. -/
def situationAround (interest : Interest) (around : List Turn) : Situation where
  tags := tagsAround around
  holder := holderAround interest around
  foreign := (attributesAround around).any (!interest.attributes.contains ·)
  rich := around.any (·.isRich interest)
  role := roleAround? around
  split := isHalf around

/-- Going down by one part adds one turn to what the path tells. -/
theorem descend_situationAround
    (interest : Interest)
    (around : List Turn)
    (turn : Turn) :
    (situationAround interest around).descend interest turn.form turn.parts turn.index =
      if turn.isBlocked interest then none
      else some (situationAround interest (turn :: around)) := by
  obtain ⟨form, parts, index⟩ := turn
  cases form with
  | element tag =>
    by_cases first : index = 0
    · simp [Situation.descend, Turn.isBlocked, situationAround, Situation.inElement,
        Situation.plain, tagsAround, holderAround, attributesAround,
        Turn.isMarkup, roleAround?, isHalf, Turn.isRich, first, Bool.or_comm]
    · have through : (index != 0) = true := bne_iff_ne.mpr first
      simp [Situation.descend, Turn.isBlocked, situationAround, Situation.inElement,
        Situation.plain, Situation.ofChild, tagsAround, holderAround, attributesAround,
        Turn.isMarkup, roleAround?, isHalf, Turn.isRich, first, through, Bool.or_comm]
  | fragment => rfl
  | «attribute» name =>
    by_cases known : name ∈ interest.attributes
    · simp [Situation.descend, Turn.isBlocked, situationAround, Situation.inAttribute,
        Situation.offering, tagsAround, holderAround, attributesAround,
        Turn.isMarkup, roleAround?, isHalf, Turn.isRich, Option.filter, known]
    · simp [Situation.descend, Turn.isBlocked, situationAround, Situation.inAttribute,
        Situation.offering, tagsAround, holderAround, attributesAround,
        Turn.isMarkup, roleAround?, isHalf, Turn.isRich, Option.filter, known]
  | conditional =>
    by_cases first : index = 0
    · simp only [first]
      rfl
    · have through : (index == 0) = false := beq_eq_false_iff_ne.mpr first
      simp only [Situation.descend, Turn.isBlocked, situationAround, roleAround?, through]
      rfl
  | property key =>
    cases isText : key == some "text" && index == 1 with
    | false =>
      simp only [Situation.descend, Turn.isBlocked, situationAround, roleAround?, isText]
      rfl
    | true =>
      simp only [Situation.descend, Turn.isBlocked, situationAround, roleAround?, isText]
      rfl
  | call =>
    by_cases kept : parts.head?.any (keepsText interest.lookup) = true
    · simp only [Situation.descend, Turn.isBlocked, kept, if_true]
    · simp only [Situation.descend, Turn.isBlocked, kept, if_false, Bool.false_eq_true]
      rfl
  | _ => rfl

/-! ## Exclusion -/

theorem isVariable_iff
    {name : String}
    {node : Node} :
    isVariable name node = true ↔ node.form = .identifier name := by
  unfold isVariable
  split
  · next found form => simp [form]
  · next other =>
      simp only [Bool.false_eq_true, false_iff]
      exact other name

theorem keepsText_iff
    {lookup : String}
    {callee : Node} :
    keepsText lookup callee = true ↔ KeepsText lookup callee := by
  constructor
  · intro keeps
    unfold keepsText at keeps
    split at keeps
    · next name span parts is =>
        rw [beq_iff_eq] at keeps
        exact .lookupFunction span parts (keeps ▸ is)
    · next name span owner others is =>
        rcases (Bool.or_eq_true _ _).mp keeps with same | ofConsole
        · rw [beq_iff_eq] at same
          exact .lookupMember span owner others (same ▸ is)
        · exact .consoleMember _ span owner others is (.inl ⟨name, rfl⟩)
            (isVariable_iff.mp ofConsole)
    · next span owner others is =>
        exact .consoleMember _ span owner others is (.inr rfl) (isVariable_iff.mp keeps)
    · cases keeps
  · rintro (⟨span, parts, is⟩ | ⟨span, owner, others, is⟩ |
      ⟨form, span, owner, others, is, isMember, ofConsole⟩)
    · simp [keepsText, is]
    · simp [keepsText, is]
    · have owned : isVariable "console" owner.unwrapped = true := isVariable_iff.mpr ofConsole
      rcases isMember with ⟨name, rfl⟩ | rfl
      · simp [keepsText, is, owned]
      · simp [keepsText, is, owned]

theorem mem_attributesAround_foreign_iff
    {interest : Interest}
    {around : List Turn} :
    (situationAround interest around).foreign = true ↔
      ∃ name ∈ attributesAround around, name ∉ interest.attributes := by
  simp [situationAround]

/-- A way is excluded exactly if it leads through a part that is never looked at
or ends where no text is a site. -/
theorem excluded_iff
    {interest : Interest}
    {around : List Turn} :
    Excluded interest around ↔
      around.any (·.isBlocked interest) = true ∨
        (situationAround interest around).suppressed = true := by
  constructor
  · intro excluded
    cases excluded with
    | richComponent turn tag onWay form isRich =>
      right
      have rich : turn.isRich interest = true := by simp [Turn.isRich, form, isRich]
      have around : around.any (·.isRich interest) = true :=
        List.any_eq_true.mpr ⟨turn, onWay, rich⟩
      simp [Situation.suppressed, situationAround, around]
    | skippedTag turn tag onWay form isSkipped throughChild =>
      left
      refine List.any_eq_true.mpr ⟨turn, onWay, ?_⟩
      simp [Turn.isBlocked, form, isSkipped, throughChild]
    | keptCall turn callee onWay form isCallee keeps =>
      left
      refine List.any_eq_true.mpr ⟨turn, onWay, ?_⟩
      simp [Turn.isBlocked, form, isCallee, keepsText_iff.mpr keeps]
    | foreignAttribute name onWay isForeign =>
      right
      have foreign := mem_attributesAround_foreign_iff.mpr ⟨name, onWay, isForeign⟩
      simp [Situation.suppressed, foreign]
  · rintro (blocked | suppressed)
    · obtain ⟨turn, onWay, isBlocked⟩ := List.any_eq_true.mp blocked
      unfold Turn.isBlocked at isBlocked
      split at isBlocked
      · next tag form =>
          simp only [Bool.and_eq_true, bne_iff_ne, List.contains_iff_mem] at isBlocked
          exact .skippedTag turn tag onWay form isBlocked.2 isBlocked.1
      · next form =>
          obtain ⟨callee, isCallee, keeps⟩ := (Option.any_eq_true _ _).mp isBlocked
          exact .keptCall turn callee onWay form isCallee (keepsText_iff.mp keeps)
      · cases isBlocked
    · rcases (Bool.or_eq_true _ _).mp suppressed with foreign | rich
      · obtain ⟨name, onWay, isForeign⟩ := mem_attributesAround_foreign_iff.mp foreign
        exact .foreignAttribute name onWay isForeign
      · obtain ⟨turn, onWay, isRich⟩ := List.any_eq_true.mp rich
        unfold Turn.isRich at isRich
        split at isRich
        · next tag form =>
            exact .richComponent turn tag onWay form (List.contains_iff_mem.mp isRich)
        · cases isRich

end Site
end KeyedText
