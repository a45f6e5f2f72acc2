import KeyedText.Proofs.Site.Span

/-!
# A visitor that finds sites

The sites of a program can also be found by one visitor that goes through the
tree and changes what it knows on the way: it pushes and pops the elements around
a node, counts those that translate their content, puts the attribute aside while
it is inside another element, and marks the strings around an element by their
positions before it goes through the children.  Each visit gives back what it
found, but for marks inside the node, and adds the sites of the node to those
that were found before.
-/

namespace KeyedText
namespace Site

open Source

/-- What a visitor knows. -/
structure Visit where
  /-- The elements around, innermost first. -/
  tags : List String
  /-- The translatable attribute around, elements in between aside. -/
  holder : Option String
  /-- Whether another attribute is around, elements in between aside. -/
  foreign : Bool
  /-- The number of components around that translate their content. -/
  richDepth : Nat
  /-- Where the strings start that are halves of sentences. -/
  halves : List Nat
  /-- The sites found so far. -/
  sites : List Site

namespace Visit

/-- What is known before anything is visited. -/
def outermost : Visit :=
  ⟨[], none, false, 0, [], []⟩

/-- The situation of a node where the visitor is. -/
def situation (visit : Visit) (role : Option SiteKind) (split : Bool) : Situation :=
  ⟨visit.tags, visit.holder, visit.foreign, decide (0 < visit.richDepth), role, split⟩

/-- Adds the site of a node itself, if it has one.  A string in braces can be marked. -/
def record (source : List Char) (role : Option SiteKind) (form : Form) (span : Span)
    (parts : List Node) (visit : Visit) : Visit :=
  let split := role == some .bracedLiteral && visit.halves.contains span.start
  { visit with
    sites := visit.sites ++ (own? source (visit.situation role split) form span parts).toList }

/-- By how many the components around are more inside an element. -/
def depthOf (interest : Interest) (tag : String) : Nat :=
  if interest.richComponents.contains tag then 1 else 0

/-- Goes into an element: it starts with no attribute around. -/
def enterElement (interest : Interest) (tag : String) (visit : Visit) : Visit :=
  { visit with
    tags := tag :: visit.tags
    holder := none
    foreign := false
    richDepth := visit.richDepth + depthOf interest tag }

/-- Leaves an element; the attribute around it is the one from before. -/
def leaveElement (interest : Interest) (tag : String) (visit before : Visit) : Visit :=
  { visit with
    tags := visit.tags.tail
    holder := before.holder
    foreign := before.foreign
    richDepth := visit.richDepth - depthOf interest tag }

/-- Goes into a fragment. -/
def enterFragment (visit : Visit) : Visit :=
  { visit with holder := none, foreign := false }

/-- Goes into an attribute. -/
def enterAttribute (interest : Interest) (name : String) (visit : Visit) : Visit :=
  if interest.attributes.contains name then { visit with holder := some name }
  else { visit with holder := none, foreign := true }

/-- Leaves an attribute or a fragment. -/
def leave (visit before : Visit) : Visit :=
  { visit with holder := before.holder, foreign := before.foreign }

end Visit

/-- Where the string in the braces that a child is starts. -/
def stringStart? : Node → Option Nat
  | .mk .container _ [inner] => inner.literal?.map fun (_, span) => span.start
  | _ => none

/-- Where the strings start that are halves of sentences among children. -/
def halfStarts (children : List Node) : List Nat :=
  (splitChildren children).filterMap fun index => children[index]?.bind stringStart?

/-- Marks the strings that are halves of sentences among children. -/
def Visit.mark (children : List Node) (visit : Visit) : Visit :=
  { visit with halves := visit.halves ++ halfStarts children }

variable
    (interest : Interest)
    (source : List Char)

mutual

/-- Visits a node in which a string is a site of some kind, or none. -/
def visitNode (role : Option SiteKind) : Node → Visit → Visit
  | .mk (.element tag) _ (opening :: children), before =>
    let inside := visitNode none opening (before.enterElement interest tag)
    let inside :=
      if interest.skippedTags.contains tag then inside
      else visitEach none children (inside.mark children)
    inside.leaveElement interest tag before
  | .mk .fragment _ children, before =>
    (visitEach none children (before.enterFragment.mark children)).leave before
  | .mk (.attribute name) _ parts, before =>
    (visitEach (some .attributeValue) parts (before.enterAttribute interest name)).leave before
  | .mk .container _ parts, before => visitEach (some .bracedLiteral) parts before
  | .mk .parentheses _ parts, before => visitEach role parts before
  | .mk .conditional _ (condition :: branches), before =>
    visitEach (some .branch) branches (visitNode none condition before)
  | .mk (.property key) _ (name :: value :: rest), before =>
    let valueRole := if key == some "text" then some .textProperty else none
    visitEach none rest (visitNode valueRole value (visitNode none name before))
  | .mk .call _ (callee :: arguments), before =>
    if keepsText interest.lookup callee then before
    else visitEach none arguments (visitNode none callee before)
  | .mk form span parts, before =>
    visitEach none parts (before.record source role form span parts)
termination_by structural node => node

/-- Visits nodes one after another. -/
def visitEach (role : Option SiteKind) : List Node → Visit → Visit
  | [], before => before
  | node :: rest, before => visitEach role rest (visitNode role node before)
termination_by structural nodes => nodes

end

variable
    {interest : Interest}
    {source : List Char}
    {visit after : Visit}
    {role : Option SiteKind}

/-! ## What a visit leaves behind -/

/-- Whether a position lies in the span of a node. -/
def Encloses (node : Node) (position : Nat) : Prop :=
  node.span.start ≤ position ∧ position < node.span.stop

/-- A visit gives back what it was given, marks positions of some kind at most,
and adds some sites. -/
structure GivesBack (visit after : Visit) (marked : Nat → Prop) (sites : List Site) : Prop where
  /-- The elements around are the same again. -/
  tags : after.tags = visit.tags
  /-- The attribute around is the same again. -/
  holder : after.holder = visit.holder
  /-- Whether another attribute is around is the same again. -/
  foreign : after.foreign = visit.foreign
  /-- The count of components is the same again. -/
  richDepth : after.richDepth = visit.richDepth
  /-- Marks are kept, and new ones are of that kind. -/
  halves : ∃ marks, after.halves = visit.halves ++ marks ∧ ∀ mark ∈ marks, marked mark
  /-- The sites come behind those found before. -/
  sites : after.sites = visit.sites ++ sites

namespace GivesBack

variable
    {marked : Nat → Prop}
    {found : List Site}

/-- Nothing changes where nothing is visited. -/
theorem refl (visit : Visit) (marked : Nat → Prop) : GivesBack visit visit marked [] :=
  ⟨rfl, rfl, rfl, rfl, ⟨[], (List.append_nil _).symm, List.forall_mem_nil _⟩,
    (List.append_nil _).symm⟩

/-- What two visits in a row give back. -/
theorem trans
    {middle : Visit}
    {later : List Site}
    (first : GivesBack visit middle marked found)
    (second : GivesBack middle after marked later) :
    GivesBack visit after marked (found ++ later) := by
  obtain ⟨marks, areMarks, fit⟩ := first.halves
  obtain ⟨others, areOthers, alsoFit⟩ := second.halves
  refine ⟨second.tags.trans first.tags, second.holder.trans first.holder,
    second.foreign.trans first.foreign, second.richDepth.trans first.richDepth,
    ⟨marks ++ others, ?_, ?_⟩, ?_⟩
  · rw [areOthers, areMarks, List.append_assoc]
  · intro mark isMark
    exact (List.mem_append.mp isMark).elim (fit mark) (alsoFit mark)
  · rw [second.sites, first.sites, List.append_assoc]

/-- New marks are also of every weaker kind. -/
theorem mono
    {weaker : Nat → Prop}
    (givesBack : GivesBack visit after marked found)
    (implies : ∀ position, marked position → weaker position) :
    GivesBack visit after weaker found := by
  obtain ⟨marks, areMarks, fit⟩ := givesBack.halves
  exact
    { givesBack with
      halves := ⟨marks, areMarks, fun mark isMark => implies mark (fit mark isMark)⟩ }

/-- In a visit that was given back, nodes have the situation that they had. -/
theorem situation_eq
    (givesBack : GivesBack visit after marked found)
    (role : Option SiteKind)
    (split : Bool) :
    after.situation role split = visit.situation role split := by
  unfold Visit.situation
  rw [givesBack.tags, givesBack.holder, givesBack.foreign, givesBack.richDepth]

theorem of_found
    {known : List Site}
    (givesBack : GivesBack visit after marked found)
    (same : found = known) :
    GivesBack visit after marked known := by
  rw [← same]
  exact givesBack

/-- The way out of an element undoes the way in. -/
theorem leaveElement
    {tag : String}
    (givesBack : GivesBack (visit.enterElement interest tag) after marked found) :
    GivesBack visit (after.leaveElement interest tag visit) marked found := by
  refine ⟨?_, rfl, rfl, ?_, givesBack.halves, givesBack.sites⟩
  · exact congrArg List.tail givesBack.tags
  · rw [Visit.leaveElement, givesBack.richDepth]
    exact Nat.add_sub_cancel _ _

/-- On the way out of an attribute or a fragment, what was put aside comes back. -/
theorem leave
    {inside : Visit}
    (givesBack : GivesBack inside after marked found)
    (tags : inside.tags = visit.tags)
    (richDepth : inside.richDepth = visit.richDepth)
    (halves : inside.halves = visit.halves)
    (sites : inside.sites = visit.sites) :
    GivesBack visit (after.leave visit) marked found := by
  refine ⟨givesBack.tags.trans tags, rfl, rfl, givesBack.richDepth.trans richDepth, ?_, ?_⟩
  · rw [← halves]
    exact givesBack.halves
  · rw [← sites]
    exact givesBack.sites

end GivesBack

/-- Inside an element, a visitor knows the situation of its content. -/
theorem situation_enterElement
    (visit : Visit)
    (tag : String)
    (role : Option SiteKind)
    (split inner : Bool) :
    (visit.enterElement interest tag).situation none inner =
      { (visit.situation role split).inElement interest tag with split := inner } := by
  have counted : decide (0 < visit.richDepth + Visit.depthOf interest tag) =
      (decide (0 < visit.richDepth) || interest.richComponents.contains tag) := by
    unfold Visit.depthOf
    split
    · next isRich => rw [isRich, Bool.or_true, decide_eq_true (Nat.succ_pos _)]
    · next isPlain => rw [Bool.eq_false_iff.mpr isPlain, Bool.or_false, Nat.add_zero]
  exact congrArg (fun rich => Situation.mk (tag :: visit.tags) none false rich none inner) counted

end Site
end KeyedText
