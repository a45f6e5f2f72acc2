import KeyedText.Proofs.Site.Visitor.Nodes

/-!
# A visit of a program

A visit of a node of any form gives back what it found and adds the sites of the
node, by induction over the tree with one case for each form that changes what
the visitor knows.  So one visit of a program finds the sites that are
collected from it.
-/

namespace KeyedText
namespace Site

open Source

variable
    {interest : Interest}
    {source : List Char}
    {visit : Visit}
    {role : Option SiteKind}

/-! ## Parts of a node -/

section Forms

variable
    {form : Form}
    {span : Span}
    {parts : List Node}

/-- A position in a part is one in the node. -/
theorem encloses_of_part
    (placed : Node.Placed source (.mk form span parts))
    (mark : Nat)
    (inPart : ∃ part ∈ parts, Encloses part mark) :
    Encloses (.mk form span parts) mark := by
  obtain ⟨part, isPart, starts, stops⟩ := inPart
  obtain ⟨within, bounded⟩ := placed.within part isPart
  exact ⟨Nat.le_trans within starts, Nat.lt_of_lt_of_le stops bounded⟩

/-- Without marks in a node there are none in its parts. -/
theorem unmarked_of_part
    (placed : Node.Placed source (.mk form span parts))
    (unmarked : ∀ mark ∈ visit.halves, ¬Encloses (.mk form span parts) mark) :
    ∀ part ∈ parts, ∀ mark ∈ visit.halves, ¬Encloses part mark :=
  fun part isPart mark isMark covered =>
    unmarked mark isMark (encloses_of_part placed mark ⟨part, isPart, covered⟩)

/-- The parts of a node without marks have no halves among them. -/
theorem givesBack_unmarked_parts
    (visit : Visit)
    (role : Option SiteKind)
    (placed : Node.Placed source (.mk form span parts))
    (returns : ∀ part ∈ parts, Returns interest source part)
    (unmarked : ∀ mark ∈ visit.halves, ¬Encloses (.mk form span parts) mark) :
    GivesBack visit (visitEach interest source role parts visit) (Encloses (.mk form span parts))
      (sitesFrom interest source (fun _ => some (visit.situation role false)) 0 parts) :=
  (givesBack_visitEach visit role returns placed.inOrder (fun _ => false) 0 fun _ _ isPart =>
    .part placed.toLaid unmarked (List.mem_of_getElem? isPart)).mono (encloses_of_part placed)

/-- Braces and parentheses keep what is known of the string in them. -/
theorem givesBack_around
    (placed : Node.Placed source (.mk form span parts))
    (returns : ∀ part ∈ parts, Returns interest source part)
    {inner : Option SiteKind}
    {split : Bool}
    (isAround : form = .container ∨ form = .parentheses)
    (keeps : role = none ∨ role = some .bracedLiteral → inner = none ∨ inner = some .bracedLiteral)
    (agrees : Agrees visit.halves role (.mk form span parts) split) :
    GivesBack visit (visitEach interest source inner parts visit) (Encloses (.mk form span parts))
      (sitesFrom interest source (fun _ => some (visit.situation inner split)) 0 parts) := by
  cases agrees with
  | half marked ofBraces =>
      cases marked with
      | string _ => exact absurd isAround (by simp)
      | @inside _ _ only looks marked =>
          refine (givesBack_visitEach visit inner returns placed.inOrder (fun _ => true) 0 ?_).mono
            (encloses_of_part placed)
          intro index part isPart
          cases List.mem_singleton.mp (List.mem_of_getElem? isPart)
          exact .half marked (keeps ofBraces)
  | whole unmarked => exact givesBack_unmarked_parts visit inner placed returns unmarked

end Forms

/-! ## Nodes of each form -/

section Forms

variable
    {span : Span}
    {parts : List Node}

/-- The attribute around an element is put aside and comes back. -/
theorem returns_element
    {tag : String}
    {opening : Node}
    {children : List Node}
    (placed : Node.All (Node.Placed source) (.mk (.element tag) span (opening :: children)))
    (returns : ∀ part ∈ opening :: children, Returns interest source part) :
    Returns interest source (.mk (.element tag) span (opening :: children)) := by
  intro visit role split agrees
  obtain ⟨rfl, unmarked⟩ := agrees.unmarked nofun ⟨nofun, nofun⟩
  obtain ⟨openingBefore, inOrder⟩ := List.pairwise_cons.mp placed.here.inOrder
  have inNode := encloses_of_part placed.here
  have outside {part : Node} (isPart : part ∈ opening :: children) (mark : Nat)
      (isMark : mark ∈ visit.halves) : ¬Encloses part mark :=
    fun covered => unmarked mark isMark (inNode mark ⟨part, isPart, covered⟩)
  have opened := returns opening List.mem_cons_self (visit.enterElement interest tag) none false
    (.whole (outside List.mem_cons_self))
  rw [situation_enterElement visit tag role false false] at opened
  have openedInNode := opened.mono fun mark covered =>
    inNode mark ⟨opening, List.mem_cons_self, covered⟩
  rw [sites_mk, own?_eq_none rfl, Option.toList_none, List.nil_append, sitesFrom]
  change GivesBack visit
    (Visit.leaveElement interest tag
      (if interest.skippedTags.contains tag then
        visitNode interest source none opening (visit.enterElement interest tag)
      else
        visitEach interest source none children
          ((visitNode interest source none opening (visit.enterElement interest tag)).mark
            children))
      visit)
    _ _
  by_cases isSkipped : interest.skippedTags.contains tag = true
  · -- Only the opening tag is looked at.
    have unlooked : sitesFrom interest source ((visit.situation role false).descend interest
        (.element tag) (opening :: children)) (0 + 1) children = [] := by
      refine sitesFrom_eq_nil _ (fun offset => ?_) children
      have notOpening : (0 + 1 + offset == 0) = false := beq_eq_false_iff_ne.mpr (by omega)
      simp only [Situation.descend, notOpening, isSkipped, if_true, if_false, Bool.false_eq_true]
    simp only [isSkipped, if_true]
    refine openedInNode.leaveElement.of_found ?_
    rw [unlooked, List.append_nil]
    rfl
  · simp only [isSkipped, if_false, Bool.false_eq_true]
    have visited := givesBack_children
      (visitNode interest source none opening (visit.enterElement interest tag))
      (fun child isChild => placed.inside child (List.mem_cons_of_mem _ isChild))
      (fun child isChild => returns child (List.mem_cons_of_mem _ isChild)) inOrder
      (fun child isChild => opened.unmarked (openingBefore child isChild)
        (outside (List.mem_cons_of_mem _ isChild)))
      ((visit.situation role false).descend interest (.element tag) (opening :: children))
      (0 + 1)
      (by
        intro index
        have notOpening : (0 + 1 + index == 0) = false := beq_eq_false_iff_ne.mpr (by omega)
        have childIndex : 0 + 1 + index - 1 = index := by omega
        simp only [Situation.descend, notOpening, isSkipped, if_false, Bool.false_eq_true,
          childIndex, opened.situation_eq, situation_enterElement visit tag role false]
        rfl)
    have visitedInNode := visited.mono fun mark covered =>
      inNode mark (List.exists_mem_cons_of_exists covered)
    exact (openedInNode.trans visitedInNode).leaveElement

/-- A fragment puts the attribute around it aside as well. -/
theorem returns_fragment
    (placed : Node.All (Node.Placed source) (.mk .fragment span parts))
    (returns : ∀ part ∈ parts, Returns interest source part) :
    Returns interest source (.mk .fragment span parts) := by
  intro visit role split agrees
  obtain ⟨rfl, unmarked⟩ := agrees.unmarked nofun ⟨nofun, nofun⟩
  have inNode := encloses_of_part placed.here
  have visited := givesBack_children visit.enterFragment placed.inside returns
    placed.here.inOrder
    (fun child isChild mark isMark covered =>
      unmarked mark isMark (inNode mark ⟨child, isChild, covered⟩))
    ((visit.situation role false).descend interest .fragment parts) 0
    (by
      intro index
      rw [Nat.zero_add]
      rfl)
  rw [sites_mk, own?_eq_none rfl, Option.toList_none, List.nil_append]
  exact (visited.mono inNode).leave rfl rfl rfl rfl

/-- An attribute takes the place of the one around it. -/
theorem returns_attribute
    {name : String}
    (placed : Node.All (Node.Placed source) (.mk (.attribute name) span parts))
    (returns : ∀ part ∈ parts, Returns interest source part) :
    Returns interest source (.mk (.attribute name) span parts) := by
  intro visit role split agrees
  obtain ⟨rfl, unmarked⟩ := agrees.unmarked nofun ⟨nofun, nofun⟩
  rw [sites_mk, own?_eq_none rfl, Option.toList_none, List.nil_append]
  change GivesBack visit
    ((visitEach interest source (some .attributeValue) parts
      (visit.enterAttribute interest name)).leave visit) _ _
  by_cases isText : interest.attributes.contains name = true
  · have entered : visit.enterAttribute interest name = { visit with holder := some name } := by
      rw [Visit.enterAttribute, if_pos isText]
    have visited := givesBack_unmarked_parts { visit with holder := some name }
      (some .attributeValue) placed.here returns unmarked
    rw [entered]
    refine GivesBack.of_found (visited.leave rfl rfl rfl rfl) ?_
    refine sitesFrom_congr parts fun index _ _ => ?_
    simp only [Situation.descend, Situation.inAttribute, isText, if_true]
    rfl
  · have entered : visit.enterAttribute interest name =
        { visit with holder := none, foreign := true } := by
      rw [Visit.enterAttribute, if_neg isText]
    have visited := givesBack_unmarked_parts { visit with holder := none, foreign := true }
      (some .attributeValue) placed.here returns unmarked
    rw [entered]
    refine GivesBack.of_found (visited.leave rfl rfl rfl rfl) ?_
    refine sitesFrom_congr parts fun index _ _ => ?_
    simp only [Situation.descend, Situation.inAttribute, isText, if_false, Bool.false_eq_true]
    rfl

/-- What is known of braces is known of the string in them. -/
theorem returns_container
    (placed : Node.All (Node.Placed source) (.mk .container span parts))
    (returns : ∀ part ∈ parts, Returns interest source part) :
    Returns interest source (.mk .container span parts) := by
  intro visit role split agrees
  rw [sites_mk, own?_eq_none rfl, Option.toList_none, List.nil_append]
  exact givesBack_around placed.here returns (.inl rfl) (fun _ => .inr rfl) agrees

/-- Parentheses change nothing. -/
theorem returns_parentheses
    (placed : Node.All (Node.Placed source) (.mk .parentheses span parts))
    (returns : ∀ part ∈ parts, Returns interest source part) :
    Returns interest source (.mk .parentheses span parts) := by
  intro visit role split agrees
  rw [sites_mk, own?_eq_none rfl, Option.toList_none, List.nil_append]
  exact givesBack_around placed.here returns (.inr rfl) id agrees

/-- A condition is looked at before the two values. -/
theorem returns_conditional
    {condition : Node}
    {branches : List Node}
    (placed : Node.All (Node.Placed source) (.mk .conditional span (condition :: branches)))
    (returns : ∀ part ∈ condition :: branches, Returns interest source part) :
    Returns interest source (.mk .conditional span (condition :: branches)) := by
  intro visit role split agrees
  obtain ⟨rfl, unmarked⟩ := agrees.unmarked nofun ⟨nofun, nofun⟩
  have visited := givesBack_first none (some .branch) returns placed.here.inOrder
    (unmarked_of_part placed.here unmarked) 1
  rw [sites_mk, own?_eq_none rfl, Option.toList_none, List.nil_append]
  refine (visited.mono (encloses_of_part placed.here)).of_found ?_
  rw [sitesFrom]
  refine congrArg _ (sitesFrom_congr _ fun index behind _ => ?_)
  have notCondition : (index == 0) = false := beq_eq_false_iff_ne.mpr (by omega)
  simp only [Situation.descend, notCondition, Bool.false_eq_true, if_false]
  rfl

/-- The name of a property is looked at before its value. -/
theorem returns_property
    {key : Option String}
    {name value : Node}
    {rest : List Node}
    (placed : Node.All (Node.Placed source) (.mk (.property key) span (name :: value :: rest)))
    (returns : ∀ part ∈ name :: value :: rest, Returns interest source part) :
    Returns interest source (.mk (.property key) span (name :: value :: rest)) := by
  intro visit role split agrees
  obtain ⟨rfl, unmarked⟩ := agrees.unmarked nofun ⟨nofun, nofun⟩
  have outside := unmarked_of_part placed.here unmarked
  have inNode := encloses_of_part placed.here
  obtain ⟨before, inOrder⟩ := List.pairwise_cons.mp placed.here.inOrder
  have named := returns name List.mem_cons_self visit none false
    (.whole (outside name List.mem_cons_self))
  have valued := givesBack_first (if key == some "text" then some .textProperty else none) none
    (fun part isPart => returns part (List.mem_cons_of_mem _ isPart)) inOrder
    (fun part isPart => named.unmarked (before part isPart)
      (outside part (List.mem_cons_of_mem _ isPart))) 2
  simp only [named.situation_eq] at valued
  have namedInNode := named.mono fun mark covered =>
    inNode mark ⟨name, List.mem_cons_self, covered⟩
  have valuedInNode := valued.mono fun mark covered =>
    inNode mark (List.exists_mem_cons_of_exists covered)
  have visited := namedInNode.trans valuedInNode
  rw [sites_mk, own?_eq_none rfl, Option.toList_none, List.nil_append]
  refine visited.of_found ?_
  have others : sitesFrom interest source (fun _ => some (visit.situation none false)) 2 rest =
      sitesFrom interest source ((visit.situation role false).descend interest (.property key)
        (name :: value :: rest)) 2 rest := by
    refine sitesFrom_congr rest fun index behind _ => ?_
    have notValue : (index == 1) = false := beq_eq_false_iff_ne.mpr (by omega)
    simp only [Situation.descend, notValue, Bool.and_false, Bool.false_eq_true, if_false]
    rfl
  rw [sitesFrom, sitesFrom, others]
  by_cases isText : (key == some "text") = true
  · simp only [Situation.descend, isText, Bool.true_and, if_true]
    rfl
  · simp only [Situation.descend, isText, Bool.false_and, Bool.false_eq_true, if_false]
    rfl

/-- A call that keeps its text is not looked at. -/
theorem returns_call
    {callee : Node}
    {arguments : List Node}
    (placed : Node.All (Node.Placed source) (.mk .call span (callee :: arguments)))
    (returns : ∀ part ∈ callee :: arguments, Returns interest source part) :
    Returns interest source (.mk .call span (callee :: arguments)) := by
  intro visit role split agrees
  obtain ⟨rfl, unmarked⟩ := agrees.unmarked nofun ⟨nofun, nofun⟩
  rw [sites_mk, own?_eq_none rfl, Option.toList_none, List.nil_append]
  change GivesBack visit
    (if keepsText interest.lookup callee then visit
      else visitEach interest source none arguments (visitNode interest source none callee visit))
    _ _
  by_cases keeps : keepsText interest.lookup callee = true
  · rw [if_pos keeps]
    refine (GivesBack.refl visit _).of_found (sitesFrom_eq_nil 0 (fun offset => ?_) _).symm
    simp only [Situation.descend, List.head?_cons, Option.any_some, keeps, if_true]
  · have visited := givesBack_first none none returns placed.here.inOrder
      (unmarked_of_part placed.here unmarked) 1
    rw [if_neg keeps]
    refine (visited.mono (encloses_of_part placed.here)).of_found ?_
    change sitesFrom interest source (fun _ => some (visit.situation none false)) 0
      (callee :: arguments) = _
    refine sitesFrom_congr (callee :: arguments) fun index _ _ => ?_
    simp only [Situation.descend, List.head?_cons, Option.any_some, keeps, Bool.false_eq_true,
      if_false]
    rfl

/-- The site of a node itself depends on whether it is one half of a sentence
only if it is a string. -/
theorem own?_of_not_string
    {form : Form}
    (notString : ∀ value, form ≠ .string value)
    (visit : Visit)
    (split other : Bool) :
    own? source (visit.situation role split) form span parts =
      own? source (visit.situation role other) form span parts := by
  cases form with
  | string value => exact absurd rfl (notString value)
  | _ => rfl

/-- What a visitor knows of marks is what is known of a string. -/
theorem own?_string
    {value : Option String}
    (shows : span.start < span.stop)
    {split : Bool}
    (agrees : Agrees visit.halves role (.mk (.string value) span parts) split) :
    own? source
        (visit.situation role (role == some .bracedLiteral && visit.halves.contains span.start))
        (.string value) span parts =
      own? source (visit.situation role split) (.string value) span parts := by
  cases agrees with
  | half marked ofBraces =>
      cases marked with
      | inside looks _ => exact absurd looks (by simp)
      | string isMarked =>
          rcases ofBraces with rfl | rfl
          · cases value <;> rfl
          · rw [List.contains_iff_mem.mpr isMarked]
            rfl
  | whole unmarked =>
      have notMarked : visit.halves.contains span.start = false :=
        Bool.eq_false_iff.mpr fun isMarked =>
          unmarked span.start (List.contains_iff_mem.mp isMarked) ⟨Nat.le_refl _, shows⟩
      rw [notMarked, Bool.and_false]

/-- Whether a node has no parts if it is a string. -/
def StringIsLeaf (node : Node) : Prop :=
  ∀ value, node.form = .string value → node.parts = []

/-- The parts of any other node are visited behind the site of the node itself. -/
theorem returns_other
    {form : Form}
    (visits : ∀ role visit, visitNode interest source role (.mk form span parts) visit =
      visitEach interest source none parts (visit.record source role form span parts))
    (descends : ∀ (situation : Situation) index, index < parts.length →
      situation.descend interest form parts index = some situation.plain)
    (notAround : form ≠ .container ∧ form ≠ .parentheses)
    (placed : Node.All (Node.Placed source) (.mk form span parts))
    (leaf : StringIsLeaf (.mk form span parts))
    (returns : ∀ part ∈ parts, Returns interest source part) :
    Returns interest source (.mk form span parts) := by
  intro visit role split agrees
  have looked : sitesFrom interest source
      ((visit.situation role split).descend interest form parts) 0 parts =
        sitesFrom interest source (fun _ => some (visit.situation none false)) 0 parts :=
    sitesFrom_congr parts fun index _ inBounds => descends _ index (by omega)
  rw [sites_mk, visits, looked]
  by_cases isString : ∃ value, form = .string value
  · obtain ⟨value, rfl⟩ := isString
    have shows : span.start < span.stop := of_decide_eq_true placed.here.shows
    cases leaf value rfl
    rw [← own?_string shows agrees]
    exact ⟨rfl, rfl, rfl, rfl, ⟨[], (List.append_nil _).symm, List.forall_mem_nil _⟩,
      congrArg (visit.sites ++ ·) (List.append_nil _).symm⟩
  · have notString (value : Option String) : form ≠ .string value :=
      fun same => isString ⟨value, same⟩
    obtain ⟨rfl, unmarked⟩ := agrees.unmarked notString notAround
    have visited := givesBack_unmarked_parts (visit.record source role form span parts) none
      placed.here returns unmarked
    rw [own?_of_not_string notString visit false
      (role == some .bracedLiteral && visit.halves.contains span.start)]
    exact ⟨visited.tags, visited.holder, visited.foreign, visited.richDepth, visited.halves,
      visited.sites.trans (List.append_assoc _ _ _)⟩

end Forms

/-! ## Programs -/

/-- A visit of a node gives back what it found, but for marks inside the node,
and adds the sites of the node to those found before. -/
theorem returns_of_placed
    {node : Node}
    (placed : node.All (Node.Placed source))
    (leaf : node.All StringIsLeaf) :
    Returns interest source node := by
  induction node using Node.induction with
  | step form span parts inductionHypothesis =>
      have returns (part : Node) (isPart : part ∈ parts) : Returns interest source part :=
        inductionHypothesis part isPart (placed.inside part isPart) (leaf.inside part isPart)
      cases form with
      | element tag =>
          cases parts with
          | nil =>
              exact returns_other (fun _ _ => rfl) nofun ⟨nofun, nofun⟩ placed leaf.here returns
          | cons opening children => exact returns_element placed returns
      | fragment => exact returns_fragment placed returns
      | «attribute» name => exact returns_attribute placed returns
      | container => exact returns_container placed returns
      | parentheses => exact returns_parentheses placed returns
      | conditional =>
          cases parts with
          | nil =>
              exact returns_other (fun _ _ => rfl) nofun ⟨nofun, nofun⟩ placed leaf.here returns
          | cons condition branches => exact returns_conditional placed returns
      | property key =>
          match parts with
          | [] =>
              exact returns_other (fun _ _ => rfl) nofun ⟨nofun, nofun⟩ placed leaf.here returns
          | [name] =>
              refine returns_other (fun _ _ => rfl) (fun situation index inBounds => ?_)
                ⟨nofun, nofun⟩ placed leaf.here returns
              cases Nat.lt_one_iff.mp inBounds
              simp [Situation.descend]
          | name :: value :: rest => exact returns_property placed returns
      | call =>
          cases parts with
          | nil =>
              exact returns_other (fun _ _ => rfl) nofun ⟨nofun, nofun⟩ placed leaf.here returns
          | cons callee arguments => exact returns_call placed returns
      | _ =>
          exact returns_other (fun _ _ => rfl) (fun _ _ _ => rfl) ⟨nofun, nofun⟩ placed leaf.here
            returns

/-- One visit of a program finds its sites, in the order of the nodes, and ends
where it started, but for marks that are left over. -/
theorem givesBack_program
    {program : Node}
    (placed : program.All (Node.Placed source))
    (leaf : program.All StringIsLeaf) :
    GivesBack .outermost (visitNode interest source none program .outermost) (Encloses program)
      (sites interest source .outermost program) :=
  returns_of_placed placed leaf .outermost none false (.whole nofun)

/-- The sites of a program are those that a visitor finds. -/
theorem collect_eq_visit
    {program : Node}
    (placed : program.All (Node.Placed source))
    (leaf : program.All StringIsLeaf) :
    collect interest source program =
      (visitNode interest source none program .outermost).sites.mergeSort precedes := by
  rw [(givesBack_program placed leaf).sites]
  rfl

end Site
end KeyedText
