import KeyedText.Proofs.Site.Visitor.Marks

/-!
# Visits of several nodes

If a visit of each of several nodes gives back what it found, so does a visit of
them one after another: nodes that stand in order do not overlap, so no visit
sets a mark in a node that comes later.
-/

namespace KeyedText
namespace Site

open Source

variable
    {interest : Interest}
    {source : List Char}
    {visit after : Visit}
    {role : Option SiteKind}

/-! ## Parts that are looked at -/

/-- Only the situations of the parts from an index on count. -/
theorem sitesFrom_congr
    {descend other : Nat → Option Situation}
    {first : Nat}
    (parts : List Node)
    (same : ∀ index, first ≤ index → index < first + parts.length →
      descend index = other index) :
    sitesFrom interest source descend first parts =
      sitesFrom interest source other first parts := by
  induction parts generalizing first with
  | nil => rfl
  | cons part rest inductionHypothesis =>
      rw [List.length_cons] at same
      have later : sitesFrom interest source descend (first + 1) rest =
          sitesFrom interest source other (first + 1) rest :=
        inductionHypothesis fun index starts stops => same index (by omega) (by omega)
      rw [sitesFrom, sitesFrom, same first (Nat.le_refl _) (by omega), later]

/-! ## Nodes one after another -/

/-- Whether a visit of a node gives back what it found, adding the sites of the
node, wherever marks agree with what is known of the node. -/
def Returns (interest : Interest) (source : List Char) (node : Node) : Prop :=
  ∀ (visit : Visit) (role : Option SiteKind) (split : Bool), Agrees visit.halves role node split →
    GivesBack visit (visitNode interest source role node visit) (Encloses node)
      (sites interest source (visit.situation role split) node)

section Visited

variable
    {part other : Node}
    {found : List Site}
    (givesBack : GivesBack visit after (Encloses part) found)
    (before : part.span.before other.span)

include givesBack before

/-- A visit of a node marks nothing in a node behind it. -/
theorem GivesBack.outside :
    ∃ marks, after.halves = visit.halves ++ marks ∧ ∀ mark ∈ marks, ¬Encloses other mark := by
  obtain ⟨marks, areMarks, inPart⟩ := givesBack.halves
  refine ⟨marks, areMarks, fun mark isMark covered => ?_⟩
  exact absurd (Nat.lt_of_lt_of_le (inPart mark isMark).2 before) (Nat.not_lt_of_le covered.1)

/-- So what is known of a node behind it stays right. -/
theorem GivesBack.agrees
    {split : Bool}
    (agrees : Agrees visit.halves role other split) :
    Agrees after.halves role other split := by
  obtain ⟨marks, areMarks, outside⟩ := givesBack.outside before
  rw [areMarks]
  exact agrees.mono outside

/-- A node behind it stays without marks. -/
theorem GivesBack.unmarked
    (unmarked : ∀ mark ∈ visit.halves, ¬Encloses other mark) :
    ∀ mark ∈ after.halves, ¬Encloses other mark := by
  obtain ⟨marks, areMarks, outside⟩ := givesBack.outside before
  rw [areMarks]
  intro mark isMark
  exact (List.mem_append.mp isMark).elim (unmarked mark) (outside mark)

end Visited

/-- Nodes in order are visited one after another, each as if it were the first. -/
theorem givesBack_visitEach
    (visit : Visit)
    (role : Option SiteKind)
    {parts : List Node}
    (returns : ∀ part ∈ parts, Returns interest source part)
    (inOrder : parts.Pairwise fun left right => left.span.before right.span)
    (split : Nat → Bool)
    (first : Nat)
    (agrees : ∀ index part, parts[index]? = some part →
      Agrees visit.halves role part (split (first + index))) :
    GivesBack visit (visitEach interest source role parts visit)
      (fun mark => ∃ part ∈ parts, Encloses part mark)
      (sitesFrom interest source (fun index => some (visit.situation role (split index))) first
        parts) := by
  induction parts generalizing visit first with
  | nil => exact .refl visit _
  | cons part rest inductionHypothesis =>
      obtain ⟨before, restInOrder⟩ := List.pairwise_cons.mp inOrder
      have here := returns part List.mem_cons_self visit role (split first) (agrees 0 part rfl)
      have restAgrees (index : Nat) (other : Node) (isOther : rest[index]? = some other) :
          Agrees (visitNode interest source role part visit).halves role other
            (split (first + 1 + index)) := by
        have known := agrees (index + 1) other isOther
        rw [← Nat.add_assoc, Nat.add_right_comm] at known
        exact here.agrees (before other (List.mem_of_getElem? isOther)) known
      have later := inductionHypothesis (visitNode interest source role part visit)
        (fun other isOther => returns other (List.mem_cons_of_mem _ isOther)) restInOrder
        (first + 1) restAgrees
      simp only [here.situation_eq] at later
      rw [visitEach, sitesFrom]
      exact (here.mono fun _ covered => ⟨part, List.mem_cons_self, covered⟩).trans
        (later.mono fun _ => List.exists_mem_cons_of_exists)

/-- A node is visited before others that have a role of their own. -/
theorem givesBack_first
    (role later : Option SiteKind)
    {first : Node}
    {others : List Node}
    (returns : ∀ part ∈ first :: others, Returns interest source part)
    (inOrder : (first :: others).Pairwise fun left right => left.span.before right.span)
    (unmarked : ∀ part ∈ first :: others, ∀ mark ∈ visit.halves, ¬Encloses part mark)
    (index : Nat) :
    GivesBack visit
      (visitEach interest source later others (visitNode interest source role first visit))
      (fun mark => ∃ part ∈ first :: others, Encloses part mark)
      (sites interest source (visit.situation role false) first ++
        sitesFrom interest source (fun _ => some (visit.situation later false)) index others) := by
  obtain ⟨before, restInOrder⟩ := List.pairwise_cons.mp inOrder
  have here := returns first List.mem_cons_self visit role false
    (.whole (unmarked first List.mem_cons_self))
  have rest := givesBack_visitEach (visitNode interest source role first visit) later
    (fun part isPart => returns part (List.mem_cons_of_mem _ isPart)) restInOrder (fun _ => false)
    index (fun place part atPlace => by
      have isPart := List.mem_of_getElem? atPlace
      exact .whole (here.unmarked (before part isPart)
        (unmarked part (List.mem_cons_of_mem _ isPart))))
  simp only [here.situation_eq] at rest
  exact (here.mono fun _ covered => ⟨first, List.mem_cons_self, covered⟩).trans
    (rest.mono fun _ => List.exists_mem_cons_of_exists)

/-- Children are visited with the halves of sentences among them marked. -/
theorem givesBack_children
    (visit : Visit)
    {children : List Node}
    (placed : ∀ child ∈ children, child.All (Node.Placed source))
    (returns : ∀ child ∈ children, Returns interest source child)
    (inOrder : children.Pairwise fun left right => left.span.before right.span)
    (unmarked : ∀ child ∈ children, ∀ mark ∈ visit.halves, ¬Encloses child mark)
    (descend : Nat → Option Situation)
    (first : Nat)
    (looked : ∀ index, descend (first + index) =
      some ((visit.situation none false).ofChild children index)) :
    GivesBack visit (visitEach interest source none children (visit.mark children))
      (fun mark => ∃ child ∈ children, Encloses child mark)
      (sitesFrom interest source descend first children) := by
  have marked := givesBack_mark placed visit
  have visited := givesBack_visitEach (visit.mark children) none returns inOrder
    (fun index => (splitChildren children).contains (index - first)) first (by
      intro index child isChild
      rw [Nat.add_sub_cancel_left]
      exact agrees_of_mark placed inOrder unmarked isChild)
  have same : sitesFrom interest source descend first children =
      sitesFrom interest source (fun index => some ((visit.mark children).situation none
        ((splitChildren children).contains (index - first)))) first children := by
    refine sitesFrom_congr children fun index later _ => ?_
    obtain ⟨offset, rfl⟩ := Nat.exists_eq_add_of_le later
    rw [looked, Nat.add_sub_cancel_left]
    rfl
  rw [same]
  exact marked.trans visited

end Site
end KeyedText
