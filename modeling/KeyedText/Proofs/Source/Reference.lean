import KeyedText.Proofs.Source.Tree
import KeyedText.Source.Scan

/-!
# Resolved character references

A text between tags spells a value: a reference stands for the characters that it names, and every
other character for itself.  A reference starts with an ampersand, so layout alone spells nothing
but itself.  The value that resolving a text gives is one that it spells.
-/

namespace KeyedText
namespace Source

/-- Whether a value is what a text spells: each character stays, or it starts a reference, which
has any characters in its place. -/
inductive Resolves : List Char → List Char → Prop
  /-- Nothing spells nothing. -/
  | nil : Resolves [] []
  /-- A character stays. -/
  | kept (character : Char) {text value : List Char} (resolves : Resolves text value) :
      Resolves (character :: text) (character :: value)
  /-- A reference names characters. -/
  | reference (body named : List Char) {text value : List Char} (resolves : Resolves text value) :
      Resolves ('&' :: (body ++ ';' :: text)) (named ++ value)

/-- A text without ampersands has no references. -/
theorem Resolves.eq_of_notMem
    {text value : List Char}
    (resolves : Resolves text value)
    (plain : '&' ∉ text) :
    value = text := by
  induction resolves with
  | nil => rfl
  | kept character _ inductionHypothesis =>
      rw [inductionHypothesis fun inRest => plain (List.mem_cons_of_mem _ inRest)]
  | reference body named _ _ => exact absurd List.mem_cons_self plain

/-- What layout alone spells is that layout. -/
theorem Resolves.isLayout
    {text value : List Char}
    (resolves : Resolves text value)
    (layout : ∀ character ∈ text, Character.isLayout character = true) :
    ∀ character ∈ value, Character.isLayout character = true := by
  have plain : '&' ∉ text := fun inText => absurd (layout '&' inText) (by decide)
  rwa [resolves.eq_of_notMem plain]

/-! ## References that are read -/

/-- A reference that is read ends with a semicolon. -/
theorem exists_body_of_reference?
    {text : List Char}
    {named : Char}
    {length : Nat}
    (isRead : reference? text = some (named, length)) :
    ∃ body, text = body ++ ';' :: text.drop length := by
  unfold reference? at isRead
  extract_lets body at isRead
  have isFront : body <+: text := (List.takeWhile_prefix _).trans (List.take_prefix _ _)
  split at isRead
  · next checked =>
      rw [Bool.and_eq_true, beq_iff_eq] at checked
      obtain ⟨character, -, isPair⟩ := Option.map_eq_some_iff.mp isRead
      obtain ⟨rfl, rfl⟩ := Prod.mk.inj isPair
      refine ⟨body, ?_⟩
      calc
        text = text.take body.length ++ text.drop body.length := (List.take_append_drop _ _).symm
        _ = body ++ ';' :: text.drop (body.length + 1) := by
          rw [← List.prefix_iff_eq_take.mp isFront, List.drop_eq_getElem?_toList_append, checked.2]
          rfl
  · cases isRead

/-- Resolving a text gives what it spells; the characters of a reference that are still ahead are
passed over. -/
theorem resolves_resolveFrom
    (skip : Nat)
    (text : List Char) :
    Resolves (text.drop skip) (resolveFrom skip text) := by
  induction text generalizing skip with
  | nil =>
      rw [List.drop_nil]
      exact .nil
  | cons character rest inductionHypothesis =>
      cases skip with
      | succ skip => exact inductionHypothesis skip
      | zero =>
          rw [List.drop_zero, resolveFrom]
          split
          · next isAmpersand =>
              rw [beq_iff_eq.mp isAmpersand]
              split
              · next named length isRead =>
                  obtain ⟨body, cut⟩ := exists_body_of_reference? isRead
                  have resolves := Resolves.reference body [named] (inductionHypothesis length)
                  rwa [← cut] at resolves
              · exact .kept '&' (inductionHypothesis 0)
          · exact .kept character (inductionHypothesis 0)

theorem resolves_resolveReferences
    (text : List Char) :
    Resolves text (resolveReferences text) :=
  resolves_resolveFrom 0 text

/-! ## Nodes -/

/-- Whether a node has the value that its source spells, if it is text between tags. -/
def Node.Resolved (source : List Char) (node : Node) : Prop :=
  ∀ value, node.form = .elementText value → Resolves (node.span.slice source) value.toList

/-- Whether a node has the value that resolving its source gives, if it is text between tags. -/
def Node.isResolved (source : List Char) (node : Node) : Bool :=
  match node.form with
  | .elementText value => value.toList == resolveReferences (node.span.slice source)
  | _ => true

theorem Node.resolved_of_isResolved
    {source : List Char}
    {node : Node}
    (isResolved : node.isResolved source = true) :
    node.Resolved source := by
  intro value isText
  rw [Node.isResolved, isText] at isResolved
  rw [beq_iff_eq.mp isResolved]
  exact resolves_resolveReferences _

end Source
end KeyedText
