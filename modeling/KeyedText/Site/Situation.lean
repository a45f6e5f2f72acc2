import KeyedText.Site.Kind
import KeyedText.Source.Node
import KeyedText.Text.Runs

/-!
# Situations

What surrounds a node decides whether its text is a site.  The situation of a node follows from
that of the node around it and from the part that it is there; some parts are never looked at.
-/

namespace KeyedText
namespace Site

open Source

/-- The names that decide where text for people is looked for. -/
structure Interest where
  /-- The attributes that hold such text. -/
  attributes : List String
  /-- The components that translate their content themselves. -/
  richComponents : List String
  /-- The elements whose content is not prose. -/
  skippedTags : List String
  /-- The name of the lookup function. -/
  lookup : String
deriving DecidableEq, Repr

/-- What surrounds a node. -/
structure Situation where
  /-- The elements around the node, innermost first. -/
  tags : List String
  /-- The translatable attribute around the node, elements in between aside. -/
  holder : Option String
  /-- Whether the node belongs to another attribute, elements in between aside. -/
  foreign : Bool
  /-- Whether a component that translates its content is around the node. -/
  rich : Bool
  /-- The kind of site that a string is here. -/
  role : Option SiteKind
  /-- Whether a string here is one half of a sentence around an element. -/
  split : Bool
deriving DecidableEq, Repr

/-- The situation of a whole program. -/
def Situation.outermost : Situation :=
  ⟨[], none, false, false, none, false⟩

/-- Whether no text is a site in a situation. -/
def Situation.suppressed (situation : Situation) : Bool :=
  situation.foreign || situation.rich

/-- A situation in which strings have no role. -/
def Situation.plain (situation : Situation) : Situation :=
  { situation with role := none, split := false }

/-- A situation in which a string is a site of a kind. -/
def Situation.offering (situation : Situation) (kind : SiteKind) : Situation :=
  { situation with role := some kind, split := false }

/-! ## Calls that keep their text -/

/-- Whether a node is the variable of a name. -/
def isVariable (name : String) (node : Node) : Bool :=
  match node.form with
  | .identifier found => found == name
  | _ => false

/-- Whether a call of a callee keeps its text: the lookup function, a member named like it, and
every member of the console. -/
def keepsText (lookup : String) (callee : Node) : Bool :=
  match callee.unwrapped with
  | .mk (.identifier name) _ _ => name == lookup
  | .mk (.member name) _ (owner :: _) => name == lookup || isVariable "console" owner.unwrapped
  | .mk .otherMember _ (owner :: _) => isVariable "console" owner.unwrapped
  | _ => false

/-! ## Sentences around elements -/

/-- Whether a node is braces around a string. -/
def isBracedLiteral (node : Node) : Bool :=
  match node with
  | .mk .container _ [inner] => inner.literal?.isSome
  | _ => false

/-- Whether a node is an element. -/
def isElement (node : Node) : Bool :=
  match node.form with
  | .element _ => true
  | _ => false

/-- Whether a child is blank text. -/
def isBlankText (node : Node) : Bool :=
  match node.form with
  | .elementText value => (Text.trimmed value.toList).isEmpty
  | _ => false

/-- The indices of the braced strings on either side of an element, among numbered children that
are not blank. -/
def splitAround : List (Node × Nat) → List Nat
  | before :: middle :: after :: rest =>
    let here :=
      if isBracedLiteral before.1 && isElement middle.1 && isBracedLiteral after.1 then
        [before.2, after.2]
      else []
    here ++ splitAround (middle :: after :: rest)
  | _ => []

/-- The indices of the children that are one half of a sentence around an element. -/
def splitChildren (children : List Node) : List Nat :=
  splitAround (children.zipIdx.filter fun (child, _) => !isBlankText child)

/-! ## Going down -/

/-- The situation of the content and attributes of an element. -/
def Situation.inElement (interest : Interest) (situation : Situation) (tag : String) :
    Situation :=
  { situation.plain with
    tags := tag :: situation.tags
    holder := none
    foreign := false
    rich := situation.rich || interest.richComponents.contains tag }

/-- The situation of a child, given by its index. -/
def Situation.ofChild (situation : Situation) (children : List Node) (index : Nat) : Situation :=
  { situation with split := (splitChildren children).contains index }

/-- The situation of the value of an attribute. -/
def Situation.inAttribute (interest : Interest) (situation : Situation) (name : String) :
    Situation :=
  if interest.attributes.contains name then
    { situation.offering .attributeValue with holder := some name }
  else { situation.offering .attributeValue with holder := none, foreign := true }

/-- The situation of a part of a node, given by its index; nothing if the part is never looked
at. -/
def Situation.descend (interest : Interest) (situation : Situation) (form : Form)
    (parts : List Node) (index : Nat) : Option Situation :=
  match form with
  | .element tag =>
    let inner := situation.inElement interest tag
    if index == 0 then some inner
    else if interest.skippedTags.contains tag then none
    else some (inner.ofChild parts.tail (index - 1))
  | .fragment =>
    some ({ situation.plain with holder := none, foreign := false }.ofChild parts index)
  | .attribute name => some (situation.inAttribute interest name)
  | .container => some { situation with role := some .bracedLiteral }
  | .parentheses => some situation
  | .conditional => some (if index == 0 then situation.plain else situation.offering .branch)
  | .property key =>
    some
      (if key == some "text" && index == 1 then situation.offering .textProperty
       else situation.plain)
  | .call =>
    if parts.head?.any (keepsText interest.lookup) then none else some situation.plain
  | _ => some situation.plain

end Site
end KeyedText
