import KeyedText.Site.Kind

/-!
# Ledgers

The ledger of a file holds every conversion, every site that is left to a person, and every pair
of different texts that share a key.
-/

namespace KeyedText

/-- A converted site. -/
structure Record where
  /-- Where in the syntax the text stood. -/
  kind : SiteKind
  /-- The text. -/
  text : String
  /-- The slug of the key. -/
  slug : String
  /-- The full key. -/
  key : String
  /-- The line of the site. -/
  line : Nat
deriving DecidableEq, Repr

/-- A site that is left to a person. -/
structure ReviewEntry where
  /-- The line of the site. -/
  line : Nat
  /-- Why it is left. -/
  reason : ReviewReason
  /-- The text. -/
  text : String
deriving DecidableEq, Repr

/-- Two different texts with the same key. -/
structure Collision where
  /-- The key. -/
  key : String
  /-- The text that had the key first. -/
  first : String
  /-- The other text. -/
  other : String
  /-- The line of the other text. -/
  line : Nat
deriving DecidableEq, Repr

/-- What a run did to a file. -/
structure Ledger where
  /-- The number of conversions in each category. -/
  counts : Category → Nat
  /-- The conversions, in order. -/
  records : List Record
  /-- The sites that are left to a person, in order. -/
  reviews : List ReviewEntry
  /-- The texts that share a key with another one, in order. -/
  collisions : List Collision
  /-- The keys with the texts that had them first. -/
  firsts : List (String × String)

namespace Ledger

/-- The ledger of a run that has done nothing. -/
def empty : Ledger :=
  ⟨fun _ => 0, [], [], [], []⟩

/-- The text that had a key first. -/
def firstText? (ledger : Ledger) (key : String) : Option String :=
  ledger.firsts.lookup key

/-- The collision that a new record brings, if the ledger does not hold it yet. -/
def collision? (ledger : Ledger) (record : Record) : Option Collision :=
  match ledger.firstText? record.key with
  | none => none
  | some first =>
    let known := ledger.collisions.any fun collision =>
      collision.key == record.key && collision.other == record.text
    if first == record.text || known then none
    else some ⟨record.key, first, record.text, record.line⟩

/-- Enters a conversion. -/
def record (ledger : Ledger) (record : Record) : Ledger where
  counts category :=
    ledger.counts category + if record.kind.category == category then 1 else 0
  records := ledger.records ++ [record]
  reviews := ledger.reviews
  collisions := ledger.collisions ++ (ledger.collision? record).toList
  firsts :=
    if (ledger.firstText? record.key).isSome then ledger.firsts
    else ledger.firsts ++ [(record.key, record.text)]

/-- Enters a site that is left to a person. -/
def review (ledger : Ledger) (entry : ReviewEntry) : Ledger :=
  { ledger with reviews := ledger.reviews ++ [entry] }

/-- The number of conversions. -/
def total (ledger : Ledger) : Nat :=
  Category.all.foldl (fun sum category => sum + ledger.counts category) 0

/-- The records that are the first with their key, given the keys that came before. -/
def firstsFrom (seen : List String) : List Record → List Record
  | [] => []
  | record :: rest =>
    if seen.contains record.key then firstsFrom seen rest
    else record :: firstsFrom (record.key :: seen) rest

/-- The records that are the first with their key. -/
def unique (ledger : Ledger) : List Record :=
  firstsFrom [] ledger.records

/-- Whether anything was converted. -/
def hasChanges (ledger : Ledger) : Bool :=
  !ledger.records.isEmpty

end Ledger
end KeyedText
