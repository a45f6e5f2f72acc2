import KeyedText.Proofs.Keying.Relocation
import KeyedText.Proofs.Site.Order
import KeyedText.Settings.Basic
import Mathlib.Data.List.Induction

/-!
# Ledgers and histories

A ledger is made by entering records and review entries one after the other.
Everything that it holds can be told from the history of the records alone: the
counts, the records that are the first with their key, and one collision for
every pair of a key and a text other than the first with that key.
-/

namespace KeyedText
namespace Ledger

/-! ## First records of a history -/

section FirstsBy

variable [DecidableEq α]

/-- The records of a history of which something is told for the first time. -/
def firstsBy (tell : Record → α) (history : List Record) : List Record :=
  history.zipIdx.filterMap fun (record, index) =>
    if tell record ∈ (history.take index).map tell then none else some record

@[simp] theorem firstsBy_nil
    (tell : Record → α) :
    firstsBy tell [] = [] := rfl

/-- A further record is among the first if none before tells the same. -/
theorem firstsBy_concat
    (tell : Record → α)
    (history : List Record)
    (record : Record) :
    firstsBy tell (history ++ [record]) =
      firstsBy tell history ++ if tell record ∈ history.map tell then [] else [record] := by
  unfold firstsBy
  rw [List.zipIdx_append, List.filterMap_append]
  congr 1
  · apply List.filterMap_congr
    rintro ⟨earlier, index⟩ member
    have inHistory : index < history.length := List.snd_lt_of_mem_zipIdx member
    dsimp only
    rw [List.take_append_of_le_length (by omega)]
  · simp only [List.zipIdx_cons, List.zipIdx_nil, List.filterMap_cons, List.filterMap_nil,
      Nat.zero_add, List.take_left]
    split <;> split <;> simp_all

theorem mem_of_mem_firstsBy
    {tell : Record → α}
    {history : List Record}
    {record : Record}
    (member : record ∈ firstsBy tell history) :
    record ∈ history := by
  obtain ⟨⟨original, index⟩, inHistory, kept⟩ := List.mem_filterMap.mp member
  obtain ⟨-, same⟩ := Option.ite_none_left_eq_some.mp kept
  obtain rfl := Option.some.inj same
  exact List.fst_mem_of_mem_zipIdx inHistory

/-- Whatever is told in a history is told by one of its first records. -/
theorem mem_map_firstsBy
    {tell : Record → α}
    {history : List Record}
    {told : α}
    (member : told ∈ history.map tell) :
    told ∈ (firstsBy tell history).map tell := by
  induction history using List.reverseRecOn with
  | nil => exact member
  | append_singleton history last inductionHypothesis =>
      rw [firstsBy_concat, List.map_append, List.mem_append]
      rw [List.map_append, List.mem_append] at member
      by_cases earlier : told ∈ history.map tell
      · exact Or.inl (inductionHypothesis earlier)
      · right
        have isLast : told = tell last := by
          simpa [earlier] using member
        subst isLast
        simp [earlier]

end FirstsBy

/-! ## Entering -/

/-- What is entered into a ledger. -/
inductive Entry where
  /-- A converted site. -/
  | converted (record : Record)
  /-- A site that is left to a person. -/
  | left (entry : ReviewEntry)

/-- Enters something. -/
def enter (ledger : Ledger) : Entry → Ledger
  | .converted record => ledger.record record
  | .left entry => ledger.review entry

/-- The record of a site that is entered as converted. -/
def Entry.record? : Entry → Option Record
  | .converted record => some record
  | .left _ => none

/-- The review entry of a site that is left to a person. -/
def Entry.review? : Entry → Option ReviewEntry
  | .converted _ => none
  | .left entry => some entry

/-- The collision that a record of a history stands for: its text differs from the text that had
its key first. -/
def collisionIn? (history : List Record) (record : Record) : Option Collision :=
  (history.find? (·.key == record.key)).bind fun first =>
    if first.text = record.text then none
    else some ⟨record.key, first.text, record.text, record.line⟩

/-- What a ledger holds for a history of records and review entries. -/
structure Reflects (history : List Record) (reviews : List ReviewEntry) (ledger : Ledger) :
    Prop where
  counts : ∀ category, ledger.counts category = history.countP (·.kind.category == category)
  total : ledger.total = history.length
  records : ledger.records = history
  reviews : ledger.reviews = reviews
  unique : ledger.unique = firstsBy (·.key) history
  collisions :
    ledger.collisions =
      (firstsBy (fun record => (record.key, record.text)) history).filterMap (collisionIn? history)
  firsts : ∀ key, ledger.firstText? key = (history.find? (·.key == key)).map (·.text)

section Steps

variable
    {history : List Record}
    {reviews : List ReviewEntry}
    {ledger : Ledger}

/-- A record comes first if its key was not seen before. -/
theorem firstsFrom_concat
    (seen : List String)
    (history : List Record)
    (record : Record) :
    firstsFrom seen (history ++ [record]) =
      firstsFrom seen history ++
        if record.key ∈ seen ∨ record.key ∈ history.map (·.key) then [] else [record] := by
  induction history generalizing seen with
  | nil => by_cases isSeen : record.key ∈ seen <;> simp [firstsFrom, isSeen]
  | cons first rest inductionHypothesis =>
      rw [List.cons_append, firstsFrom, firstsFrom, List.map_cons]
      split
      · next isSeen =>
          have isSeen : first.key ∈ seen := List.contains_iff_mem.mp isSeen
          have noMore :
              record.key ∈ seen ∨ record.key ∈ first.key :: rest.map (·.key) ↔
                record.key ∈ seen ∨ record.key ∈ rest.map (·.key) := by
            grind
          rw [inductionHypothesis]
          simp only [noMore]
      · have moved :
            record.key ∈ seen ∨ record.key ∈ first.key :: rest.map (·.key) ↔
              record.key ∈ first.key :: seen ∨ record.key ∈ rest.map (·.key) := by
          grind
        rw [inductionHypothesis, List.cons_append]
        simp only [moved]

theorem firstsFrom_nil_eq
    (history : List Record) :
    firstsFrom [] history = firstsBy (·.key) history := by
  induction history using List.reverseRecOn with
  | nil => rfl
  | append_singleton history last inductionHypothesis =>
      rw [firstsFrom_concat, firstsBy_concat, inductionHypothesis]
      simp

/-! ### Collisions of a history -/

/-- What comes later in a history does not change which text had a key first. -/
theorem collisionIn?_concat
    {earlier : Record}
    (member : earlier ∈ history)
    (record : Record) :
    collisionIn? (history ++ [record]) earlier = collisionIn? history earlier := by
  have isFound : (history.find? (·.key == earlier.key)).isSome = true := by
    rw [List.find?_isSome]
    exact ⟨earlier, member, beq_self_eq_true _⟩
  obtain ⟨first, isFirst⟩ := Option.isSome_iff_exists.mp isFound
  simp only [collisionIn?, List.find?_append, isFirst, Option.some_or]

/-- The collision of a new record in a longer history is the one that the ledger finds. -/
theorem collisionIn?_self
    (reflects : Reflects history reviews ledger)
    (record : Record) :
    collisionIn? (history ++ [record]) record =
      match ledger.firstText? record.key with
      | none => none
      | some first =>
        if first = record.text then none
        else some ⟨record.key, first, record.text, record.line⟩ := by
  unfold collisionIn?
  rw [reflects.firsts, List.find?_append]
  cases history.find? (·.key == record.key) with
  | none => simp
  | some first => simp

/-- A record collides with the first one of its key if their texts differ. -/
theorem collisionIn?_eq_some_iff
    {record : Record}
    {collision : Collision} :
    collisionIn? history record = some collision ↔
      ∃ first, history.find? (·.key == record.key) = some first ∧ first.text ≠ record.text ∧
        collision = ⟨record.key, first.text, record.text, record.line⟩ := by
  unfold collisionIn?
  rw [Option.bind_eq_some_iff]
  constructor
  · rintro ⟨first, isFirst, made⟩
    obtain ⟨differs, made⟩ := Option.ite_none_left_eq_some.mp made
    exact ⟨first, isFirst, differs, (Option.some.inj made).symm⟩
  · rintro ⟨first, isFirst, differs, rfl⟩
    exact ⟨first, isFirst, if_neg differs⟩

/-- Behind the first text with a key, a pair of the key and another text is known exactly if it is
in the history. -/
theorem known_iff
    (reflects : Reflects history reviews ledger)
    {record : Record}
    {text : String}
    (isFirst : ledger.firstText? record.key = some text)
    (differs : text ≠ record.text) :
    (ledger.collisions.any fun collision =>
        collision.key == record.key && collision.other == record.text) = true ↔
      (record.key, record.text) ∈ history.map fun record => (record.key, record.text) := by
  rw [List.any_eq_true, reflects.collisions]
  constructor
  · rintro ⟨collision, member, same⟩
    obtain ⟨earlier, isEarlier, made⟩ := List.mem_filterMap.mp member
    obtain ⟨first, -, -, rfl⟩ := collisionIn?_eq_some_iff.mp made
    simp only [Bool.and_eq_true, beq_iff_eq] at same
    rw [← same.1, ← same.2]
    exact List.mem_map_of_mem (mem_of_mem_firstsBy isEarlier)
  · intro inHistory
    obtain ⟨earlier, isEarlier, same⟩ := List.mem_map.mp (mem_map_firstsBy inHistory)
    obtain ⟨sameKey, sameText⟩ := Prod.mk.inj same
    rw [reflects.firsts] at isFirst
    obtain ⟨first, isFound, rfl⟩ := Option.map_eq_some_iff.mp isFirst
    refine ⟨⟨record.key, first.text, record.text, earlier.line⟩, ?_, by simp⟩
    refine List.mem_filterMap.mpr ⟨earlier, isEarlier, ?_⟩
    rw [collisionIn?_eq_some_iff, sameKey, sameText]
    exact ⟨first, isFound, differs, rfl⟩

/-- The ledger finds the collision of a new record exactly if its pair of a key and a text is not in
the history. -/
theorem collision?_eq
    (reflects : Reflects history reviews ledger)
    (record : Record) :
    ledger.collision? record =
      if (record.key, record.text) ∈ history.map fun record => (record.key, record.text) then none
      else collisionIn? (history ++ [record]) record := by
  rw [collisionIn?_self reflects, collision?]
  cases isFirst : ledger.firstText? record.key with
  | none => simp
  | some text =>
      dsimp only
      by_cases same : text = record.text
      · simp [same]
      · simp only [← known_iff reflects isFirst same]
        simp [same]

/-! ### Steps -/

/-- Entering a record gives its key a first text only if the key has none. -/
theorem firstText?_record
    (ledger : Ledger)
    (record : Record)
    (key : String) :
    (ledger.record record).firstText? key =
      (ledger.firstText? key).or (if key = record.key then some record.text else none) := by
  cases isFirst : ledger.firstText? record.key with
  | some text =>
      have kept : (ledger.record record).firsts = ledger.firsts := by
        simp [Ledger.record, isFirst]
      have unchanged : (ledger.record record).firstText? key = ledger.firstText? key := by
        simp only [firstText?, kept]
      rw [unchanged]
      by_cases same : key = record.key
      · rw [same, isFirst, Option.some_or]
      · rw [if_neg same, Option.or_none]
  | none =>
      have longer : (ledger.record record).firsts =
          ledger.firsts ++ [(record.key, record.text)] := by
        simp [Ledger.record, isFirst]
      simp [firstText?, longer, List.lookup_append]

/-- What a ledger reflects grows with each record. -/
theorem Reflects.record
    (reflects : Reflects history reviews ledger)
    (record : Record) :
    Reflects (history ++ [record]) reviews (ledger.record record) where
  counts := by
    intro category
    rw [List.countP_append, ← reflects.counts category]
    simp [Ledger.record, List.countP_cons]
  total := by
    rw [Keying.total_record, reflects.total, List.length_append, List.length_singleton]
  records := by
    simp [Ledger.record, reflects.records]
  reviews := reflects.reviews
  unique := by
    simp [Ledger.unique, Ledger.record, reflects.records, firstsFrom_nil_eq]
  collisions := by
    have earlier :
        (firstsBy (fun record => (record.key, record.text)) history).filterMap
            (collisionIn? (history ++ [record])) =
          (firstsBy (fun record => (record.key, record.text)) history).filterMap
            (collisionIn? history) :=
      List.filterMap_congr fun first isFirst =>
        collisionIn?_concat (mem_of_mem_firstsBy isFirst) record
    rw [firstsBy_concat, List.filterMap_append, earlier, ← reflects.collisions]
    simp only [Ledger.record, collision?_eq reflects]
    congr 1
    split
    · rfl
    · cases made : collisionIn? (history ++ [record]) record <;> simp [made]
  firsts := by
    intro key
    rw [firstText?_record, reflects.firsts, List.find?_append]
    cases history.find? (·.key == key) with
    | some first => rfl
    | none =>
        by_cases same : key = record.key
        · simp [same]
        · simp [same, Ne.symm same]

/-- What a ledger reflects grows with each entry for review. -/
theorem Reflects.review
    (reflects : Reflects history reviews ledger)
    (entry : ReviewEntry) :
    Reflects history (reviews ++ [entry]) (ledger.review entry) :=
  { reflects with reviews := by simp [Ledger.review, reflects.reviews] }

end Steps

theorem reflects_empty : Reflects [] [] empty where
  counts _ := rfl
  total := rfl
  records := rfl
  reviews := rfl
  unique := rfl
  collisions := rfl
  firsts _ := rfl

/-- Whatever is entered, the ledger reflects it. -/
theorem reflects_foldl_enter
    (entries : List Entry) :
    Reflects (entries.filterMap Entry.record?) (entries.filterMap Entry.review?)
      (entries.foldl enter empty) := by
  induction entries using List.reverseRecOn with
  | nil => exact reflects_empty
  | append_singleton entries last inductionHypothesis =>
      rw [List.filterMap_append, List.filterMap_append, List.foldl_append, List.foldl_cons,
        List.foldl_nil]
      cases last with
      | converted record =>
          have further := inductionHypothesis.record record
          rwa [← List.append_nil (entries.filterMap Entry.review?)] at further
      | left entry =>
          have further := inductionHypothesis.review entry
          rwa [← List.append_nil (entries.filterMap Entry.record?)] at further

/-- There is no collision exactly if no key has two texts. -/
theorem Reflects.collisions_eq_nil_iff
    {history : List Record}
    {reviews : List ReviewEntry}
    {ledger : Ledger}
    (reflects : Reflects history reviews ledger) :
    ledger.collisions = [] ↔
      ∀ first ∈ history, ∀ second ∈ history, first.key = second.key → first.text = second.text := by
  rw [reflects.collisions, List.filterMap_eq_nil_iff]
  constructor
  · intro noCollision
    -- every record has the text of the first one with its key
    have textOfFirst : ∀ record ∈ history, ∀ first,
        history.find? (·.key == record.key) = some first → first.text = record.text := by
      intro record member first isFirst
      have told := mem_map_firstsBy (List.mem_map_of_mem (f := fun record : Record =>
        (record.key, record.text)) member)
      obtain ⟨same, isSame, equal⟩ := List.mem_map.mp told
      obtain ⟨sameKey, sameText⟩ := Prod.mk.inj equal
      by_contra differs
      have made : collisionIn? history same =
          some ⟨same.key, first.text, same.text, same.line⟩ := by
        rw [collisionIn?_eq_some_iff, sameKey, sameText]
        exact ⟨first, isFirst, differs, rfl⟩
      rw [noCollision same isSame] at made
      cases made
    intro first isFirst second isSecond sameKey
    have isFound : (history.find? (·.key == first.key)).isSome = true := by
      rw [List.find?_isSome]
      exact ⟨first, isFirst, beq_self_eq_true _⟩
    obtain ⟨leading, isLeading⟩ := Option.isSome_iff_exists.mp isFound
    have ofFirst := textOfFirst first isFirst leading isLeading
    rw [sameKey] at isLeading
    exact ofFirst.symm.trans (textOfFirst second isSecond leading isLeading)
  · intro oneText record isFirst
    cases made : collisionIn? history record with
    | none => rfl
    | some collision =>
        obtain ⟨first, isFound, differs, -⟩ := collisionIn?_eq_some_iff.mp made
        have sameKey : first.key = record.key := by
          simpa using List.find?_some isFound
        exact absurd
          (oneText first (List.mem_of_find?_eq_some isFound) record (mem_of_mem_firstsBy isFirst)
            sameKey) differs

/-! ## Conversions -/

open Keying

/-- What is entered for the fate of a site, if anything is. -/
def entered? (place : Key.Place) (fate : Site × Option Decision) : Option Entry :=
  ((conversion? fate).map fun conversion => .converted (conversion.record place)).or
    ((reviewOf? fate).map .left)

/-- A step enters in the ledger what becomes of its site. -/
theorem ledger_step
    (converter : Converter)
    (place : Key.Place)
    (progress : Progress)
    (site : Site) :
    (converter.step place progress site).ledger =
      (entered? place (site, converter.fate? place progress site)).elim progress.ledger
        progress.ledger.enter := by
  cases decided : converter.fate? place progress site with
  | none =>
      rw [step_of_fate?_eq_none decided]
      rfl
  | some decision =>
      rw [step_of_fate?_eq_some decided]
      cases decision <;> rfl

/-- A conversion enters what its course stands for, in order. -/
theorem ledger_foldl_step
    (converter : Converter)
    (place : Key.Place)
    (progress : Progress)
    (sites : List Site) :
    (sites.foldl (converter.step place) progress).ledger =
      ((converter.course place progress sites).filterMap (entered? place)).foldl enter
        progress.ledger := by
  induction sites generalizing progress with
  | nil => rfl
  | cons site rest inductionHypothesis =>
      rw [List.foldl_cons, inductionHypothesis, ledger_step, Converter.course, List.filterMap_cons]
      cases entered? place (site, converter.fate? place progress site) <;> rfl

/-- The records that are entered are those of the conversions. -/
theorem filterMap_record?_entered?
    (place : Key.Place)
    (course : List (Site × Option Decision)) :
    (course.filterMap (entered? place)).filterMap Entry.record? =
      (conversions course).map (·.record place) := by
  rw [conversions, List.filterMap_filterMap, List.map_filterMap]
  apply List.filterMap_congr
  rintro ⟨site, fate⟩ -
  cases fate with
  | none => rfl
  | some decision => cases decision <;> rfl

/-- The ledger of a conversion reflects the sites that were converted. -/
theorem reflects_convertProgram
    (converter : Converter)
    (path : String)
    (place : Key.Place)
    (source : List Char)
    (program : Source.Node) :
    ∃ reviews,
      Reflects
        ((converter.made place (Source.withoutMark source) program).map (·.record place))
        reviews (converter.convertProgram path place source program).ledger := by
  let sites := Site.collect converter.interest (Source.withoutMark source) program
  have reflects := reflects_foldl_enter
    ((converter.course place .start sites).filterMap (entered? place))
  rw [filterMap_record?_entered?] at reflects
  have entered := ledger_foldl_step converter place .start sites
  change _ = List.foldl enter empty _ at entered
  rw [← entered] at reflects
  exact ⟨_, reflects⟩

/-- A ledger reflects whatever is entered.  In particular there is no collision exactly if no two of
the calls that a conversion puts into a source text have one key and different texts. -/
theorem ledger_reflects :
    (∀ entries : List Entry,
      Reflects (entries.filterMap Entry.record?) (entries.filterMap Entry.review?)
        (entries.foldl enter empty)) ∧
      ∀ (converter : Converter) (path : String) (place : Key.Place) (source : List Char)
        (program : Source.Node),
        Source.readProgram (Source.withoutMark source) = .ok program →
        let made := converter.made place (Source.withoutMark source) program
        ∃ outcome,
          converter.convert path place source = .ok outcome ∧
            outcome.Makes converter place source made ∧
            (outcome.ledger.collisions = [] ↔
              ∀ first ∈ made, ∀ second ∈ made,
                place.key first.slug = place.key second.slug →
                  first.site.text = second.site.text) := by
  refine ⟨reflects_foldl_enter, ?_⟩
  intro converter path place source program read made
  refine ⟨converter.convertProgram path place source program, ?_, ?_, ?_⟩
  · rw [Converter.convert, read]
  · exact makes_convertProgram converter path place source program
  · obtain ⟨reviews, reflects⟩ := reflects_convertProgram converter path place source program
    rw [reflects.collisions_eq_nil_iff]
    simp only [List.forall_mem_map, Conversion.record, String.ofList_inj]
    rfl

/-- A source text in which two texts get one key. -/
def savingSource : List Char :=
  "const a = <p><b>Save the file</b><i>Save file</i></p>;".toList

/-- The second text with the key collides with the first. -/
theorem ledger_reflects_for_savingSource :
    ∃ program outcome,
      Source.readProgram (Source.withoutMark savingSource) = .ok program ∧
        (Settings.default.converter ⟨[], []⟩).convert "App.tsx" ⟨"features", "app"⟩ savingSource =
          .ok outcome ∧
          outcome.ledger.collisions ≠ [] := by
  let converter := Settings.default.converter ⟨[], []⟩
  let place : Key.Place := ⟨"features", "app"⟩
  obtain ⟨program, read, checked⟩ := Source.exists_ok_of_any
    (Source.readProgram (Source.withoutMark savingSource))
    (fun program =>
      let sites :=
        Site.sites converter.interest (Source.withoutMark savingSource) .outermost program
      decide (program.All (Source.Node.Placed (Source.withoutMark savingSource)))
        && decide ((conversions (converter.course place .start sites)).map
            (fun conversion => (conversion.slug, conversion.site.text)) =
          [("save_file", "Save the file".toList), ("save_file", "Save file".toList)]))
    (by decide +kernel)
  simp only [Bool.and_eq_true, decide_eq_true_eq] at checked
  obtain ⟨placed, converted⟩ := checked
  rw [← Site.collect_eq_sites placed] at converted
  obtain ⟨outcome, converts, -, noCollision_iff⟩ :=
    ledger_reflects.2 converter "App.tsx" place savingSource program read
  refine ⟨program, outcome, read, converts, ?_⟩
  rw [Ne, noCollision_iff]
  intro oneText
  obtain ⟨first, rest, isMade, ofFirst, ofRest⟩ := List.map_eq_cons_iff.mp converted
  obtain ⟨second, others, isRest, ofSecond, -⟩ := List.map_eq_cons_iff.mp ofRest
  obtain ⟨firstSlug, firstText⟩ := Prod.mk.inj ofFirst
  obtain ⟨secondSlug, secondText⟩ := Prod.mk.inj ofSecond
  have sameText := oneText first (by simp [Converter.made, isMade]) second
    (by simp [Converter.made, isMade, isRest]) (by rw [firstSlug, secondSlug])
  rw [firstText, secondText] at sameText
  exact absurd sameText (by decide)

end Ledger
end KeyedText
