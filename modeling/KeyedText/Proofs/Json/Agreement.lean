import KeyedText.Json.Shape
import KeyedText.Proofs.Json.Ignoring

/-!
# Texts are read as the values that they spell are viewed

Reading a text from front to back and viewing the value that the text spells are
two ways to the same result.  The agreement holds of each operation of a source,
so it holds of every description of a shape that is written over a source.
-/

namespace KeyedText
namespace Json

/-- Where a view of a value gives a result, reading any text of the value gives that result. -/
def Agrees (view : View α) (step : Step α) : Prop :=
  ∀ ⦃value : Json⦄ ⦃result : α⦄, view value = .ok result →
    ∀ ⦃text : List Char⦄, Spells value text →
      ∀ ⦃front rest : List Char⦄, Blanks front → EndsNumber rest →
        Reads step (front ++ (text ++ rest)) result rest

/-- A reader that looks at the first character of a value reads on from it. -/
theorem reads_startingWith
    {fits : Char → Bool}
    {wanted : String}
    {body : Step α}
    {front : List Char}
    (blanks : Blanks front)
    {character : Char}
    (isPart : Step.isBlank character = false)
    (isFit : fits character = true)
    {others rest : List Char}
    {result : α}
    (reads : Reads body (character :: others) result rest) :
    Reads (Step.startingWith fits wanted body) (front ++ character :: others) result rest := by
  refine reads_bind (reads_ahead_cons blanks isPart others) ?_
  dsimp only
  rw [if_pos isFit]
  exact reads_located reads

/-! ## Simple values -/

/-- Strings are read as they are viewed. -/
theorem agrees_text :
    Agrees View.text Step.text := by
  intro value result views text spells front rest blanks _
  cases value with
  | string name =>
      cases views
      cases spells with
      | string spells =>
          simp only [List.cons_append, List.append_assoc, List.nil_append]
          refine reads_startingWith blanks (by decide) (by decide) ?_
          exact reads_bind (reads_pass_one '"' _) (reads_stringRest spells rest)
  | null | bool | number | array | object => cases views

theorem agrees_flag :
    Agrees View.flag Step.flag := by
  intro value result views text spells front rest blanks _
  cases value with
  | bool flag =>
      cases views
      cases spells with
      | yes =>
          refine reads_startingWith blanks (by decide) (by decide) ?_
          refine reads_get_bind fun cursor isAhead => ?_
          rw [isAhead]
          exact reads_bind (reads_spell "true".toList rest) (reads_pure _ _)
      | no =>
          refine reads_startingWith blanks (by decide) (by decide) ?_
          refine reads_get_bind fun cursor isAhead => ?_
          rw [isAhead]
          exact reads_bind (reads_spell "false".toList rest) (reads_pure _ _)
  | null | string | number | array | object => cases views

theorem agrees_natural :
    Agrees View.natural Step.natural := by
  intro value result views text spells front rest blanks ends
  cases value with
  | number value =>
      cases value with
      | natural value =>
          cases views
          cases spells with
          | number spells =>
              obtain ⟨character, others, isText, starts⟩ := spells.isNumber.exists_start
              cases spells with
              | natural isKept =>
                  have reads := reads_accept (scanNumber_toDigits isKept ends)
                  rw [isText] at reads ⊢
                  refine reads_startingWith blanks (isBlank_of_startsNumber starts) starts ?_
                  exact reads_bind reads (reads_pure _ _)
      | negative | decimal => cases views
  | null | bool | string | array | object => cases views

/-! ## Choices -/

theorem reads_choiceName
    {choices : List String}
    {name : String}
    (isChoice : choices.contains name = true)
    {front spelling : List Char}
    (blanks : Blanks front)
    (spells : SpellsText name.toList spelling)
    (rest : List Char) :
    Reads (Step.choiceName choices) (front ++ '"' :: (spelling ++ '"' :: rest)) name rest := by
  refine reads_startingWith blanks (by decide) (by decide) ?_
  refine reads_bind (reads_pass_one '"' _) (reads_bind (reads_stringRest spells rest) ?_)
  rw [if_pos isChoice]
  exact reads_pure _ _

theorem reads_unit
    {front : List Char}
    (blanks : Blanks front)
    (rest : List Char) :
    Reads Step.unit (front ++ ("null".toList ++ rest)) () rest :=
  reads_startingWith blanks (by decide) (by decide) (reads_spell "null".toList rest)

/-- What is viewed as a choice is a word that is possible, given alone or as the key of null. -/
theorem of_choice_eq_ok
    {choices : List String}
    {value : Json}
    {name : String}
    (views : View.choice choices value = .ok name) :
    choices.contains name = true ∧ (value = .string name ∨ value = .object [(name, .null)]) := by
  unfold View.choice at views
  dsimp only at views
  split at views
  · next word =>
      split at views
      · next isChoice =>
          cases views
          exact ⟨isChoice, .inl rfl⟩
      · cases views
  · next word inner =>
      split at views
      · next isChoice =>
          cases inner with
          | null =>
              cases views
              exact ⟨isChoice, .inr rfl⟩
          | bool | number | string | array | object => cases views
      · cases views
  · cases views
  · cases views

/-- Choices are read as they are viewed. -/
theorem agrees_choice
    (choices : List String) :
    Agrees (View.choice choices) (Step.choice choices) := by
  intro value name views text spells front rest blanks _
  obtain ⟨isChoice, rfl | rfl⟩ := of_choice_eq_ok views
  · cases spells with
    | string spells =>
        simp only [List.cons_append, List.append_assoc, List.nil_append]
        refine reads_bind (reads_ahead_cons blanks (by decide) _) ?_
        exact reads_choiceName isChoice blanks_nil spells rest
  · cases spells with
    | object spells =>
        cases spells with
        | member separates spellsName blanksBefore blanksAfter spells later =>
            obtain ⟨blanksFront⟩ := separates
            cases spells
            cases later with
            | ends blanksBehind =>
                simp only [List.append_assoc, List.cons_append]
                refine reads_bind (reads_ahead_cons blanks (by decide) _) ?_
                refine reads_bind (reads_pass_one '\x7b' _) ?_
                refine reads_bind (reads_choiceName isChoice blanksFront spellsName _) ?_
                refine reads_bind (reads_colon blanksBefore _) ?_
                refine reads_bind (reads_unit blanksAfter _) ?_
                refine reads_bind (reads_ahead_cons blanksBehind (by decide) _) ?_
                exact reads_bind (reads_pass_one '\x7d' _) (reads_pure _ _)

/-! ## Sequences -/

theorem SpellsElements.length_le
    {isFirst : Bool}
    {elements : List Json}
    {text : List Char}
    (spells : SpellsElements isFirst elements text) :
    elements.length ≤ text.length := by
  induction elements generalizing isFirst text with
  | nil => exact Nat.zero_le _
  | cons element rest inductionHypothesis =>
      cases spells with
      | element separates spells later =>
          have fewOthers := inductionHypothesis later
          obtain ⟨others, -, -, -, -⟩ := spells.startsValue
          simp only [List.length_append, List.length_cons]
          omega

theorem SpellsMembers.length_le
    {isFirst : Bool}
    {members : List (String × Json)}
    {text : List Char}
    (spells : SpellsMembers isFirst members text) :
    members.length ≤ text.length := by
  induction members generalizing isFirst text with
  | nil => exact Nat.zero_le _
  | cons member rest inductionHypothesis =>
      cases spells with
      | member separates spellsKey blanksBefore blanksAfter spells later =>
          have fewOthers := inductionHypothesis later
          simp only [List.length_append, List.length_cons]
          omega

theorem of_bind_eq_ok
    {first : Except ε α}
    {next : α → Except ε β}
    {result : β}
    (isOk : first >>= next = .ok result) :
    ∃ between, first = .ok between ∧ next between = .ok result := by
  cases first with
  | ok between => exact ⟨between, rfl, isOk⟩
  | error fault => cases isOk

theorem reads_elementsFor
    {view : View α}
    {step : Step α}
    (agrees : Agrees view step)
    {elements : List Json}
    {isFirst : Bool}
    {text : List Char}
    (spells : SpellsElements isFirst elements text)
    {results : List α}
    (views : elements.mapM view = .ok results)
    {bound : Nat}
    (fits : elements.length < bound)
    (rest : List Char) :
    Reads (Step.elementsFor step bound isFirst) (text ++ ']' :: rest) results (']' :: rest) := by
  induction elements generalizing isFirst text results bound with
  | nil =>
      cases views
      cases spells with
      | ends blanks =>
          cases bound with
          | zero => cases fits
          | succ bound =>
              exact reads_bind (reads_hasElement_end isFirst blanks rest) (reads_pure _ _)
  | cons element others inductionHypothesis =>
      cases spells with
      | element separates spells later =>
          cases bound with
          | zero => cases fits
          | succ bound =>
              rw [List.mapM_cons] at views
              obtain ⟨first, isFirstOk, views⟩ := of_bind_eq_ok views
              obtain ⟨more, areMore, views⟩ := of_bind_eq_ok views
              cases views
              simp only [List.append_assoc]
              refine reads_bind (reads_hasElement separates (spells.startsValue.append _)) ?_
              have reads := agrees isFirstOk spells blanks_nil (later.endsNumber rest)
              refine reads_bind reads ?_
              have readsMore := inductionHypothesis later areMore (Nat.lt_of_succ_lt_succ fits)
              exact reads_bind readsMore (reads_pure _ _)

/-- Lists are read as they are viewed, element by element. -/
theorem agrees_list
    {view : View α}
    {step : Step α}
    (agrees : Agrees view step) :
    Agrees (View.list view) (Step.list step) := by
  intro value results views text spells front rest blanks _
  cases value with
  | array elements =>
      cases spells with
      | array spells =>
          have few := spells.length_le
          simp only [List.cons_append, List.append_assoc]
          refine reads_startingWith blanks (by decide) (by decide) ?_
          refine reads_bind (reads_pass_one '[' _) ?_
          refine reads_get_bind fun cursor isAhead => ?_
          refine reads_thenAlways (reads_elementsFor agrees spells views ?_ rest)
            (reads_endArray blanks_nil rest)
          rw [isAhead, List.length_append]
          omega
  | null | bool | number | string | object => cases views

/-! ## Records -/

/-- A field of a view and the field of a text that reads the same. -/
structure FieldAgrees (viewed : Field View σ) (read : Field Step σ) : Prop where
  name : viewed.name = read.name
  required : viewed.required = read.required
  agrees : ∀ state, Agrees (viewed.read state) (read.read state)

section Records

variable
    {viewed : List (Field View σ)}
    {read : List (Field Step σ)}

theorem missing?_eq
    (agree : List.Forall₂ FieldAgrees viewed read)
    (seen : List String) :
    Field.missing? viewed seen = Field.missing? read seen := by
  unfold Field.missing?
  induction agree with
  | nil => rfl
  | cons first _ inductionHypothesis =>
      rw [List.find?_cons, List.find?_cons, first.required, first.name]
      split
      · rw [Option.map_some, Option.map_some, first.name]
      · exact inductionHypothesis

/-- Fields that agree are found under the same names. -/
theorem find?_agrees
    (agree : List.Forall₂ FieldAgrees viewed read)
    (key : String) :
    Option.Rel FieldAgrees (viewed.find? (·.name == key)) (read.find? (·.name == key)) := by
  induction agree with
  | nil => exact .none
  | cons first _ inductionHypothesis =>
      rw [List.find?_cons, List.find?_cons, first.name]
      split
      · exact .some first
      · exact inductionHypothesis

variable
    (agree : List.Forall₂ FieldAgrees viewed read)
include agree

/-- Behind its key a member is read as it is viewed, or passed over if there is no such field. -/
theorem exists_reads_fieldNamed
    {key : String}
    {value : Json}
    {others : List (String × Json)}
    {seen : List String}
    {state result : σ}
    (views : View.fieldsByName viewed seen state ((key, value) :: others) = .ok result)
    {before after text rest : List Char}
    (blanksBefore : Blanks before)
    (blanksAfter : Blanks after)
    (spells : Spells value text)
    (ends : EndsNumber rest) :
    ∃ next : List String × σ,
      Reads (Step.fieldNamed read (seen, state) key) (before ++ ':' :: (after ++ (text ++ rest)))
          next rest ∧
        View.fieldsByName viewed next.1 next.2 others = .ok result := by
  have found := find?_agrees agree key
  unfold View.fieldsByName at views
  unfold Step.fieldNamed
  generalize viewed.find? (·.name == key) = viewed? at found views
  generalize read.find? (·.name == key) = read? at found
  cases found with
  | none =>
      refine ⟨(seen, state), ?_, views⟩
      refine reads_bind (reads_colon blanksBefore _) ?_
      exact reads_bind (Step.reads_ignore spells blanksAfter ends) (reads_pure _ _)
  | some field =>
      dsimp only at views ⊢
      split at views
      · cases views
      · next isNew =>
          obtain ⟨next, isNext, views⟩ := of_bind_eq_ok views
          refine ⟨(key :: seen, next), ?_, views⟩
          rw [if_neg isNew]
          refine reads_bind (reads_colon blanksBefore _) ?_
          exact reads_bind (field.agrees state isNext spells blanksAfter ends) (reads_pure _ _)

/-- Members are read by their names as they are viewed. -/
theorem exists_reads_membersFor
    {members : List (String × Json)}
    {isFirst : Bool}
    {text : List Char}
    (spells : SpellsMembers isFirst members text)
    {seen : List String}
    {state result : σ}
    (views : View.fieldsByName viewed seen state members = .ok result)
    {bound : Nat}
    (fits : members.length < bound)
    (rest : List Char) :
    ∃ all, Field.missing? read all = none ∧
      Reads (Step.membersFor (Step.fieldNamed read) bound isFirst (seen, state))
        (text ++ '\x7d' :: rest) (all, result) ('\x7d' :: rest) := by
  induction members generalizing isFirst text seen state bound with
  | nil =>
      cases spells with
      | ends blanks =>
          cases bound with
          | zero => cases fits
          | succ bound =>
              unfold View.fieldsByName at views
              split at views
              · cases views
              · next isNone =>
                  cases views
                  refine ⟨seen, (missing?_eq agree seen).symm.trans isNone, ?_⟩
                  exact reads_bind (reads_hasMember_end isFirst blanks rest) (reads_pure _ _)
  | cons member others inductionHypothesis =>
      cases spells with
      | member separates spellsKey blanksBefore blanksAfter spells later =>
          cases bound with
          | zero => cases fits
          | succ bound =>
              obtain ⟨next, readsMember, views⟩ := exists_reads_fieldNamed agree views blanksBefore
                blanksAfter spells (later.endsNumber rest)
              obtain ⟨all, isNone, readsOthers⟩ :=
                inductionHypothesis later views (Nat.lt_of_succ_lt_succ fits)
              refine ⟨all, isNone, ?_⟩
              simp only [List.append_assoc, List.cons_append]
              refine reads_bind (reads_hasMember separates _) ?_
              refine reads_bind (reads_pass_one '"' _) ?_
              refine reads_bind (reads_stringRest spellsKey _) ?_
              exact reads_bind readsMember readsOthers

/-- Fields are read in their order as they are viewed. -/
theorem exists_reads_fieldsInOrder
    (kind expectation : String)
    {count index : Nat}
    {elements : List Json}
    {isFirst : Bool}
    {text : List Char}
    (spells : SpellsElements isFirst elements text)
    {state result : σ}
    (views : View.fieldsInOrder kind count index state viewed elements = .ok result)
    (rest : List Char) :
    ∃ blank, Blanks blank ∧
      Reads (Step.fieldsInOrder expectation index isFirst state read) (text ++ ']' :: rest) result
        (blank ++ ']' :: rest) := by
  induction agree generalizing index elements isFirst text state with
  | nil =>
      cases elements with
      | nil =>
          cases spells with
          | ends blanks =>
              cases views
              exact ⟨text, blanks, reads_pure _ _⟩
      | cons element others => cases views
  | @cons viewedField readField _ _ first _ inductionHypothesis =>
      cases elements with
      | nil =>
          cases spells with
          | ends blanks =>
              unfold View.fieldsInOrder at views
              split at views
              · cases views
              · next notRequired =>
                  rw [first.required] at notRequired
                  obtain ⟨blank, areBlank, reads⟩ := inductionHypothesis (.ends blanks_nil) views
                  refine ⟨blank, areBlank, ?_⟩
                  refine reads_bind (reads_hasElement_end isFirst blanks rest) ?_
                  rw [if_neg Bool.false_ne_true, if_neg notRequired]
                  exact reads
      | cons element others =>
          cases spells with
          | element separates spells later =>
              unfold View.fieldsInOrder at views
              obtain ⟨next, isNext, views⟩ := of_bind_eq_ok views
              obtain ⟨blank, areBlank, reads⟩ := inductionHypothesis later views
              refine ⟨blank, areBlank, ?_⟩
              simp only [List.append_assoc]
              refine reads_bind (reads_hasElement separates (spells.startsValue.append _)) ?_
              rw [if_pos rfl]
              have readsFirst := first.agrees state isNext spells blanks_nil (later.endsNumber rest)
              exact reads_bind readsFirst reads

/-- Records are read as they are viewed, field by field. -/
theorem agrees_record
    (kind : String)
    (start : σ) :
    Agrees (View.record kind viewed start) (Step.record kind read start) := by
  intro value result views text spells front rest blanks _
  cases value with
  | array elements =>
      cases spells with
      | array spells =>
          obtain ⟨blank, areBlank, reads⟩ := exists_reads_fieldsInOrder agree kind
            (Field.expectation kind read.length) spells views rest
          simp only [List.cons_append, List.append_assoc]
          refine reads_startingWith blanks (by decide) (by decide) ?_
          refine reads_get_bind fun cursor isAhead => ?_
          rw [isAhead]
          refine reads_bind (reads_pass_one '[' _) ?_
          exact reads_thenAlways reads (reads_endArray areBlank rest)
  | object members =>
      cases spells with
      | object spells =>
          have few := spells.length_le
          simp only [List.cons_append, List.append_assoc]
          refine reads_startingWith blanks (by decide) (by decide) ?_
          refine reads_get_bind fun cursor isAhead => ?_
          rw [isAhead]
          refine reads_bind (reads_pass_one '\x7b' _) ?_
          refine reads_thenAlways (reads_get_bind fun cursor isAhead => ?_) (reads_endObject rest)
          have fits : members.length < cursor.rest.length + 1 := by
            rw [isAhead, List.length_append]
            omega
          obtain ⟨all, isNone, reads⟩ := exists_reads_membersFor agree spells views fits rest
          refine reads_bind reads ?_
          dsimp only
          rw [isNone]
          exact reads_pure _ _
  | null | bool | number | string => cases views

end Records

/-! ## Descriptions over a source -/

/-- What is made of a result is made the same way in both sources. -/
theorem agrees_map
    {view : View α}
    {step : Step α}
    (agrees : Agrees view step)
    (change : α → β) :
    Agrees (do return change (← view)) (do return change (← step)) := by
  intro value result views text spells front rest blanks ends
  obtain ⟨between, isViewed, isResult⟩ := of_bind_eq_ok views
  cases isResult
  exact reads_bind (agrees isViewed spells blanks ends) (reads_pure _ _)

/-- A text that spells a value with blanks around it is read as the value is viewed. -/
theorem run_eq_ok
    {view : View α}
    {step : Step α}
    (agrees : Agrees view step)
    {value : Json}
    {result : α}
    (views : view value = .ok result)
    {text : List Char}
    (spells : SpellsAlone value text) :
    step.run text = .ok result := by
  obtain ⟨front, inner, back, blanksFront, blanksBack, spells, rfl⟩ := spells
  have endsText : EndsNumber [] := nofun
  have standsText : Stands [] := nofun
  have ends := endsNumber_append blanksBack endsText
  have finishes := reads_ahead blanksBack standsText
  rw [List.append_nil] at ends finishes
  have reads : Reads (do let result ← step; Step.finish; return result) (front ++ (inner ++ back))
      result [] :=
    reads_bind (agrees views spells blanksFront ends)
      (reads_bind (reads_bind finishes (reads_pure () [])) (reads_pure result []))
  obtain ⟨reached, isRead⟩ := reads ⟨1, 0⟩
  unfold Step.run
  rw [isRead]

end Json
end KeyedText
