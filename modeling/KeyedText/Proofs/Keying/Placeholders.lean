import KeyedText.Proofs.Keying.Idempotence
import KeyedText.Proofs.Site.Admission
import KeyedText.Proofs.Site.Naming
import KeyedText.Proofs.Site.Order
import KeyedText.Proofs.Source.Reading
import Mathlib.Algebra.Order.BigOperators.Group.List
import Mathlib.Algebra.Order.Group.Nat
import Mathlib.Data.List.Find
import Mathlib.Data.List.Infix

/-!
# Placeholders in the text of a template

The text of a template holds its chunks with names in double braces between them.  When
the names are replaced by values, the chunks come back with the values between them,
unless a chunk holds such a name itself.  No name holds a brace, so what a chunk ends with
and what stands behind it never form a placeholder together.
-/

namespace KeyedText
namespace Keying

open Source Reader

/-! ## Replacing names -/

/-- The first binding of a name that stands in double braces at the start of a text. -/
def boundAt? (bindings : List (String × List Char)) (text : List Char) :
    Option (String × List Char) :=
  bindings.find? fun binding => (Site.placeholder binding.1).isPrefixOf text

/-- A text with the names in double braces replaced by what they are bound to, from left to right.
The first characters, as many as `skip`, belong to a name that is already replaced. -/
def filledFrom (bindings : List (String × List Char)) (skip : Nat) : List Char → List Char
  | [] => []
  | character :: rest =>
    match skip with
    | skip + 1 => filledFrom bindings skip rest
    | 0 =>
      match boundAt? bindings (character :: rest) with
      | some (name, value) =>
        value ++ filledFrom bindings ((Site.placeholder name).length - 1) rest
      | none => character :: filledFrom bindings 0 rest

/-- A text with the names in double braces replaced by what they are bound to. -/
def filled (bindings : List (String × List Char)) (text : List Char) : List Char :=
  filledFrom bindings 0 text

/-- Chunks with values between them. -/
def woven : List (List Char) → List (List Char) → List Char
  | [], _ => []
  | chunk :: chunks, [] => chunk ++ woven chunks []
  | chunk :: chunks, value :: values => chunk ++ value ++ woven chunks values

/-! ## Placeholders -/

theorem placeholder_eq (name : String) :
    Site.placeholder name = '\x7b' :: '\x7b' :: (name.toList ++ ['\x7d', '\x7d']) := by
  rfl

theorem length_placeholder (name : String) :
    (Site.placeholder name).length = name.toList.length + 4 := by
  simp [placeholder_eq]

section Braces

variable
    {name other : String}
    (named : spellsName name.toList = true)

include named

/-- Only one name stands in double braces at the start of a text. -/
theorem eq_of_placeholder_prefix
    (otherNamed : spellsName other.toList = true)
    {behind : List Char}
    (starts : Site.placeholder other <+: Site.placeholder name ++ behind) :
    other = name := by
  obtain ⟨rest, same⟩ := starts
  simp only [placeholder_eq, List.cons_append, List.append_assoc, List.nil_append, List.cons.injEq,
    true_and] at same
  have upToBrace {letters : List Char} (notIn : '\x7d' ∉ letters) (further : List Char) :
      (letters ++ '\x7d' :: further).takeWhile (· != '\x7d') = letters := by
    have noBrace : ∀ letter ∈ letters, (letter != '\x7d') = true :=
      fun letter isLetter => bne_iff_ne.mpr (ne_of_mem_of_not_mem isLetter notIn)
    rw [List.takeWhile_append_of_pos noBrace]
    exact List.append_nil letters
  have letters := congrArg (List.takeWhile (· != '\x7d')) same
  rw [upToBrace (notMem_of_spellsName otherNamed (by decide)),
    upToBrace (notMem_of_spellsName named (by decide))] at letters
  exact String.toList_inj.mp letters

/-- A name in double braces that starts in front of double braces also ends in front of them. -/
theorem placeholder_prefix_append_iff
    {piece : List Char}
    (nonempty : piece ≠ [])
    (behind : List Char) :
    Site.placeholder name <+: piece ++ Site.placeholder other ++ behind ↔
      Site.placeholder name <+: piece := by
  rw [List.append_assoc]
  refine ⟨fun starts => ?_, fun starts => starts.trans (List.prefix_append _ _)⟩
  rcases Nat.le_total (Site.placeholder name).length piece.length with shorter | longer
  · exact List.prefix_of_prefix_length_le starts (List.prefix_append _ _) shorter
  · have isFront := List.prefix_of_prefix_length_le (List.prefix_append _ _) starts longer
    obtain ⟨reach, split⟩ := isFront
    rw [← split] at starts ⊢
    have ofReach := (List.prefix_append_right_inj piece).mp starts
    have notInName : '\x7b' ∉ name.toList := notMem_of_spellsName named (by decide)
    cases reach with
    | nil => exact (List.append_nil piece).symm ▸ List.prefix_rfl
    | cons first rest =>
        -- What reaches on starts with a brace, and a name is left with none that opens.
        obtain ⟨isBrace, ofRest⟩ := List.cons_prefix_cons.mp ofReach
        subst isBrace
        rw [placeholder_eq] at split
        rcases piece with _ | ⟨opening, _ | ⟨second, others⟩⟩
        · exact absurd rfl nonempty
        · simp only [List.cons_append, List.nil_append, List.cons.injEq, true_and] at split
          obtain ⟨-, rfl⟩ := split
          exfalso
          cases letters : name.toList with
          | nil =>
              rw [letters] at ofRest
              exact absurd (List.cons_prefix_cons.mp ofRest).1 (by decide)
          | cons letter others =>
              rw [letters] at ofRest notInName
              have isOpening := (List.cons_prefix_cons.mp ofRest).1
              exact notInName (isOpening ▸ List.mem_cons_self)
        · simp only [List.cons_append, List.cons.injEq] at split
          obtain ⟨-, -, split⟩ := split
          have isIn : '\x7b' ∈ name.toList ++ ['\x7d', '\x7d'] := by
            rw [← split]
            exact List.mem_append_right _ List.mem_cons_self
          rcases List.mem_append.mp isIn with inName | closes
          · exact absurd inName notInName
          · exact absurd closes (by decide)

end Braces

/-! ## Filling piece by piece -/

/-- Whether all names that are bound are spelled like names. -/
def Named (bindings : List (String × List Char)) : Prop :=
  ∀ binding ∈ bindings, spellsName binding.1.toList = true

theorem filledFrom_length_append
    (bindings : List (String × List Char))
    (front back : List Char) :
    filledFrom bindings front.length (front ++ back) = filled bindings back := by
  induction front with
  | nil => rfl
  | cons character rest inductionHypothesis => exact inductionHypothesis

theorem placeholder_prefix_of_boundAt?
    {bindings : List (String × List Char)}
    {text : List Char}
    {binding : String × List Char}
    (bound : boundAt? bindings text = some binding) :
    binding ∈ bindings ∧ Site.placeholder binding.1 <+: text := by
  unfold boundAt? at bound
  have starts := List.find?_some bound
  exact ⟨List.mem_of_find?_eq_some bound, List.isPrefixOf_iff_prefix.mp starts⟩

theorem boundAt?_eq_none_iff
    {bindings : List (String × List Char)}
    {text : List Char} :
    boundAt? bindings text = none ↔ ∀ binding ∈ bindings, ¬Site.placeholder binding.1 <+: text := by
  simp only [boundAt?, List.find?_eq_none, List.isPrefixOf_iff_prefix]

section Bindings

variable
    {bindings : List (String × List Char)}
    (named : Named bindings)

include named

/-- At a name that is bound, a filled text holds its value. -/
theorem filled_placeholder_append
    (distinct : (bindings.map Prod.fst).Nodup)
    {name : String}
    {value : List Char}
    (isBound : (name, value) ∈ bindings)
    (behind : List Char) :
    filled bindings (Site.placeholder name ++ behind) = value ++ filled bindings behind := by
  have found : boundAt? bindings (Site.placeholder name ++ behind) = some (name, value) := by
    cases bound : boundAt? bindings (Site.placeholder name ++ behind) with
    | none =>
        have notHere := boundAt?_eq_none_iff.mp bound _ isBound
        exact absurd (List.prefix_append (Site.placeholder name) behind) notHere
    | some binding =>
        obtain ⟨isOther, starts⟩ := placeholder_prefix_of_boundAt? bound
        have same := eq_of_placeholder_prefix (named _ isBound) (named _ isOther) starts
        rw [List.inj_on_of_nodup_map distinct isOther isBound same]
  rw [placeholder_eq, List.cons_append] at found ⊢
  rw [filled, filledFrom, found]
  dsimp only
  have passed : (Site.placeholder name).length - 1 =
      ('\x7b' :: (name.toList ++ ['\x7d', '\x7d'])).length := by
    simp [length_placeholder]
  rw [passed, filledFrom_length_append]

/-- A chunk is filled on its own, whatever name stands behind it. -/
theorem filledFrom_append_placeholder
    {other : String}
    {chunk : List Char}
    {skip : Nat}
    (inChunk : skip ≤ chunk.length)
    (behind : List Char) :
    filledFrom bindings skip (chunk ++ Site.placeholder other ++ behind) =
      filledFrom bindings skip chunk ++ filled bindings (Site.placeholder other ++ behind) := by
  induction chunk generalizing skip with
  | nil =>
      rw [Nat.le_zero.mp inChunk]
      rfl
  | cons character rest inductionHypothesis =>
      cases skip with
      | succ skip => exact inductionHypothesis (Nat.le_of_succ_le_succ inChunk)
      | zero =>
          have sameBound :
              boundAt? bindings (character :: rest ++ Site.placeholder other ++ behind) =
                boundAt? bindings (character :: rest) := by
            unfold boundAt?
            refine List.find?_congr fun binding isBinding => ?_
            rw [Bool.eq_iff_iff, List.isPrefixOf_iff_prefix, List.isPrefixOf_iff_prefix]
            exact placeholder_prefix_append_iff (named binding isBinding)
              (List.cons_ne_nil character rest) behind
          simp only [List.cons_append] at sameBound ⊢
          rw [filledFrom, filledFrom, sameBound]
          cases bound : boundAt? bindings (character :: rest) with
          | none =>
              dsimp only
              rw [inductionHypothesis (Nat.zero_le _), List.cons_append]
          | some binding =>
              have short := (placeholder_prefix_of_boundAt? bound).2.length_le
              rw [List.length_cons] at short
              dsimp only
              rw [inductionHypothesis (by omega), List.append_assoc]

/-- A text of chunks and names is filled chunk by chunk. -/
theorem filled_filledWith
    (distinct : (bindings.map Prod.fst).Nodup)
    {chunks : List (List Char)}
    {names : List String}
    {values : List (List Char)}
    (count : chunks.length = names.length + 1)
    (valued : names.length = values.length)
    (bound : ∀ binding ∈ names.zip values, binding ∈ bindings) :
    filled bindings (Site.filledWith chunks names) =
      woven (chunks.map (filled bindings)) values := by
  induction chunks generalizing names values with
  | nil => cases count
  | cons chunk rest inductionHypothesis =>
      cases names with
      | nil =>
          obtain rfl := List.length_eq_zero_iff.mp (Nat.succ.inj count)
          obtain rfl := List.length_eq_zero_iff.mp valued.symm
          simp [Site.filledWith, woven]
      | cons name names =>
          obtain ⟨value, values, rfl⟩ := List.exists_cons_of_length_eq_add_one valued.symm
          rw [List.zip_cons_cons, List.forall_mem_cons] at bound
          have ofRest := inductionHypothesis (Nat.succ.inj count) (Nat.succ.inj valued) bound.2
          rw [Site.filledWith, filled,
            filledFrom_append_placeholder named (Nat.zero_le chunk.length),
            filled_placeholder_append named distinct bound.1,
            ofRest, List.map_cons, woven, ← filled, List.append_assoc]

end Bindings

/-! ## Chunks with names -/

/-- Whether no name stands in double braces in a text. -/
def Plain (names : List String) (text : List Char) : Prop :=
  ∀ name ∈ names, ¬Site.placeholder name <:+: text

instance (names : List String) (text : List Char) : Decidable (Plain names text) :=
  inferInstanceAs (Decidable (∀ name ∈ names, ¬Site.placeholder name <:+: text))

/-- A text without names is filled with nothing. -/
theorem filled_eq_self
    {bindings : List (String × List Char)}
    {text : List Char}
    (plain : Plain (bindings.map Prod.fst) text) :
    filled bindings text = text := by
  induction text with
  | nil => rfl
  | cons character rest inductionHypothesis =>
      have notHere : boundAt? bindings (character :: rest) = none := by
        rw [boundAt?_eq_none_iff]
        exact fun binding isBinding starts =>
          plain binding.1 (List.mem_map_of_mem isBinding) starts.isInfix
      have ofRest := inductionHypothesis fun name isName inRest =>
        plain name isName (List.infix_cons inRest)
      rw [filled, filledFrom, notHere]
      exact congrArg (List.cons character) ofRest

section Empty

variable
    {bindings : List (String × List Char)}
    (empty : ∀ binding ∈ bindings, binding.2 = [])

include empty

theorem length_filledFrom_le
    (skip : Nat)
    (text : List Char) :
    (filledFrom bindings skip text).length ≤ text.length := by
  induction text generalizing skip with
  | nil => exact Nat.le_refl _
  | cons character rest inductionHypothesis =>
      cases skip with
      | succ skip => exact Nat.le_succ_of_le (inductionHypothesis skip)
      | zero =>
          rw [filledFrom]
          cases bound : boundAt? bindings (character :: rest) with
          | none => exact Nat.succ_le_succ (inductionHypothesis 0)
          | some binding =>
              have isEmpty := empty binding (placeholder_prefix_of_boundAt? bound).1
              dsimp only
              rw [isEmpty, List.nil_append]
              exact Nat.le_succ_of_le (inductionHypothesis _)

/-- Where names stand in a text, it gets shorter when they are replaced by nothing. -/
theorem length_filled_lt
    {text : List Char}
    (holds : ¬Plain (bindings.map Prod.fst) text) :
    (filled bindings text).length < text.length := by
  induction text with
  | nil =>
      refine absurd (fun name _ inNothing => ?_) holds
      rw [List.infix_nil, placeholder_eq] at inNothing
      cases inNothing
  | cons character rest inductionHypothesis =>
      rw [filled, filledFrom]
      cases bound : boundAt? bindings (character :: rest) with
      | some binding =>
          have isEmpty := empty binding (placeholder_prefix_of_boundAt? bound).1
          dsimp only
          rw [isEmpty, List.nil_append]
          exact Nat.lt_succ_of_le (length_filledFrom_le empty _ rest)
      | none =>
          refine Nat.succ_lt_succ (inductionHypothesis fun plain => holds ?_)
          intro name isName inText
          obtain ⟨binding, isBinding, rfl⟩ := List.mem_map.mp isName
          rcases List.infix_cons_iff.mp inText with here | inRest
          · exact boundAt?_eq_none_iff.mp bound binding isBinding here
          · exact plain binding.1 isName inRest

end Empty

/-! ## Chunks and values -/

theorem woven_replicate_nil
    (chunks : List (List Char))
    (count : Nat) :
    woven chunks (List.replicate count []) = chunks.flatten := by
  induction chunks generalizing count with
  | nil => rfl
  | cons chunk rest inductionHypothesis =>
      cases count with
      | zero => exact congrArg (chunk ++ ·) (inductionHypothesis 0)
      | succ count =>
          rw [List.replicate_succ, woven, List.append_nil, inductionHypothesis, List.flatten_cons]

/-- Chunks with names are not left alone when the names are replaced by nothing. -/
theorem plain_of_flatten_eq
    {bindings : List (String × List Char)}
    (empty : ∀ binding ∈ bindings, binding.2 = [])
    {chunks : List (List Char)}
    (same : (chunks.map (filled bindings)).flatten = chunks.flatten) :
    ∀ chunk ∈ chunks, Plain (bindings.map Prod.fst) chunk := by
  by_contra someHolds
  push Not at someHolds
  obtain ⟨chunk, isChunk, holds⟩ := someHolds
  have shorter := List.sum_lt_sum (l := chunks)
    (fun chunk => (filled bindings chunk).length) List.length
    (fun chunk _ => length_filledFrom_le empty 0 chunk)
    ⟨chunk, isChunk, length_filled_lt empty holds⟩
  have lengths := congrArg List.length same
  rw [List.length_flatten, List.length_flatten, List.map_map] at lengths
  exact Nat.ne_of_lt shorter lengths

/-! ## Templates -/

/-- What the site of a template holds of its chunks. -/
theorem chunks_of_template
    {source : List Char}
    {situation : Site.Situation}
    {chunks : List (Option String)}
    {span : Span}
    {expressions : List Node}
    {site : Site}
    (found : Site.own? source situation (.template chunks) span expressions = some site) :
    chunks = site.chunks.map (fun chunk => some (String.ofList chunk)) ∧
      site.text = Site.filledWith site.chunks (Site.templateNames expressions).2 := by
  unfold Site.own? at found
  split at found
  · cases found
  · simp only [Site.template?] at found
    split at found
    · next valid _ _ isValid =>
        cases found
        refine ⟨?_, rfl⟩
        simp only [Site.mapM_id_eq_some_iff.mp isValid, List.map_map, Function.comp_def,
          String.ofList_toList]
    · cases found

/-- Whether the text of a site gives its chunks with values between them, whatever values the names
of its interpolations are replaced by. -/
def Reproduces (site : Site) : Prop :=
  ∀ values : List (List Char), values.length = site.interpolations.length →
    filled ((site.interpolations.map Interpolation.name).zip values) site.text =
      woven site.chunks values

/-- The text of a template gives its chunks with values between them, in which the same names are
replaced, so it gives the template itself exactly if no chunk holds one of its names. -/
theorem text_reproduces_template
    {surroundings : Surroundings}
    {cursor reached : Cursor}
    {chunks : List (Option String)}
    {span : Span}
    {expressions : List Node}
    (read : template surroundings cursor =
      .ok (.mk (.template chunks) span expressions) reached)
    (suggested : ∀ expression ∈ expressions, ∀ name,
      Site.suggestedName? expression = some name → spellsName name.toList = true)
    {source : List Char}
    {situation : Site.Situation}
    {site : Site}
    (found : Site.own? source situation (.template chunks) span expressions = some site) :
    chunks = site.chunks.map (fun chunk => some (String.ofList chunk)) ∧
      (∀ values : List (List Char), values.length = site.interpolations.length →
        let bindings := (site.interpolations.map Interpolation.name).zip values
        filled bindings site.text = woven (site.chunks.map (filled bindings)) values) ∧
      (Reproduces site ↔
        ∀ chunk ∈ site.chunks, Plain (site.interpolations.map Interpolation.name) chunk) := by
  obtain ⟨-, interpolations⟩ := Site.interpolations_of_template found
  obtain ⟨sameChunks, text⟩ := chunks_of_template found
  have names : site.interpolations.map Interpolation.name = (Site.templateNames expressions).2 := by
    rw [interpolations, List.map_map]
    exact List.map_fst_zip (Nat.le_of_eq (Site.length_templateNames expressions))
  have countNames : (Site.templateNames expressions).2.length = site.interpolations.length := by
    rw [← names, List.length_map]
  have count : site.chunks.length = (Site.templateNames expressions).2.length + 1 := by
    rw [Site.length_templateNames, ← length_chunks_of_template read, sameChunks, List.length_map]
  rw [Reproduces, names, text]
  have keys {values : List (List Char)} (valued : values.length = site.interpolations.length) :
      ((Site.templateNames expressions).2.zip values).map Prod.fst =
        (Site.templateNames expressions).2 :=
    List.map_fst_zip (Nat.le_of_eq (countNames.trans valued.symm))
  have byChunks : ∀ values : List (List Char), values.length = site.interpolations.length →
      filled ((Site.templateNames expressions).2.zip values)
          (Site.filledWith site.chunks (Site.templateNames expressions).2) =
        woven (site.chunks.map (filled ((Site.templateNames expressions).2.zip values)))
          values := by
    intro values valued
    refine filled_filledWith ?_ ?_ count (countNames.trans valued.symm) fun _ isBinding => isBinding
    · exact fun binding isBinding =>
        Site.spellsName_of_mem_templateNames suggested (List.of_mem_zip isBinding).1
    · rw [keys valued]
      exact Site.nodup_templateNames expressions
  refine ⟨sameChunks, byChunks, fun reproduces => ?_, fun plain values valued => ?_⟩
  · have valued : (List.replicate site.interpolations.length ([] : List Char)).length =
        site.interpolations.length :=
      List.length_replicate
    have same := (byChunks _ valued).symm.trans (reproduces _ valued)
    rw [woven_replicate_nil, woven_replicate_nil] at same
    have ofChunks := plain_of_flatten_eq ?_ same
    · rwa [keys valued] at ofChunks
    · exact fun binding isBinding => List.eq_of_mem_replicate (List.of_mem_zip isBinding).2
  · have unchanged : site.chunks.map (filled ((Site.templateNames expressions).2.zip values)) =
        site.chunks := by
      refine (List.map_congr_left fun chunk isChunk => filled_eq_self ?_).trans (List.map_id _)
      rw [keys valued]
      exact plain chunk isChunk
    rw [byChunks values valued, unchanged]

/-! ## Templates with and without names in their chunks -/

/-- A template that is read from the start of a text. -/
theorem exists_template_read
    (text : List Char)
    {node : Node}
    (checked :
      (match (do advance; template : Reader Node)
          ⟨.ofModule, text.length + 2, readAt (text.length + 2) (16 * (text.length + 2))⟩
          (.atStart text) with
      | .ok result _ => decide (result = node)
      | .error _ _ => false) = true) :
    ∃ surroundings cursor reached, template surroundings cursor = .ok node reached := by
  split at checked
  · next result reached ran =>
      obtain ⟨_, cursor, -, read⟩ := ok_of_bind ran
      rw [of_decide_eq_true checked] at read
      exact ⟨_, cursor, reached, read⟩
  · cases checked

/-- A template with a member and a variable. -/
def roomSource : List Char :=
  "\x60Room $\x7broom.number\x7d for $\x7bguest\x7d\x60".toList

/-- The expressions of the template. -/
def roomExpressions : List Node :=
  [.mk (.member "number") ⟨8, 19⟩ [.mk (.identifier "room") ⟨8, 12⟩ []],
   .mk (.identifier "guest") ⟨27, 32⟩ []]

/-- The text of the template gives the template back. -/
theorem text_reproduces_template_for_roomSource :
    ∃ site,
      Site.own? roomSource .outermost (.template [some "Room ", some " for ", some ""]) ⟨0, 34⟩
        roomExpressions = some site ∧
      Reproduces site ∧
      filled [("value0", ['4']), ("value1", "Ann".toList)] site.text = "Room 4 for Ann".toList := by
  have isRead : ∃ surroundings cursor reached, template surroundings cursor =
      .ok (.mk (.template [some "Room ", some " for ", some ""]) ⟨0, 34⟩ roomExpressions)
        reached :=
    exists_template_read roomSource (by decide +kernel)
  obtain ⟨surroundings, cursor, reached, read⟩ := isRead
  have suggested : ∀ expression ∈ roomExpressions, ∀ name,
      Site.suggestedName? expression = some name → spellsName name.toList = true := by
    intro expression isExpression name suggests
    simp only [roomExpressions, List.mem_cons, List.not_mem_nil, or_false] at isExpression
    rcases isExpression with rfl | rfl <;>
      · cases suggests
        decide
  have checked : (Site.own? roomSource .outermost
      (.template [some "Room ", some " for ", some ""]) ⟨0, 34⟩ roomExpressions).any
        (fun site => decide (site.interpolations.map Interpolation.name = ["value0", "value1"])
          && decide (site.chunks = ["Room ".toList, " for ".toList, []])) = true := by
    decide +kernel
  obtain ⟨site, found, holds⟩ := (Option.any_eq_true _ _).mp checked
  rw [Bool.and_eq_true, decide_eq_true_eq, decide_eq_true_eq] at holds
  obtain ⟨names, chunks⟩ := holds
  obtain ⟨-, -, reproduces⟩ := text_reproduces_template read suggested found
  rw [names, chunks] at reproduces
  have reproducesHere := reproduces.mpr (by decide)
  have count : [['4'], "Ann".toList].length = site.interpolations.length := by
    have counted := congrArg List.length names
    rw [List.length_map] at counted
    exact counted.symm
  have given := reproducesHere [['4'], "Ann".toList] count
  rw [names, chunks] at given
  refine ⟨site, found, reproducesHere, given.trans ?_⟩
  decide

/-- A source text with a template that spells a placeholder itself. -/
def literalSource : List Char :=
  "const s = \x60Type \x7b\x7bname\x7d\x7d room for $\x7bname\x7d\x60;".toList

/-- A placeholder that a template spells itself is replaced as well. -/
theorem not_reproduces_literalSource :
    ∃ program site,
      readProgram (withoutMark literalSource) = .ok program ∧
      Site.collect plainConverter.interest (withoutMark literalSource) program = [site] ∧
      site.kind.category = .templates ∧
      site.interpolations.map Interpolation.name = ["name"] ∧
      site.chunks = ["Type \x7b\x7bname\x7d\x7d room for ".toList, []] ∧
      filled [("name", "Ann".toList)] site.text = "Type Ann room for Ann".toList ∧
      woven site.chunks ["Ann".toList] = "Type \x7b\x7bname\x7d\x7d room for Ann".toList ∧
      ¬Reproduces site := by
  obtain ⟨program, read, checked⟩ := exists_ok_of_any (readProgram (withoutMark literalSource))
    (fun program : Node =>
      let sites :=
        Site.sites plainConverter.interest (withoutMark literalSource) .outermost program
      decide (program.All (Node.Placed (withoutMark literalSource)))
        && decide ((sites.map fun site =>
          (site.kind.category, site.interpolations.map Interpolation.name, site.chunks,
            site.text)) =
          [(.templates, ["name"], ["Type \x7b\x7bname\x7d\x7d room for ".toList, []],
            "Type \x7b\x7bname\x7d\x7d room for \x7b\x7bname\x7d\x7d".toList)]))
    (by decide +kernel)
  simp only [Bool.and_eq_true, decide_eq_true_eq] at checked
  obtain ⟨placed, isCollected⟩ := checked
  rw [← Site.collect_eq_sites placed] at isCollected
  obtain ⟨site, collected, holds⟩ := List.map_eq_singleton_iff.mp isCollected
  obtain ⟨category, names, chunks, text⟩ := by simpa only [Prod.mk.injEq] using holds
  have isFilled : filled [("name", "Ann".toList)] site.text = "Type Ann room for Ann".toList := by
    rw [text]
    decide
  have isWoven : woven site.chunks ["Ann".toList] =
      "Type \x7b\x7bname\x7d\x7d room for Ann".toList := by
    rw [chunks]
    decide
  refine ⟨program, site, read, collected, category, names, chunks, isFilled, isWoven, ?_⟩
  intro reproduces
  have single : ["Ann".toList].length = site.interpolations.length := by
    have count := congrArg List.length names
    rw [List.length_map] at count
    exact count.symm
  have same := reproduces ["Ann".toList] single
  rw [names, isWoven] at same
  exact absurd (isFilled.symm.trans same) (by decide)

end Keying
end KeyedText
