import KeyedText.Proofs.Site.Path
import KeyedText.Proofs.Site.Span
import KeyedText.Proofs.Text.Spacing
import Mathlib.Data.List.Nodup

/-!
# The sites that paths admit

Every collected site stands at a path, and no two stand at the same one.  A
site stands at a path exactly if the nodes on the way admit it there.
-/

namespace KeyedText
namespace Site

open Source

variable {interest : Interest} {source : List Char}

/-! ## The site of one node -/

theorem mapM_id_eq_some_iff
    {chunks : List (Option String)}
    {valid : List String} :
    chunks.mapM id = some valid ↔ chunks = valid.map some := by
  induction chunks generalizing valid with
  | nil => cases valid <;> simp
  | cons chunk rest inductionHypothesis =>
      cases chunk with
      | none => cases valid <;> simp
      | some value =>
          cases valid with
          | nil => simp [Option.bind_eq_some_iff]
          | cons first others =>
              simp [Option.bind_eq_some_iff, inductionHypothesis, and_comm]

theorem template?_eq_some_iff
    {around : List Turn}
    {chunks : List (Option String)}
    {span : Span}
    {expressions : List Node}
    {site : Site} :
    template? source (situationAround interest around) chunks span expressions = some site ↔
      Candidate interest source around (.mk (.template chunks) span expressions) site := by
  constructor
  · intro found
    unfold template? at found
    split at found
    · next valid first others isValid =>
        simp only [Option.some.injEq] at found
        rw [mapM_id_eq_some_iff.mp isValid, ← found]
        exact .template valid span (first :: others) (by simp)
    · cases found
  · intro candidate
    cases candidate with
    | template valid _ _ interpolates =>
      obtain ⟨first, others, rfl⟩ := List.exists_cons_of_ne_nil interpolates
      have isValid : (valid.map some).mapM id = some valid := mapM_id_eq_some_iff.mpr rfl
      simp only [template?, isValid]
      rfl

/-- A node that is not suppressed has the site of which it is a candidate. -/
theorem own?_eq_some_iff
    {around : List Turn}
    {form : Form}
    {span : Span}
    {parts : List Node}
    {site : Site} :
    own? source (situationAround interest around) form span parts = some site ↔
      (situationAround interest around).suppressed = false ∧
        Candidate interest source around (.mk form span parts) site := by
  cases suppressed : (situationAround interest around).suppressed with
  | true => simp [own?, suppressed]
  | false =>
    simp only [own?, suppressed, Bool.false_eq_true, if_false, true_and]
    constructor
    · intro found
      split at found
      · next value kind role =>
          have role := roleAround?_eq_some_iff.mp role
          have halved : (situationAround interest around).split = isHalf around := rfl
          rw [halved] at found
          split at found
          · next isHalved =>
              cases found
              exact .half value span parts kind role (isHalf_iff.mp isHalved)
          · next isWhole =>
              cases found
              exact .literal value span parts kind role (mt isHalf_iff.mpr isWhole)
      · next _ value =>
          split at found
          · cases found
          · next visible =>
              rw [List.isEmpty_iff, Text.collapseSpacing_eq_nil_iff] at visible
              cases found
              exact .prose value span parts (by simpa using visible)
      · exact template?_eq_some_iff.mp found
      · cases found
    · intro candidate
      cases candidate with
      | literal value _ _ kind role whole =>
        have known : (situationAround interest around).role = some kind :=
          roleAround?_eq_some_iff.mpr role
        have halved : (situationAround interest around).split = isHalf around := rfl
        simp only [known, halved, if_neg (mt isHalf_iff.mp whole)]
        rfl
      | half value _ _ kind role half =>
        have known : (situationAround interest around).role = some kind :=
          roleAround?_eq_some_iff.mpr role
        have halved : (situationAround interest around).split = isHalf around := rfl
        simp only [known, halved, if_pos (isHalf_iff.mpr half)]
        rfl
      | prose value _ _ visible =>
        have notEmpty : (Text.collapseSpacing value.toList).isEmpty = false := by
          rw [Bool.eq_false_iff, ne_eq, List.isEmpty_iff, Text.collapseSpacing_eq_nil_iff]
          simpa using visible
        simp only [notEmpty, Bool.false_eq_true, if_false]
        rfl
      | template chunks _ _ interpolates =>
        exact template?_eq_some_iff.mpr (.template chunks span parts interpolates)

/-! ## Sites with their paths -/

mutual

/-- The sites in a node, each with the path that leads to it. -/
def placed (interest : Interest) (source : List Char) (situation : Situation) :
    Node → List (List Nat × Site)
  | .mk form span parts =>
    (own? source situation form span parts).toList.map (([], ·))
      ++ placedFrom interest source (situation.descend interest form parts) 0 parts
termination_by structural node => node

/-- The sites in the parts of a node from an index on, with their paths. -/
def placedFrom (interest : Interest) (source : List Char)
    (descend : Nat → Option Situation) (index : Nat) :
    List Node → List (List Nat × Site)
  | [] => []
  | part :: rest =>
    let here :=
      match descend index with
      | some situation => placed interest source situation part
      | none => []
    here.map (fun (path, site) => (index :: path, site))
      ++ placedFrom interest source descend (index + 1) rest
termination_by structural parts => parts

end

theorem placed_mk
    (situation : Situation)
    (form : Form)
    (span : Span)
    (parts : List Node) :
    placed interest source situation (.mk form span parts) =
      (own? source situation form span parts).toList.map (([], ·)) ++
        placedFrom interest source (situation.descend interest form parts) 0 parts := by
  rw [placed]

theorem map_snd_placedFrom
    {parts : List Node}
    (inParts : ∀ part ∈ parts, ∀ situation,
      (placed interest source situation part).map Prod.snd =
        sites interest source situation part)
    (descend : Nat → Option Situation)
    (index : Nat) :
    (placedFrom interest source descend index parts).map Prod.snd =
      sitesFrom interest source descend index parts := by
  induction parts generalizing index with
  | nil => simp [placedFrom, sitesFrom]
  | cons part rest inductionHypothesis =>
      have later := inductionHypothesis
        (fun other inRest => inParts other (List.mem_cons_of_mem _ inRest)) (index + 1)
      rw [placedFrom, sitesFrom, List.map_append, later, List.map_map]
      cases descend index with
      | none => rfl
      | some situation =>
          have here := inParts part List.mem_cons_self situation
          exact congrArg (· ++ _) here

/-- The paths aside, these are the sites in a node. -/
theorem map_snd_placed
    (situation : Situation)
    (node : Node) :
    (placed interest source situation node).map Prod.snd =
      sites interest source situation node := by
  induction node using Node.induction generalizing situation with
  | step form span parts inside =>
      rw [placed_mk, sites_mk, List.map_append, map_snd_placedFrom inside]
      cases own? source situation form span parts <;> rfl

/-- A path into the parts of a node starts with the index of a part that is
looked at. -/
theorem mem_placedFrom_iff
    {descend : Nat → Option Situation}
    {index : Nat}
    {parts : List Node}
    {path : List Nat}
    {site : Site} :
    (path, site) ∈ placedFrom interest source descend index parts ↔
      ∃ offset deeper part situation,
        path = (index + offset) :: deeper ∧
        parts[offset]? = some part ∧
        descend (index + offset) = some situation ∧
        (deeper, site) ∈ placed interest source situation part := by
  induction parts generalizing index with
  | nil => simp [placedFrom]
  | cons first rest inductionHypothesis =>
      rw [placedFrom, List.mem_append, inductionHypothesis]
      constructor
      · rintro (here | ⟨offset, deeper, part, situation, rfl, atOffset, isLooked, member⟩)
        · obtain ⟨⟨deeper, found⟩, member, same⟩ := List.mem_map.mp here
          obtain ⟨rfl, rfl⟩ := Prod.mk.injEq .. ▸ same
          split at member
          · next situation isLooked =>
              exact ⟨0, deeper, first, situation, rfl, rfl, isLooked, member⟩
          · cases member
        · have shifted : index + 1 + offset = index + (offset + 1) := by omega
          rw [shifted] at isLooked ⊢
          exact ⟨offset + 1, deeper, part, situation, rfl, atOffset, isLooked, member⟩
      · rintro ⟨offset, deeper, part, situation, rfl, atOffset, isLooked, member⟩
        cases offset with
        | zero =>
            left
            cases atOffset
            rw [Nat.add_zero] at isLooked
            refine List.mem_map.mpr ⟨(deeper, site), ?_, rfl⟩
            rw [isLooked]
            exact member
        | succ offset =>
            right
            have shifted : index + (offset + 1) = index + 1 + offset := by omega
            rw [shifted] at isLooked ⊢
            exact ⟨offset, deeper, part, situation, rfl, atOffset, isLooked, member⟩

theorem nodup_placedFrom
    {parts : List Node}
    (inParts : ∀ part ∈ parts, ∀ situation,
      ((placed interest source situation part).map Prod.fst).Nodup)
    (descend : Nat → Option Situation)
    (index : Nat) :
    ((placedFrom interest source descend index parts).map Prod.fst).Nodup := by
  induction parts generalizing index with
  | nil => simp [placedFrom]
  | cons part rest inductionHypothesis =>
      have later := inductionHypothesis
        (fun other inRest => inParts other (List.mem_cons_of_mem _ inRest)) (index + 1)
      rw [placedFrom, List.map_append, List.map_map]
      refine List.Nodup.append ?_ later ?_
      · cases descend index with
        | none => simp
        | some situation =>
            have here := inParts part List.mem_cons_self situation
            have prefixed := here.map (f := List.cons index) fun _ _ same => by
              simpa using same
            rwa [List.map_map] at prefixed
      · -- The paths into the first part and those into later ones differ in their heads.
        intro path inFirst inRest
        obtain ⟨⟨_, _⟩, _, rfl⟩ := List.mem_map.mp inFirst
        obtain ⟨⟨_, site⟩, member, same⟩ := List.mem_map.mp inRest
        obtain ⟨offset, deeper, _, _, startsBehind, _⟩ := mem_placedFrom_iff.mp member
        simp only [Function.comp_apply] at same
        rw [startsBehind, List.cons.injEq] at same
        omega

/-- No two sites in a node have the same path. -/
theorem nodup_placed
    (situation : Situation)
    (node : Node) :
    ((placed interest source situation node).map Prod.fst).Nodup := by
  induction node using Node.induction generalizing situation with
  | step form span parts inside =>
      rw [placed_mk, List.map_append]
      refine List.Nodup.append ?_ (nodup_placedFrom inside _ _) ?_
      · cases own? source situation form span parts <;> simp
      · intro path own inParts
        obtain ⟨⟨_, site⟩, member, rfl⟩ := List.mem_map.mp inParts
        obtain ⟨_, _, _, _, startsBehind, _⟩ := mem_placedFrom_iff.mp member
        simp only [List.map_map, List.mem_map, Function.comp_apply] at own
        obtain ⟨_, _, isEmpty⟩ := own
        rw [startsBehind] at isEmpty
        cases isEmpty

/-! ## Sites and what their paths tell -/

/-- What was passed before stays on the way. -/
theorem suffix_of_walk?
    {passed around : List Turn}
    {node last : Node}
    {path : List Nat}
    (walked : walk? passed node path = some (around, last)) :
    passed <:+ around := by
  induction path generalizing passed node with
  | nil =>
      simp only [walk?, Option.some.injEq, Prod.mk.injEq] at walked
      exact walked.1 ▸ List.suffix_rfl
  | cons index path inductionHypothesis =>
      obtain ⟨form, span, parts⟩ := node
      simp only [walk?] at walked
      split at walked
      · exact (List.suffix_cons _ _).trans (inductionHypothesis walked)
      · cases walked

/-- A site behind a turn is one in the part that the turn leads to, unless that part
is never looked at. -/
theorem mem_placed_cons_iff
    {passed : List Turn}
    {form : Form}
    {span : Span}
    {parts : List Node}
    {index : Nat}
    {path : List Nat}
    {site : Site} :
    (index :: path, site) ∈
        placed interest source (situationAround interest passed) (.mk form span parts) ↔
      Turn.isBlocked interest ⟨form, parts, index⟩ = false ∧
        ∃ part, parts[index]? = some part ∧
          (path, site) ∈
            placed interest source (situationAround interest (⟨form, parts, index⟩ :: passed))
              part := by
  have notOwn :
      (index :: path, site) ∉
        (own? source (situationAround interest passed) form span parts).toList.map
          (([], ·)) := by
    simp
  rw [placed_mk, List.mem_append, or_iff_right notOwn, mem_placedFrom_iff]
  have goingDown := descend_situationAround interest passed ⟨form, parts, index⟩
  simp only at goingDown
  constructor
  · rintro ⟨offset, deeper, part, situation, isCons, atOffset, isLooked, member⟩
    rw [List.cons.injEq, Nat.zero_add] at isCons
    obtain ⟨rfl, rfl⟩ := isCons
    rw [Nat.zero_add, goingDown] at isLooked
    split at isLooked
    · cases isLooked
    · next isOpen =>
        cases isLooked
        exact ⟨Bool.not_eq_true _ ▸ isOpen, part, atOffset, member⟩
  · rintro ⟨isOpen, part, atIndex, member⟩
    rw [isOpen, if_neg Bool.false_ne_true] at goingDown
    refine ⟨index, path, part, situationAround interest (⟨form, parts, index⟩ :: passed),
      ?_, atIndex, ?_, member⟩
    · rw [Nat.zero_add]
    · rw [Nat.zero_add, goingDown]

/-- The sites in a node are those of the nodes that a way leads to on which no
part is one that is never looked at. -/
theorem mem_placed_iff
    {passed : List Turn}
    (unblocked : passed.any (·.isBlocked interest) = false)
    {node : Node}
    {path : List Nat}
    {site : Site} :
    (path, site) ∈ placed interest source (situationAround interest passed) node ↔
      ∃ around last,
        walk? passed node path = some (around, last) ∧
        around.any (·.isBlocked interest) = false ∧
        own? source (situationAround interest around) last.form last.span last.parts =
          some site := by
  induction path generalizing passed node with
  | nil =>
      obtain ⟨form, span, parts⟩ := node
      have notInParts (descend : Nat → Option Situation) :
          ([], site) ∉ placedFrom interest source descend 0 parts := by
        intro member
        obtain ⟨_, _, _, _, isCons, _⟩ := mem_placedFrom_iff.mp member
        cases isCons
      rw [placed_mk, List.mem_append, or_iff_left (notInParts _)]
      constructor
      · intro own
        exact ⟨passed, .mk form span parts, rfl, unblocked, by simpa using own⟩
      · rintro ⟨_, _, walked, _, own⟩
        cases walked
        simpa using own
  | cons index path inductionHypothesis =>
      obtain ⟨form, span, parts⟩ := node
      have deeper (isOpen : Turn.isBlocked interest ⟨form, parts, index⟩ = false) :
          (⟨form, parts, index⟩ :: passed : List Turn).any (·.isBlocked interest) = false := by
        rw [List.any_cons, isOpen, unblocked, Bool.or_self]
      rw [mem_placed_cons_iff]
      constructor
      · rintro ⟨isOpen, part, atIndex, member⟩
        rw [inductionHypothesis (deeper isOpen)] at member
        simpa only [walk?, atIndex] using member
      · rintro ⟨around, last, walked, clear, own⟩
        simp only [walk?] at walked
        split at walked
        · next part atIndex =>
            have onWay := (suffix_of_walk? walked).subset List.mem_cons_self
            have isOpen : Turn.isBlocked interest ⟨form, parts, index⟩ = false := by
              rw [Bool.eq_false_iff]
              exact List.any_eq_false.mp clear _ onWay
            exact ⟨isOpen, part, atIndex,
              (inductionHypothesis (deeper isOpen)).mpr ⟨around, last, walked, clear, own⟩⟩
        · cases walked

/-- A site stands at a path of a program exactly if the path admits it. -/
theorem mem_placed_outermost_iff
    {program : Node}
    {path : List Nat}
    {site : Site} :
    (path, site) ∈ placed interest source .outermost program ↔
      ∃ around node,
        walk? [] program path = some (around, node) ∧
        Admits interest source around node site := by
  have outermost : Situation.outermost = situationAround interest [] := rfl
  rw [outermost, mem_placed_iff List.any_nil]
  refine exists_congr fun around => exists_congr fun node => and_congr_right fun _ => ?_
  obtain ⟨form, span, parts⟩ := node
  rw [Admits, excluded_iff, not_or, Bool.not_eq_true, Bool.not_eq_true, and_assoc]
  exact and_congr_right fun _ => own?_eq_some_iff

/-- The collected sites are exactly those that the paths of a program admit,
each of them once. -/
theorem collect_admitted
    (interest : Interest)
    (source : List Char)
    (program : Node) :
    ∃ collected : List (List Nat × Site),
      collected.map Prod.snd = collect interest source program ∧
      (collected.map Prod.fst).Nodup ∧
      ∀ path site,
        (path, site) ∈ collected ↔
          ∃ around node,
            walk? [] program path = some (around, node) ∧
            Admits interest source around node site := by
  let unordered := placed interest source .outermost program
  let ordered := unordered.mergeSort fun left right => precedes left.2 right.2
  have reordered : ordered.Perm unordered := List.mergeSort_perm _ _
  refine ⟨ordered, ?_, ?_, ?_⟩
  · rw [collect, ← map_snd_placed]
    exact List.map_mergeSort fun _ _ _ _ => rfl
  · exact (reordered.map Prod.fst).nodup_iff.mpr (nodup_placed _ _)
  · intro path site
    rw [reordered.mem_iff]
    exact mem_placed_outermost_iff

end Site
end KeyedText
