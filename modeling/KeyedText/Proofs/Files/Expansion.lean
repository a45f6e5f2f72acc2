import KeyedText.Proofs.Files.Proper
import KeyedText.Proofs.Glob.Reading

/-!
# Where patterns lead

A pattern leads from a folder along names that fit it step by step: a step with no
wildcard along itself, two stars along any number of names, and any other step
along a name that fits.  A search for the paths to start from finds the folders
to which a pattern leads, and no other paths.
-/

namespace KeyedText
namespace Discovery

open World

/-! ## Parts -/

/-- Whether a step of a pattern spells a part. -/
inductive Spells : List Char → Part → Prop where
  | name {step : List Char}
      (literal : Glob.IsLiteral step) :
      Spells step (.name step)
  | pattern {step : List Char} {glob : Glob.Pattern}
      (wild : ¬Glob.IsLiteral step)
      (single : step ≠ ['*', '*'])
      (reads : Glob.Pattern.ofText step = .ok glob) :
      Spells step (.pattern glob)
  | deep :
      Spells ['*', '*'] .deep

/-- A step that spells a part is a pattern that is accepted. -/
theorem Spells.exists_ofText
    {step : List Char}
    {part : Part}
    (spells : Spells step part) :
    ∃ glob, Glob.Pattern.ofText step = .ok glob := by
  cases spells with
  | name literal => exact ⟨_, Glob.ofText_of_isLiteral literal⟩
  | pattern wild single reads => exact ⟨_, reads⟩
  | deep => exact ⟨_, Glob.ofText_stars⟩

theorem not_isLiteral_stars :
    ¬Glob.IsLiteral ['*', '*'] := by
  decide

/-- A step is read as the part that it spells. -/
theorem ofText_eq_ok_iff_spells
    {step : List Char}
    (plain : '/' ∉ step)
    {part : Part} :
    Part.ofText step = .ok part ↔ Spells step part := by
  unfold Part.ofText
  cases reads : Glob.Pattern.ofText step with
  | error fault =>
      refine iff_of_false nofun fun spells => ?_
      obtain ⟨glob, isGlob⟩ := spells.exists_ofText
      rw [reads] at isGlob
      cases isGlob
  | ok glob =>
      simp only [bind, Except.bind, pure, Except.pure, List.contains_iff_mem,
        Glob.literal?_of_ofText reads, Glob.deep_mem_ofText_iff plain reads]
      by_cases literal : Glob.IsLiteral step
      · simp only [if_pos literal, Except.ok.injEq]
        constructor
        · rintro rfl
          exact .name literal
        · rintro (_ | ⟨wild⟩ | _)
          · rfl
          · exact absurd literal wild
          · exact absurd literal not_isLiteral_stars
      · simp only [if_neg literal, Except.ok.injEq]
        split
        · next isDeep =>
            subst isDeep
            constructor
            · rintro rfl
              exact .deep
            · rintro (⟨isLiteral⟩ | ⟨-, single, -⟩ | _)
              · exact absurd isLiteral literal
              · exact absurd rfl single
              · rfl
        · next single =>
            constructor
            · rintro rfl
              exact .pattern literal single reads
            · rintro (⟨isLiteral⟩ | ⟨-, -, isGlob⟩ | _)
              · exact absurd isLiteral literal
              · rw [Except.ok.inj (reads.symm.trans isGlob)]
              · exact absurd rfl single

/-- Steps are read as parts that they spell one by one. -/
theorem mapM_ofText_eq_ok_iff
    {steps : List (List Char)}
    (plain : ∀ step ∈ steps, '/' ∉ step)
    {parts : List Part} :
    steps.mapM Part.ofText = .ok parts ↔ List.Forall₂ Spells steps parts := by
  induction steps generalizing parts with
  | nil =>
      rw [List.mapM_nil, List.forall₂_nil_left_iff]
      exact Except.ok.injEq _ _ |>.to_iff.trans eq_comm
  | cons step steps inductionHypothesis =>
      obtain ⟨isPlain, others⟩ := List.forall_mem_cons.mp plain
      rw [List.mapM_cons, List.forall₂_cons_left_iff]
      simp only [← ofText_eq_ok_iff_spells isPlain, ← inductionHypothesis others]
      cases Part.ofText step with
      | error fault => exact iff_of_false nofun fun ⟨_, _, isPart, _⟩ => nomatch isPart
      | ok part =>
          cases steps.mapM Part.ofText with
          | error fault => exact iff_of_false nofun fun ⟨_, _, _, areParts, _⟩ => nomatch areParts
          | ok rest =>
              simp only [bind, Except.bind, pure, Except.pure, Except.ok.injEq]
              exact ⟨fun same => ⟨part, rest, rfl, rfl, same.symm⟩,
                fun ⟨_, _, isPart, areParts, same⟩ => by rw [same, isPart, areParts]⟩

/-! ## Names -/

/-- Whether a pattern is held against a name: that of an entry, or the one for the folder itself
or for the one above, if the pattern starts with a dot. -/
def Offered (glob : Glob.Pattern) (name : List Char) : Prop :=
  Tree.IsName name ∨ isDots name = true ∧ glob.tokens.head? = some (.char '.')

/-- Whether parts lead along names. -/
inductive Leads : List Part → Location → Prop where
  | nil :
      Leads [] []
  | name {text : List Char} {parts : List Part} {names : Location}
      (rest : Leads parts names) :
      Leads (.name text :: parts) (text :: names)
  | pattern {glob : Glob.Pattern} {name : List Char} {parts : List Part} {names : Location}
      (offered : Offered glob name)
      (fits : glob.fits name = true)
      (rest : Leads parts names) :
      Leads (.pattern glob :: parts) (name :: names)
  /-- Two stars lead along any number of names, and what is behind them along a name as well, so
  that there is one at least. -/
  | deep {between : Location} {parts : List Part} {names : Location}
      (areNames : ∀ name ∈ between, Tree.IsName name)
      (isName : ∀ name ∈ names.head?, Tree.IsName name)
      (nonempty : between ++ names ≠ [])
      (rest : Leads parts names) :
      Leads (.deep :: parts) (between ++ names)

theorem leads_nil_iff
    {names : Location} :
    Leads [] names ↔ names = [] :=
  ⟨fun leads => by cases leads; rfl, fun same => same ▸ .nil⟩

theorem leads_name_iff
    {text : List Char}
    {parts : List Part}
    {names : Location} :
    Leads (.name text :: parts) names ↔ ∃ rest, names = text :: rest ∧ Leads parts rest := by
  constructor
  · rintro ⟨leads⟩
    exact ⟨_, rfl, by assumption⟩
  · rintro ⟨rest, rfl, leads⟩
    exact .name leads

/-- A pattern leads on through a name that it is offered and that it fits. -/
theorem leads_pattern_iff
    {glob : Glob.Pattern}
    {parts : List Part}
    {names : Location} :
    Leads (.pattern glob :: parts) names ↔
      ∃ name rest, names = name :: rest ∧
        Offered glob name ∧ glob.fits name = true ∧ Leads parts rest := by
  constructor
  · intro leads
    cases leads with
    | pattern offered fits rest => exact ⟨_, _, rfl, offered, fits, rest⟩
  · rintro ⟨name, rest, rfl, offered, fits, leads⟩
    exact .pattern offered fits leads

/-- Two stars lead on through any names. -/
theorem leads_deep_iff
    {parts : List Part}
    {names : Location} :
    Leads (.deep :: parts) names ↔
      ∃ between rest, names = between ++ rest ∧ (∀ name ∈ between, Tree.IsName name) ∧
        (∀ name ∈ rest.head?, Tree.IsName name) ∧ names ≠ [] ∧ Leads parts rest := by
  constructor
  · intro leads
    cases leads with
    | deep areNames isName nonempty rest => exact ⟨_, _, rfl, areNames, isName, nonempty, rest⟩
  · rintro ⟨between, rest, rfl, areNames, isName, nonempty, leads⟩
    exact .deep areNames isName nonempty leads

/-- Two stars twice are two stars. -/
theorem leads_deep_deep_iff
    {parts : List Part}
    {names : Location} :
    Leads (.deep :: .deep :: parts) names ↔ Leads (.deep :: parts) names := by
  constructor
  · intro leads
    obtain ⟨first, _, rfl, areFirst, -, nonempty, leads⟩ := leads_deep_iff.mp leads
    obtain ⟨second, rest, rfl, areSecond, isName, -, leads⟩ := leads_deep_iff.mp leads
    refine leads_deep_iff.mpr ⟨first ++ second, rest, (List.append_assoc ..).symm, ?_, isName,
      nonempty, leads⟩
    exact List.forall_mem_append.mpr ⟨areFirst, areSecond⟩
  · intro leads
    obtain ⟨between, rest, isRow, areNames, isName, nonempty, -⟩ := leads_deep_iff.mp leads
    refine leads_deep_iff.mpr ⟨[], names, rfl, List.forall_mem_nil _, ?_, nonempty, leads⟩
    rw [isRow]
    cases between with
    | nil => exact isName
    | cons first others =>
        rintro name ⟨⟩
        exact areNames first List.mem_cons_self

/-- A part that stands for one name leads along a name that it fits. -/
theorem leads_cons_iff_of_isName
    {part : Part}
    (single : part ≠ .deep)
    {name : List Char}
    (isName : Tree.IsName name)
    {parts : List Part}
    {names : Location} :
    Leads (part :: parts) (name :: names) ↔ part.fits name = true ∧ Leads parts names := by
  cases part with
  | name text =>
      rw [leads_name_iff, Part.fits, beq_iff_eq]
      constructor
      · rintro ⟨rest, ⟨⟩, leads⟩
        exact ⟨rfl, leads⟩
      · rintro ⟨rfl, leads⟩
        exact ⟨names, rfl, leads⟩
  | pattern glob =>
      rw [leads_pattern_iff, Part.fits]
      constructor
      · rintro ⟨_, _, ⟨⟩, -, fits, leads⟩
        exact ⟨fits, leads⟩
      · rintro ⟨fits, leads⟩
        exact ⟨name, names, rfl, .inl isName, fits, leads⟩
  | deep => exact absurd rfl single

/-- No part leads to the place where it starts. -/
theorem Leads.exists_cons
    {part : Part}
    {parts : List Part}
    {names : Location}
    (leads : Leads (part :: parts) names) :
    ∃ name rest, names = name :: rest := by
  cases leads with
  | name rest => exact ⟨_, _, rfl⟩
  | pattern offered fits rest => exact ⟨_, _, rfl⟩
  | deep areNames isName nonempty rest => exact List.exists_cons_of_ne_nil nonempty

/-- Parts lead as other ones do if what is behind the first of them does. -/
theorem leads_cons_congr
    {first second : List Part}
    (same : ∀ names, Leads first names ↔ Leads second names)
    (part : Part)
    (names : Location) :
    Leads (part :: first) names ↔ Leads (part :: second) names := by
  cases part with
  | name text => simp only [leads_name_iff, same]
  | pattern glob => simp only [leads_pattern_iff, same]
  | deep => simp only [leads_deep_iff, same]

/-- Doubled stars in a row lead where one pair does. -/
theorem leads_push_iff
    {part : Part}
    {parts : List Part}
    {names : Location} :
    Leads (part.push parts) names ↔ Leads (part :: parts) names := by
  unfold Part.push
  split
  · next both =>
      rw [Bool.and_eq_true, beq_iff_eq, beq_iff_eq] at both
      obtain ⟨rfl, isHead⟩ := both
      obtain ⟨rest, rfl⟩ := List.head?_eq_some_iff.mp isHead
      exact leads_deep_deep_iff.symm
  · rfl

/-- Parts lead to the same places after they are paired. -/
theorem leads_foldr_push_iff
    (parts : List Part)
    (names : Location) :
    Leads (parts.foldr Part.push []) names ↔ Leads parts names := by
  induction parts generalizing names with
  | nil => rfl
  | cons part parts inductionHypothesis =>
      rw [List.foldr_cons, leads_push_iff]
      exact leads_cons_congr inductionHypothesis part names

/-- Whether no two parts in a row stand for any number of folders. -/
def Unpaired (parts : List Part) : Prop :=
  parts.IsChain fun first second => ¬(first = .deep ∧ second = .deep)

/-- Among parts that are paired no two pairs of stars meet. -/
theorem unpaired_foldr_push
    (parts : List Part) :
    Unpaired (parts.foldr Part.push []) := by
  unfold Unpaired
  induction parts with
  | nil => exact .nil
  | cons part parts inductionHypothesis =>
      rw [List.foldr_cons, Part.push]
      split
      · exact inductionHypothesis
      · next notBoth =>
          rw [Bool.and_eq_true, beq_iff_eq, beq_iff_eq] at notBoth
          cases behind : parts.foldr Part.push [] with
          | nil => exact .singleton _
          | cons next others =>
              rw [behind] at inductionHypothesis notBoth
              refine .cons_cons (fun both => notBoth ⟨both.1, ?_⟩) inductionHypothesis
              rw [both.2]
              rfl

/-! ## What is below -/

/-- What is below entries is one of them or below one of them. -/
theorem mem_belowEntries_iff
    {path : Path}
    {entries : List (List Char × Tree.Shape)}
    {found : Below} :
    found ∈ belowEntries path entries ↔
      ∃ name inner, (name, inner) ∈ entries ∧
        (found = ⟨path.join name, name, inner.kind⟩ ∨ found ∈ below (path.join name) inner) := by
  induction entries with
  | nil => simp [belowEntries]
  | cons entry entries inductionHypothesis =>
      obtain ⟨name, inner⟩ := entry
      rw [belowEntries, List.mem_append, List.mem_cons, inductionHypothesis]
      constructor
      · rintro (here | ⟨other, part, isEntry, isFound⟩)
        · exact ⟨name, inner, List.mem_cons_self, here⟩
        · exact ⟨other, part, List.mem_cons_of_mem _ isEntry, isFound⟩
      · rintro ⟨other, part, isEntry, isFound⟩
        rcases List.mem_cons.mp isEntry with same | isLater
        · cases same
          exact .inl isFound
        · exact .inr ⟨other, part, isLater, isFound⟩

/-- What is below a path is along names. -/
theorem exists_of_mem_below
    {path : Path}
    {shape : Tree.Shape}
    (proper : shape.Proper)
    {found : Below}
    (isFound : found ∈ below path shape) :
    ∃ between, found.path = along path (between ++ [found.name]) ∧
      (∀ name ∈ between, Tree.IsName name) ∧ Tree.IsName found.name := by
  induction proper generalizing path with
  | file content => cases isFound
  | folder named distinct inside inductionHypothesis =>
      rw [below, mem_belowEntries_iff] at isFound
      obtain ⟨name, inner, isEntry, rfl | isDeeper⟩ := isFound
      · exact ⟨[], rfl, List.forall_mem_nil _, named _ isEntry⟩
      · obtain ⟨between, isAlong, areNames, isName⟩ := inductionHypothesis _ isEntry isDeeper
        exact ⟨name :: between, isAlong, List.forall_mem_cons.mpr ⟨named _ isEntry, areNames⟩,
          isName⟩

/-- What is at a location is below. -/
theorem mem_below_of_get?
    {path : Path}
    {shape part : Tree.Shape}
    {between : Location}
    {name : List Char}
    (isPart : shape.get? (between ++ [name]) = some part) :
    ⟨along path (between ++ [name]), name, part.kind⟩ ∈ below path shape := by
  induction between generalizing path shape with
  | nil =>
      cases shape with
      | file content => cases isPart
      | folder entries =>
          rw [List.nil_append, Tree.get?_folder_cons] at isPart
          obtain ⟨inner, isInner, same⟩ := Option.bind_eq_some_iff.mp isPart
          rw [← Option.some.inj same, below, mem_belowEntries_iff]
          exact ⟨name, inner, Tree.mem_of_lookup isInner, .inl rfl⟩
  | cons first between inductionHypothesis =>
      cases shape with
      | file content => cases isPart
      | folder entries =>
          rw [List.cons_append, Tree.get?_folder_cons] at isPart
          obtain ⟨inner, isInner, inInner⟩ := Option.bind_eq_some_iff.mp isPart
          rw [below, mem_belowEntries_iff]
          exact ⟨first, inner, Tree.mem_of_lookup isInner, .inr (inductionHypothesis inInner)⟩

/-! ## Expanding -/

section Expanding

variable
    {tree : FileTree}
    {path root : Path}

/-- The names that a pattern is offered are those of the entries, and the dots if it
starts with a dot. -/
theorem mem_fitting_iff
    {glob : Glob.Pattern}
    {entries : List (List Char × Tree.Shape)}
    {name : List Char} :
    name ∈ fitting glob entries ↔
      (name ∈ entries.map (·.1) ∨ isDots name = true ∧ glob.tokens.head? = some (.char '.')) ∧
        glob.fits name = true := by
  unfold fitting isDots
  rw [List.mem_filter, List.mem_append]
  split <;> simp_all

theorem mem_expand_nil_iff :
    root ∈ answer tree (expand [] path) ↔ root = path := by
  have told : Gives tree (expand [] path) [path] := gives_pure _
  rw [told.answer_eq, List.mem_singleton]

/-- A name leads to what is there under it. -/
theorem mem_expand_name_iff
    {text : List Char}
    {parts : List Part} :
    root ∈ answer tree (expand (.name text :: parts) path) ↔
      (if isDots text then tree.HasFolder path else (tree.find? (path.join text)).isSome) ∧
        root ∈ answer tree (expand parts (path.join text)) := by
  obtain ⟨behind, isBehind⟩ := looks_expand parts (path.join text) tree
  have goesOn (isThere : Bool) : Gives tree
      (if isThere then expand (m := StateM World) parts (path.join text) else return [])
      (if isThere then behind else []) := by
    cases isThere with
    | false => exact gives_pure _
    | true => exact isBehind
  have told : Gives tree (expand (.name text :: parts) path)
      (if if isDots text then (tree.find? path).map Tree.kind == some .folder
          else ((tree.find? (path.join text)).map Tree.kind).isSome then behind else []) := by
    unfold expand
    dsimp only
    split
    · exact gives_bind (gives_isFolder tree path) (goesOn _)
    · exact gives_bind (gives_has tree _) (goesOn _)
  rw [told.answer_eq, isBehind.answer_eq, Tree.hasFolder_iff_kind, Option.isSome_map]
  cases isDots text <;> simp

/-- A pattern leads to the entries that fit it. -/
theorem mem_expand_pattern_iff
    {glob : Glob.Pattern}
    {parts : List Part} :
    root ∈ answer tree (expand (.pattern glob :: parts) path) ↔
      ∃ entries, (tree.find? path).map Tree.shape = some (.folder entries) ∧
        ∃ name ∈ fitting glob entries, root ∈ answer tree (expand parts (path.join name)) := by
  cases isShape : (tree.find? path).map Tree.shape with
  | none =>
      have told : Gives tree (expand (.pattern glob :: parts) path) [] :=
        gives_bind (gives_shape? tree path) (by rw [isShape]; exact gives_pure _)
      rw [told.answer_eq]
      exact iff_of_false List.not_mem_nil nofun
  | some shape =>
      cases shape with
      | file content =>
          have told : Gives tree (expand (.pattern glob :: parts) path) [] :=
            gives_bind (gives_shape? tree path) (by rw [isShape]; exact gives_pure _)
          rw [told.answer_eq]
          exact iff_of_false List.not_mem_nil nofun
      | folder entries =>
          have told : Gives tree (expand (.pattern glob :: parts) path)
              ((fitting glob entries).map fun name =>
                answer tree (expand parts (path.join name))).flatten := by
            refine gives_bind (gives_shape? tree path) ?_
            rw [isShape]
            exact gives_bind (gives_mapM (fun name => (looks_expand parts _).gives tree) _)
              (gives_pure _)
          rw [told.answer_eq]
          simp

/-- What is below a path in a tree. -/
def Lies (tree : FileTree) (path : Path) (found : Below) : Prop :=
  ∃ shape, (tree.find? path).map Tree.shape = some shape ∧ found ∈ below path shape

/-- What a path leads to along names lies below it. -/
theorem lies_of_find?
    {between : Location}
    {name : List Char}
    (areNames : ∀ each ∈ between ++ [name], Tree.IsName each)
    {part : FileTree}
    (isPart : tree.find? (along path (between ++ [name])) = some part) :
    Lies tree path ⟨along path (between ++ [name]), name, part.kind⟩ := by
  obtain ⟨whole, isWhole, isThere⟩ := Tree.find?_along areNames isPart
  refine ⟨whole.shape, by rw [isWhole, Option.map_some], ?_⟩
  rw [← Tree.kind_shape]
  apply mem_below_of_get?
  rw [Tree.get?_shape, isThere, Option.map_some]

/-- What is below a path in its tree is what lies there. -/
theorem mem_below_getD_iff
    {found : Below} :
    found ∈ (((tree.find? path).map Tree.shape).map (below path)).getD [] ↔
      Lies tree path found := by
  unfold Lies
  cases (tree.find? path).map Tree.shape with
  | none => exact iff_of_false List.not_mem_nil nofun
  | some shape => simp

/-- Two stars at the end lead to the folders below. -/
theorem mem_expand_deep_iff :
    root ∈ answer tree (expand [.deep] path) ↔
      ∃ found, Lies tree path found ∧ found.kind = .folder ∧ root = found.path := by
  have told : Gives tree (expand [.deep] path) _ :=
    gives_bind (gives_shape? tree path) (gives_pure _)
  rw [told.answer_eq, List.mem_map]
  simp only [List.mem_filter, mem_below_getD_iff, beq_iff_eq, and_assoc, eq_comm (a := root)]

/-- Two stars with a part behind lead to whatever below fits that part. -/
theorem mem_expand_deep_cons_iff
    {part : Part}
    {parts : List Part} :
    root ∈ answer tree (expand (.deep :: part :: parts) path) ↔
      ∃ found, Lies tree path found ∧ part.fits found.name = true ∧
        root ∈ answer tree (expand parts found.path) := by
  have told : Gives tree (expand (.deep :: part :: parts) path) _ :=
    gives_bind (gives_shape? tree path)
      (gives_bind
        (gives_mapM (fun found : Below => (looks_expand parts found.path).gives tree) _)
        (gives_pure _))
  rw [told.answer_eq, List.mem_flatten]
  simp only [List.mem_map, List.mem_filter, mem_below_getD_iff]
  constructor
  · rintro ⟨_, ⟨found, ⟨lies, fits⟩, rfl⟩, isRoot⟩
    exact ⟨found, lies, fits, isRoot⟩
  · rintro ⟨found, lies, fits, isRoot⟩
    exact ⟨_, ⟨found, ⟨lies, fits⟩, rfl⟩, isRoot⟩

/-- Whatever a search gets to, parts lead there along names. -/
theorem exists_leads_of_mem_expand
    (proper : tree.Proper) :
    ∀ {parts : List Part} {path : Path}, Unpaired parts →
      root ∈ answer tree (expand parts path) →
        ∃ names, Leads parts names ∧ root = along path names
  | [], path, _, isRoot => ⟨[], .nil, mem_expand_nil_iff.mp isRoot⟩
  | .name text :: parts, path, unpaired, isRoot => by
      obtain ⟨-, isBehind⟩ := mem_expand_name_iff.mp isRoot
      obtain ⟨names, leads, isAlong⟩ :=
        exists_leads_of_mem_expand proper unpaired.of_cons isBehind
      exact ⟨text :: names, .name leads, isAlong⟩
  | .pattern glob :: parts, path, unpaired, isRoot => by
      obtain ⟨entries, isShape, name, isFitting, isBehind⟩ := mem_expand_pattern_iff.mp isRoot
      obtain ⟨names, leads, isAlong⟩ :=
        exists_leads_of_mem_expand proper unpaired.of_cons isBehind
      obtain ⟨isThere, fits⟩ := mem_fitting_iff.mp isFitting
      refine ⟨name :: names, .pattern ?_ fits leads, isAlong⟩
      refine isThere.imp_left fun isEntry => ?_
      obtain ⟨entry, isIn, rfl⟩ := List.mem_map.mp isEntry
      cases proper.of_find? isShape with
      | folder named distinct inside => exact named entry isIn
  | [.deep], path, unpaired, isRoot => by
      obtain ⟨found, ⟨shape, isShape, isFound⟩, -, rfl⟩ := mem_expand_deep_iff.mp isRoot
      obtain ⟨between, isAlong, areNames, isName⟩ :=
        exists_of_mem_below (proper.of_find? isShape) isFound
      refine ⟨between ++ [found.name], leads_deep_iff.mpr ?_, isAlong⟩
      refine ⟨between ++ [found.name], [], (List.append_nil _).symm, ?_, nofun, by simp, .nil⟩
      exact List.forall_mem_append.mpr ⟨areNames, List.forall_mem_singleton.mpr isName⟩
  | .deep :: part :: parts, path, unpaired, isRoot => by
      obtain ⟨found, ⟨shape, isShape, isFound⟩, fits, isBehind⟩ :=
        mem_expand_deep_cons_iff.mp isRoot
      obtain ⟨between, isAlong, areNames, isName⟩ :=
        exists_of_mem_below (proper.of_find? isShape) isFound
      obtain ⟨names, leads, rfl⟩ :=
        exists_leads_of_mem_expand proper unpaired.of_cons.of_cons isBehind
      have single : part ≠ .deep := fun same => (List.isChain_cons_cons.mp unpaired).1 ⟨rfl, same⟩
      refine ⟨between ++ found.name :: names, leads_deep_iff.mpr ?_, ?_⟩
      · refine ⟨between, found.name :: names, rfl, areNames, ?_, by simp,
          (leads_cons_iff_of_isName single isName).mpr ⟨fits, leads⟩⟩
        rintro name ⟨⟩
        exact isName
      · rw [isAlong, ← along_append, List.append_assoc, List.singleton_append]

/-- A search gets to every folder to which parts lead along names. -/
theorem mem_expand_of_leads :
    ∀ {parts : List Part} {names : Location} {path : Path}, Unpaired parts →
      Leads parts names → (∀ name ∈ names, '/' ∉ name) → tree.HasFolder (along path names) →
        along path names ∈ answer tree (expand parts path)
  | [], names, path, _, leads, _, _ => by
      rw [leads_nil_iff.mp leads]
      exact mem_expand_nil_iff.mpr rfl
  | .name text :: parts, names, path, unpaired, leads, plain, hasFolder => by
      obtain ⟨rest, rfl, leadsBehind⟩ := leads_name_iff.mp leads
      obtain ⟨isPlain, others⟩ := List.forall_mem_cons.mp plain
      have hasNext : tree.HasFolder (path.join text) := Tree.hasFolder_of_along others hasFolder
      refine mem_expand_name_iff.mpr
        ⟨?_, mem_expand_of_leads unpaired.of_cons leadsBehind others hasFolder⟩
      split
      · exact Tree.hasFolder_of_along (List.forall_mem_singleton.mpr isPlain) hasNext
      · obtain ⟨entries, isFolder⟩ := Tree.hasFolder_iff.mp hasNext
        exact Option.isSome_of_eq_some isFolder
  | .pattern glob :: parts, names, path, unpaired, leads, plain, hasFolder => by
      obtain ⟨name, rest, rfl, offered, fits, leadsBehind⟩ := leads_pattern_iff.mp leads
      obtain ⟨isPlain, others⟩ := List.forall_mem_cons.mp plain
      have hasNext : tree.HasFolder (path.join name) := Tree.hasFolder_of_along others hasFolder
      obtain ⟨entries, isFolder⟩ := Tree.hasFolder_iff.mp
        (Tree.hasFolder_of_along (List.forall_mem_singleton.mpr isPlain) hasNext)
      refine mem_expand_pattern_iff.mpr ⟨entries.map fun entry => (entry.1, entry.2.shape), ?_,
        name, mem_fitting_iff.mpr ⟨?_, fits⟩,
        mem_expand_of_leads unpaired.of_cons leadsBehind others hasFolder⟩
      · rw [isFolder, Option.map_some, Tree.shape_folder]
      · refine offered.imp_left fun isName => ?_
        obtain ⟨inside, isThere⟩ := Tree.hasFolder_iff.mp hasNext
        obtain ⟨whole, isWhole, isPart⟩ :=
          Tree.find?_along (List.forall_mem_singleton.mpr isName) isThere
        rw [← Option.some.inj (isFolder.symm.trans isWhole), Tree.get?_folder_cons] at isPart
        obtain ⟨inner, isInner, -⟩ := Option.bind_eq_some_iff.mp isPart
        rw [List.map_map]
        exact List.mem_map.mpr ⟨_, Tree.mem_of_lookup isInner, rfl⟩
  | [.deep], names, path, _, leads, plain, hasFolder => by
      obtain ⟨between, rest, rfl, areNames, -, nonempty, leadsBehind⟩ := leads_deep_iff.mp leads
      obtain rfl := leads_nil_iff.mp leadsBehind
      rw [List.append_nil] at nonempty hasFolder ⊢
      obtain ⟨front, name, rfl⟩ := (List.eq_nil_or_concat between).resolve_left nonempty
      rw [List.concat_eq_append] at areNames hasFolder ⊢
      obtain ⟨entries, isFolder⟩ := Tree.hasFolder_iff.mp hasFolder
      exact mem_expand_deep_iff.mpr ⟨_, lies_of_find? areNames isFolder, rfl, rfl⟩
  | .deep :: part :: parts, names, path, unpaired, leads, plain, hasFolder => by
      obtain ⟨between, behind, rfl, areNames, isHead, -, leadsBehind⟩ := leads_deep_iff.mp leads
      obtain ⟨name, rest, rfl⟩ := leadsBehind.exists_cons
      have isName : Tree.IsName name := isHead name rfl
      have single : part ≠ .deep := fun same => (List.isChain_cons_cons.mp unpaired).1 ⟨rfl, same⟩
      obtain ⟨fits, leadsRest⟩ := (leads_cons_iff_of_isName single isName).mp leadsBehind
      have others : ∀ name ∈ rest, '/' ∉ name := fun name isLater =>
        plain name (List.mem_append_right _ (List.mem_cons_of_mem _ isLater))
      rw [List.append_cons, along_append] at hasFolder ⊢
      obtain ⟨entries, isFolder⟩ := Tree.hasFolder_iff.mp (Tree.hasFolder_of_along others hasFolder)
      have areBetween : ∀ each ∈ between ++ [name], Tree.IsName each :=
        List.forall_mem_append.mpr ⟨areNames, List.forall_mem_singleton.mpr isName⟩
      exact mem_expand_deep_cons_iff.mpr ⟨_, lies_of_find? areBetween isFolder, fits,
        mem_expand_of_leads unpaired.of_cons.of_cons leadsRest others hasFolder⟩

end Expanding

end Discovery
end KeyedText
