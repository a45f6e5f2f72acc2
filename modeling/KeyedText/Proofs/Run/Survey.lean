import KeyedText.Proofs.Files.Selection
import KeyedText.Proofs.Keying.Relocation
import KeyedText.Proofs.Run.Project
import KeyedText.Run.Survey

/-!
# Surveys and dry runs

A survey converts every source file of a folder for the place that its path
names; a dry run converts one file for the place that the path it was asked for
names.  Neither changes the file, both only look until the review log, and what
is decided about a text does not depend on its place.  So a survey lists for
every file what dry runs of that file record.
-/

namespace KeyedText
namespace Run

open World

/-! ## Conversions of one file -/

/-- The outcome for the file at a path. -/
def outcomeAt (converter : Keying.Converter) (file : String) (place : Key.Place)
    (tree : FileTree) (path : Path) : Except Failure Keying.Outcome := do
  let text ← (textOf (tree.read path)).mapError (.sourceUnread file)
  (converter.convert file place text.toList).mapError (.sourceMalformed file)

section Files

variable
    (tree : FileTree)
    (converter : Keying.Converter)
    (file : String)
    (place : Key.Place)

theorem gives_notes
    (events : List Event) :
    Gives tree (events.forM note : Attempt (StateM World) Unit).run (.ok ()) := by
  induction events with
  | nil => exact gives_pure _
  | cons event rest inductionHypothesis =>
      exact gives_run_bind_ok (gives_run_note tree event) inductionHypothesis

theorem gives_convertText
    (text : String) :
    Gives tree (convertText converter file place text).run
      ((converter.convert file place text.toList).mapError (.sourceMalformed file)) := by
  have gives : Gives tree (convertText converter file place text).run
      ((converter.convert file place text.toList).mapError (.sourceMalformed file) >>= pure) :=
    gives_run_bind (gives_run_require tree _ _) fun outcome =>
      gives_run_bind_ok (gives_notes tree outcome.events) (gives_pure _)
  rwa [bind_pure] at gives

/-- A file is surveyed as it is converted. -/
theorem gives_surveyFile
    (settings : Settings)
    (folder path : Path) :
    Gives tree (surveyFile settings converter folder path).run
      ((fun outcome => ⟨nameIn folder path, outcome.ledger.records⟩) <$>
        outcomeAt converter (nameIn folder path)
          (settings.placement.infer (String.ofList path)) tree path) := by
  unfold outcomeAt
  simp only [map_eq_pure_bind, bind_assoc]
  exact gives_run_bind (gives_run_ask _ (gives_readText tree path)) fun text =>
    gives_run_bind (gives_convertText tree converter _ _ text) fun outcome => gives_pure _

/-! ## Dry runs -/

/-- A run fails because a log cannot be opened, or not to its end be written. -/
inductive FailsForLog : Failure → Prop where
  | unopened
      (path : Path)
      (refusal : Refusal) :
      FailsForLog (.logUnopened path refusal)
  | unwritten
      (path : Path)
      (refusal : Refusal) :
      FailsForLog (.logUnwritten path refusal)

/-- How a dry run ends, given the outcome for its file: with the ledger of the outcome, unless it
fails for the log of the sites that are left to a person. -/
def EndsWith (outcome : Except Failure Keying.Outcome) (result : Except Failure Converted) :
    Prop :=
  match outcome, result with
  | .ok outcome, .ok converted => converted.ledger = outcome.ledger
  | .ok _, .error failure => FailsForLog failure
  | .error _, .ok _ => False
  | .error _, .error _ => True

theorem isFile_of_read
    {path : Path}
    {bytes : ByteArray}
    (isRead : tree.read path = .ok bytes) :
    ((tree.find? path).map Tree.kind == some .file) = true := by
  unfold FileTree.read at isRead
  unfold Tree.find?
  cases isFound : tree.find path with
  | error refusal =>
      rw [isFound] at isRead
      cases isRead
  | ok part =>
      rw [isFound] at isRead
      cases part with
      | folder entries => cases isRead
      | file content => rfl

theorem looks_configured
    (folder : Path) :
    Looks (configured folder).run :=
  looks_run_bind (inquires_load folder).looks fun project =>
    looks_run_bind (inquires_tables project).looks fun _ => looks_pure _

/-- A folder is configured by the project that is loaded there. -/
theorem exists_of_configured
    {folder : Path}
    {settings : Settings}
    {tables : Key.Tables}
    (isConfigured : Gives tree (configured folder).run (.ok (settings, tables))) :
    ∃ project,
      project.settings = settings ∧
        Gives tree (Project.load folder).run (.ok project) ∧
          Gives tree project.tables.run (.ok tables) := by
  have fails : ∀ failure, ¬ Gives tree (configured folder).run (.error failure) := by
    intro failure isError
    cases isConfigured.eq isError
  obtain ⟨loaded, loads⟩ := (inquires_load folder).looks tree
  cases loaded with
  | error failure => exact absurd (gives_run_bind_error loads) (fails failure)
  | ok project =>
      obtain ⟨found, finds⟩ := (inquires_tables project).looks tree
      cases found with
      | error failure =>
          exact absurd (gives_run_bind_ok loads (gives_run_bind_error finds)) (fails failure)
      | ok others =>
          have gives : Gives tree (configured folder).run (.ok (project.settings, others)) :=
            gives_run_bind_ok loads (gives_run_bind_ok finds (gives_pure _))
          cases isConfigured.eq gives
          exact ⟨project, rfl, loads, finds⟩

/-- A dry run with settings and tables that are loaded. -/
def dryRunWith (folder : Path) (file : String) (showsLines listsKeys : Bool) (settings : Settings)
    (tables : Key.Tables) : Attempt (StateM World) Converted := do
  let path := folder.join file.toList
  let place := settings.placement.infer (String.ofList path)
  let text ← ask (.sourceUnread file) (Host.readText path)
  let outcome ← convertText (settings.converter tables) file place text
  unless outcome.ledger.reviews.isEmpty do
    log (folder.join reviewLogName.toList) (outcome.ledger.reviews.map (reviewLine file))
  return ⟨file, place, outcome.ledger, text.toList, outcome.output, showsLines, listsKeys, false⟩

theorem convert_eq
    (folder : Path)
    (file : String)
    (showsLines listsKeys : Bool) :
    convert (m := StateM World) folder ⟨file, false, showsLines, listsKeys⟩ = (do
      unless ← ExceptT.lift (Host.isFile (folder.join file.toList)) do throw (.noFile file)
      let project ← Project.load folder
      if project.source.isNone then note defaultSettingsEvent
      let tables ← project.tables
      dryRunWith folder file showsLines listsKeys project.settings tables) := by
  unfold convert dryRunWith
  simp only [Bool.false_and, Bool.false_eq_true, if_false]

/-- What a dry run does at its end, with an outcome: it adds to the review log. -/
theorem ends_log
    {outcome : Keying.Outcome}
    {converted : Converted}
    (ofOutcome : converted.ledger = outcome.ledger)
    (path : Path)
    (lines : List String) :
    Ends tree (EndsWith (.ok outcome)) (log path lines >>= fun _ => pure converted) := by
  have ofLines : ∀ world, EndsWith (.ok outcome) (resultIn world
      ((lines.forM fun line => ask (.logUnwritten path)
        (Host.append path (line ++ "\n").toUTF8)) >>= fun _ => pure converted)) := by
    induction lines with
    | nil => exact fun _ => ofOutcome
    | cons line rest inductionHypothesis =>
        intro world
        rw [List.forM, bind_assoc]
        exact ends_ask_bind (.logUnwritten path) _ (fun refusal => .unwritten path refusal)
          (fun _ => inductionHypothesis) world rfl
  unfold log
  rw [bind_assoc]
  exact ends_ask_bind _ _ (fun refusal => .unopened path refusal) fun _ => ofLines

/-- A dry run ends with the outcome of the conversion of its file. -/
theorem dryRunWith_ends
    (folder : Path)
    (showsLines listsKeys : Bool)
    (settings : Settings)
    (tables : Key.Tables) :
    Ends tree
      (EndsWith
        (outcomeAt (settings.converter tables) file
          (settings.placement.infer (String.ofList (folder.join file.toList))) tree
          (folder.join file.toList)))
      (dryRunWith folder file showsLines listsKeys settings tables) := by
  have asked := gives_run_ask (.sourceUnread file)
    (gives_readText tree (folder.join file.toList))
  unfold outcomeAt dryRunWith
  dsimp only
  cases isRead : (textOf (tree.read (folder.join file.toList))).mapError
      (Failure.sourceUnread file) with
  | error failure =>
      rw [isRead] at asked
      exact ends_of_gives (gives_run_bind_error asked) trivial
  | ok text =>
      rw [isRead] at asked
      refine ends_bind asked ?_
      have converts := gives_convertText tree (settings.converter tables) file
        (settings.placement.infer (String.ofList (folder.join file.toList))) text
      dsimp only [bind, Except.bind]
      cases isConverted : ((settings.converter tables).convert file
          (settings.placement.infer (String.ofList (folder.join file.toList)))
          text.toList).mapError (Failure.sourceMalformed file) with
      | error failure =>
          rw [isConverted] at converts
          exact ends_of_gives (gives_run_bind_error converts) trivial
      | ok outcome =>
          rw [isConverted] at converts
          refine ends_bind converts ?_
          split
          · exact ends_of_gives (gives_pure _) rfl
          · exact ends_log tree rfl _ _

/-- A dry run ends like the outcome for its file. -/
theorem convert_ends
    {settings : Settings}
    {tables : Key.Tables}
    (folder : Path)
    (showsLines listsKeys : Bool)
    (isConfigured : Gives tree (configured folder).run (.ok (settings, tables))) :
    Ends tree
      (EndsWith
        (outcomeAt (settings.converter tables) file
          (settings.placement.infer (String.ofList (folder.join file.toList))) tree
          (folder.join file.toList)))
      (convert folder ⟨file, false, showsLines, listsKeys⟩) := by
  obtain ⟨project, rfl, isLoaded, hasTables⟩ := exists_of_configured tree isConfigured
  rw [convert_eq]
  refine ends_bind (gives_run_lift (gives_isFile tree _)) ?_
  split
  · have ends := dryRunWith_ends tree file folder showsLines listsKeys project.settings tables
    refine ends_bind isLoaded ?_
    dsimp only
    split
    · exact ends_bind (gives_run_note tree _) (ends_bind hasTables ends)
    · exact ends_bind hasTables ends
  · next isNoFile =>
      refine ends_of_gives (gives_run_bind_error (gives_pure _)) ?_
      unfold outcomeAt
      cases isRead : tree.read (folder.join file.toList) with
      | error refusal => trivial
      | ok bytes => exact absurd (isFile_of_read tree isRead) isNoFile

end Files

/-! ## Listings -/

/-- What a record tells of its site, whatever the key. -/
def mention (record : Record) : SiteKind × String × Nat :=
  (record.kind, record.text, record.line)

/-- What the outcome for a file mentions, if there is an outcome. -/
def mentions (outcome : Except Failure Keying.Outcome) : Option (List (SiteKind × String × Nat)) :=
  outcome.toOption.map fun outcome => outcome.ledger.records.map mention

/-- A dry run records a listing; it fails only if there is none, or for the log of the sites that
are left to a person. -/
inductive Lists (listing : Option (List (SiteKind × String × Nat))) :
    Except Failure Converted → Prop where
  | records
      (converted : Converted)
      (isListing : listing = some (converted.ledger.records.map mention)) :
      Lists listing (.ok converted)
  | unreadable
      (failure : Failure)
      (noListing : listing = none) :
      Lists listing (.error failure)
  | unlogged
      (failure : Failure)
      (forLog : FailsForLog failure) :
      Lists listing (.error failure)

theorem lists_of_endsWith
    {outcome : Except Failure Keying.Outcome}
    {result : Except Failure Converted}
    (ends : EndsWith outcome result) :
    Lists (mentions outcome) result := by
  cases outcome with
  | error failure =>
      cases result with
      | error other => exact .unreadable other rfl
      | ok converted => exact ends.elim
  | ok outcome =>
      cases result with
      | error failure => exact .unlogged failure ends
      | ok converted =>
          have sameLedger : converted.ledger = outcome.ledger := ends
          apply Lists.records
          rw [sameLedger]
          rfl

/-- What is found in a file does not depend on how a failure to read it is told. -/
theorem mentions_bind
    {read : Except Refusal String}
    (firstCause secondCause : Refusal → Failure)
    {first second : String → Except Failure Keying.Outcome}
    (same : ∀ text, mentions (first text) = mentions (second text)) :
    mentions (read.mapError firstCause >>= first) =
      mentions (read.mapError secondCause >>= second) := by
  cases read with
  | error refusal => rfl
  | ok text => exact same text

theorem mentions_mapError
    {converter : Keying.Converter}
    {firstPlace secondPlace : Key.Place}
    {source : List Char}
    {first second : Except Keying.SourceFault Keying.Outcome}
    (alike : Keying.AlikeResults converter firstPlace secondPlace source first second)
    (firstCause secondCause : Keying.SourceFault → Failure) :
    mentions (first.mapError firstCause) = mentions (second.mapError secondCause) := by
  cases alike with
  | error fault => rfl
  | ok first second firstMade secondMade ofFirst ofSecond sites records reviews =>
      have sameMentions : first.ledger.records.map mention = second.ledger.records.map mention := by
        rw [← List.forall₂_eq_eq_eq, List.forall₂_map_left_iff, List.forall₂_map_right_iff]
        refine records.imp fun left right related => ?_
        unfold mention
        rw [related.kind, related.text, related.line]
      exact congrArg some sameMentions

/-- What is converted in a file does not depend on the name or the place of it. -/
theorem mentions_outcomeAt
    (converter : Keying.Converter)
    (firstFile secondFile : String)
    (firstPlace secondPlace : Key.Place)
    {firstTree secondTree : FileTree}
    {firstPath secondPath : Path}
    (sameBytes : firstTree.read firstPath = secondTree.read secondPath) :
    mentions (outcomeAt converter firstFile firstPlace firstTree firstPath) =
      mentions (outcomeAt converter secondFile secondPlace secondTree secondPath) := by
  unfold outcomeAt
  rw [sameBytes]
  apply mentions_bind
  intro text
  exact mentions_mapError (Keying.convert_alike converter firstPlace secondPlace firstFile
    secondFile text.toList) _ _

/-- What a conversion of the file at a path lists, if its text can be read. -/
def listing? (settings : Settings) (tables : Key.Tables) (tree : FileTree) (path : Path) :
    Option (List (SiteKind × String × Nat)) :=
  mentions (outcomeAt (settings.converter tables) (String.ofList path)
    (settings.placement.infer (String.ofList path)) tree path)

/-- The findings of a survey are the listings of files, in order, that are not empty. -/
theorem map_findings_gather
    (settings : Settings)
    (tables : Key.Tables)
    (tree : FileTree)
    (root : Path)
    (top : Nat)
    (paths : List Path) :
    (Surveyed.gather top (paths.map fun path =>
          (fun outcome => ⟨nameIn root path, outcome.ledger.records⟩) <$>
            outcomeAt (settings.converter tables) (nameIn root path)
              (settings.placement.infer (String.ofList path)) tree path)).findings.map
        (fun finding => (finding.file, finding.records.map mention)) =
      paths.filterMap fun path =>
        ((listing? settings tables tree path).filter fun list => !list.isEmpty).map
          (nameIn root path, ·) := by
  unfold Surveyed.gather
  dsimp only
  rw [List.filterMap_map, List.filter_filterMap, List.map_filterMap]
  apply List.filterMap_congr
  intro path _
  have sameMentions := mentions_outcomeAt (settings.converter tables) (String.ofList path)
    (nameIn root path) (settings.placement.infer (String.ofList path))
    (settings.placement.infer (String.ofList path)) (rfl : tree.read path = tree.read path)
  rw [listing?, sameMentions, Function.comp_apply]
  cases outcomeAt (settings.converter tables) (nameIn root path)
      (settings.placement.infer (String.ofList path)) tree path with
  | error failure => rfl
  | ok outcome =>
      change Option.map _ (Option.filter _ (some _)) = Option.map _ (Option.filter _ (some _))
      rw [Option.filter_some, Option.filter_some]
      dsimp only
      rw [List.isEmpty_map]
      split
      · rfl
      · rfl

/-! ## Surveys -/

/-- The folder that a survey starts from. -/
def SurveyOrder.root (order : SurveyOrder) (folder : Path) : Path :=
  match order.folder with
  | some path => folder.join path.toList
  | none => folder

/-- Where the source files of a project are looked for. -/
def scopeOf (settings : Settings) : Discovery.Scope :=
  ⟨settings.includes, settings.ignores, settings.skipsTests⟩

/-- The source files that a survey goes through. -/
def surveyedPaths (root : Path) (settings : Settings) : StateM World (List Path) :=
  Discovery.find root (scopeOf settings)

/-- A survey of a folder goes through its source files in order. -/
theorem gives_survey
    {tree : FileTree}
    {settings : Settings}
    {tables : Key.Tables}
    (folder : Path)
    (order : SurveyOrder)
    (isFolder : answer tree (Host.isFolder (order.root folder)) = true)
    (isConfigured : Gives tree (configured (order.root folder)).run (.ok (settings, tables))) :
    Gives tree (survey folder order).run
      (.ok (.gather order.top ((answer tree (surveyedPaths (order.root folder) settings)).map
        fun path =>
          (fun outcome => ⟨nameIn (order.root folder) path, outcome.ledger.records⟩) <$>
            outcomeAt (settings.converter tables) (nameIn (order.root folder) path)
              (settings.placement.infer (String.ofList path)) tree path))) := by
  obtain ⟨project, rfl, isLoaded, hasTables⟩ := exists_of_configured tree isConfigured
  have asked := (looks_isFolder (order.root folder)).gives tree
  rw [isFolder] at asked
  have found := (Discovery.looks_find (order.root folder) (scopeOf project.settings)).gives tree
  unfold survey
  refine gives_run_bind_ok (gives_run_lift asked) ?_
  refine gives_run_bind_ok isLoaded (gives_run_bind_ok hasTables ?_)
  refine gives_run_bind_ok (gives_run_lift found) (gives_run_bind_ok (gives_run_note tree _) ?_)
  dsimp only
  rw [mapM_lift]
  refine gives_run_bind_ok (gives_run_lift (gives_mapM (fun path => ?_) _)) (gives_pure _)
  exact gives_surveyFile tree _ project.settings (order.root folder) path

/-- What a survey that starts from a folder of a world finds is what dry runs record. -/
structure ListsDryRuns (world : World) (root : Path) (settings : Settings) (tables : Key.Tables)
    (surveyed : Surveyed) : Prop where
  /-- The survey goes through its files in order, through each of them once. -/
  inOrder : (answer world.tree (surveyedPaths root settings)).Pairwise (· < ·)
  /-- If the settings include paths alone, these are the files that they select. -/
  selected :
    (∀ text ∈ settings.includes, Glob.hasWildcard text.toList = false) →
      ∀ path,
        path ∈ answer world.tree (surveyedPaths root settings) ↔
          Discovery.Selects world.tree root (scopeOf settings) path
  /-- Found are the files for which there is something to list, in that order. -/
  findings :
    surveyed.findings.map (fun finding => (finding.file, finding.records.map mention)) =
      (answer world.tree (surveyedPaths root settings)).filterMap fun path =>
        ((listing? settings tables world.tree path).filter fun list => !list.isEmpty).map
          (nameIn root path, ·)
  /-- A dry run with the same settings and tables records what is listed for the text of its
  file, wherever that file is. -/
  dryRuns :
    ∀ (path : Path) (dry : World) (folder : Path) (file : String) (showsLines listsKeys : Bool),
      dry.tree.read (folder.join file.toList) = world.tree.read path →
      answer dry.tree (configured folder).run = .ok (settings, tables) →
        Lists (listing? settings tables world.tree path)
          (resultIn dry (convert folder ⟨file, false, showsLines, listsKeys⟩))

/-- What is decided about a text does not depend on its place.  So a survey finds, in the order of
their paths, the files in which dry runs record anything, each with what they record. -/
theorem survey_lists_dry_runs
    (world : World)
    (folder : Path)
    (order : SurveyOrder)
    (settings : Settings)
    (tables : Key.Tables)
    (isFolder : answer world.tree (Host.isFolder (order.root folder)) = true)
    (isConfigured : answer world.tree (configured (order.root folder)).run =
      .ok (settings, tables)) :
    (∀ converter firstPlace secondPlace firstPath secondPath source,
        Keying.AlikeResults converter firstPlace secondPlace source
          (converter.convert firstPath firstPlace source)
          (converter.convert secondPath secondPlace source)) ∧
      ∃ surveyed,
        resultIn world (survey folder order) = .ok surveyed ∧
          ListsDryRuns world (order.root folder) settings tables surveyed := by
  have gives := (looks_configured (order.root folder)).gives world.tree
  rw [isConfigured] at gives
  refine ⟨?_, _, (gives_survey folder order isFolder gives world rfl).1, ?_⟩
  · intro converter firstPlace secondPlace firstPath secondPath source
    exact Keying.convert_alike converter firstPlace secondPlace firstPath secondPath source
  · refine ⟨Discovery.pairwise_find _ _ _, ?_, ?_, ?_⟩
    · exact fun literal path => Discovery.mem_answer_find_iff literal
    · exact map_findings_gather settings tables world.tree (order.root folder) order.top _
    · intro path dry dryFolder file showsLines listsKeys sameBytes sameConfiguration
      have dryGives := (looks_configured dryFolder).gives dry.tree
      rw [sameConfiguration] at dryGives
      have ends := convert_ends dry.tree file dryFolder showsLines listsKeys dryGives dry rfl
      rw [listing?, mentions_outcomeAt (settings.converter tables) (String.ofList path) file
        (settings.placement.infer (String.ofList path))
        (settings.placement.infer (String.ofList (dryFolder.join file.toList))) sameBytes.symm]
      exact lists_of_endsWith ends

/-- Settings with which source files are looked for in another folder than the usual one. -/
def librarySettingsText : String :=
  "\x7b\"includes\": [\"lib\"], \"keymapPath\": \"keys.json\", \"slugMaxLength\": 20\x7d"

/-- A folder with settings and a key table of its own, and with source files of which one holds no
text and one cannot be parsed. -/
def libraryTree : FileTree :=
  .folder [("home".toList, .folder [
    (settingsName.toList, .file librarySettingsText.toUTF8),
    ("keys.json".toList, .file "\x7b\"hello\": \"greeting\"\x7d".toUTF8),
    ("lib".toList, .folder [
      ("b.tsx".toList, .file "const b =\n  <b title='Save the file' />;".toUTF8),
      ("a.tsx".toList, .file "const a = <b>Hello</b>;".toUTF8),
      ("c.ts".toList, .file "const c = 3;".toUTF8),
      ("d.ts".toList, .file "const d = (;".toUTF8)])])]

/-- What the settings of that folder say. -/
def librarySettings : Settings :=
  { Settings.default with
    includes := ["lib"]
    patternsPath := "keys.json"
    slugLimit := 20 }

/-- What the key tables of that folder say. -/
def libraryTables : Key.Tables :=
  ⟨[("hello", "greeting")], []⟩

/-- A world with that folder. -/
def libraryWorld : World :=
  ⟨libraryTree, []⟩

/-- A survey of the folder from which paths start. -/
def libraryOrder : SurveyOrder :=
  ⟨none, 5⟩

theorem answer_configured_library :
    answer libraryTree (configured "/home".toList).run = .ok (librarySettings, libraryTables) := by
  decide +kernel

/-- The files are found in order, though the folder lists them otherwise. -/
theorem answer_surveyedPaths_library :
    answer libraryTree (surveyedPaths "/home".toList librarySettings) =
      ["/home/lib/a.tsx".toList, "/home/lib/b.tsx".toList, "/home/lib/c.ts".toList,
        "/home/lib/d.ts".toList] := by
  let scope := scopeOf librarySettings
  have areWalked : (answer libraryTree (Discovery.walks
        (answer libraryTree (Discovery.roots "/home".toList scope)))).flatten.filter
          (fun path => Discovery.isSource path &&
            !(answer libraryTree (scope.exclusion "/home".toList)).covers path) =
      ["/home/lib/b.tsx".toList, "/home/lib/a.tsx".toList, "/home/lib/c.ts".toList,
        "/home/lib/d.ts".toList] := by
    decide +kernel
  refine (Discovery.pairwise_find _ _ _).eq_of_mem_iff (by decide +kernel) fun path => ?_
  rw [Discovery.answer_find, Discovery.mem_inOrder_iff, areWalked]
  exact (List.Perm.swap _ _ _).mem_iff

/-- Two of the four files are found, and a dry run from another folder records for one of them what
the survey lists for it. -/
theorem survey_lists_dry_runs_of_library :
    ∃ surveyed,
      resultIn libraryWorld (survey "/home".toList libraryOrder) = .ok surveyed ∧
        surveyed.findings.map (fun finding => (finding.file, finding.records.map mention)) =
          [("lib/a.tsx", [(.elementText, "Hello", 1)]),
            ("lib/b.tsx", [(.attributeValue, "Save the file", 2)])] ∧
        ∃ converted,
          resultIn libraryWorld (convert "/home/lib".toList ⟨"a.tsx", false, false, false⟩) =
              .ok converted ∧
            converted.ledger.records.map mention = [(.elementText, "Hello", 1)] := by
  have isRoot : libraryOrder.root "/home".toList = "/home".toList := rfl
  have isConfigured := answer_configured_library
  obtain ⟨-, surveyed, isSurveyed, listed⟩ :=
    survey_lists_dry_runs libraryWorld "/home".toList libraryOrder librarySettings libraryTables
      (by rw [isRoot]; decide +kernel) (by rw [isRoot]; exact isConfigured)
  rw [isRoot] at listed
  have areFindings := listed.findings
  have arePaths : answer libraryWorld.tree (surveyedPaths "/home".toList librarySettings) =
      ["/home/lib/a.tsx".toList, "/home/lib/b.tsx".toList, "/home/lib/c.ts".toList,
        "/home/lib/d.ts".toList] :=
    answer_surveyedPaths_library
  rw [arePaths] at areFindings
  refine ⟨surveyed, isSurveyed, areFindings.trans (by decide +kernel), ?_⟩
  have isListing : listing? librarySettings libraryTables libraryWorld.tree
      "/home/lib/a.tsx".toList = some [(.elementText, "Hello", 1)] := by
    decide +kernel
  have sameFile : Path.join "/home/lib".toList "a.tsx".toList = "/home/lib/a.tsx".toList := by
    decide +kernel
  have ofFile := listed.dryRuns "/home/lib/a.tsx".toList libraryWorld "/home/lib".toList "a.tsx"
    false false (by rw [sameFile]) (by decide +kernel)
  have succeeds : (resultIn libraryWorld
      (convert "/home/lib".toList ⟨"a.tsx", false, false, false⟩)).toOption.isSome = true := by
    decide +kernel
  rw [isListing] at ofFile
  generalize resultIn libraryWorld
    (convert "/home/lib".toList ⟨"a.tsx", false, false, false⟩) = result at ofFile succeeds ⊢
  cases ofFile with
  | records converted areRecords => exact ⟨converted, rfl, (Option.some.inj areRecords).symm⟩
  | unreadable failure noListing => cases succeeds
  | unlogged failure forLog => cases succeeds

end Run
end KeyedText
