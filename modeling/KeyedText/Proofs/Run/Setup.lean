import KeyedText.Proofs.Files.Parent
import KeyedText.Proofs.Run.Search
import KeyedText.Proofs.Settings.Restoration
import KeyedText.Run.Setup

/-!
# Conversions behind a setup

A setup writes the default settings into a folder.  They are read back as what
they are, so a conversion behind the setup ends as it would have ended without
any settings: with the same result, and with the same files but for the new one.
Only a conversion of the new file itself ends otherwise, since now there is one.
-/

namespace KeyedText
namespace World

/-- The world behind an attempt. -/
def behind (world : World) (attempt : Run.Attempt (StateM World) α) : World :=
  (attempt.run.run world).2

end World

namespace Run

open World

/-! ## Loading -/

section Loading

variable
    {tree : FileTree}

/-- A folder without settings has the default ones. -/
theorem finds_load_of_none
    {folder : Path}
    (noSettings : answer tree (settingsPath? folder) = none) :
    Finds tree (Project.load folder).run (.ok ⟨.default, folder, none⟩) := by
  obtain ⟨path?, -, finds⟩ := exists_searched tree folder.upwards
  have isNone : path? = none := by
    rw [← noSettings, settingsPath?, answer, finds ⟨tree, []⟩ rfl]
  rw [isNone] at finds
  exact finds_run_bind (finds_run_lift finds) (finds_pure _)

/-- The default settings are accepted by the check of settings. -/
theorem fault?_default : Settings.default.fault? = none := by
  rfl

/-- What a setup writes is read as the default settings. -/
theorem ofText_defaultSettingsText :
    Settings.ofText defaultSettingsText.toList = .ok .default :=
  Settings.ofText_toJson ((Settings.prints_toJson (by decide)).pretty 0)

/-- The default settings in a folder are loaded as they are. -/
theorem finds_load_of_default
    {folder : Path}
    (isTrimmed : folder.trimmedEnd = folder)
    (isHeld : tree.view? (folder.join settingsName.toList) =
      some (some defaultSettingsText.toUTF8)) :
    Finds tree (Project.load folder).run
      (.ok ⟨.default, folder, some (folder.join settingsName.toList)⟩) := by
  have found : Finds tree (settingsPath? folder) (some (folder.join settingsName.toList)) := by
    obtain ⟨above, isFirst⟩ := Path.exists_upwards_eq folder
    have isThere : Finds tree (Host.has (folder.join settingsName.toList)) true := by
      have finds := finds_has tree (folder.join settingsName.toList)
      rwa [isHeld] at finds
    unfold settingsPath?
    rw [isFirst]
    exact finds_bind isThere (finds_pure _)
  have loaded : Finds tree (loadSettings (folder.join settingsName.toList)).run (.ok .default) := by
    refine finds_run_bind (finds_bind (finds_readText isHeld) (finds_pure _)) ?_
    rw [ofText_defaultSettingsText]
    refine finds_run_bind (finds_pure _) ?_
    rw [fault?_default]
    exact finds_pure _
  refine finds_run_bind (finds_run_lift found) (finds_run_bind loaded ?_)
  rw [Path.parent?_join isName_settingsName isTrimmed]
  exact finds_pure _

end Loading

/-! ## Setting up and converting -/

/-- A setup that goes well puts the default settings where nothing was. -/
theorem setUp_leaves
    (tree : FileTree)
    (folder : Path) :
    Leaves tree
      (fun result after => result = .ok () →
        tree.view? (folder.join settingsName.toList) = none ∧
          tree.Puts (folder.join settingsName.toList) defaultSettingsText.toUTF8 after)
      (setUp folder) := by
  unfold setUp
  refine leaves_bind_of_gives (gives_run_lift (gives_has tree _)) ?_
  cases isThere : (tree.find? (folder.join settingsName.toList)).map Tree.kind with
  | some kind => exact leaves_throw nofun
  | none =>
      rw [Option.map_eq_none_iff] at isThere
      have absent : tree.view? (folder.join settingsName.toList) = none := by
        rw [Tree.view?_eq, isThere]
        rfl
      dsimp only [Option.isSome_none]
      rw [if_neg Bool.false_ne_true, ← bind_pure (ask _ _)]
      refine leaves_write_bind _ (fun _ => nofun) (fun _ _ _ _ _ => nofun) fun after puts => ?_
      exact leaves_pure fun _ => ⟨absent, puts⟩

/-- Changing the tree tells nothing, and the disk stays the same. -/
theorem behind_ask_change
    (world : World)
    (cause : Refusal → Failure)
    (update : Disk → FileTree → Except Refusal Unit × FileTree) :
    (behind world (ask cause (change update))).events = world.events ∧
      (behind world (ask cause (change update))).disk = world.disk := by
  unfold behind ask
  rw [ExceptT.run_mk, StateT.run_bind]
  cases isUpdated : update world.disk world.tree with
  | mk result after =>
      rw [run_change isUpdated]
      cases result with
      | ok done => exact ⟨rfl, rfl⟩
      | error refusal => exact ⟨rfl, rfl⟩

/-- A setup tells nothing, and the disk stays the same. -/
theorem behind_setUp
    (world : World)
    (folder : Path) :
    (behind world (setUp folder)).events = world.events ∧
      (behind world (setUp folder)).disk = world.disk := by
  have finds := finds_has world.tree (folder.join settingsName.toList)
  unfold behind setUp
  dsimp only
  rw [run_bind_of_finds (finds_run_lift finds)]
  split
  · exact ⟨rfl, rfl⟩
  · exact behind_ask_change world _ _

/-- A conversion of what is no file fails for that. -/
theorem finds_convert_of_noFile
    {tree : FileTree}
    {folder : Path}
    {order : ConversionOrder}
    (noFile : ((tree.view? (order.target folder)).map Tree.kindOfView == some .file) = false) :
    Finds tree (convert folder order).run (.error (.noFile order.file)) := by
  have isNone := finds_isFile tree (order.target folder)
  rw [noFile] at isNone
  rw [convert_eq_convertIn]
  exact finds_run_bind (finds_run_lift isNone) (finds_pure _)

/-- A conversion of a file is one in the project that is loaded. -/
theorem run_convert_of_isFile
    {world : World}
    {folder : Path}
    {order : ConversionOrder}
    (isFile : ((world.tree.view? (order.target folder)).map Tree.kindOfView == some .file) = true)
    {project : Project}
    (loads : Finds world.tree (Project.load folder).run (.ok project)) :
    (convert (m := StateM World) folder order).run.run world =
      (convertIn folder order project).run.run
        { world with
          events := world.events ++
            if project.source.isNone then [defaultSettingsEvent] else [] } := by
  have isSome := finds_isFile world.tree (order.target folder)
  rw [isFile] at isSome
  rw [convert_eq_convertIn, run_bind_of_finds (finds_run_lift isSome)]
  dsimp only
  rw [if_pos rfl]
  rw [run_bind_of_finds loads]
  cases project.source with
  | none => rfl
  | some path =>
      rw [Option.isNone_some, if_neg Bool.false_ne_true, if_neg Bool.false_ne_true,
        List.append_nil]

/-- A conversion in a project does not depend on where its settings come from. -/
theorem convertIn_source
    (folder : Path)
    (order : ConversionOrder)
    (settings : Settings)
    (base : Path)
    (source : Option Path) :
    convertIn folder order ⟨settings, base, source⟩ =
      convertIn folder order ⟨settings, base, none⟩ :=
  rfl

/-- A file in a folder of the project folder is not at the place of the settings. -/
theorem not_samePlace_inner
    (tree : FileTree)
    {inner name : List Char}
    (isInner : Tree.IsName inner)
    (isName : Tree.IsName name)
    (differs : name ≠ settingsName.toList)
    (folder : Path) :
    ¬ tree.SamePlace (folder.join (inner ++ '/' :: name)) (folder.join settingsName.toList) := by
  rintro ⟨leads, same⟩
  obtain ⟨location, isLocation⟩ := Option.isSome_iff_exists.mp leads
  have isSettings := Tree.getLast?_place?_join isName_settingsName (same ▸ isLocation)
  rw [← Path.join_join isInner isName] at isLocation
  have isOther := Tree.getLast?_place?_join isName isLocation
  exact differs (Option.some.inj (isOther.symm.trans isSettings))

/-- The tables of the default settings are not at the place of the settings. -/
theorem not_samePlace_tables
    (tree : FileTree)
    (folder : Path) :
    ¬ tree.SamePlace (folder.join Settings.default.patternsPath.toList)
        (folder.join settingsName.toList) ∧
      ¬ tree.SamePlace (folder.join Settings.default.synonymsPath.toList)
        (folder.join settingsName.toList) := by
  have arePaths : Settings.default.patternsPath.toList =
        "scripts".toList ++ '/' :: "i18n-keymap.json".toList ∧
      Settings.default.synonymsPath.toList =
        "scripts".toList ++ '/' :: "i18n-synonyms.json".toList := by
    decide
  have isInner : Tree.IsName "scripts".toList := ⟨by decide, by decide, by decide⟩
  have isPatterns : Tree.IsName "i18n-keymap.json".toList := ⟨by decide, by decide, by decide⟩
  have isSynonyms : Tree.IsName "i18n-synonyms.json".toList := ⟨by decide, by decide, by decide⟩
  rw [arePaths.1, arePaths.2]
  exact ⟨not_samePlace_inner tree isInner isPatterns (by decide) folder,
    not_samePlace_inner tree isInner isSynonyms (by decide) folder⟩

section Behind

variable
    {world : World}
    {folder : Path}
    {order : ConversionOrder}
    (apart : ¬ world.tree.SamePlace (order.target folder) (folder.join settingsName.toList))

include apart

/-- A conversion with the default settings does not ask for the file of the settings. -/
theorem avoids_settings
    (settingsLead : (world.tree.place? (folder.join settingsName.toList)).isSome)
    (targetLeads : (world.tree.place? (order.target folder)).isSome)
    (content : ByteArray)
    (toldWithout toldWith : List Event)
    (source : Option Path) :
    Avoids ⟨folder.join settingsName.toList, content, world.tree, toldWithout, toldWith⟩ folder
      order ⟨.default, folder, source⟩ where
  patterns := (not_samePlace_tables world.tree folder).1
  synonyms := (not_samePlace_tables world.tree folder).2
  target := apart
  targetLeads := targetLeads
  reviews := Tree.not_samePlace_join _ isName_reviewLogName isName_settingsName (by decide) _
  reviewsLead := by
    rwa [Tree.isSome_place?_join _ isName_reviewLogName isName_settingsName]
  changes := Tree.not_samePlace_join _ isName_changeLogName isName_settingsName (by decide) _
  changesLead := by
    rwa [Tree.isSome_place?_join _ isName_changeLogName isName_settingsName]

variable
    (isTrimmed : folder.trimmedEnd = folder)
    (noSettings : answer world.tree (settingsPath? folder) = none)
    (succeeds : resultIn world (setUp folder) = .ok ())

include isTrimmed noSettings succeeds

/-- A conversion behind a setup gives what it would have given without any settings. Also the files
are the same but for the new one, and so is what is told but for the event of a project without
settings. -/
theorem convert_behind_setUp :
    resultIn (behind world (setUp folder)) (convert folder order) =
        resultIn world (convert folder order) ∧
      (treeBehind world (convert folder order)).Puts (folder.join settingsName.toList)
          defaultSettingsText.toUTF8
          (treeBehind (behind world (setUp folder)) (convert folder order)) ∧
        ∃ note told, (note = [] ∨ note = [defaultSettingsEvent]) ∧
          (behind world (convert folder order)).events = world.events ++ (note ++ told) ∧
            (behind (behind world (setUp folder)) (convert folder order)).events =
              world.events ++ told := by
  obtain ⟨absent, puts⟩ := setUp_leaves world.tree folder world rfl succeeds
  obtain ⟨isTold, sameDisk⟩ := behind_setUp world folder
  have isTree : (behind world (setUp folder)).tree = treeBehind world (setUp folder) := rfl
  rw [← isTree] at puts
  generalize behind world (setUp folder) = ready at *
  have sameView : ready.tree.view? (order.target folder) =
      world.tree.view? (order.target folder) :=
    puts.view?_of_not_samePlace apart
  unfold resultIn treeBehind behind
  cases isFile : ((world.tree.view? (order.target folder)).map Tree.kindOfView == some .file) with
  | false =>
      have first := finds_convert_of_noFile isFile world rfl
      rw [← sameView] at isFile
      have second := finds_convert_of_noFile isFile ready rfl
      rw [first, second]
      exact ⟨rfl, puts, [], [], .inl rfl, by simp, by simp [isTold]⟩
  | true =>
      have first := run_convert_of_isFile isFile (finds_load_of_none noSettings)
      have targetLeads : (world.tree.place? (order.target folder)).isSome := by
        cases isSeen : world.tree.view? (order.target folder) with
        | some seen => exact Tree.isSome_place?_of_view? isSeen
        | none =>
            rw [isSeen] at isFile
            cases isFile
      rw [← sameView] at isFile
      have second := run_convert_of_isFile isFile (finds_load_of_default isTrimmed puts.holds)
      rw [Option.isNone_some, if_neg Bool.false_ne_true, List.append_nil, convertIn_source]
        at second
      rw [Option.isNone_none, if_pos rfl] at first
      let difference : Difference := ⟨folder.join settingsName.toList, defaultSettingsText.toUTF8,
        world.tree, world.events ++ [defaultSettingsEvent], world.events⟩
      have differ : Differ difference
          { world with events := world.events ++ [defaultSettingsEvent] } ready :=
        ⟨sameDisk, puts, fun _ => rfl, [], by rw [List.append_nil],
          by rw [List.append_nil]; exact isTold⟩
      have avoids : Avoids difference folder order ⟨.default, folder, none⟩ :=
        avoids_settings apart puts.leads targetLeads _ _ _ none
      obtain ⟨sameResult, -, puts, -, told, toldWithout, toldWith⟩ :=
        blind_convertIn avoids _ _ differ
      rw [first, second]
      refine ⟨sameResult.symm, puts, [defaultSettingsEvent], told, .inr rfl, ?_, toldWith⟩
      rw [← List.append_assoc]
      exact toldWithout

end Behind

/-! ## Files that are there -/

/-- Whether a run fails because there is no file to convert. -/
def isOfFile : Failure → Bool
  | .noFile _ => true
  | _ => false

/-- An attempt that fails for want of a file in no world. -/
def HasFile (attempt : Attempt (StateM World) α) : Prop :=
  ∀ world failure, resultIn world attempt = .error failure → isOfFile failure = false

theorem hasFile_pure
    (value : α) :
    HasFile (pure value) := by
  intro world failure fails
  cases fails

theorem hasFile_throw
    {failure : Failure}
    (isOther : isOfFile failure = false) :
    HasFile (throw failure : Attempt (StateM World) α) := by
  rintro world _ ⟨⟩
  exact isOther

/-- Attempts in a row fail for a missing file only if one of them does. -/
theorem hasFile_bind
    {attempt : Attempt (StateM World) α}
    {next : α → Attempt (StateM World) β}
    (first : HasFile attempt)
    (second : ∀ value, HasFile (next value)) :
    HasFile (attempt >>= next) := by
  intro world failure fails
  unfold resultIn at fails
  rw [ExceptT.run_bind, StateT.run_bind] at fails
  cases isResult : resultIn world attempt with
  | error cause =>
      have isCause := first world cause isResult
      unfold resultIn at isResult
      dsimp only [bind] at fails
      rw [isResult] at fails
      cases fails
      exact isCause
  | ok value =>
      unfold resultIn at isResult
      dsimp only [bind] at fails
      rw [isResult] at fails
      exact second value _ failure fails

theorem hasFile_lift
    (action : StateM World α) :
    HasFile (ExceptT.lift action : Attempt (StateM World) α) := by
  intro world failure fails
  cases fails

theorem hasFile_require
    {cause : ε → Failure}
    (isOther : ∀ fault, isOfFile (cause fault) = false)
    (result : Except ε α) :
    HasFile (require cause result : Attempt (StateM World) α) := by
  cases result with
  | ok value => exact hasFile_pure value
  | error fault => exact hasFile_throw (isOther fault)

theorem hasFile_ask
    {cause : Refusal → Failure}
    (isOther : ∀ refusal, isOfFile (cause refusal) = false)
    (question : StateM World (Except Refusal α)) :
    HasFile (ask cause question) := by
  intro world failure fails
  unfold resultIn ask at fails
  rw [ExceptT.run_mk, StateT.run_bind] at fails
  dsimp only [bind] at fails
  cases isAnswer : (question.run world).1 with
  | ok value =>
      rw [isAnswer] at fails
      cases fails
  | error refusal =>
      rw [isAnswer] at fails
      cases fails
      exact isOther refusal

theorem hasFile_load
    (folder : Path) :
    HasFile (Project.load (m := StateM World) folder) := by
  refine hasFile_bind (hasFile_lift _) fun path? => ?_
  cases path? with
  | none => exact hasFile_pure _
  | some path =>
      refine hasFile_bind (hasFile_bind (hasFile_ask (fun _ => rfl) _) fun text => ?_)
        fun _ => hasFile_pure _
      refine hasFile_bind (hasFile_require (fun _ => rfl) _) fun settings => ?_
      split
      · exact hasFile_throw rfl
      · exact hasFile_pure _

/-- A missing table is no missing source file. -/
theorem hasFile_loadTable
    (path : Path) :
    HasFile (loadTable (m := StateM World) path) := by
  refine hasFile_bind (hasFile_lift _) fun isThere => ?_
  cases isThere with
  | true =>
      refine hasFile_bind (hasFile_ask (fun _ => rfl) _) fun text => ?_
      exact hasFile_bind (hasFile_require (fun _ => rfl) _) fun members => hasFile_lift _
  | false => exact hasFile_bind (hasFile_lift _) fun _ => hasFile_pure _

theorem hasFile_convertText
    (converter : Keying.Converter)
    (file : String)
    (place : Key.Place)
    (text : String) :
    HasFile (convertText (m := StateM World) converter file place text) := by
  intro world failure fails
  have isGiven : resultIn world (convertText converter file place text) =
      (converter.convert file place text.toList).mapError (.sourceMalformed file) :=
    (gives_convertText world.tree converter file place text world rfl).1
  rw [fails] at isGiven
  cases isConverted : converter.convert file place text.toList with
  | ok outcome =>
      rw [isConverted] at isGiven
      cases isGiven
  | error fault =>
      rw [isConverted] at isGiven
      cases isGiven
      rfl

theorem hasFile_log
    (path : Path)
    (lines : List String) :
    HasFile (log (m := StateM World) path lines) := by
  refine hasFile_bind (hasFile_ask (fun _ => rfl) _) fun _ => ?_
  induction lines with
  | nil => exact hasFile_pure _
  | cons line rest inductionHypothesis =>
      exact hasFile_bind (hasFile_ask (fun _ => rfl) _) fun _ => inductionHypothesis

/-- A conversion that is prepared has its file. -/
theorem hasFile_finish
    (folder : Path)
    (order : ConversionOrder)
    (prepared : Prepared) :
    HasFile (finish folder order prepared) := by
  have commits : HasFile (commit (m := StateM World) folder (order.target folder) order.file
      prepared.outcome) :=
    hasFile_bind (hasFile_ask (fun _ => rfl) _) fun _ =>
      hasFile_bind (hasFile_log _ _) fun _ => hasFile_lift _
  unfold finish
  dsimp only
  split
  · split
    · exact hasFile_bind commits fun _ => hasFile_pure _
    · exact hasFile_pure _
  · refine hasFile_bind (hasFile_log _ _) fun _ => ?_
    split
    · exact hasFile_bind commits fun _ => hasFile_pure _
    · exact hasFile_pure _

/-- A conversion in a project has its file. -/
theorem hasFile_convertIn
    (folder : Path)
    (order : ConversionOrder)
    (project : Project) :
    HasFile (convertIn folder order project) := by
  have hasTables : HasFile (project.tables (m := StateM World)) :=
    hasFile_bind (hasFile_loadTable _) fun _ =>
      hasFile_bind (hasFile_loadTable _) fun _ =>
        hasFile_bind (hasFile_lift _) fun _ => hasFile_pure _
  refine hasFile_bind hasTables fun tables => ?_
  refine hasFile_bind (hasFile_ask (fun _ => rfl) _) fun text => ?_
  exact hasFile_bind (hasFile_convertText _ _ _ _) fun outcome => hasFile_finish _ _ _

/-- A conversion fails for want of its file only where there is none. -/
theorem hasFile_convert
    {world : World}
    {folder : Path}
    {order : ConversionOrder}
    (isFile : ((world.tree.view? (order.target folder)).map Tree.kindOfView == some .file) = true)
    {failure : Failure}
    (fails : resultIn world (convert folder order) = .error failure) :
    isOfFile failure = false := by
  have isSome := finds_isFile world.tree (order.target folder)
  rw [isFile] at isSome
  unfold resultIn at fails
  rw [convert_eq_convertIn, run_bind_of_finds (finds_run_lift isSome)] at fails
  refine hasFile_bind (hasFile_load folder) (fun project => ?_) world failure fails
  have rest := hasFile_convertIn folder order project
  split
  · exact hasFile_bind (hasFile_lift _) fun _ => rest
  · exact rest

end Run
end KeyedText
