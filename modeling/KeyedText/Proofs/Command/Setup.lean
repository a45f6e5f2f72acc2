import KeyedText.Proofs.Command.Stage
import KeyedText.Proofs.Run.Setup

/-!
# Settings that come and go

Settings are read back from what is written of them, wholly or in part, and what
is not written has its default.  So to set up a folder changes nothing: each
conversion that follows comes to what it came to before, unless it is one of the
new file itself.
-/

namespace KeyedText
namespace Command

open Json Run World

/-- A conversion from a folder in two worlds comes to the same, the second of which also holds the
default settings; only the event of a project without settings may be missing there. -/
structure Alike (conversion : Invocation) (folder : Path) (without withFile : World) : Prop where
  /-- Both come to the same. -/
  result :
    (Stage.mk conversion folder withFile).result = (Stage.mk conversion folder without).result
  /-- The files behind them differ by the settings alone. -/
  files : (Stage.mk conversion folder without).after.tree.Puts (folder.join settingsName.toList)
    defaultSettingsText.toUTF8 (Stage.mk conversion folder withFile).after.tree
  /-- What is told differs by one event at most. -/
  told : ∃ note events, (note = [] ∨ note = [defaultSettingsEvent]) ∧
    (Stage.mk conversion folder without).after.events = without.events ++ (note ++ events) ∧
      (Stage.mk conversion folder withFile).after.events = withFile.events ++ events

/-- A conversion without a file changes nothing. -/
theorem alike_of_no_file
    {conversion : Invocation}
    {writes showsLines listsKeys verbose : Bool}
    (isConversion : conversion.order = .convert none writes showsLines listsKeys verbose)
    {folder : Path}
    {without withFile : World}
    (puts : without.tree.Puts (folder.join settingsName.toList) defaultSettingsText.toUTF8
      withFile.tree) :
    Alike conversion folder without withFile := by
  have stays : ∀ before, (Stage.mk conversion folder before).after = before := by
    intro before
    unfold Stage.after
    rw [isConversion]
    rfl
  refine ⟨?_, ?_, [], [], .inl rfl, ?_, ?_⟩
  · unfold Stage.result
    rw [isConversion]
    rfl
  · rwa [stays, stays]
  · rw [stays, List.append_nil, List.append_nil]
  · rw [stays, List.append_nil]

/-- A conversion behind a setup comes to what it comes to without, unless it is one of the settings
themselves. -/
theorem alike_behind_setUp
    {world : World}
    {folder : Path}
    {setup conversion : Invocation}
    {file? : Option String}
    {writes showsLines listsKeys verbose : Bool}
    (isSetUp : setup.order = .setUp)
    (isConversion : conversion.order = .convert file? writes showsLines listsKeys verbose)
    (isTrimmed : folder.trimmedEnd = folder)
    (noSettings : answer world.tree (settingsPath? folder) = none)
    (succeeds : (Stage.mk setup folder world).result.exitCode ≠ failureCode)
    (apart : ∀ file ∈ file?, ¬ world.tree.SamePlace (folder.join file.toList)
      (folder.join settingsName.toList)) :
    Alike conversion folder world (Stage.mk setup folder world).after := by
  let stage : Stage := ⟨setup, folder, world⟩
  have isReady : stage.after = behind world (setUp folder) := after_of_setUp stage isSetUp
  have isDone : resultIn world (setUp folder) = .ok () := setUp_eq_ok stage isSetUp succeeds
  rw [isReady]
  cases file? with
  | none =>
      obtain ⟨-, puts⟩ := setUp_leaves world.tree folder world rfl isDone
      exact alike_of_no_file isConversion puts
  | some file =>
      let order : ConversionOrder := ⟨file, writes, showsLines, listsKeys⟩
      have apartFromTarget : ¬ world.tree.SamePlace (order.target folder)
          (folder.join settingsName.toList) :=
        apart file rfl
      have isAfter : ∀ before, (Stage.mk conversion folder before).after =
          behind before (convert folder order) := by
        intro before
        unfold Stage.after
        rw [isConversion]
        rfl
      obtain ⟨sameResult, puts, told⟩ :=
        convert_behind_setUp apartFromTarget isTrimmed noSettings isDone
      refine ⟨?_, ?_, ?_⟩
      · rw [result_of_conversion isConversion, result_of_conversion isConversion]
        exact congrArg _ sameResult
      · rw [isAfter, isAfter]
        exact puts
      · rw [isAfter, isAfter, (behind_setUp world folder).1]
        exact told

/-- A setup that goes well in a folder without settings, and a conversion that is to follow it, of
another file than the settings. -/
structure SetsUp (world : World) (folder : Path) (setup conversion : Invocation) : Prop where
  isSetUp : setup.order = .setUp
  isConversion : ∃ file? writes showsLines listsKeys verbose,
    conversion.order = .convert file? writes showsLines listsKeys verbose ∧
      ∀ file ∈ file?, ¬ world.tree.SamePlace (folder.join file.toList)
        (folder.join settingsName.toList)
  /-- The path of the folder ends in neither a slash nor a dot that counts for nothing. -/
  isTrimmed : folder.trimmedEnd = folder
  noSettings : answer world.tree (settingsPath? folder) = none
  succeeds : (Stage.mk setup folder world).result.exitCode ≠ failureCode

/-- Settings come back from what is written of them, and the default ones go without saying. -/
structure SettingsComeBack : Prop where
  /-- Some members, in any order and among members of other names, are viewed as these settings and
  the default ones for all others. -/
  viewed : ∀ {settings : Settings} {chosen : String → Bool} {members : List (String × Json)},
    settings.Holds chosen members →
      Settings.ofJson (.object members) = .ok (settings.only chosen)
  /-- So is every text that spells these members. -/
  read : ∀ {settings : Settings} {chosen : String → Bool} {members : List (String × Json)},
    settings.Holds chosen members →
      ∀ {text : List Char}, SpellsAlone (.object members) text →
        Settings.ofText text = .ok (settings.only chosen)
  /-- All settings are viewed as what they are written as. -/
  wholeViewed : ∀ settings : Settings, Settings.ofJson settings.toJson = .ok settings
  /-- So they are read from every text that spells them. -/
  wholeRead : ∀ {settings : Settings} {text : List Char},
    SpellsAlone settings.toJson text → Settings.ofText text = .ok settings
  /-- What is printed of settings is read back, on one line. -/
  compact : ∀ {settings : Settings}, settings.slugLimit ≤ largestNatural →
    Settings.ofText settings.toJson.compact.toList = .ok settings
  /-- And over several lines. -/
  pretty : ∀ {settings : Settings}, settings.slugLimit ≤ largestNatural →
    ∀ level, Settings.ofText (settings.toJson.pretty level).toList = .ok settings
  /-- No members at all are viewed as the default settings. -/
  emptyViewed : Settings.ofJson (.object []) = .ok .default
  /-- So is every text that spells none. -/
  emptyRead : ∀ {text : List Char},
    SpellsAlone (.object []) text → Settings.ofText text = .ok .default
  /-- A conversion behind a setup is the conversion without any settings. -/
  setUp : ∀ {world : World} {folder : Path} {setup conversion : Invocation},
    SetsUp world folder setup conversion →
      Alike conversion folder world (Stage.mk setup folder world).after

/-- Settings are read back as far as they are written, and have their defaults where they are not;
so a conversion behind a setup is the conversion without any settings, unless it is one of the
settings themselves. -/
theorem settings_read_back_and_setUp_changes_nothing :
    SettingsComeBack where
  viewed holds := holds.ofJson_eq_ok
  read holds _ spells := Settings.ofText_eq_ok holds.ofJson_eq_ok spells
  wholeViewed := Settings.ofJson_toJson
  wholeRead spells := Settings.ofText_eq_ok (Settings.ofJson_toJson _) spells
  compact isKept := Settings.ofText_toJson (Settings.prints_toJson isKept).compact
  pretty isKept level := Settings.ofText_toJson ((Settings.prints_toJson isKept).pretty level)
  emptyViewed := Settings.ofJson_empty
  emptyRead spells := Settings.ofText_eq_ok Settings.ofJson_empty spells
  setUp := by
    rintro world folder setup conversion
      ⟨isSetUp, ⟨file?, writes, showsLines, listsKeys, verbose, isConversion, apart⟩, isTrimmed,
        noSettings, succeeds⟩
    exact alike_behind_setUp isSetUp isConversion isTrimmed noSettings succeeds apart

/-- A folder with one source file. -/
def plainWorld : World :=
  ⟨.folder [("home".toList, .folder [("a.tsx".toList, .file "<p>Welcome back</p>".toUTF8)])], []⟩

/-- A run that sets up the folder. -/
def setUpStage : Stage where
  colored := false
  order := .setUp
  folder := "/home".toList
  before := plainWorld

/-- A run that converts a file. -/
def conversionOf (file : String) : Invocation where
  colored := false
  order := .convert (some file) true false false false

/-- Settings with a bound for slugs. -/
def boundSettings : Settings :=
  { Settings.default with slugLimit := 12 }

/-- The settings as a text with an escaped letter in a key, an unknown member and blanks. -/
def boundText : List Char :=
  "\x7b \"comment\": null,\n\"slugM\\u0061xLength\" :12 \x7d\n".toList

theorem spellsAlone_boundText :
    SpellsAlone (.object [("comment", .null), ("slugMaxLength", .number (.natural 12))])
      boundText := by
  have isLetter : SpellsCharacter 'a' "\\u0061".toList :=
    .escaped (.code (.digits (.decimal 0 (by decide)) (.decimal 0 (by decide))
      (.decimal 6 (by decide)) (.decimal 1 (by decide))))
  have ahead : SpellsText "slugM".toList "slugM".toList := spellsText_self (by simp)
  have behind : SpellsText "xLength".toList "xLength".toList := spellsText_self (by simp)
  have comment : SpellsText "comment".toList "comment".toList := spellsText_self (by simp)
  have bound : SpellsText "slugMaxLength".toList "slugM\\u0061xLength".toList :=
    ahead.append (.cons isLetter behind)
  have blank : Blanks [' '] := blanks_replicate 1
  have twelve : Spells (.number (.natural 12)) ['1', '2'] := .number (.natural (by decide))
  have newLine : Separates false ([] ++ ',' :: ['\n']) :=
    .later blanks_nil (blanks_newLine 0)
  have members := SpellsMembers.member (.first blank) comment blanks_nil blank .null
    (.member newLine bound blank blanks_nil twelve (.ends blank))
  exact ⟨[], _, ['\n'], blanks_nil, blanks_newLine 0, .object members, by decide⟩

/-- Settings are read from a text with an escape, and a conversion comes to the same behind a
setup. -/
theorem settings_read_back_and_conversion_of_plainWorld :
    Settings.ofText boundText = .ok boundSettings ∧
      Settings.ofText boundSettings.toJson.compact.toList = .ok boundSettings ∧
        Alike (conversionOf "a.tsx") "/home".toList plainWorld setUpStage.after := by
  have comeBack := settings_read_back_and_setUp_changes_nothing
  have holds : boundSettings.Holds (· == "slugMaxLength")
      [("comment", .null), ("slugMaxLength", .number (.natural 12))] := by
    have isFiltered : boundSettings.members.filter (·.1 == "slugMaxLength") =
        [("slugMaxLength", .number (.natural 12))] := by
      simp [Settings.members, boundSettings]
    have isKnown : Settings.known [("comment", .null), ("slugMaxLength", .number (.natural 12))] =
        [("slugMaxLength", .number (.natural 12))] := by
      simp [Settings.known, Settings.names, Settings.members]
    rw [Settings.Holds, isFiltered, isKnown]
  refine ⟨comeBack.read holds spellsAlone_boundText, comeBack.compact (by decide),
    comeBack.setUp ?_⟩
  have noSettings : answer plainWorld.tree (settingsPath? "/home".toList) = none := by
    decide +kernel
  have succeeds : setUpStage.result.exitCode ≠ failureCode := by decide +kernel
  refine ⟨rfl, ⟨some "a.tsx", true, false, false, false, rfl, ?_⟩, by decide, noSettings, succeeds⟩
  rintro file ⟨⟩ ⟨-, same⟩
  revert same
  decide +kernel

/-- A conversion of the settings themselves finds no file without a setup, and comes to something
else behind one. -/
theorem setUp_changes_conversion_of_settingsName :
    setUpStage.result.exitCode = successCode ∧
      answer plainWorld.tree (settingsPath? "/home".toList) = none ∧
        (Stage.mk (conversionOf settingsName) "/home".toList plainWorld).result.failure =
            some (.noFile settingsName) ∧
          (Stage.mk (conversionOf settingsName) "/home".toList setUpStage.after).result ≠
            (Stage.mk (conversionOf settingsName) "/home".toList plainWorld).result := by
  have isMissing : (Stage.mk (conversionOf settingsName) "/home".toList plainWorld).result.failure =
      some (.noFile settingsName) := by
    decide +kernel
  have isDone : setUpStage.result.exitCode = successCode := by decide +kernel
  refine ⟨isDone, by decide +kernel, isMissing, fun same => ?_⟩
  have isReady : setUpStage.after = behind plainWorld (setUp "/home".toList) :=
    after_of_setUp setUpStage rfl
  have succeeds : resultIn plainWorld (setUp "/home".toList) = .ok () :=
    setUp_eq_ok setUpStage rfl (by rw [isDone]; decide)
  obtain ⟨-, puts⟩ := setUp_leaves plainWorld.tree "/home".toList plainWorld rfl succeeds
  have isThere : setUpStage.after.tree.view? (Path.join "/home".toList settingsName.toList) =
      some (some defaultSettingsText.toUTF8) := by
    rw [isReady]
    exact puts.holds
  let behindSetUp : Stage := ⟨conversionOf settingsName, "/home".toList, setUpStage.after⟩
  have fails : behindSetUp.result.exitCode = failureCode := by
    rw [same]
    decide +kernel
  have isConversion : behindSetUp.order = .convert (some settingsName) true false false false := rfl
  obtain ⟨failure, isResult, isFailure⟩ := exists_failure isConversion fails
  rw [same, isMissing] at isFailure
  cases isFailure
  refine absurd (hasFile_convert ?_ isResult) (by decide)
  change (Option.map Tree.kindOfView (setUpStage.after.tree.view?
    (Path.join "/home".toList settingsName.toList)) == some .file) = true
  rw [isThere]
  rfl

end Command
end KeyedText
