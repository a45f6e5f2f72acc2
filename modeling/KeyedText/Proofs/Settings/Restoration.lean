import KeyedText.Proofs.Json.Agreement
import KeyedText.Settings.Shape

/-!
# Settings that are written and read

Some members of written settings, in any order and among any unknown members,
are read as these settings where the members are and as the default ones where
they are not.
-/

namespace KeyedText
namespace Settings

open Json

/-! ## Texts of settings -/

/-- A prefix with its namespace is read from a text as from a value. -/
theorem agrees_readSpace :
    Agrees (readSpace Source.viewing) (readSpace Source.reading) := by
  refine agrees_record (.cons ⟨rfl, rfl, fun entry => ?_⟩ (.cons ⟨rfl, rfl, fun entry => ?_⟩ .nil))
    _ _
  · exact agrees_map agrees_text _
  · exact agrees_map agrees_text _

/-- Each field of the settings is read from a text as from a value. -/
theorem fields_agree :
    List.Forall₂ FieldAgrees (fields Source.viewing) (fields Source.reading) := by
  have texts : Agrees (View.list View.text) (Step.list Step.text) := agrees_list agrees_text
  have spaces := agrees_list agrees_readSpace
  exact
    .cons ⟨rfl, rfl, fun _ => agrees_map texts _⟩ <|
    .cons ⟨rfl, rfl, fun _ => agrees_map texts _⟩ <|
    .cons ⟨rfl, rfl, fun _ => agrees_map texts _⟩ <|
    .cons ⟨rfl, rfl, fun _ => agrees_map texts _⟩ <|
    .cons ⟨rfl, rfl, fun _ => agrees_map agrees_text _⟩ <|
    .cons ⟨rfl, rfl, fun _ => agrees_map (agrees_choice _) _⟩ <|
    .cons ⟨rfl, rfl, fun _ => agrees_map agrees_natural _⟩ <|
    .cons ⟨rfl, rfl, fun _ => agrees_map agrees_text _⟩ <|
    .cons ⟨rfl, rfl, fun _ => agrees_map spaces _⟩ <|
    .cons ⟨rfl, rfl, fun _ => agrees_map agrees_text _⟩ <|
    .cons ⟨rfl, rfl, fun _ => agrees_map agrees_text _⟩ <|
    .cons ⟨rfl, rfl, fun _ => agrees_map texts _⟩ <|
    .cons ⟨rfl, rfl, fun _ => agrees_map texts _⟩ <|
    .cons ⟨rfl, rfl, fun _ => agrees_map agrees_flag _⟩ .nil

/-- A text is read as settings as the value that it spells is viewed. -/
theorem ofText_eq_ok
    {value : Json}
    {settings : Settings}
    (isViewed : ofJson value = .ok settings)
    {text : List Char}
    (spells : SpellsAlone value text) :
    ofText text = .ok settings :=
  run_eq_ok (agrees_record fields_agree "struct Config" unwritten) isViewed spells

/-! ## Values of single settings -/

/-- A printed list is viewed as the list. -/
theorem view_map
    (write : α → Json)
    {view : View α}
    (views : ∀ value, view (write value) = .ok value)
    (values : List α) :
    View.list view (.array (values.map write)) = .ok values := by
  induction values with
  | nil => rfl
  | cons value rest inductionHypothesis =>
      unfold View.list at inductionHypothesis ⊢
      dsimp only at inductionHypothesis ⊢
      rw [List.map_cons, List.mapM_cons, views, inductionHypothesis]
      rfl

theorem view_string
    (text : String) :
    View.text (.string text) = .ok text :=
  rfl

theorem view_bool
    (flag : Bool) :
    View.flag (.bool flag) = .ok flag :=
  rfl

theorem view_natural
    (value : Nat) :
    View.natural (.number (.natural value)) = .ok value :=
  rfl

/-- The word for a mode is one of the choices. -/
theorem view_modeWord
    (mode : Key.GroupMode) :
    View.choice ["nested", "segment"] (.string (modeWord mode)) = .ok (modeWord mode) := by
  cases mode with
  | nested => rfl
  | segment => rfl

theorem modeOfWord_modeWord
    (mode : Key.GroupMode) :
    modeOfWord (modeWord mode) = mode := by
  cases mode with
  | nested => rfl
  | segment => rfl

/-- Texts that are printed are viewed as the texts. -/
theorem view_textsToJson
    (texts : List String) :
    View.list View.text (textsToJson texts) = .ok texts :=
  view_map .string (fun _ => rfl) texts

/-- A prefix that is printed is viewed as the prefix. -/
theorem view_spaceToJson
    (entry : Key.SpacePrefix) :
    readSpace Source.viewing (spaceToJson entry) = .ok entry :=
  rfl

/-! ## Chosen settings -/

/-- The settings with chosen names, and the default ones for all other names. -/
def only (settings : Settings) (chosen : String → Bool) : Settings where
  translatable :=
    if chosen "translatableAttributes" then settings.translatable else default.translatable
  structural := if chosen "structuralAttributes" then settings.structural else default.structural
  richComponents :=
    if chosen "richTextComponents" then settings.richComponents else default.richComponents
  skippedTags := if chosen "skippedTags" then settings.skippedTags else default.skippedTags
  lookup := if chosen "lookupFunction" then settings.lookup else default.lookup
  mode := if chosen "groupMode" then settings.mode else default.mode
  slugLimit := if chosen "slugMaxLength" then settings.slugLimit else default.slugLimit
  defaultSpace := if chosen "defaultNamespace" then settings.defaultSpace else default.defaultSpace
  spaces := if chosen "namespaces" then settings.spaces else default.spaces
  patternsPath := if chosen "keymapPath" then settings.patternsPath else default.patternsPath
  synonymsPath := if chosen "synonymsPath" then settings.synonymsPath else default.synonymsPath
  includes := if chosen "includes" then settings.includes else default.includes
  ignores := if chosen "ignores" then settings.ignores else default.ignores
  skipsTests := if chosen "ignoreTestFiles" then settings.skipsTests else default.skipsTests

/-- The names of settings. -/
def names : List String :=
  default.members.map (·.1)

theorem map_fst_members
    (settings : Settings) :
    settings.members.map (·.1) = names :=
  rfl

/-- No two settings have one name. -/
theorem nodup_names : names.Nodup := by
  decide

/-- Which settings are kept depends on the names of settings alone. -/
theorem only_congr
    {settings : Settings}
    {first second : String → Bool}
    (same : ∀ name ∈ names, first name = second name) :
    settings.only first = settings.only second := by
  simp only [names, members, default, List.map_cons, List.map_nil, List.forall_mem_cons] at same
  simp only [only, same]

/-- What stands for missing members is what a project without settings has. -/
theorem unwritten_eq_default :
    unwritten = default :=
  rfl

/-- With no setting kept, what remains are the default settings. -/
theorem only_none
    (settings : Settings) :
    (settings.only fun _ => false) = default :=
  rfl

theorem only_all
    (settings : Settings) :
    (settings.only fun _ => true) = settings :=
  rfl

/-- A field restores a setting from its member. -/
structure Restores (settings : Settings) (field : Json.Field View Settings)
    (member : String × Json) : Prop where
  name : field.name = member.1
  restores : ∀ chosen,
    field.read (settings.only chosen) member.2 =
      .ok (settings.only fun key => key == member.1 || chosen key)

/-- A field restores its setting if its value is viewed as that setting. -/
theorem restores_of_view
    {settings : Settings}
    {name : String}
    {value : Json}
    {view : View α}
    {setting : α}
    (isViewed : view value = .ok setting)
    {change : Settings → α → Settings}
    (isChange : ∀ chosen,
      change (settings.only chosen) setting = settings.only fun key => key == name || chosen key)
    (required : Bool) :
    Restores settings ⟨name, fun state => do return change state (← view), required⟩
      (name, value) := by
  refine ⟨rfl, fun chosen => ?_⟩
  rw [← isChange chosen]
  dsimp only [bind, ReaderT.bind]
  rw [isViewed]
  rfl

/-- Every field restores its setting from the member that is printed for it. -/
theorem fields_restore
    (settings : Settings) :
    List.Forall₂ (Restores settings) (fields Source.viewing) settings.members := by
  have texts := view_textsToJson
  have spaces := view_map spaceToJson view_spaceToJson settings.spaces
  refine
    .cons (restores_of_view (texts _) (fun chosen => ?_) _) <|
    .cons (restores_of_view (texts _) (fun chosen => ?_) _) <|
    .cons (restores_of_view (texts _) (fun chosen => ?_) _) <|
    .cons (restores_of_view (texts _) (fun chosen => ?_) _) <|
    .cons (restores_of_view (view_string _) (fun chosen => ?_) _) <|
    .cons (restores_of_view (view_modeWord _) (fun chosen => ?_) _) <|
    .cons (restores_of_view (view_natural _) (fun chosen => ?_) _) <|
    .cons (restores_of_view (view_string _) (fun chosen => ?_) _) <|
    .cons (restores_of_view spaces (fun chosen => ?_) _) <|
    .cons (restores_of_view (view_string _) (fun chosen => ?_) _) <|
    .cons (restores_of_view (view_string _) (fun chosen => ?_) _) <|
    .cons (restores_of_view (texts _) (fun chosen => ?_) _) <|
    .cons (restores_of_view (texts _) (fun chosen => ?_) _) <|
    .cons (restores_of_view (view_bool _) (fun chosen => ?_) _) .nil
  all_goals simp [only, modeOfWord_modeWord]

/-! ## Members in any order -/

section Fields

variable
    {settings : Settings}
    {fields : List (Json.Field View Settings)}
    {members : List (String × Json)}
    (restore : List.Forall₂ (Restores settings) fields members)

include restore

/-- No field has a name that is no setting's. -/
theorem find?_eq_none
    {key : String}
    (isUnknown : key ∉ members.map (·.1)) :
    fields.find? (·.name == key) = none := by
  induction restore with
  | nil => rfl
  | cons first _ inductionHypothesis =>
      rw [List.map_cons, List.mem_cons, not_or] at isUnknown
      rw [List.find?_cons_of_neg, inductionHypothesis isUnknown.2]
      rw [first.name, beq_iff_eq]
      exact fun same => isUnknown.1 same.symm

/-- Each printed member finds the field that restores its setting. -/
theorem exists_find?_eq_some
    (nodup : (members.map (·.1)).Nodup)
    {member : String × Json}
    (isMember : member ∈ members) :
    ∃ field, fields.find? (·.name == member.1) = some field ∧ Restores settings field member := by
  induction restore with
  | nil => cases isMember
  | @cons field other _ others first _ inductionHypothesis =>
      rw [List.map_cons, List.nodup_cons] at nodup
      rcases List.mem_cons.mp isMember with rfl | isOther
      · refine ⟨field, List.find?_cons_of_pos ?_, first⟩
        rw [first.name]
        exact beq_self_eq_true _
      · obtain ⟨found, isFound, restores⟩ := inductionHypothesis nodup.2 isOther
        refine ⟨found, ?_, restores⟩
        rw [List.find?_cons_of_neg, isFound]
        rw [first.name, beq_iff_eq]
        rintro same
        exact nodup.1 (same ▸ List.mem_map_of_mem isOther)

end Fields

/-- No field of the settings has to be there. -/
theorem missing?_fields
    (seen : List String) :
    Json.Field.missing? (fields Source.viewing) seen = none :=
  rfl

/-- The members whose names are those of settings. -/
def known (members : List (String × Json)) : List (String × Json) :=
  members.filter fun member => names.contains member.1

/-- Members of settings that were not seen yet are taken over, among any members of other names. -/
theorem fieldsByName_only
    {settings : Settings}
    {members : List (String × Json)}
    (areMembers : ∀ member ∈ known members, member ∈ settings.members)
    (nodup : ((known members).map (·.1)).Nodup)
    {seen : List String}
    (areNew : ∀ member ∈ known members, member.1 ∉ seen) :
    View.fieldsByName (fields Source.viewing) seen (settings.only seen.contains) members =
      .ok (settings.only fun name =>
        seen.contains name || (members.map (·.1)).contains name) := by
  induction members generalizing seen with
  | nil =>
      unfold View.fieldsByName
      rw [missing?_fields]
      simp only [List.map_nil, List.contains_nil, Bool.or_false]
  | cons member rest inductionHypothesis =>
      obtain ⟨key, value⟩ := member
      unfold View.fieldsByName
      by_cases isKnown : names.contains key = true
      · have sameKnown : known ((key, value) :: rest) = (key, value) :: known rest :=
          List.filter_cons_of_pos isKnown
        rw [sameKnown] at areMembers nodup areNew
        rw [List.map_cons, List.nodup_cons] at nodup
        obtain ⟨isMember, areOthers⟩ := List.forall_mem_cons.mp areMembers
        obtain ⟨isNew, othersNew⟩ := List.forall_mem_cons.mp areNew
        obtain ⟨field, isFound, restores⟩ := exists_find?_eq_some (fields_restore settings)
          (by rw [map_fst_members]; exact nodup_names) isMember
        have othersStayNew : ∀ member ∈ known rest, member.1 ∉ key :: seen := by
          intro member isOther
          rw [List.mem_cons, not_or]
          refine ⟨?_, othersNew member isOther⟩
          intro same
          exact nodup.1 (List.mem_map.mpr ⟨member, isOther, same⟩)
        have later := inductionHypothesis areOthers nodup.2 othersStayNew
        have sameSeen :
            (fun name => (key :: seen).contains name || (rest.map (·.1)).contains name) =
              fun name =>
                seen.contains name || (((key, value) :: rest).map (·.1)).contains name := by
          funext name
          rw [List.map_cons, List.contains_cons, List.contains_cons, Bool.or_assoc,
            Bool.or_left_comm]
        rw [sameSeen] at later
        rw [isFound]
        dsimp only
        rw [if_neg (by rwa [List.contains_iff_mem]), restores.restores]
        exact later
      · have sameKnown : known ((key, value) :: rest) = known rest :=
          List.filter_cons_of_neg isKnown
        rw [sameKnown] at areMembers nodup areNew
        rw [List.contains_iff_mem] at isKnown
        have isUnknown : key ∉ settings.members.map (·.1) := by
          rwa [map_fst_members]
        rw [find?_eq_none (fields_restore settings) isUnknown]
        dsimp only
        rw [inductionHypothesis areMembers nodup areNew]
        congr 1
        refine only_congr fun name isName => ?_
        have differs : (name == key) = false :=
          beq_eq_false_iff_ne.mpr fun same => isKnown (same ▸ isName)
        rw [List.map_cons, List.contains_cons, differs, Bool.false_or]

/-- Members hold the chosen settings: these in any order, among any members of other names. -/
def Holds (settings : Settings) (chosen : String → Bool) (members : List (String × Json)) : Prop :=
  (known members).Perm (settings.members.filter fun member => chosen member.1)

/-- Members that hold chosen settings have their names. -/
theorem Holds.contains_eq
    {settings : Settings}
    {chosen : String → Bool}
    {members : List (String × Json)}
    (holds : Holds settings chosen members)
    {name : String}
    (isName : name ∈ names) :
    (members.map (·.1)).contains name = chosen name := by
  rw [Bool.eq_iff_iff, List.contains_iff_mem]
  constructor
  · intro isThere
    obtain ⟨member, isMember, rfl⟩ := List.mem_map.mp isThere
    have isKnown : member ∈ known members :=
      List.mem_filter.mpr ⟨isMember, List.contains_iff_mem.mpr isName⟩
    exact (List.mem_filter.mp (holds.mem_iff.mp isKnown)).2
  · intro isChosen
    rw [← map_fst_members settings] at isName
    obtain ⟨member, isMember, rfl⟩ := List.mem_map.mp isName
    have isThere := holds.mem_iff.mpr (List.mem_filter.mpr ⟨isMember, isChosen⟩)
    exact List.mem_map_of_mem (List.mem_filter.mp isThere).1

/-- Members that hold the chosen settings are viewed as these and the other default ones. -/
theorem Holds.ofJson_eq_ok
    {settings : Settings}
    {chosen : String → Bool}
    {members : List (String × Json)}
    (holds : Holds settings chosen members) :
    ofJson (.object members) = .ok (settings.only chosen) := by
  have areMembers : ∀ member ∈ known members, member ∈ settings.members :=
    fun member isKnown => (List.mem_filter.mp (holds.mem_iff.mp isKnown)).1
  have nodup : ((known members).map (·.1)).Nodup := by
    have isPart : ((settings.members.filter fun member => chosen member.1).map Prod.fst).Sublist
        (settings.members.map Prod.fst) :=
      List.filter_sublist.map Prod.fst
    rw [(holds.map (·.1)).nodup_iff]
    exact nodup_names.sublist isPart
  have areNew : ∀ member ∈ known members, member.1 ∉ ([] : List String) := nofun
  have views := fieldsByName_only areMembers nodup areNew
  have same : (settings.only fun name =>
      ([] : List String).contains name || (members.map (·.1)).contains name) =
        settings.only chosen :=
    only_congr fun name isName => by
      rw [List.contains_nil, Bool.false_or, holds.contains_eq isName]
  rw [same] at views
  have starts : settings.only ([] : List String).contains = unwritten :=
    (only_none settings).trans unwritten_eq_default.symm
  rwa [starts] at views

/-- Lists of texts are printed as texts that spell them. -/
theorem prints_textsToJson
    (texts : List String) :
    Prints (textsToJson texts) :=
  prints_array fun element isElement => by
    obtain ⟨text, -, rfl⟩ := List.mem_map.mp isElement
    exact prints_string text

/-- Prefixes are printed as texts that spell them. -/
theorem prints_spaceToJson
    (entry : Key.SpacePrefix) :
    Prints (spaceToJson entry) := by
  refine prints_object fun member isMember => ?_
  rcases List.mem_pair.mp isMember with rfl | rfl
  · exact prints_string entry.path
  · exact prints_string entry.space

/-- What is printed of settings spells them. -/
theorem prints_toJson
    {settings : Settings}
    (isKept : settings.slugLimit ≤ largestNatural) :
    Prints settings.toJson := by
  have spaces : Prints (.array (settings.spaces.map spaceToJson)) :=
    prints_array fun element isElement => by
      obtain ⟨entry, -, rfl⟩ := List.mem_map.mp isElement
      exact prints_spaceToJson entry
  refine prints_object ?_
  simp only [members, List.forall_mem_cons, prints_textsToJson, prints_string, prints_bool,
    prints_natural isKept, spaces, List.not_mem_nil, true_and, false_imp_iff, implies_true]

/-- All printed members hold all settings. -/
theorem holds_members
    (settings : Settings) :
    Holds settings (fun _ => true) settings.members := by
  have allKnown : known settings.members = settings.members := by
    refine List.filter_eq_self.mpr fun member isMember => ?_
    rw [List.contains_iff_mem, ← map_fst_members settings]
    exact List.mem_map_of_mem isMember
  rw [Holds, allKnown, List.filter_true]

theorem holds_nil
    (settings : Settings) :
    Holds settings (fun _ => false) [] := by
  rw [Holds, List.filter_false]
  exact .refl _

/-- Settings are viewed as what they are written as. -/
theorem ofJson_toJson
    (settings : Settings) :
    ofJson settings.toJson = .ok settings := by
  have isViewed := (holds_members settings).ofJson_eq_ok
  rwa [only_all] at isViewed

/-- An object without members gives the default settings. -/
theorem ofJson_empty :
    ofJson (.object []) = .ok default := by
  have isViewed := (holds_nil default).ofJson_eq_ok
  rwa [only_none] at isViewed

theorem spellsAlone_of_spells
    {value : Json}
    {text : List Char}
    (spells : Spells value text) :
    SpellsAlone value text :=
  ⟨[], text, [], blanks_nil, blanks_nil, spells, by rw [List.nil_append, List.append_nil]⟩

/-- Settings are read back from what is printed of them. -/
theorem ofText_toJson
    {settings : Settings}
    {text : List Char}
    (spells : Spells settings.toJson text) :
    ofText text = .ok settings :=
  ofText_eq_ok (ofJson_toJson settings) (spellsAlone_of_spells spells)

end Settings
end KeyedText
