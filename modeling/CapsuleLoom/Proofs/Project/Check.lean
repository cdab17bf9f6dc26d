import CapsuleLoom.Project.Check
import CapsuleLoom.Proofs.Capsule.Unfolding
import CapsuleLoom.Proofs.Text.Case
import Mathlib.Data.List.Forall2

/-!
# What the checks of documents accept

The check of an object is made of checks of its fields, and that of a list of checks of its items.
It is good exactly if all of these are, and then the values of the parts make the value of the
whole.

## Main results

* `Checked.map_eq_good_iff`, `Checked.seq_eq_good_iff`, `Checked.each_eq_good_iff` : when a check
  that is made of others is good.
* `normalTarget_normalTarget` : normalizing the name of a target twice is normalizing it once.
* `requiredField_eq_good_iff`, `defaultField_eq_good_iff` : when a field is good.
* `checkCapsuleWithin_eq_good_iff`, `checkScreenWithin_eq_good_iff`,
  `checkProjectWithin_eq_good_iff` : when a document describes a tree of capsules, a screen or a
  project.
-/

namespace CapsuleLoom

variable {α β : Type}

namespace Checked

theorem map_eq_good_iff {f : α → β} {checked : Checked α} {result : β} :
    f <$> checked = .good result ↔ ∃ value, checked = .good value ∧ f value = result := by
  cases checked with
  | good value =>
    change good (f value) = good result ↔ _
    simp
  | bad problems =>
    change bad problems = good result ↔ _
    simp

theorem seq_eq_good_iff {f : Checked (α → β)} {checked : Checked α} {result : β} :
    f <*> checked = .good result ↔
      ∃ g value, f = .good g ∧ checked = .good value ∧ g value = result := by
  change apply f checked = .good result ↔ _
  cases f <;> cases checked <;> simp [apply]

theorem under_eq_good_iff {step : Step} {checked : Checked α} {value : α} :
    checked.under step = .good value ↔ checked = .good value := by
  cases checked <;> simp [under]

theorem eachFrom_eq_good_iff {check : α → Checked β} {items : List α} {values : List β}
    {position : Nat} :
    eachFrom check position items = .good values ↔
      List.Forall₂ (fun item value => check item = .good value) items values := by
  induction items generalizing position values with
  | nil => simp [eachFrom, eq_comm]
  | cons item items ih =>
    have hcons : eachFrom check position (item :: items) =
        List.cons <$> (check item).under (.index position) <*>
          eachFrom check (position + 1) items := rfl
    rw [hcons, seq_eq_good_iff]
    simp only [map_eq_good_iff, under_eq_good_iff, ih, List.forall₂_cons_left_iff]
    constructor
    · rintro ⟨_, rest, ⟨value, hvalue, rfl⟩, hrest, rfl⟩
      exact ⟨value, rest, hvalue, hrest, rfl⟩
    · rintro ⟨value, rest, hvalue, hrest, rfl⟩
      exact ⟨_, rest, ⟨value, hvalue, rfl⟩, hrest, rfl⟩

theorem each_eq_good_iff {check : α → Checked β} {items : List α} {values : List β} :
    each check items = .good values ↔
      List.Forall₂ (fun item value => check item = .good value) items values :=
  eachFrom_eq_good_iff

end Checked

/-! ### Single values -/

section Values

variable {check : Doc → Checked α} {value : Doc}

theorem checkText_eq_good_iff {text : String} :
    checkText value = .good text ↔ value = .str text := by
  cases value <;> simp [checkText, Checked.fail]

theorem checkOptional_of_ne_null (check : Doc → Checked α) (hnull : value ≠ .null) :
    checkOptional check value = some <$> check value := by
  cases value <;> first | exact absurd rfl hnull | rfl

theorem checkOptional_eq_good_iff {result? : Option α} :
    checkOptional check value = .good result? ↔
      (value = .null ∧ result? = none) ∨
        value ≠ .null ∧ ∃ result, check value = .good result ∧ result? = some result := by
  by_cases hnull : value = .null
  · simp [hnull, checkOptional, eq_comm]
  · simp [checkOptional_of_ne_null check hnull, Checked.map_eq_good_iff, hnull, eq_comm]

theorem checkOpen_eq_good_iff {whenNull result : α} :
    checkOpen whenNull check value = .good result ↔
      (value = .null ∧ result = whenNull) ∨ value ≠ .null ∧ check value = .good result := by
  cases value <;> simp [checkOpen, eq_comm]

theorem checkList_eq_good_iff {results : List α} :
    checkList check value = .good results ↔
      ∃ items, value = .arr items ∧
        List.Forall₂ (fun item result => check item = .good result) items results := by
  cases value <;> simp [checkList, Checked.fail, Checked.each_eq_good_iff]

theorem checkChildren_eq_good_iff {results : List α} :
    checkChildren check value = .good results ↔
      (value = .null ∧ results = []) ∨ checkList check value = .good results := by
  cases value <;> simp [checkChildren, checkList, Checked.fail, eq_comm]

theorem checkDescription_eq_good_iff {name : String} {check : Fields → Checked α} {result : α} :
    checkDescription name check value = .good result ↔
      ∃ fields, value = .obj fields ∧ check fields = .good result := by
  cases value <;> simp [checkDescription, Checked.fail]

theorem checkFilled_eq_good_iff {blank : Cause} {text : String} :
    checkFilled blank value = .good text ↔
      ∃ raw, value = .str raw ∧ Text.isBlankText raw = false ∧ text = Text.strip raw := by
  cases value with
  | str raw =>
    have hempty : (Text.strip raw).isEmpty = Text.isBlankText raw := by
      rw [Bool.eq_iff_iff, String.isEmpty_iff, Text.strip_eq_empty_iff]
    rw [checkFilled, checkText, Checked.andThen, hempty]
    cases hblank : Text.isBlankText raw with
    | false => simp [hblank, eq_comm (a := text)]
    | true => simp [hblank, Checked.fail]
  | null | bool | num | arr | obj => simp [checkFilled, checkText, Checked.andThen, Checked.fail]

theorem checkTarget_eq_good_iff {target : String} :
    checkTarget value = .good target ↔ ∃ raw, value = .str raw ∧ target = normalTarget raw := by
  refine Checked.map_eq_good_iff.trans ?_
  simp only [checkText_eq_good_iff, eq_comm]

theorem normalTarget_normalTarget (target : String) :
    normalTarget (normalTarget target) = normalTarget target := by
  unfold normalTarget
  rw [Text.strip_lower_strip, Text.lower_lower]

/-- The items of a list that is good are good one by one. -/
theorem exists_of_mem_checkList {results : List α} (hlist : checkList check value = .good results)
    {result : α} (hresult : result ∈ results) : ∃ item, check item = .good result := by
  obtain ⟨items, -, hitems⟩ := checkList_eq_good_iff.mp hlist
  obtain ⟨item, -, hitem⟩ := exists_mem_of_forall₂ hitems.flip hresult
  exact ⟨item, hitem⟩

end Values

/-! ### Fields -/

section Fields

variable {check : Doc → Checked α} {fields : Fields} {key : Key}

theorem Fields.get?_cons (name : String) (value : Doc) (rest : Fields) (key : String) :
    Fields.get? ((name, value) :: rest) key =
      if name = key then some value else Fields.get? rest key := by
  by_cases hname : name = key <;> simp [Fields.get?, hname]

theorem Fields.spelled?_of_get? {value : Doc} (hget : fields.get? key.name = some value) :
    fields.spelled? key = some (key.name, value) := by
  rw [spelled?, hget]

theorem Fields.spelled?_plain (fields : Fields) (name : String) :
    fields.spelled? (.plain name) = (fields.get? name).map fun value => (name, value) := by
  unfold spelled? Key.plain
  cases fields.get? name <;> rfl

theorem requiredField_eq_good_iff {result : α} :
    requiredField key check fields = .good result ↔
      ∃ name value, fields.spelled? key = some (name, value) ∧ check value = .good result := by
  unfold requiredField
  cases fields.spelled? key with
  | none => simp [Checked.under_eq_good_iff, Checked.fail]
  | some field =>
    obtain ⟨name, value⟩ := field
    simp [Checked.under_eq_good_iff]

theorem defaultField_eq_good_iff {default result : α} :
    defaultField key default check fields = .good result ↔
      (∃ name value, fields.spelled? key = some (name, value) ∧ check value = .good result) ∨
        fields.spelled? key = none ∧ result = default := by
  unfold defaultField
  cases fields.spelled? key with
  | none => simp [eq_comm]
  | some field =>
    obtain ⟨name, value⟩ := field
    simp [Checked.under_eq_good_iff]

/-- A field with a default that is there is good exactly if its value is. -/
theorem defaultField_plain_eq_good_iff {name : String} {value : Doc}
    (hget : fields.get? name = some value) {default result : α} :
    defaultField (.plain name) default check fields = .good result ↔
      check value = .good result := by
  simp [defaultField_eq_good_iff, Fields.spelled?_plain, hget]

/-- The items of a list that is absent by default have been checked. -/
theorem exists_of_mem_defaultField {results : List α}
    (hfield : defaultField key [] (checkList check) fields = .good results) {result : α}
    (hresult : result ∈ results) : ∃ item, check item = .good result := by
  rcases defaultField_eq_good_iff.mp hfield with ⟨_, list, -, hlist⟩ | ⟨-, rfl⟩
  · exact exists_of_mem_checkList hlist hresult
  · cases hresult

/-- What an optional field brings has been checked. -/
theorem exists_of_optionalField {result? : Option α}
    (hfield : optionalField key check fields = .good result?) {result : α}
    (hresult : result ∈ result?) : ∃ value, check value = .good result := by
  rcases defaultField_eq_good_iff.mp hfield with ⟨_, value, -, hvalue⟩ | ⟨-, rfl⟩
  · rcases checkOptional_eq_good_iff.mp hvalue with ⟨-, rfl⟩ | ⟨-, found, hfound, rfl⟩
    · cases hresult
    · cases hresult
      exact ⟨value, hfound⟩
  · cases hresult

end Fields

/-! ### Capsules, screens and projects -/

theorem checkCapsuleWithin_eq_good_iff {room : Nat} {value : Doc} {tree : Tree Capsule} :
    checkCapsuleWithin (room + 1) value = .good tree ↔
      ∃ fields, value = .obj fields ∧
        defaultField (.plain "id") "" checkText fields = .good tree.value.id ∧
        defaultField ⟨"capsuleId", "capsule_id"⟩ "" (fun kind => .good (kindOf kind)) fields =
          .good tree.value.kind ∧
        defaultField (.plain "props") [] checkProps fields = .good tree.value.props ∧
        defaultField (.plain "children") [] (checkChildren (checkCapsuleWithin room)) fields =
          .good tree.children := by
  rw [checkCapsuleWithin, checkDescription_eq_good_iff]
  constructor
  · rintro ⟨fields, rfl, hgood⟩
    obtain ⟨_, _, hthree, hchildren, rfl⟩ := Checked.seq_eq_good_iff.mp hgood
    obtain ⟨_, _, htwo, hprops, rfl⟩ := Checked.seq_eq_good_iff.mp hthree
    obtain ⟨_, _, hone, hkind, rfl⟩ := Checked.seq_eq_good_iff.mp htwo
    obtain ⟨_, hid, rfl⟩ := Checked.map_eq_good_iff.mp hone
    exact ⟨fields, rfl, hid, hkind, hprops, hchildren⟩
  · rintro ⟨fields, rfl, hid, hkind, hprops, hchildren⟩
    obtain ⟨capsule, children⟩ := tree
    refine ⟨fields, rfl, ?_⟩
    rw [hid, hkind, hprops, hchildren]
    rfl

theorem checkScreenWithin_eq_good_iff {room : Nat} {value : Doc} {screen : Screen} :
    checkScreenWithin room value = .good screen ↔
      ∃ fields, value = .obj fields ∧
        requiredField (.plain "id") (checkFilled .blankScreenId) fields = .good screen.id ∧
        defaultField (.plain "name") "" checkText fields = .good screen.name ∧
        optionalField (.plain "root") (checkCapsuleWithin room) fields = .good screen.root := by
  rw [checkScreenWithin, checkDescription_eq_good_iff]
  constructor
  · rintro ⟨fields, rfl, hgood⟩
    obtain ⟨_, _, htwo, hroot, rfl⟩ := Checked.seq_eq_good_iff.mp hgood
    obtain ⟨_, _, hone, hname, rfl⟩ := Checked.seq_eq_good_iff.mp htwo
    obtain ⟨_, hid, rfl⟩ := Checked.map_eq_good_iff.mp hone
    exact ⟨fields, rfl, hid, hname, hroot⟩
  · rintro ⟨fields, rfl, hid, hname, hroot⟩
    refine ⟨fields, rfl, ?_⟩
    rw [hid, hname, hroot]
    rfl

/-- The fields of a project document, as far as they make a project, with room for some levels of
capsules. -/
structure Project.ReadWithin (room : Nat) (project : Project) (fields : Fields) : Prop where
  /-- The name must be there. -/
  name : requiredField (.plain "name") (checkFilled .blankName) fields = .good project.name
  /-- The version has a default. -/
  version : defaultField (.plain "version") "1.0.0" checkText fields = .good project.version
  /-- There may be a description. -/
  description : optionalText "description" fields = .good project.description
  /-- The targets are normalized. -/
  targets : defaultField (.plain "targets") [] (checkList checkTarget) fields =
    .good project.targets
  /-- The screens are in order. -/
  screens : defaultField (.plain "screens") [] (checkList (checkScreenWithin room)) fields =
    .good project.screens
  /-- The theme may be left open. -/
  theme : defaultField (.plain "theme") .open (checkOpen .open checkTheme) fields =
    .good project.theme
  /-- There may be a navigation. -/
  navigation : optionalField (.plain "navigation") checkNavigation fields =
    .good project.navigation
  /-- There may be something about single platforms. -/
  platformConfig :
    optionalField ⟨"platformConfig", "platform_config"⟩ checkPlatformConfig fields =
      .good project.platformConfig

theorem checkProjectWithin_eq_good_iff {room : Nat} {value : Doc} {project : Project} :
    checkProjectWithin room value = .good project ↔
      ∃ fields, value = .obj fields ∧ project.ReadWithin room fields := by
  rw [checkProjectWithin, checkDescription_eq_good_iff]
  constructor
  · rintro ⟨fields, rfl, hgood⟩
    obtain ⟨_, _, hseven, hplatforms, rfl⟩ := Checked.seq_eq_good_iff.mp hgood
    obtain ⟨_, _, hsix, hnavigation, rfl⟩ := Checked.seq_eq_good_iff.mp hseven
    obtain ⟨_, _, hfive, htheme, rfl⟩ := Checked.seq_eq_good_iff.mp hsix
    obtain ⟨_, _, hfour, hscreens, rfl⟩ := Checked.seq_eq_good_iff.mp hfive
    obtain ⟨_, _, hthree, htargets, rfl⟩ := Checked.seq_eq_good_iff.mp hfour
    obtain ⟨_, _, htwo, hdescription, rfl⟩ := Checked.seq_eq_good_iff.mp hthree
    obtain ⟨_, _, hone, hversion, rfl⟩ := Checked.seq_eq_good_iff.mp htwo
    obtain ⟨_, hname, rfl⟩ := Checked.map_eq_good_iff.mp hone
    exact ⟨fields, rfl, hname, hversion, hdescription, htargets, hscreens, htheme, hnavigation,
      hplatforms⟩
  · rintro ⟨fields, rfl, hread⟩
    refine ⟨fields, rfl, ?_⟩
    rw [hread.name, hread.version, hread.description, hread.targets, hread.screens, hread.theme,
      hread.navigation, hread.platformConfig]
    rfl

theorem readProject_eq_ok_iff {complete : Bool} {value : Doc} {project : Project} :
    readProject complete value = .ok project ↔
      (complete = true → missingFields value = []) ∧ checkProject value = .good project := by
  unfold readProject
  cases complete <;> cases missingFields value <;> cases checkProject value <;> simp

end CapsuleLoom
