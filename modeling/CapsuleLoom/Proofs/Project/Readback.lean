import CapsuleLoom.Project.Dump
import CapsuleLoom.Proofs.Project.Check

/-!
# Projects that are read back

Checking a document settles it: names and identifiers lose the white space around them, targets
become normal, what is null is filled in, both spellings of a key become one, and the extra fields
of platforms are kept apart from the known ones.  A settled project has a document from which it
is read back as it is, so nothing is left to settle at a second reading.

## Main definitions

* `Filled` : a text without white space around it that is not blank.
* `Screen.Settled`, `PlatformConfig.Settled`, `Project.Settled` : what checking leaves.

## Main results

* `settled_of_readProject` : what was read is settled.
* `readProject_toDoc` : what is settled is read back from its document.
* `readProject_retracts` : what was read is read back from its document.
-/

namespace CapsuleLoom

/-! ### Settled values -/

/-- A text without white space around it that is not blank. -/
structure Filled (text : String) : Prop where
  /-- No white space stands around it. -/
  trimmed : Text.strip text = text
  /-- There is something else. -/
  shown : Text.isBlankText text = false

/-- A screen as checking leaves it. -/
structure Screen.Settled (screen : Screen) : Prop where
  /-- There is an identifier. -/
  id : Filled screen.id
  /-- The tree is not too high to be looked at. -/
  root : ∀ tree ∈ screen.root, tree.height ≤ checkedLevels

/-- No field is under the first spelling of one of the keys. -/
def Fields.Apart (extras : Fields) (keys : List Key) : Prop :=
  ∀ field ∈ extras, ∀ key ∈ keys, field.1 ≠ key.name

/-- What is particular to single platforms, as checking leaves it. -/
structure PlatformConfig.Settled (config : PlatformConfig) : Prop where
  /-- The extra fields for Android are not the known one. -/
  android : ∀ android ∈ config.android, Fields.Apart android.extras [packageNameKey]
  /-- The extra fields for iOS are not the known one. -/
  ios : ∀ ios ∈ config.ios, Fields.Apart ios.extras [bundleIdKey]
  /-- The other extra fields are not the known ones. -/
  extras : Fields.Apart config.extras [.plain "android", .plain "ios"]

/-- A project as checking leaves it; one that has to be complete has a version. -/
structure Project.Settled (complete : Bool) (project : Project) : Prop where
  /-- There is a name. -/
  name : Filled project.name
  /-- A complete project has a version. -/
  version : complete = true → Text.isBlankText project.version = false
  /-- The targets are normal. -/
  targets : ∀ target ∈ project.targets, normalTarget target = target
  /-- The screens are settled. -/
  screens : ∀ screen ∈ project.screens, screen.Settled
  /-- What is particular to single platforms is settled. -/
  platformConfig : ∀ config ∈ project.platformConfig, config.Settled

/-! ### Checking settles -/

section Settles

variable {value : Doc}

theorem filled_of_checkFilled {blank : Cause} {text : String}
    (hcheck : checkFilled blank value = .good text) : Filled text := by
  obtain ⟨raw, -, hraw, rfl⟩ := checkFilled_eq_good_iff.mp hcheck
  refine ⟨Text.strip_strip raw, ?_⟩
  rw [← Bool.not_eq_true, ← Text.strip_eq_empty_iff, Text.strip_strip, Text.strip_eq_empty_iff,
    hraw]
  exact Bool.false_ne_true

theorem filled_of_requiredField {key : Key} {blank : Cause} {fields : Fields} {text : String}
    (hfield : requiredField key (checkFilled blank) fields = .good text) : Filled text := by
  obtain ⟨_, value, -, hvalue⟩ := requiredField_eq_good_iff.mp hfield
  exact filled_of_checkFilled hvalue

/-- A tree that was checked has as many levels as there was room for, at most. -/
theorem height_le_of_checkCapsuleWithin {room : Nat} {tree : Tree Capsule}
    (hcheck : checkCapsuleWithin room value = .good tree) : tree.height ≤ room := by
  induction room generalizing value tree with
  | zero => cases hcheck
  | succ room ih =>
    obtain ⟨fields, -, -, -, -, hchildren⟩ := checkCapsuleWithin_eq_good_iff.mp hcheck
    obtain ⟨capsule, children⟩ := tree
    refine (Tree.height_mk_le_iff capsule children room).mpr fun child hchild => ?_
    rcases defaultField_eq_good_iff.mp hchildren with ⟨_, list, -, hlist⟩ | ⟨-, hnone⟩
    · rcases checkChildren_eq_good_iff.mp hlist with ⟨-, hnone⟩ | hlist
      · subst hnone
        cases hchild
      · obtain ⟨item, hitem⟩ := exists_of_mem_checkList hlist hchild
        exact ih hitem
    · subst hnone
      cases hchild

theorem settled_of_checkScreen {screen : Screen} (hcheck : checkScreen value = .good screen) :
    screen.Settled := by
  obtain ⟨fields, -, hid, -, hroot⟩ := checkScreenWithin_eq_good_iff.mp hcheck
  refine ⟨filled_of_requiredField hid, fun tree htree => ?_⟩
  obtain ⟨value, hvalue⟩ := exists_of_optionalField hroot htree
  exact height_le_of_checkCapsuleWithin hvalue

/-- The first spelling of a key counts wherever it is there. -/
theorem Fields.spelling_of_mem {fields : Fields} {key : Key}
    (hmem : key.name ∈ fields.map Prod.fst) : fields.spelling key = key.name := by
  obtain ⟨field, hfield, hname⟩ := List.mem_map.mp hmem
  obtain ⟨value, hget⟩ : ∃ value, fields.get? key.name = some value := by
    rw [← Option.isSome_iff_exists, get?, Option.isSome_map, List.find?_isSome]
    exact ⟨field, hfield, beq_iff_eq.mpr hname⟩
  rw [spelling, spelled?_of_get? hget]

theorem Fields.apart_beyond (fields : Fields) (keys : List Key) :
    Fields.Apart (fields.beyond keys) keys := by
  -- A field under the first spelling of a key would have been read as that key's field.
  rintro ⟨name, value⟩ hfield key hkey rfl
  obtain ⟨hmem, hbeyond⟩ := List.mem_filter.mp hfield
  have hspelling : fields.spelling key = key.name :=
    spelling_of_mem (List.mem_map_of_mem hmem)
  have hcontains : (keys.map fields.spelling).contains key.name = true := by
    rw [List.contains_iff_mem, ← hspelling]
    exact List.mem_map_of_mem hkey
  rw [hcontains] at hbeyond
  cases hbeyond

theorem settled_of_checkPlatformConfig {config : PlatformConfig}
    (hcheck : checkPlatformConfig value = .good config) : config.Settled := by
  obtain ⟨fields, -, hgood⟩ := checkDescription_eq_good_iff.mp hcheck
  obtain ⟨_, _, hone, hios, rfl⟩ := Checked.seq_eq_good_iff.mp hgood
  obtain ⟨_, handroid, rfl⟩ := Checked.map_eq_good_iff.mp hone
  refine ⟨fun android hmem => ?_, fun ios hmem => ?_, Fields.apart_beyond fields _⟩
  · obtain ⟨value, hvalue⟩ := exists_of_optionalField handroid hmem
    obtain ⟨own, -, hown⟩ := checkDescription_eq_good_iff.mp hvalue
    obtain ⟨_, -, rfl⟩ := Checked.map_eq_good_iff.mp hown
    exact Fields.apart_beyond own _
  · obtain ⟨value, hvalue⟩ := exists_of_optionalField hios hmem
    obtain ⟨own, -, hown⟩ := checkDescription_eq_good_iff.mp hvalue
    obtain ⟨_, -, rfl⟩ := Checked.map_eq_good_iff.mp hown
    exact Fields.apart_beyond own _

/-- A version that is not missing is not blank. -/
theorem isBlankText_version_eq_false {fields : Fields} {version : String}
    (hversion : defaultField (.plain "version") "1.0.0" checkText fields = .good version)
    (hmissing : missingFields (.obj fields) = []) : Text.isBlankText version = false := by
  have hheld : isMissing (fields.get "version") = false := by
    have hall := List.filter_eq_nil_iff.mp hmissing "version" (by simp [requiredFields])
    simpa using hall
  rcases hget : fields.get? "version" with _ | value
  · rw [Fields.get, hget] at hheld
    cases hheld
  · obtain rfl := checkText_eq_good_iff.mp ((defaultField_plain_eq_good_iff hget).mp hversion)
    rw [Fields.get, hget] at hheld
    exact hheld

/-- What was read is settled. -/
theorem settled_of_readProject {complete : Bool} {project : Project}
    (hread : readProject complete value = .ok project) : project.Settled complete := by
  obtain ⟨hmissing, hcheck⟩ := readProject_eq_ok_iff.mp hread
  obtain ⟨fields, rfl, hfrom⟩ := checkProjectWithin_eq_good_iff.mp hcheck
  refine ⟨filled_of_requiredField hfrom.name, fun hcomplete => ?_, fun target htarget => ?_,
    fun screen hscreen => ?_, fun config hconfig => ?_⟩
  · exact isBlankText_version_eq_false hfrom.version (hmissing hcomplete)
  · obtain ⟨item, hitem⟩ := exists_of_mem_defaultField hfrom.targets htarget
    obtain ⟨raw, -, rfl⟩ := checkTarget_eq_good_iff.mp hitem
    exact normalTarget_normalTarget raw
  · obtain ⟨item, hitem⟩ := exists_of_mem_defaultField hfrom.screens hscreen
    exact settled_of_checkScreen hitem
  · obtain ⟨value, hvalue⟩ := exists_of_optionalField hfrom.platformConfig hconfig
    exact settled_of_checkPlatformConfig hvalue

end Settles

/-! ### Settled values are read back -/

section Back

variable {α : Type} {check : Doc → Checked α} {fields : Fields} {key : Key} {value : Doc}

theorem Checked.map_good {β : Type} {f : α → β} {checked : Checked α} {value : α} {result : β}
    (hvalue : checked = .good value) (hresult : f value = result) : f <$> checked = .good result :=
  map_eq_good_iff.mpr ⟨value, hvalue, hresult⟩

theorem Checked.seq_good {β : Type} {f : Checked (α → β)} {checked : Checked α} {g : α → β}
    {value : α} {result : β} (hf : f = .good g) (hvalue : checked = .good value)
    (hresult : g value = result) : f <*> checked = .good result :=
  seq_eq_good_iff.mpr ⟨g, value, hf, hvalue, hresult⟩

theorem requiredField_of_get? (hget : fields.get? key.name = some value) {result : α}
    (hgood : check value = .good result) : requiredField key check fields = .good result :=
  requiredField_eq_good_iff.mpr ⟨_, _, Fields.spelled?_of_get? hget, hgood⟩

theorem defaultField_of_get? (hget : fields.get? key.name = some value) {default result : α}
    (hgood : check value = .good result) : defaultField key default check fields = .good result :=
  defaultField_eq_good_iff.mpr (.inl ⟨_, _, Fields.spelled?_of_get? hget, hgood⟩)

/-- A value that may be absent is read back from a document that is not null. -/
theorem optionalField_docOf? {doc : α → Doc} {result? : Option α}
    (hget : fields.get? key.name = some (docOf? doc result?))
    (hnull : ∀ result, doc result ≠ .null)
    (hgood : ∀ result ∈ result?, check (doc result) = .good result) :
    optionalField key check fields = .good result? := by
  refine defaultField_of_get? hget (checkOptional_eq_good_iff.mpr ?_)
  cases result? with
  | none => exact .inl ⟨rfl, rfl⟩
  | some result => exact .inr ⟨hnull result, result, hgood result rfl, rfl⟩

theorem optionalField_ofText? {text? : Option String}
    (hget : fields.get? key.name = some (.ofText? text?)) :
    optionalField key checkText fields = .good text? := by
  refine defaultField_of_get? hget ?_
  cases text? <;> rfl

theorem checkList_map {doc : α → Doc} {results : List α}
    (hgood : ∀ result ∈ results, check (doc result) = .good result) :
    checkList check (.arr (results.map doc)) = .good results := by
  refine checkList_eq_good_iff.mpr ⟨_, rfl, ?_⟩
  rw [List.forall₂_map_left_iff, List.forall₂_same]
  exact hgood

theorem checkFilled_str {text : String} (hfilled : Filled text) (blank : Cause) :
    checkFilled blank (.str text) = .good text :=
  checkFilled_eq_good_iff.mpr ⟨text, rfl, hfilled.shown, hfilled.trimmed.symm⟩

/-- Fields under the first spellings of all keys are told from fields apart from the keys. -/
theorem Fields.beyond_append (own : Fields) {extras : Fields} {keys : List Key}
    (hown : own.map Prod.fst = keys.map Key.name) (hextras : Fields.Apart extras keys) :
    Fields.beyond (own ++ extras) keys = extras := by
  have hspelling : keys.map (Fields.spelling (own ++ extras)) = own.map Prod.fst := by
    rw [hown]
    refine List.map_congr_left fun key hkey => spelling_of_mem ?_
    rw [List.map_append, hown]
    exact List.mem_append_left _ (List.mem_map_of_mem hkey)
  -- Only the names of `own` count as known, so the filter keeps `extras` and nothing else.
  have hdrop : own.filter (fun field => !(own.map Prod.fst).contains field.1) = [] := by
    refine List.filter_eq_nil_iff.mpr fun field hfield => ?_
    simpa using ⟨field.2, hfield⟩
  have hkeep : extras.filter (fun field => !(own.map Prod.fst).contains field.1) = extras := by
    refine List.filter_eq_self.mpr fun field hfield => ?_
    rw [hown, Bool.not_eq_true', ← Bool.not_eq_true, List.contains_iff_mem, List.mem_map]
    rintro ⟨key, hkey, hname⟩
    exact hextras field hfield key hkey hname.symm
  rw [beyond, hspelling, List.filter_append, hdrop, hkeep, List.nil_append]

end Back

/-- A tree is read back where there is room for its levels. -/
theorem checkCapsuleWithin_toDoc {room : Nat} {tree : Tree Capsule}
    (hroom : tree.height ≤ room) : checkCapsuleWithin room tree.toDoc = .good tree := by
  induction room generalizing tree with
  -- Even a capsule without children has a level.
  | zero => exact absurd hroom tree.height_pos.not_ge
  | succ room ih =>
    obtain ⟨capsule, children⟩ := tree
    have hlower := (Tree.height_mk_le_iff capsule children room).mp hroom
    rw [Tree.toDoc, Tree.fold_mk]
    refine checkCapsuleWithin_eq_good_iff.mpr ⟨_, rfl, ?_, ?_, ?_, ?_⟩
    · exact defaultField_of_get? rfl rfl
    · exact defaultField_of_get? rfl rfl
    · exact defaultField_of_get? rfl rfl
    · refine defaultField_of_get? rfl (checkChildren_eq_good_iff.mpr (.inr ?_))
      exact checkList_map fun child hchild => ih (hlower child hchild)

theorem checkScreen_toDoc {screen : Screen} (hsettled : screen.Settled) :
    checkScreen screen.toDoc = .good screen := by
  refine checkScreenWithin_eq_good_iff.mpr ⟨_, rfl, ?_, ?_, ?_⟩
  · exact requiredField_of_get? rfl (checkFilled_str hsettled.id _)
  · exact defaultField_of_get? rfl rfl
  · refine optionalField_docOf? rfl (fun tree => ?_) fun tree htree =>
      checkCapsuleWithin_toDoc (hsettled.root tree htree)
    obtain ⟨capsule, children⟩ := tree
    rw [Tree.toDoc, Tree.fold_mk]
    exact Doc.noConfusion

theorem checkTextColors_toDoc (colors : TextColors) :
    checkTextColors colors.toDoc = .good colors := by
  obtain ⟨primary, secondary⟩ := colors
  cases primary <;> cases secondary <;> rfl

theorem checkThemeColors_toDoc (colors : ThemeColors) :
    checkThemeColors colors.toDoc = .good colors := by
  refine checkDescription_eq_good_iff.mpr ⟨_, rfl, ?_⟩
  refine Checked.seq_good (Checked.seq_good (Checked.seq_good (Checked.seq_good
    (Checked.map_good ?_ rfl) ?_ rfl) ?_ rfl) ?_ rfl) ?_ rfl
  · exact optionalField_ofText? rfl
  · exact optionalField_ofText? rfl
  · exact optionalField_ofText? rfl
  · exact optionalField_ofText? rfl
  · exact optionalField_docOf? rfl (fun _ => Doc.noConfusion) fun text _ =>
      checkTextColors_toDoc text

theorem checkTheme_toDoc (theme : Theme) : checkTheme theme.toDoc = .good theme := by
  refine checkDescription_eq_good_iff.mpr ⟨_, rfl, ?_⟩
  refine Checked.seq_good (Checked.map_good ?_ rfl) ?_ rfl
  · exact optionalField_ofText? rfl
  · refine defaultField_of_get? rfl (checkOpen_eq_good_iff.mpr (.inr ⟨Doc.noConfusion, ?_⟩))
    exact checkThemeColors_toDoc theme.colors

theorem checkNavigation_toDoc (navigation : Navigation) :
    checkNavigation navigation.toDoc = .good navigation := by
  have hstyle : styleOf (.str navigation.style.name) = navigation.style := by
    cases navigation.style <;> decide +kernel
  refine checkDescription_eq_good_iff.mpr ⟨_, rfl, ?_⟩
  refine Checked.seq_good (Checked.map_good ?_ rfl) ?_ rfl
  · exact defaultField_of_get? rfl (congrArg _ hstyle)
  · exact optionalField_ofText? rfl

theorem checkAndroidConfig_toDoc {config : AndroidConfig}
    (hextras : Fields.Apart config.extras [packageNameKey]) :
    checkAndroidConfig config.toDoc = .good config := by
  refine checkDescription_eq_good_iff.mpr ⟨_, rfl, ?_⟩
  refine Checked.map_good (optionalField_ofText? rfl) (congrArg (AndroidConfig.mk _) ?_)
  exact Fields.beyond_append [("packageName", .ofText? config.packageName)] rfl hextras

theorem checkIosConfig_toDoc {config : IosConfig}
    (hextras : Fields.Apart config.extras [bundleIdKey]) :
    checkIosConfig config.toDoc = .good config := by
  refine checkDescription_eq_good_iff.mpr ⟨_, rfl, ?_⟩
  refine Checked.map_good (optionalField_ofText? rfl) (congrArg (IosConfig.mk _) ?_)
  exact Fields.beyond_append [("bundleId", .ofText? config.bundleId)] rfl hextras

theorem checkPlatformConfig_toDoc {config : PlatformConfig} (hsettled : config.Settled) :
    checkPlatformConfig config.toDoc = .good config := by
  refine checkDescription_eq_good_iff.mpr ⟨_, rfl, ?_⟩
  refine Checked.seq_good (Checked.map_good ?_ rfl) ?_ (congrArg (PlatformConfig.mk _ _) ?_)
  · exact optionalField_docOf? rfl (fun _ => Doc.noConfusion) fun android hmem =>
      checkAndroidConfig_toDoc (hsettled.android android hmem)
  · exact optionalField_docOf? rfl (fun _ => Doc.noConfusion) fun ios hmem =>
      checkIosConfig_toDoc (hsettled.ios ios hmem)
  · exact Fields.beyond_append
      [("android", docOf? AndroidConfig.toDoc config.android),
        ("ios", docOf? IosConfig.toDoc config.ios)] rfl hsettled.extras

variable {complete : Bool} {project : Project}

theorem checkProject_toDoc (hsettled : project.Settled complete) :
    checkProject project.toDoc = .good project := by
  refine checkProjectWithin_eq_good_iff.mpr ⟨_, rfl, ?_⟩
  refine ⟨?name, ?version, ?description, ?targets, ?screens, ?theme, ?navigation, ?platformConfig⟩
  case name => exact requiredField_of_get? rfl (checkFilled_str hsettled.name _)
  case version => exact defaultField_of_get? rfl rfl
  case description => exact optionalField_ofText? rfl
  case targets =>
    exact defaultField_of_get? rfl (checkList_map fun target htarget =>
      checkTarget_eq_good_iff.mpr ⟨target, rfl, (hsettled.targets target htarget).symm⟩)
  case screens =>
    exact defaultField_of_get? rfl (checkList_map fun screen hscreen =>
      checkScreen_toDoc (hsettled.screens screen hscreen))
  case theme =>
    exact defaultField_of_get? rfl
      (checkOpen_eq_good_iff.mpr (.inr ⟨Doc.noConfusion, checkTheme_toDoc project.theme⟩))
  case navigation =>
    exact optionalField_docOf? rfl (fun _ => Doc.noConfusion) fun navigation _ =>
      checkNavigation_toDoc navigation
  case platformConfig =>
    exact optionalField_docOf? rfl (fun _ => Doc.noConfusion) fun config hconfig =>
      checkPlatformConfig_toDoc (hsettled.platformConfig config hconfig)

theorem missingFields_toDoc (hname : Text.isBlankText project.name = false)
    (hversion : Text.isBlankText project.version = false) : missingFields project.toDoc = [] := by
  refine List.filter_eq_nil_iff.mpr fun name hmem => ?_
  simp only [requiredFields, List.mem_cons, List.not_mem_nil, or_false] at hmem
  rcases hmem with rfl | rfl | rfl | rfl | rfl
  · exact Bool.eq_false_iff.mp hname
  · exact Bool.eq_false_iff.mp hversion
  all_goals exact Bool.false_ne_true

/-- What is settled is read back from its document. -/
theorem readProject_toDoc (hsettled : project.Settled complete) :
    readProject complete project.toDoc = .ok project :=
  readProject_eq_ok_iff.mpr
    ⟨fun hcomplete => missingFields_toDoc hsettled.name.shown (hsettled.version hcomplete),
      checkProject_toDoc hsettled⟩

/-- What was read from any document is settled, and it is read back as it is from its own
document. -/
theorem readProject_retracts {raw : Doc} (hread : readProject complete raw = .ok project) :
    readProject complete project.toDoc = .ok project ∧ project.Settled complete :=
  ⟨readProject_toDoc (settled_of_readProject hread), settled_of_readProject hread⟩

/-- A document in which everything is left to settle. -/
def unsettledDoc : Doc :=
  .obj [("name", .str " Bank "), ("version", .str "2"), ("targets", .strs [" iOS "]),
    ("screens", .arr [.obj [("id", .str "home\n"), ("root",
      .obj [("capsule_id", .bool true), ("props", .null), ("children",
        .arr [.obj [("capsuleId", .int 7), ("capsule_id", .str "text"), ("children", .null)]])])]]),
    ("theme", .obj [("colors", .null)]),
    ("navigation", .obj [("type", .str " TABS"), ("initial_screen", .str "home")]),
    ("platform_config", .obj [("android", .obj [("package_name", .str "a.b"), ("minSdk", .int 24)]),
      ("cloud", .arr [])])]

/-- The project of this document. -/
def settledProject : Project where
  name := "Bank"
  version := "2"
  description := none
  targets := ["ios"]
  screens := [⟨"home", "", some ⟨⟨"", "True", []⟩, [⟨⟨"", "7", []⟩, []⟩]⟩⟩]
  theme := ⟨none, .open⟩
  navigation := some ⟨.tabs, some "home"⟩
  platformConfig := some ⟨some ⟨some "a.b", [("minSdk", .int 24)]⟩, none, [("cloud", .arr [])]⟩

theorem readProject_retracts_unsettledDoc :
    readProject true unsettledDoc = .ok settledProject ∧
      readProject true settledProject.toDoc = .ok settledProject ∧
      settledProject.Settled true := by
  have hread : readProject true unsettledDoc = .ok settledProject := rfl
  exact ⟨hread, readProject_retracts hread⟩

end CapsuleLoom
