import CapsuleLoom.Proofs.Project.Check
import CapsuleLoom.Service.Bridge

/-!
# Documents with the defaults filled in

Filling the defaults in changes the version, the targets and the theme of a document at most.  A
value that counts as absent is replaced, so the version and the theme are there afterwards; yet a
version of white space alone counts as there.  Of the fields that a complete project has, only
such a version can then be missing.

## Main results

* `Fields.get?_put`, `Fields.get?_fill` : the fields after a change.
* `get?_fillDefaults_of_requested` : targets that are asked for replace those of the filled-in
  document, and nothing else.
* `missingFields_fillDefaults` : only a blank version can be missing.
-/

namespace CapsuleLoom

namespace Fields

variable {key other : String} {value : Doc} {fields : Fields}

theorem get?_put (key : String) (value : Doc) (fields : Fields) (other : String) :
    (put key value fields).get? other = if key = other then some value else fields.get? other := by
  induction fields with
  | nil => exact get?_cons key value [] other
  | cons field rest ih =>
    obtain ⟨name, held⟩ := field
    rw [put]
    by_cases hname : name = key
    · rw [if_pos hname, get?_cons, get?_cons, hname]
      split_ifs <;> rfl
    · rw [if_neg hname, get?_cons, get?_cons, ih]
      split_ifs with hheld hkey
      · exact absurd (hheld.trans hkey.symm) hname
      all_goals rfl

theorem get?_fill (fields : Fields) (key : String) (value : Doc) (other : String) :
    (fields.fill key value).get? other =
      if key = other ∧ (fields.get key).isVacant = true then some value else fields.get? other := by
  unfold fill
  by_cases hvacant : (fields.get key).isVacant = true
  · simp only [hvacant, if_true, get?_put, and_true]
  · simp [hvacant]

/-- A field that is filled in counts as there. -/
theorem isVacant_get_fill (hvalue : value.isVacant = false) :
    ((fields.fill key value).get key).isVacant = false := by
  rw [get, get?_fill]
  by_cases hvacant : (fields.get key).isVacant = true
  · rw [if_pos ⟨rfl, hvacant⟩]
    exact hvalue
  · rw [if_neg fun hboth => hvacant hboth.2]
    exact Bool.eq_false_iff.mpr hvacant

theorem get_fill_of_ne (hother : key ≠ other) :
    (fields.fill key value).get other = fields.get other := by
  rw [get, get?_fill, if_neg fun hboth => hother hboth.1, get]

theorem get_put_of_ne (hother : key ≠ other) :
    (put key value fields).get other = fields.get other := by
  rw [get, get?_put, if_neg hother, get]

end Fields

section Defaults

variable {primary : String} {targets : List String} {fields : Fields}

/-- Targets that are asked for replace those of the filled-in document, and nothing else. -/
theorem get?_fillDefaults_of_requested (primary : String) (targets : List String) (fields : Fields)
    (key : String) :
    (fillDefaults primary (some targets) fields).get? key =
      if key = "targets" then some (.strs targets)
      else (fillDefaults primary none fields).get? key := by
  unfold fillDefaults
  dsimp only
  by_cases htargets : key = "targets"
  · simp [Fields.get?_fill, Fields.get?_put, htargets]
  · simp [Fields.get?_fill, Fields.get?_put, Fields.get_put_of_ne, Fields.get_fill_of_ne, htargets,
      Ne.symm htargets]

/-- The fields that have no default stay. -/
theorem get_fillDefaults_of_ne {key : String} (hversion : "version" ≠ key)
    (htargets : "targets" ≠ key) (htheme : "theme" ≠ key) :
    (fillDefaults primary (some targets) fields).get key = fields.get key := by
  unfold fillDefaults
  dsimp only
  rw [Fields.get_fill_of_ne htheme, Fields.get_put_of_ne htargets, Fields.get_fill_of_ne hversion]

theorem isVacant_get_fillDefaults_version (primary : String) (targets : List String)
    (fields : Fields) :
    ((fillDefaults primary (some targets) fields).get "version").isVacant = false := by
  unfold fillDefaults
  dsimp only
  rw [Fields.get_fill_of_ne (by decide), Fields.get_put_of_ne (by decide)]
  exact Fields.isVacant_get_fill (by decide)

theorem isVacant_get_fillDefaults_theme (primary : String) (targets : List String)
    (fields : Fields) :
    ((fillDefaults primary (some targets) fields).get "theme").isVacant = false :=
  Fields.isVacant_get_fill rfl

/-- A value that counts as there is there. -/
theorem Fields.get?_of_not_vacant {key : String} (hheld : (fields.get key).isVacant = false) :
    fields.get? key = some (fields.get key) := by
  unfold Fields.get at hheld ⊢
  cases hget : fields.get? key with
  | none => rw [hget] at hheld; cases hheld
  | some value => rfl

theorem exists_name_screens_of_projectShape? (hshape : (projectShape? fields).isSome = true) :
    ∃ name screens, fields.get "name" = .str name ∧ Text.isBlankText name = false ∧
      fields.get "screens" = .arr screens := by
  unfold projectShape? at hshape
  cases hname : fields.get "name" <;> cases hscreens : fields.get "screens" <;>
    simp_all [Doc.text?, Doc.items?]

section Read

variable {project : Project}
  (hcheck : checkProject (.obj (fillDefaults primary (some targets) fields)) = .good project)

include hcheck

/-- The version of the project is that of the document. -/
theorem get_version_of_checkProject :
    (fillDefaults primary (some targets) fields).get "version" = .str project.version := by
  obtain ⟨_, hfields, hfrom⟩ := checkProjectWithin_eq_good_iff.mp hcheck
  cases hfields
  have hget := Fields.get?_of_not_vacant (isVacant_get_fillDefaults_version primary targets fields)
  exact checkText_eq_good_iff.mp ((defaultField_plain_eq_good_iff hget).mp hfrom.version)

/-- The theme of the document is an object. -/
theorem exists_theme_of_checkProject :
    ∃ theme, (fillDefaults primary (some targets) fields).get "theme" = .obj theme := by
  obtain ⟨_, hfields, hfrom⟩ := checkProjectWithin_eq_good_iff.mp hcheck
  cases hfields
  have hheld := isVacant_get_fillDefaults_theme primary targets fields
  have hget := Fields.get?_of_not_vacant hheld
  -- A theme that is null is good in itself, but then a theme would have been filled in.
  rcases checkOpen_eq_good_iff.mp ((defaultField_plain_eq_good_iff hget).mp hfrom.theme) with
    ⟨hnull, -⟩ | ⟨-, htheme⟩
  · rw [hnull] at hheld
    cases hheld
  · obtain ⟨theme, hobject, -⟩ := checkDescription_eq_good_iff.mp htheme
    exact ⟨theme, hobject⟩

/-- The targets of the project are those that are asked for. -/
theorem targets_of_checkProject : project.targets = targets.map normalTarget := by
  obtain ⟨_, hfields, hfrom⟩ := checkProjectWithin_eq_good_iff.mp hcheck
  cases hfields
  have hget := get?_fillDefaults_of_requested primary targets fields "targets"
  rw [if_pos rfl] at hget
  obtain ⟨items, hitems, hall⟩ :=
    checkList_eq_good_iff.mp ((defaultField_plain_eq_good_iff hget).mp hfrom.targets)
  cases hitems
  rw [List.forall₂_map_left_iff] at hall
  rw [eq_comm, ← List.forall₂_eq_eq_eq, List.forall₂_map_left_iff]
  refine hall.imp fun raw target hgood => ?_
  obtain ⟨_, hraw, htarget⟩ := checkTarget_eq_good_iff.mp hgood
  cases hraw
  exact htarget.symm

/-- Of the fields that a complete project has, only a blank version can be missing. -/
theorem missingFields_fillDefaults (hshape : (projectShape? fields).isSome = true) :
    missingFields (.obj (fillDefaults primary (some targets) fields)) =
      if Text.isBlankText project.version = true then ["version"] else [] := by
  obtain ⟨name, screens, hname, hshown, hscreens⟩ := exists_name_screens_of_projectShape? hshape
  obtain ⟨theme, htheme⟩ := exists_theme_of_checkProject hcheck
  have hversion := get_version_of_checkProject hcheck
  have htargets := get?_fillDefaults_of_requested primary targets fields "targets"
  have hkept := @get_fillDefaults_of_ne primary targets fields
  -- Five fields are all that is needed of the document from here on.
  generalize fillDefaults primary (some targets) fields = filled at hversion htheme htargets hkept ⊢
  have hnamed : isMissing (filled.get "name") = false := by
    rw [hkept (by decide) (by decide) (by decide), hname]
    exact hshown
  have hlisted : isMissing (filled.get "screens") = false := by
    rw [hkept (by decide) (by decide) (by decide), hscreens]
    rfl
  have htargeted : isMissing (filled.get "targets") = false := by
    rw [Fields.get, htargets]
    rfl
  have hthemed : isMissing (filled.get "theme") = false := by
    rw [htheme]
    rfl
  have hversioned : isMissing (filled.get "version") = Text.isBlankText project.version := by
    rw [hversion]
    rfl
  simp [missingFields, requiredFields, List.filter_cons, hnamed, hlisted, htargeted, hthemed,
    hversioned]

end Read

end Defaults

end CapsuleLoom
