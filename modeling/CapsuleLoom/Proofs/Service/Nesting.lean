import CapsuleLoom.Proofs.Project.Readback
import CapsuleLoom.Proofs.Service.Results

/-!
# How deep screens may be nested

Two guards look at the levels of capsules in a screen.  The settings say how many there may be when
files are made.  Before that, the check of a document looks at a fixed number of levels only, and
reports everything below them as too deep.  So where the settings allow more levels than the check
looks at, the check decides, and documents are turned down that the settings allow.

## Main definitions

* `Checked.OnlyDepth` : the outcome of a check in which nothing but nesting goes wrong.
* `Shallower` : two checks differ only in how deep they look.
* `Project.Fits`, `Project.Within` : the screens of a project have few levels, or keep the limits.
* `Describes` : a document describes a project, if there is room for its levels.

## Main results

* `checkCapsuleWithin_shallower`, `checkScreenWithin_shallower`, `checkProjectWithin_shallower` :
  checks with different room differ only in that things are too deep.
* `readProject_of_describes` : what is read from a document that describes a project.
* `nesting_ceilings` : which documents are turned down on account of nesting.
-/

namespace CapsuleLoom

variable {α β : Type}

/-! ### Checks in which only nesting goes wrong -/

namespace Checked

/-- The outcome of a check in which nothing but nesting goes wrong: the value if it fits, and
problems of nesting only if it does not. -/
inductive OnlyDepth (fits : Prop) (value : α) : Checked α → Prop
  /-- The value fits. -/
  | good (hfits : fits) : OnlyDepth fits value (.good value)
  /-- The value does not fit. -/
  | bad {problems : List Problem} (hfits : ¬ fits) (hne : problems ≠ [])
      (hcauses : ∀ problem ∈ problems, problem.cause = .tooDeep) :
      OnlyDepth fits value (.bad problems)

namespace OnlyDepth

variable {fits other : Prop} {value : α} {checked : Checked α}

theorem congr (hiff : fits ↔ other) (honly : checked.OnlyDepth fits value) :
    checked.OnlyDepth other value := by
  rwa [← propext hiff]

theorem under (honly : checked.OnlyDepth fits value) (step : Step) :
    (checked.under step).OnlyDepth fits value := by
  cases honly with
  | good hfits => exact .good hfits
  | bad hfits hne hcauses =>
    refine .bad hfits (by simpa using hne) ?_
    rwa [List.forall_mem_map]

theorem seq {f : α → β} {checkedFun : Checked (α → β)} (hfun : checkedFun.OnlyDepth other f)
    (hvalue : checked.OnlyDepth fits value) :
    (checkedFun <*> checked).OnlyDepth (other ∧ fits) (f value) := by
  cases hfun with
  | good hother =>
    cases hvalue with
    | good hfits => exact .good ⟨hother, hfits⟩
    | bad hfits hne hcauses => exact .bad (fun hboth => hfits hboth.2) hne hcauses
  | bad hother hne hcauses =>
    cases hvalue with
    | good hfits => exact .bad (fun hboth => hother hboth.1) hne hcauses
    | bad hfits _ hmore =>
      refine .bad (fun hboth => hother hboth.1) (by simp [hne]) ?_
      exact List.forall_mem_append.mpr ⟨hcauses, hmore⟩

theorem good_seq (f : α → β) (honly : checked.OnlyDepth fits value) :
    (Checked.good f <*> checked).OnlyDepth fits (f value) :=
  .congr (iff_of_eq (true_and _)) (seq (.good trivial) honly)

theorem seq_good {f : α → β} {checkedFun : Checked (α → β)} (hfun : checkedFun.OnlyDepth fits f)
    (value : α) : (checkedFun <*> Checked.good value).OnlyDepth fits (f value) :=
  .congr (iff_of_eq (and_true _)) (seq hfun (.good trivial))

theorem map (f : α → β) (honly : checked.OnlyDepth fits value) :
    (f <$> checked).OnlyDepth fits (f value) := by
  cases honly with
  | good hfits => exact .good hfits
  | bad hfits hne hcauses => exact .bad hfits hne hcauses

theorem eachFrom {fits : β → Prop} {check : α → Checked β} {items : List α} {values : List β}
    (hrow : List.Forall₂ (fun item value => (check item).OnlyDepth (fits value) value) items values)
    (position : Nat) :
    (eachFrom check position items).OnlyDepth (∀ value ∈ values, fits value) values := by
  induction hrow generalizing position with
  | nil => exact .good (by simp)
  | cons hfirst _ ih =>
    refine congr List.forall_mem_cons.symm ?_
    exact ((hfirst.under _).map List.cons).seq (ih (position + 1))

end OnlyDepth

end Checked

/-! ### Checks with less room -/

/-- Two checks differ in how deep they look and in nothing else: what the first one accepts, the
other one accepts if it fits, and finds too deep if not. -/
def Shallower (fits : α → Prop) (deep shallow : Doc → Checked α) : Prop :=
  ∀ value result, deep value = .good result → (shallow value).OnlyDepth (fits result) result

section Shallower

variable {fits : α → Prop} {deep shallow : Doc → Checked α}
  (hshallower : Shallower fits deep shallow)

include hshallower

theorem Shallower.checkList :
    Shallower (∀ value ∈ ·, fits value) (checkList deep) (checkList shallow) := by
  intro value results hgood
  obtain ⟨items, rfl, hitems⟩ := checkList_eq_good_iff.mp hgood
  exact .eachFrom (hitems.imp fun _ _ => hshallower _ _) 0

theorem Shallower.checkChildren :
    Shallower (∀ value ∈ ·, fits value) (checkChildren deep) (checkChildren shallow) := by
  intro value results hgood
  rcases checkChildren_eq_good_iff.mp hgood with ⟨rfl, rfl⟩ | hlist
  · exact .good (by simp)
  · obtain ⟨items, rfl, -⟩ := checkList_eq_good_iff.mp hlist
    exact hshallower.checkList _ _ hlist

theorem Shallower.checkOptional :
    Shallower (∀ value ∈ ·, fits value) (checkOptional deep) (checkOptional shallow) := by
  intro value result? hgood
  rcases checkOptional_eq_good_iff.mp hgood with ⟨rfl, rfl⟩ | ⟨hnull, result, hresult, rfl⟩
  · exact .good (by simp)
  · rw [checkOptional_of_ne_null shallow hnull]
    exact .congr (by simp) ((hshallower _ _ hresult).map some)

/-- A field whose default fits. -/
theorem Shallower.defaultField {key : Key} {default result : α} {fields : Fields}
    (hdefault : fits default) (hgood : defaultField key default deep fields = .good result) :
    (defaultField key default shallow fields).OnlyDepth (fits result) result := by
  rcases defaultField_eq_good_iff.mp hgood with ⟨name, value, hspelled, hvalue⟩ | ⟨hnone, rfl⟩
  · rw [CapsuleLoom.defaultField, hspelled]
    exact (hshallower _ _ hvalue).under _
  · rw [CapsuleLoom.defaultField, hnone]
    exact .good hdefault

end Shallower

/-- A screen has no more levels of capsules than there is room for. -/
def Screen.Fits (room : Nat) (screen : Screen) : Prop := ∀ tree ∈ screen.root, tree.height ≤ room

/-- No screen of a project has more levels of capsules than there is room for. -/
def Project.Fits (room : Nat) (project : Project) : Prop :=
  ∀ screen ∈ project.screens, screen.Fits room

section Within

variable (levels room : Nat)

/-- With another room, a tree is found or something in it is too deep. -/
theorem checkCapsuleWithin_shallower :
    Shallower (·.height ≤ room) (checkCapsuleWithin levels) (checkCapsuleWithin room) := by
  induction room generalizing levels with
  | zero =>
    intro value tree _
    exact .bad tree.height_pos.not_ge (List.cons_ne_nil _ _) (by simp)
  | succ room ih =>
    intro value tree hgood
    cases levels with
    | zero => cases hgood
    | succ levels =>
      obtain ⟨fields, rfl, hid, hkind, hprops, hchildren⟩ :=
        checkCapsuleWithin_eq_good_iff.mp hgood
      obtain ⟨capsule, children⟩ := tree
      have hbelow := (ih levels).checkChildren.defaultField (by simp) hchildren
      rw [checkCapsuleWithin, checkDescription, hid, hkind, hprops]
      exact .congr (Tree.height_mk_le_iff capsule children room).symm
        (hbelow.good_seq (makeTree capsule.id capsule.kind capsule.props))

theorem checkScreenWithin_shallower :
    Shallower (·.Fits room) (checkScreenWithin levels) (checkScreenWithin room) := by
  intro value screen hgood
  obtain ⟨fields, rfl, hid, hname, hroot⟩ := checkScreenWithin_eq_good_iff.mp hgood
  have hroot := (checkCapsuleWithin_shallower levels room).checkOptional.defaultField
    (by simp) hroot
  rw [checkScreenWithin, checkDescription, hid, hname]
  exact hroot.good_seq (Screen.mk screen.id screen.name)

theorem checkProjectWithin_shallower :
    Shallower (·.Fits room) (checkProjectWithin levels) (checkProjectWithin room) := by
  intro value project hgood
  obtain ⟨fields, rfl, hread⟩ := checkProjectWithin_eq_good_iff.mp hgood
  have hscreens := (checkScreenWithin_shallower levels room).checkList.defaultField
    (by simp) hread.screens
  rw [checkProjectWithin, checkDescription, hread.name, hread.version, hread.description,
    hread.targets, hread.theme, hread.navigation, hread.platformConfig]
  -- All fields but the screens are good, so that the screens decide.
  exact (((hscreens.good_seq (Project.mk project.name project.version project.description
    project.targets)).seq_good project.theme).seq_good project.navigation).seq_good
      project.platformConfig

end Within

/-! ### Reading documents -/

/-- A document describes a project: nothing is wrong with it if there is room for its levels. -/
structure Describes (complete : Bool) (doc : Doc) (project : Project) : Prop where
  /-- No field is missing that has to be there. -/
  present : complete = true → missingFields doc = []
  /-- All values are right. -/
  valid : ∃ room, checkProjectWithin room doc = .good project

/-- All screens of a project keep the limits. -/
def Project.Within (limits : Limits) (project : Project) : Prop :=
  ∀ screen ∈ project.screens, ∀ tree ∈ screen.root, tree.Within limits

section Reading

variable {complete : Bool} {doc : Doc} {project : Project}

/-- A document that describes a project is read, or nothing but nesting is wrong with it. -/
theorem readProject_of_describes (hdescribes : Describes complete doc project) :
    (project.Fits checkedLevels ∧ readProject complete doc = .ok project) ∨
      ¬ project.Fits checkedLevels ∧ ∃ problems,
        readProject complete doc = .error (.invalid problems) ∧ problems ≠ [] ∧
        ∀ problem ∈ problems, problem.cause = .tooDeep := by
  obtain ⟨room, hroom⟩ := hdescribes.valid
  have hpresent : ¬ (complete && !(missingFields doc).isEmpty) = true := by
    rw [Bool.and_eq_true]
    rintro ⟨hcomplete, hmissing⟩
    rw [hdescribes.present hcomplete] at hmissing
    cases hmissing
  have honly : (checkProject doc).OnlyDepth (project.Fits checkedLevels) project :=
    checkProjectWithin_shallower room checkedLevels doc project hroom
  unfold readProject
  rw [if_neg hpresent]
  generalize checkProject doc = checked at honly ⊢
  cases honly with
  | good hfits => exact .inl ⟨hfits, rfl⟩
  | bad hfits hne hcauses => exact .inr ⟨hfits, _, rfl, hne, hcauses⟩

theorem Project.Within.fits {limits : Limits} (hwithin : project.Within limits)
    (hlimits : min limits.maxDepth limits.maxNodes ≤ checkedLevels) :
    project.Fits checkedLevels := by
  intro screen hscreen tree htree
  obtain ⟨hheight, hsize⟩ := hwithin screen hscreen tree htree
  have hle := tree.height_le_size
  omega

theorem generate_ne_breach {service : Service}
    (hwithin : project.Within service.settings.limits) (targets? : Option (List Doc))
    (breach : Breach) (after : Service) :
    generate project targets? service ≠ (.error (.breach breach), after) := by
  intro hgenerate
  obtain ⟨-, ⟨before, screen, behind, hscreens, -, hbreach⟩, -⟩ :=
    generateOver_breach_iff.mp hgenerate
  have hscreen : screen ∈ project.screens := by simp [hscreens]
  rw [countCapsules_of_within (hwithin screen hscreen)] at hbreach
  cases hbreach

end Reading

/-! ### A document that is one level too deep -/

/-- A tree in which every place has one place below it, except for the last. -/
def Tree.chain (value : α) : (below : Nat) → Tree α
  | 0 => ⟨value, []⟩
  | below + 1 => ⟨value, [chain value below]⟩

theorem Tree.height_chain (value : α) (below : Nat) : (chain value below).height = below + 1 := by
  induction below with
  | zero => rfl
  | succ below ih =>
    have hfold : height ⟨value, [chain value below]⟩ = 1 + max (chain value below).height 0 :=
      fold_mk _ value [chain value below]
    rw [chain, hfold, ih]
    omega

theorem Tree.size_chain (value : α) (below : Nat) : (chain value below).size = below + 1 := by
  induction below with
  | zero => rfl
  | succ below ih =>
    rw [chain, size_mk, List.map_singleton, ih]
    exact Nat.add_comm ..

/-- A screen of lines below each other, one more than the check looks at. -/
def deepTree : Tree Capsule := .chain ⟨"line", "divider", []⟩ checkedLevels

/-- A project with such a screen. -/
def deepProject : Project where
  name := "Deep"
  version := "1.0.0"
  description := none
  targets := ["ios"]
  screens := [⟨"home", "Home", some deepTree⟩]
  theme := .open
  navigation := none
  platformConfig := none

/-- The document of this project. -/
def deepDoc : Doc :=
  .obj [("name", .str "Deep"), ("version", .str "1.0.0"), ("targets", .strs ["ios"]),
    ("screens", .arr [.obj [("id", .str "home"), ("name", .str "Home"), ("root", deepTree.toDoc)]]),
    ("theme", .obj [])]

theorem describes_deepDoc (complete : Bool) : Describes complete deepDoc deepProject := by
  have hroot : checkOptional (checkCapsuleWithin (checkedLevels + 1)) deepTree.toDoc =
      .good (some deepTree) := by
    refine checkOptional_eq_good_iff.mpr (.inr ⟨?_, deepTree, ?_, rfl⟩)
    · exact Doc.noConfusion
    · exact checkCapsuleWithin_toDoc (Tree.height_chain ..).le
  refine ⟨fun _ => rfl, checkedLevels + 1, checkProjectWithin_eq_good_iff.mpr ⟨_, rfl, ?_⟩⟩
  refine ⟨rfl, rfl, rfl, rfl, ?_, rfl, rfl, rfl⟩
  refine defaultField_of_get? rfl (checkList_eq_good_iff.mpr ⟨_, rfl, .cons ?_ .nil⟩)
  exact checkScreenWithin_eq_good_iff.mpr ⟨_, rfl, rfl, rfl, defaultField_of_get? rfl hroot⟩

theorem within_deepProject {limits : Limits}
    (hlimits : checkedLevels < min limits.maxDepth limits.maxNodes) :
    deepProject.Within limits := by
  have hheight : deepTree.height = checkedLevels + 1 := Tree.height_chain ..
  have hsize : deepTree.size = checkedLevels + 1 := Tree.size_chain ..
  refine List.forall_mem_singleton.mpr fun tree htree => ?_
  cases htree
  exact ⟨by omega, by omega⟩

theorem not_fits_deepProject : ¬ deepProject.Fits checkedLevels := by
  have hheight : deepTree.height = checkedLevels + 1 := Tree.height_chain ..
  intro hfits
  have hle := hfits _ List.mem_cons_self deepTree rfl
  omega

/-- Two ceilings stand above the screens of a document.  With the limits of the settings kept, a
document that describes a project is read, and no generation stops at a breach, if no screen has
more levels than the check looks at; otherwise the check turns it down, for nothing but its nesting.
So the limits are the only ceiling exactly if they leave no room for a level beyond. -/
theorem nesting_ceilings (complete : Bool) (service : Service) :
    (∀ doc project, Describes complete doc project → project.Within service.settings.limits →
      (project.Fits checkedLevels →
        readProject complete doc = .ok project ∧ ∀ targets? breach after,
          generate project targets? service ≠ (.error (.breach breach), after)) ∧
      (¬ project.Fits checkedLevels →
        ∃ problems, readProject complete doc = .error (.invalid problems) ∧ problems ≠ [] ∧
          ∀ problem ∈ problems, problem.cause = .tooDeep)) ∧
    ((∀ doc project, Describes complete doc project → project.Within service.settings.limits →
        readProject complete doc = .ok project) ↔
      min service.settings.maxTreeDepth service.settings.maxTreeNodes ≤ checkedLevels) := by
  refine ⟨fun doc project hdescribes hwithin => ?_, fun hread => ?_, fun hlimits => ?_⟩
  · rcases readProject_of_describes hdescribes with ⟨hfits, hread⟩ | ⟨hfits, hproblems⟩
    · exact ⟨fun _ => ⟨hread, generate_ne_breach hwithin⟩, fun hnot => absurd hfits hnot⟩
    · exact ⟨fun hyes => absurd hyes hfits, fun _ => hproblems⟩
  · by_contra hlimits
    have hdeep := hread _ _ (describes_deepDoc complete) (within_deepProject (not_le.mp hlimits))
    rcases readProject_of_describes (describes_deepDoc complete) with
      ⟨hfits, -⟩ | ⟨-, problems, hproblems, -⟩
    · exact not_fits_deepProject hfits
    · cases hproblems.symm.trans hdeep
  · intro doc project hdescribes hwithin
    rcases readProject_of_describes hdescribes with ⟨-, hread⟩ | ⟨hfits, -⟩
    · exact hread
    · exact absurd (hwithin.fits hlimits) hfits

/-- A service that puts up with as many levels of capsules as the settings can say. -/
def Service.deepest : Service :=
  .new { Settings.standard with maxTreeDepth := 256 } (.new Clock.defaultTick) [] 0

/-- The settings allow 256 levels, and a screen with 255 is turned down. -/
theorem nesting_ceilings_deepDoc :
    Describes true deepDoc deepProject ∧ deepProject.Within Service.deepest.settings.limits ∧
      ∃ problems, readProject true deepDoc = .error (.invalid problems) ∧ problems ≠ [] ∧
        ∀ problem ∈ problems, problem.cause = .tooDeep := by
  have hwithin : deepProject.Within Service.deepest.settings.limits :=
    within_deepProject (by decide)
  obtain ⟨hceilings, -⟩ := nesting_ceilings true .deepest
  exact ⟨describes_deepDoc true, hwithin,
    (hceilings _ _ (describes_deepDoc true) hwithin).2 not_fits_deepProject⟩

end CapsuleLoom
