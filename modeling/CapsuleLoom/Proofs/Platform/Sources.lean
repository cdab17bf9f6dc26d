import CapsuleLoom.Proofs.Platform.Balance

/-!
# Balanced files

The files of a project put names, titles, colours and the fragments of the screens into templates.
In the templates every bracket has its partner, so the same holds of the files, on every platform
and for both ways between the screens.

## Main results

* `Ios.files_balanced`, `Android.files_balanced`, `Web.files_balanced` : the files of a platform.
* `Platform.manifest_nested` : in all files of a project brackets are nested properly.
-/

namespace CapsuleLoom

/-- The files of a blueprint have balanced brackets when the fragments of screens have. -/
structure Blueprint.IsBalanced (blueprint : Blueprint) (project : Project) : Prop where
  /-- The files in front of the screens. -/
  opening : ∀ file ∈ blueprint.opening project, Balanced file.content
  /-- The files of the screens. -/
  screenFile : ∀ screen ∈ project.screens, ∀ {fragment}, Balanced fragment →
    Balanced (blueprint.screenFile project screen fragment).content
  /-- The files behind the screens. -/
  closing : ∀ file ∈ blueprint.closing project, Balanced file.content

theorem Blueprint.exists_screens_of_manifest {blueprint : Blueprint} {limits : Limits}
    {project : Project} {files : List SourceFile}
    (hmanifest : blueprint.manifest limits project = .ok files) :
    ∃ screens, List.Forall₂ (fun screen file => blueprint.screen limits project screen = .ok file)
        project.screens screens ∧
      files = blueprint.opening project ++ screens ++ blueprint.closing project := by
  unfold Blueprint.manifest Blueprint.manifestOver at hmanifest
  cases hrow : project.screens.mapM (blueprint.screenOver Tree.outline limits project) with
  | error cause =>
    rw [hrow] at hmanifest
    cases hmanifest
  | ok screens =>
    rw [hrow] at hmanifest
    cases hmanifest
    exact ⟨screens, Steps.mapM_eq_ok_iff.mp hrow, rfl⟩

theorem Blueprint.exists_fragment_of_screen {blueprint : Blueprint} {limits : Limits}
    {project : Project} {screen : Screen} {file : SourceFile}
    (hscreen : blueprint.screen limits project screen = .ok file) :
    ∃ fragment, blueprint.backend.render project.theme limits screen.root = .ok fragment ∧
      file = blueprint.screenFile project screen fragment := by
  unfold Blueprint.screen Blueprint.screenOver at hscreen
  change (blueprint.backend.render project.theme limits screen.root).map _ = _ at hscreen
  cases hrender : blueprint.backend.render project.theme limits screen.root with
  | error cause =>
    rw [hrender] at hscreen
    cases hscreen
  | ok fragment =>
    rw [hrender] at hscreen
    cases hscreen
    exact ⟨fragment, rfl, rfl⟩

/-- What the files of the screens have in common with the screens, whatever the fragments are. -/
theorem Blueprint.map_screens_eq {blueprint : Blueprint} {limits : Limits} {project : Project}
    {screens : List SourceFile} {α : Type} {f : SourceFile → α} {g : Screen → α}
    (hfile : ∀ screen fragment, f (blueprint.screenFile project screen fragment) = g screen)
    (hscreens : List.Forall₂ (fun screen file => blueprint.screen limits project screen = .ok file)
      project.screens screens) : screens.map f = project.screens.map g := by
  rw [← List.forall₂_eq_eq_eq, List.forall₂_map_left_iff, List.forall₂_map_right_iff]
  refine hscreens.flip.imp fun file screen hscreen => ?_
  obtain ⟨fragment, -, rfl⟩ := exists_fragment_of_screen hscreen
  exact hfile screen fragment

section Names

variable {screen : Screen} (hscreen : ∀ text ∈ screen.texts, BracketFree text)

include hscreen

theorem bracketFree_id : BracketFree screen.id := hscreen screen.id (by simp [Screen.texts])

theorem balanced_typeName {suffix default : String} (hsuffix : BracketFree suffix)
    (hdefault : BracketFree default) : Balanced (typeName (some screen.id) suffix default) := by
  refine (bracketFree_typeName ?_ hsuffix hdefault).balanced
  rintro id ⟨⟩
  exact bracketFree_id hscreen

theorem bracketFree_of_mem_values :
    ∀ tree ∈ screen.root, ∀ capsule ∈ tree.values, ∀ text ∈ capsule.texts, BracketFree text := by
  intro tree htree capsule hcapsule text htext
  refine hscreen text (List.mem_cons_of_mem _ (List.mem_cons_of_mem _ ?_))
  refine List.mem_flatMap.mpr ⟨tree, Option.mem_toList.mpr htree, ?_⟩
  exact List.mem_flatMap.mpr ⟨capsule, hcapsule, htext⟩

end Names

section Projects

variable {project : Project} (hproject : ∀ text ∈ project.texts, BracketFree text)

include hproject

theorem balanced_app : Balanced (appIdentifier project.name) :=
  (bracketFree_appIdentifier (hproject project.name (by simp [Project.texts]))).balanced

/-- One line or more for each screen. -/
theorem balanced_rows {row : Screen → String}
    (hrow : ∀ {screen : Screen}, (∀ text ∈ screen.texts, BracketFree text) →
      Balanced (row screen)) : Balanced (stack (project.screens.map row)) := by
  refine balanced_stack fun text htext => ?_
  obtain ⟨screen, hscreen, rfl⟩ := List.mem_map.mp htext
  exact hrow (bracketFree_of_mem_screens hproject hscreen)

end Projects

/-! ### Files for iOS -/

namespace Ios

theorem balanced_tab {screen : Screen} (hscreen : ∀ text ∈ screen.texts, BracketFree text) :
    Balanced (tab screen) := by
  have hview : Balanced (viewName (some screen.id)) :=
    balanced_typeName hscreen (.of_spelled rfl) (.of_spelled rfl)
  have htitle := (bracketFree_title hscreen).balanced
  refine .of_settle_nil ?_
  simp (disch := first | assumption | rfl | decide) [tab, line]
  rfl

variable {project : Project} (hproject : ∀ text ∈ project.texts, BracketFree text)

include hproject

theorem balanced_contentBody : Balanced (contentBody project) := by
  have htabs := balanced_rows hproject balanced_tab
  have hview : Balanced (viewName project.initialScreenId?) :=
    (bracketFree_typeName (bracketFree_initialScreenId hproject) (.of_spelled rfl)
      (.of_spelled rfl)).balanced
  unfold contentBody
  split_ifs
  all_goals
    refine .of_settle_nil ?_
    simp (disch := first | assumption | rfl | decide) [line]
    rfl

theorem files_balanced : blueprint.IsBalanced project where
  opening := by
    have happ := balanced_app hproject
    have hbody := balanced_contentBody hproject
    simp only [blueprint, List.forall_mem_cons, List.not_mem_nil, false_implies, implies_true,
      and_true]
    constructor
    all_goals
      refine .of_settle_nil ?_
      simp (disch := first | assumption | rfl | decide) [appFile, contentFile, file, line]
      rfl
  screenFile screen hscreen fragment hfragment := by
    have hscreen := bracketFree_of_mem_screens hproject hscreen
    have hview : Balanced (viewName (some screen.id)) :=
      balanced_typeName hscreen (.of_spelled rfl) (.of_spelled rfl)
    have htitle := (bracketFree_title hscreen).balanced
    refine .of_settle_nil ?_
    simp (disch := first | assumption | rfl | decide) [blueprint, screenFile, file, line]
    rfl
  closing := by simp [blueprint]

end Ios

/-! ### Files for Android -/

namespace Android

@[simp]
theorem settle_position (owed? : Option (List Char)) (position : Nat) :
    settle owed? position.repr = owed? :=
  (isAtomic_toString_nat position).bracketFree.balanced owed?

theorem balanced_screenImports : Balanced (importLines screenImports) := by
  refine .of_settle_nil ?_
  simp (disch := first | assumption | rfl | decide) [importLines, screenImports]
  rfl

section Screens

variable {screen : Screen} (hscreen : ∀ text ∈ screen.texts, BracketFree text)

include hscreen

theorem balanced_screenName : Balanced (screenName screen.id) :=
  balanced_typeName hscreen (.of_spelled rfl) (.of_spelled rfl)

theorem balanced_tab (position : Nat) : Balanced (tab screen position) := by
  have htitle := (bracketFree_title hscreen).balanced
  refine .of_settle_nil ?_
  simp (disch := first | assumption | rfl | decide) [tab, line, textArgument, styledText, braced]
  rfl

theorem balanced_branch (position : Nat) : Balanced (branch screen position) := by
  have hname := balanced_screenName hscreen
  refine .of_settle_nil ?_
  simp (disch := first | assumption | rfl | decide) [branch]
  rfl

end Screens

section Projects

variable {project : Project} (hproject : ∀ text ∈ project.texts, BracketFree text)

include hproject

theorem balanced_tabBody : Balanced (tabBody project.screens) := by
  have hrow {make : Screen → Nat → String} (hmake : ∀ screen ∈ project.screens, ∀ position,
      Balanced (make screen position)) :
      Balanced (stack (project.screens.zipIdx.map fun entry => make entry.1 entry.2)) := by
    refine balanced_stack fun text htext => ?_
    obtain ⟨entry, hentry, rfl⟩ := List.mem_map.mp htext
    exact hmake entry.1 (List.fst_mem_of_mem_zipIdx hentry) entry.2
  have htabs := hrow fun screen hscreen =>
    balanced_tab (bracketFree_of_mem_screens hproject hscreen)
  have hbranches := hrow fun screen hscreen =>
    balanced_branch (bracketFree_of_mem_screens hproject hscreen)
  refine .of_settle_nil ?_
  simp (disch := first | assumption | rfl | decide) [tabBody, line, declaration, braced]
  rfl

theorem balanced_stackBody : Balanced (stackBody project) := by
  have hname : Balanced (typeName project.initialScreenId? "Screen" "Main") :=
    (bracketFree_typeName (bracketFree_initialScreenId hproject) (.of_spelled rfl)
      (.of_spelled rfl)).balanced
  refine .of_settle_nil ?_
  simp (disch := first | assumption | rfl | decide) [stackBody, line]
  rfl

theorem balanced_activityImports {package : String} (hpackage : Balanced package) :
    Balanced (importLines (activityImports package project)) := by
  have happ := balanced_app hproject
  unfold activityImports
  split_ifs
  all_goals
    refine .of_settle_nil ?_
    simp (disch := first | assumption | rfl | decide) [importLines]
    rfl

theorem bracketFree_packageOf {defaultPackage : String} (hdefault : BracketFree defaultPackage) :
    BracketFree (packageOf defaultPackage project) := by
  unfold packageOf
  cases hpackage : project.androidPackage? with
  | none => exact hdefault
  | some package => exact hproject package (by simp [Project.texts, hpackage])

theorem files_balanced {defaultPackage : String} (hdefault : BracketFree defaultPackage) :
    (blueprint defaultPackage).IsBalanced project where
  opening := by
    have hpackage := (bracketFree_packageOf hproject hdefault).balanced
    have himports := balanced_activityImports hproject hpackage
    have happ := balanced_app hproject
    have hbody : Balanced
        (if project.usesTabs then tabBody project.screens else stackBody project) := by
      split
      · exact balanced_tabBody hproject
      · exact balanced_stackBody hproject
    refine List.forall_mem_singleton.mpr (.of_settle_nil ?_)
    simp (disch := first | assumption | rfl | decide) [activityFile, file, line]
    rfl
  screenFile screen hscreen fragment hfragment := by
    have hscreen := bracketFree_of_mem_screens hproject hscreen
    have hpackage := (bracketFree_packageOf hproject hdefault).balanced
    have himports := balanced_screenImports
    have hname := balanced_screenName hscreen
    have htitle := (bracketFree_title hscreen).balanced
    refine .of_settle_nil ?_
    simp (disch := first | assumption | rfl | decide) [blueprint, screenFile, file, line,
      styledText, spacer]
    rfl
  closing := by simp [blueprint]

end Projects

end Android

/-! ### Files for browsers and desktops -/

namespace Web

section Screens

variable {screen : Screen} (hscreen : ∀ text ∈ screen.texts, BracketFree text)

include hscreen

theorem balanced_pageName : Balanced (pageName (some screen.id)) :=
  balanced_typeName hscreen (.of_spelled rfl) (.of_spelled rfl)

theorem balanced_importLine : Balanced (importLine screen) := by
  have hpage := balanced_pageName hscreen
  have hid := (bracketFree_id hscreen).balanced
  refine .of_settle_nil ?_
  simp (disch := first | assumption | rfl | decide) [importLine]
  rfl

theorem balanced_tab : Balanced (tab screen) := by
  have hpage := balanced_pageName hscreen
  have hid := (bracketFree_id hscreen).balanced
  have htitle := (bracketFree_title hscreen).balanced
  refine .of_settle_nil ?_
  simp (disch := first | assumption | rfl | decide) [tab, braced]
  rfl

end Screens

section Projects

variable {project : Project} (hproject : ∀ text ∈ project.texts, BracketFree text)

include hproject

theorem balanced_tabApp : Balanced (tabApp project) := by
  have himports := balanced_rows hproject balanced_importLine
  have htabs := balanced_rows hproject balanced_tab
  have hfirst : Balanced (project.initialScreenId?.getD "") := by
    cases hid : project.initialScreenId? with
    | none => exact .of_spelled rfl
    | some id => exact (bracketFree_initialScreenId hproject id hid).balanced
  refine .of_settle_nil ?_
  simp (disch := first | assumption | rfl | decide) [tabApp, line, braced]
  rfl

theorem balanced_stackApp : Balanced (stackApp project) := by
  have himports := balanced_rows hproject balanced_importLine
  have hpage : Balanced (pageName project.initialScreenId?) :=
    (bracketFree_typeName (bracketFree_initialScreenId hproject) (.of_spelled rfl)
      (.of_spelled rfl)).balanced
  refine .of_settle_nil ?_
  simp (disch := first | assumption | rfl | decide) [stackApp, line]
  rfl

theorem files_balanced : blueprint.IsBalanced project where
  opening := by
    refine List.forall_mem_singleton.mpr ?_
    simp only [appFile, file]
    split_ifs
    · exact balanced_tabApp hproject
    · exact balanced_stackApp hproject
  screenFile screen hscreen fragment hfragment := by
    have hscreen := bracketFree_of_mem_screens hproject hscreen
    have hpage := balanced_pageName hscreen
    have htitle := (bracketFree_title hscreen).balanced
    refine .of_settle_nil ?_
    simp (disch := first | assumption | rfl | decide) [blueprint, screenFile, file, line]
    rfl
  closing := by
    have hcolor (token : ColorToken) :=
      (bracketFree_color (bracketFree_of_mem_theme hproject) token).balanced
    refine List.forall_mem_singleton.mpr (.of_settle_nil ?_)
    simp (disch := first | assumption | rfl | decide) [colorFile, colorEntry, line, braced,
      hcolor _ _]
    rfl

end Projects

end Web

/-! ### All files -/

namespace Platform

theorem files_balanced (platform : Platform) {defaultPackage : String} {project : Project}
    (hdefault : BracketFree defaultPackage) (hproject : ∀ text ∈ project.texts, BracketFree text) :
    (platform.blueprint defaultPackage).IsBalanced project := by
  cases platform with
  | ios => exact Ios.files_balanced hproject
  | android => exact Android.files_balanced hproject hdefault
  | web | desktop => exact Web.files_balanced hproject

theorem empty_balanced (platform : Platform) : Balanced platform.backend.empty := by
  cases platform with
  | android => exact .of_settle_nil rfl
  | ios | web | desktop => exact .of_spelled rfl

theorem render_balanced (platform : Platform) {theme : Theme} {limits : Limits}
    {tree? : Option (Tree Capsule)} {text : String}
    (htree : ∀ tree ∈ tree?, ∀ capsule ∈ tree.values, ∀ text ∈ capsule.texts, BracketFree text)
    (htheme : ∀ text ∈ theme.texts, BracketFree text)
    (hrender : platform.backend.render theme limits tree? = .ok text) : Balanced text := by
  cases tree? with
  | none =>
    cases hrender
    exact platform.empty_balanced
  | some tree =>
    exact foldM_fragment_balanced (htree tree rfl) htheme (Backend.foldM_of_render hrender)

/-- Where no text of a project has a bracket, the brackets of all its files are those of the
templates and of written documents, and they are nested properly. -/
theorem manifest_nested (platform : Platform) (defaultPackage : String) (limits : Limits)
    (project : Project) (files : List SourceFile)
    (hfree : ∀ text ∈ defaultPackage :: project.texts, BracketFree text)
    (hmanifest : (platform.blueprint defaultPackage).manifest limits project = .ok files) :
    ∀ file ∈ files, Nested (brackets file.content) := by
  obtain ⟨hdefault, hproject⟩ := List.forall_mem_cons.mp hfree
  have hfiles := platform.files_balanced hdefault hproject
  have hbackend : (platform.blueprint defaultPackage : Blueprint).backend = platform.backend := by
    cases platform <;> rfl
  obtain ⟨screens, hscreens, rfl⟩ := Blueprint.exists_screens_of_manifest hmanifest
  intro file hfile
  rw [List.mem_append, List.mem_append] at hfile
  rcases hfile with (hopening | hscreen) | hclosing
  · exact (hfiles.opening file hopening).nested
  · obtain ⟨screen, hmem, hscreen⟩ := exists_mem_of_forall₂ hscreens.flip hscreen
    obtain ⟨fragment, hrender, rfl⟩ := Blueprint.exists_fragment_of_screen hscreen
    rw [hbackend] at hrender
    have htree := bracketFree_of_mem_values (bracketFree_of_mem_screens hproject hmem)
    have htheme := bracketFree_of_mem_theme hproject
    exact (hfiles.screenFile screen hmem (platform.render_balanced htree htheme hrender)).nested
  · exact (hfiles.closing file hclosing).nested

/-- Two tabs; the first one shows a card, and in it an object as a text, rows, and bars. -/
def writtenProps : Project where
  name := "Written Props"
  version := "1.0.0"
  description := none
  targets := []
  screens :=
    [ ⟨"home", "Start", some ⟨⟨"card", "card", [("title", .str "All")]⟩,
        [ ⟨⟨"text", "text", [("content", .obj [("a", .arr [.int 1, .str "b"])])]⟩, []⟩,
          ⟨⟨"rows", "list", [("items", .arr [.str "x", .str "y"])]⟩, []⟩,
          ⟨⟨"bars", "chart", [("data", .arr [.int 1, .int 2])]⟩, []⟩ ]⟩⟩,
      ⟨"empty", "", none⟩ ]
  theme := .open
  navigation := some ⟨.tabs, some "home"⟩
  platformConfig := none

theorem manifest_nested_writtenProps :
    (∀ text ∈ "com.example.app" :: writtenProps.texts, BracketFree text) ∧
      ∀ platform : Platform, ∃ files,
        (platform.blueprint "com.example.app").manifest .standard writtenProps = .ok files ∧
          ∀ file ∈ files, Nested (brackets file.content) := by
  have hfree : ∀ text ∈ "com.example.app" :: writtenProps.texts, BracketFree text := by
    decide +kernel
  refine ⟨hfree, fun platform => ?_⟩
  cases hmanifest :
      (platform.blueprint "com.example.app").manifest .standard writtenProps with
  | ok files => exact ⟨files, rfl, manifest_nested _ _ _ _ files hfree hmanifest⟩
  | error cause =>
    have hok : ((platform.blueprint "com.example.app").manifest .standard
        writtenProps).toOption.isSome := by
      cases platform <;> decide +kernel
    rw [hmanifest] at hok
    cases hok

end Platform

end CapsuleLoom
