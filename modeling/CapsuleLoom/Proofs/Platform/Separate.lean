import CapsuleLoom.Proofs.Platform.Paths

/-!
# Screens are compiled separately

The file of a screen is made from the screen, the theme and the package for Android.  The other
files are made from everything but what the screens show.  So a change to what some screens show
changes the files of these screens and no others, and a screen that is moved to another project
keeps its file.

## Main definitions

* `Screen.bare`, `Project.bare` : a screen, or all screens of a project, without what they show.
* `Blueprint.screenPlace` : the place of the file of a screen among the files of a project.

## Main results

* `Platform.opening_bare`, `Platform.closing_bare` : the files around the screens do not depend on
  what the screens show.
* `Platform.screen_congr` : what the file of a screen depends on.
* `Platform.manifest_separate` : the files of two projects.
-/

namespace CapsuleLoom

/-! ### Projects without what their screens show -/

/-- A screen without what it shows. -/
def Screen.bare (screen : Screen) : Screen := { screen with root := none }

theorem Screen.eq_of_bare_eq {screen other : Screen} (hbare : screen.bare = other.bare)
    (hroot : screen.root = other.root) : screen = other := by
  obtain ⟨id, name, root⟩ := screen
  obtain ⟨_, _, _⟩ := other
  cases hbare
  cases hroot
  rfl

namespace Project

/-- A project without what its screens show. -/
def bare (project : Project) : Project :=
  { project with screens := project.screens.map Screen.bare }

variable (project : Project)

/-- Rows that do not depend on what the screens show. -/
theorem map_screens_bare {α : Type} {row : Screen → α}
    (hrow : ∀ screen, row screen.bare = row screen) :
    project.bare.screens.map row = project.screens.map row := by
  rw [bare, List.map_map]
  exact List.map_congr_left fun screen _ => hrow screen

@[simp]
theorem usesTabs_bare : project.bare.usesTabs = project.usesTabs := by
  simp [usesTabs, bare]

theorem initialScreen?_bare :
    project.bare.initialScreen? = project.initialScreen?.map Screen.bare := by
  have hfind (wanted : String) :
      ((project.screens.map Screen.bare).find? fun screen => screen.id == wanted) =
        (project.screens.find? fun screen => screen.id == wanted).map Screen.bare :=
    List.find?_map ..
  have horElse (named first : Option Screen) :
      (named.map Screen.bare <|> first.map Screen.bare) = (named <|> first).map Screen.bare := by
    cases named <;> rfl
  unfold initialScreen?
  rw [← horElse, ← List.head?_map]
  refine congrArg (· <|> _) ?_
  cases hnavigation : project.navigation with
  | none => simp [bare, hnavigation]
  | some navigation =>
    cases hwanted : nonempty? navigation.initialScreen with
    | none => simp [bare, hnavigation, hwanted]
    | some wanted => simp [bare, hnavigation, hwanted, hfind]

@[simp]
theorem initialScreenId?_bare : project.bare.initialScreenId? = project.initialScreenId? := by
  rw [initialScreenId?, initialScreen?_bare, Option.map_map]
  rfl

end Project

/-! ### The files around the screens -/

section Around

variable (project : Project)

theorem Ios.contentFile_bare : Ios.contentFile project.bare = Ios.contentFile project := by
  have hbody : Ios.contentBody project.bare = Ios.contentBody project := by
    rw [Ios.contentBody, Ios.contentBody, project.usesTabs_bare, project.initialScreenId?_bare,
      project.map_screens_bare fun _ => rfl]
  rw [Ios.contentFile, Ios.contentFile, hbody]

theorem Android.tabBody_bare :
    Android.tabBody project.bare.screens = Android.tabBody project.screens := by
  have hrows (make : Screen → Nat → String)
      (hmake : ∀ screen position, make screen.bare position = make screen position) :
      (project.bare.screens.zipIdx.map fun entry => make entry.1 entry.2) =
        project.screens.zipIdx.map fun entry => make entry.1 entry.2 := by
    rw [Project.bare, List.zipIdx_map, List.map_map]
    exact List.map_congr_left fun entry _ => hmake entry.1 entry.2
  rw [Android.tabBody, Android.tabBody, hrows _ fun _ _ => rfl, hrows _ fun _ _ => rfl]

theorem Android.activityFile_bare (package : String) :
    Android.activityFile package project.bare = Android.activityFile package project := by
  have hstack : Android.stackBody project.bare = Android.stackBody project := by
    rw [Android.stackBody, Android.stackBody, project.initialScreenId?_bare]
  have himports :
      Android.activityImports package project.bare = Android.activityImports package project := by
    rw [Android.activityImports, Android.activityImports, project.usesTabs_bare]
    rfl
  rw [Android.activityFile, project.usesTabs_bare, Android.tabBody_bare, hstack, himports]
  rfl

theorem Web.appFile_bare : Web.appFile project.bare = Web.appFile project := by
  have htabs : Web.tabApp project.bare = Web.tabApp project := by
    rw [Web.tabApp, Web.tabApp, project.initialScreenId?_bare,
      project.map_screens_bare fun _ => rfl, project.map_screens_bare fun _ => rfl]
  have hstack : Web.stackApp project.bare = Web.stackApp project := by
    rw [Web.stackApp, Web.stackApp, project.initialScreenId?_bare,
      project.map_screens_bare fun _ => rfl]
  rw [Web.appFile, Web.appFile, project.usesTabs_bare, htabs, hstack]

end Around

/-- Two lists that differ only in their middle parts differ in a place of these. -/
theorem exists_place_of_ne {α : Type} {front middle other back : List α}
    (hlength : middle.length = other.length) {place : Nat}
    (hne : (front ++ middle ++ back)[place]? ≠ (front ++ other ++ back)[place]?) :
    ∃ index < middle.length, place = front.length + index := by
  rw [List.append_assoc, List.append_assoc] at hne
  rcases lt_or_ge place front.length with hfront | hbehind
  · rw [List.getElem?_append_left hfront, List.getElem?_append_left hfront] at hne
    exact absurd rfl hne
  · obtain ⟨index, rfl⟩ := Nat.exists_eq_add_of_le hbehind
    refine ⟨index, ?_, rfl⟩
    by_contra hindex
    rw [List.getElem?_append_right hbehind, List.getElem?_append_right hbehind,
      Nat.add_sub_cancel_left, List.getElem?_append_right (not_lt.mp hindex),
      List.getElem?_append_right (hlength ▸ not_lt.mp hindex), hlength] at hne
    exact hne rfl

/-- The place of the file of a screen among the files of a project. -/
def Blueprint.screenPlace (blueprint : Blueprint) (project : Project) (index : Nat) : Nat :=
  (blueprint.opening project).length + index

/-- The file of a screen is in its place. -/
theorem Blueprint.exists_file_of_manifest {blueprint : Blueprint} {limits : Limits}
    {project : Project} {files : List SourceFile}
    (hmanifest : blueprint.manifest limits project = .ok files) {index : Nat} {screen : Screen}
    (hscreen : project.screens[index]? = some screen) :
    ∃ file, blueprint.screen limits project screen = .ok file ∧
      files[blueprint.screenPlace project index]? = some file := by
  obtain ⟨pages, hpages, rfl⟩ := exists_screens_of_manifest hmanifest
  obtain ⟨hindex, rfl⟩ := List.getElem?_eq_some_iff.mp hscreen
  have hindex' : index < pages.length := hpages.length_eq ▸ hindex
  refine ⟨pages[index], hpages.get hindex hindex', ?_⟩
  rw [List.append_assoc, screenPlace, List.getElem?_append_right (Nat.le_add_right _ _),
    Nat.add_sub_cancel_left, List.getElem?_append_left hindex', List.getElem?_eq_getElem hindex']

namespace Platform

/-- The files in front of the screens do not depend on what the screens show. -/
theorem opening_bare (platform : Platform) (defaultPackage : String) (project : Project) :
    (platform.blueprint defaultPackage).opening project.bare =
      (platform.blueprint defaultPackage).opening project := by
  cases platform with
  | ios => exact congrArg (fun file => [Ios.appFile project, file]) (Ios.contentFile_bare project)
  | android => exact congrArg (fun file => [file]) (Android.activityFile_bare project _)
  | web | desktop => exact congrArg (fun file => [file]) (Web.appFile_bare project)

/-- The files behind the screens do not depend on what the screens show. -/
theorem closing_bare (platform : Platform) (defaultPackage : String) (project : Project) :
    (platform.blueprint defaultPackage).closing project.bare =
      (platform.blueprint defaultPackage).closing project := by
  cases platform <;> rfl

/-! ### The files of the screens -/

/-- The language of the files of screens. -/
def screenLanguage : Platform → String
  | ios => "swift"
  | android => "kotlin"
  | web => "typescript"
  | desktop => "typescript"

section Screens

variable (platform : Platform) (defaultPackage : String) {project other : Project}

theorem language_screenFile (project : Project) (screen : Screen) (fragment : String) :
    ((platform.blueprint defaultPackage).screenFile project screen fragment).language =
      platform.screenLanguage := by
  cases platform <;> rfl

theorem screenFile_congr
    (hpackage : Android.packageOf defaultPackage project = Android.packageOf defaultPackage other) :
    (platform.blueprint defaultPackage).screenFile project =
      (platform.blueprint defaultPackage).screenFile other := by
  cases platform with
  | android => exact congrArg Android.screenFile hpackage
  | ios | web | desktop => rfl

/-- The file of a screen depends on nothing but the screen, the theme and the package. -/
theorem screen_congr (limits : Limits) (htheme : project.theme = other.theme)
    (hpackage : Android.packageOf defaultPackage project = Android.packageOf defaultPackage other)
    (screen : Screen) :
    (platform.blueprint defaultPackage).screen limits project screen =
      (platform.blueprint defaultPackage).screen limits other screen := by
  rw [Blueprint.screen, Blueprint.screenOver, htheme,
    platform.screenFile_congr defaultPackage hpackage]
  rfl

end Screens

/-! ### All files -/

section Files

variable {platform : Platform} {defaultPackage : String} {limits : Limits}
  {project other : Project} {files others : List SourceFile}

theorem opening_congr (hbare : project.bare = other.bare) :
    (platform.blueprint defaultPackage).opening project =
      (platform.blueprint defaultPackage).opening other := by
  rw [← opening_bare, hbare, opening_bare]

theorem closing_congr (hbare : project.bare = other.bare) :
    (platform.blueprint defaultPackage).closing project =
      (platform.blueprint defaultPackage).closing other := by
  rw [← closing_bare, hbare, closing_bare]

/-- The paths and languages do not depend on what the screens show. -/
theorem map_kind_eq_of_bare_eq (hbare : project.bare = other.bare)
    (hfiles : (platform.blueprint defaultPackage).manifest limits project = .ok files)
    (hothers : (platform.blueprint defaultPackage).manifest limits other = .ok others) :
    files.map (fun file => (file.path, file.language)) =
      others.map (fun file => (file.path, file.language)) := by
  have hpages {project : Project} {pages : List SourceFile}
      (hpages : List.Forall₂ (fun screen file =>
        (platform.blueprint defaultPackage).screen limits project screen = .ok file)
        project.screens pages) :
      pages.map (fun file => (file.path, file.language)) = project.bare.screens.map fun screen =>
        (platform.screenPath screen.id, platform.screenLanguage) := by
    rw [project.map_screens_bare fun _ => rfl]
    refine Blueprint.map_screens_eq (fun screen fragment => Prod.ext ?_ ?_) hpages
    · exact platform.path_screenFile defaultPackage project screen fragment
    · exact platform.language_screenFile defaultPackage project screen fragment
  obtain ⟨pages, hrow, rfl⟩ := Blueprint.exists_screens_of_manifest hfiles
  obtain ⟨otherPages, hotherRow, rfl⟩ := Blueprint.exists_screens_of_manifest hothers
  rw [List.map_append, List.map_append, hpages hrow, opening_congr hbare, closing_congr hbare,
    hbare, ← hpages hotherRow, ← List.map_append, ← List.map_append]

/-- A screen that two projects have in common has the same file in both of them. -/
theorem exists_file_of_same_screen (htheme : project.theme = other.theme)
    (hpackage : Android.packageOf defaultPackage project = Android.packageOf defaultPackage other)
    (hfiles : (platform.blueprint defaultPackage).manifest limits project = .ok files)
    (hothers : (platform.blueprint defaultPackage).manifest limits other = .ok others)
    {index otherIndex : Nat} {screen : Screen} (hindex : project.screens[index]? = some screen)
    (hotherIndex : other.screens[otherIndex]? = some screen) :
    ∃ file, (platform.blueprint defaultPackage).screen limits project screen = .ok file ∧
      files[(platform.blueprint defaultPackage).screenPlace project index]? = some file ∧
      others[(platform.blueprint defaultPackage).screenPlace other otherIndex]? = some file := by
  obtain ⟨file, hfile, hplace⟩ := Blueprint.exists_file_of_manifest hfiles hindex
  obtain ⟨otherFile, hother, hotherPlace⟩ := Blueprint.exists_file_of_manifest hothers hotherIndex
  have hsame := platform.screen_congr defaultPackage limits htheme hpackage screen
  rw [hfile, hother] at hsame
  cases hsame
  exact ⟨file, hfile, hplace, hotherPlace⟩

/-- A file that changes with what the screens show belongs to a screen that changed. -/
theorem exists_changed_of_ne (hbare : project.bare = other.bare)
    (hfiles : (platform.blueprint defaultPackage).manifest limits project = .ok files)
    (hothers : (platform.blueprint defaultPackage).manifest limits other = .ok others) {place : Nat}
    (hne : files[place]? ≠ others[place]?) :
    ∃ index screen changed,
      place = (platform.blueprint defaultPackage).screenPlace project index ∧
      project.screens[index]? = some screen ∧ other.screens[index]? = some changed ∧
      screen.root ≠ changed.root := by
  have hscreens : project.screens.map Screen.bare = other.screens.map Screen.bare :=
    congrArg Project.screens hbare
  have hcount : project.screens.length = other.screens.length := by
    simpa using congrArg List.length hscreens
  obtain ⟨index, hindex, rfl⟩ : ∃ index < project.screens.length,
      place = (platform.blueprint defaultPackage).screenPlace project index := by
    obtain ⟨pages, hpages, rfl⟩ := Blueprint.exists_screens_of_manifest hfiles
    obtain ⟨otherPages, hotherPages, rfl⟩ := Blueprint.exists_screens_of_manifest hothers
    rw [← opening_congr hbare, ← closing_congr hbare] at hne
    rw [hpages.length_eq]
    refine exists_place_of_ne ?_ hne
    rw [← hpages.length_eq, ← hotherPages.length_eq, hcount]
  have hscreen := List.getElem?_eq_getElem hindex
  have hchanged := List.getElem?_eq_getElem (hcount ▸ hindex)
  refine ⟨index, _, _, rfl, hscreen, hchanged, fun hroot => hne ?_⟩
  have hsame : project.screens[index] = other.screens[index] := by
    have hbares : (project.screens.map Screen.bare)[index]? =
        (other.screens.map Screen.bare)[index]? := by rw [hscreens]
    rw [List.getElem?_map, List.getElem?_map, hscreen, hchanged] at hbares
    exact Screen.eq_of_bare_eq (Option.some.inj hbares) hroot
  have htheme : project.theme = other.theme := by
    change project.bare.theme = other.bare.theme
    rw [hbare]
  have hpackage : Android.packageOf defaultPackage project =
      Android.packageOf defaultPackage other := by
    change Android.packageOf defaultPackage project.bare = _
    rw [hbare]
    rfl
  obtain ⟨file, -, hfile, hother⟩ :=
    exists_file_of_same_screen htheme hpackage hfiles hothers hscreen (hsame ▸ hchanged)
  rw [Blueprint.screenPlace, ← opening_congr hbare] at hother
  exact hfile.trans hother.symm

end Files

/-- Screens are compiled separately.  When two projects differ only in what some of their screens
show, their files have the same paths and languages in the same order, and all files but those of
these screens are the same.  A screen that two projects with the same theme and the same package
have in common has the same file in both of them, whatever else the projects are. -/
theorem manifest_separate (platform : Platform) (defaultPackage : String) (limits : Limits)
    (project other : Project) :
    (project.bare = other.bare → ∀ files others,
      (platform.blueprint defaultPackage).manifest limits project = .ok files →
      (platform.blueprint defaultPackage).manifest limits other = .ok others →
      files.map (fun file => (file.path, file.language)) =
        others.map (fun file => (file.path, file.language)) ∧
      ∀ place, files[place]? ≠ others[place]? → ∃ index screen changed,
        place = (platform.blueprint defaultPackage).screenPlace project index ∧
        project.screens[index]? = some screen ∧ other.screens[index]? = some changed ∧
        screen.root ≠ changed.root) ∧
    (project.theme = other.theme →
      Android.packageOf defaultPackage project = Android.packageOf defaultPackage other →
      (∀ screen, (platform.blueprint defaultPackage).screen limits project screen =
        (platform.blueprint defaultPackage).screen limits other screen) ∧
      ∀ files others,
        (platform.blueprint defaultPackage).manifest limits project = .ok files →
        (platform.blueprint defaultPackage).manifest limits other = .ok others →
        ∀ index otherIndex screen, project.screens[index]? = some screen →
          other.screens[otherIndex]? = some screen → ∃ file,
            (platform.blueprint defaultPackage).screen limits project screen = .ok file ∧
            files[(platform.blueprint defaultPackage).screenPlace project index]? = some file ∧
            others[(platform.blueprint defaultPackage).screenPlace other otherIndex]? =
              some file) := by
  constructor
  · intro hbare files others hfiles hothers
    exact ⟨map_kind_eq_of_bare_eq hbare hfiles hothers,
      fun place => exists_changed_of_ne hbare hfiles hothers⟩
  · intro htheme hpackage
    refine ⟨platform.screen_congr defaultPackage limits htheme hpackage, ?_⟩
    intro files others hfiles hothers index otherIndex screen
    exact exists_file_of_same_screen htheme hpackage hfiles hothers

/-- The tabs of `writtenProps`; the first one shows something else, the second one stays empty. -/
def reshownTabs : Project :=
  { writtenProps with
    screens := [⟨"home", "Start", some ⟨⟨"line", "divider", []⟩, []⟩⟩, ⟨"empty", "", none⟩] }

/-- Another app without tabs, whose second screen is the first one of `writtenProps`. -/
def otherApp : Project :=
  { writtenProps with
    name := "Other"
    version := "2"
    description := some "Something else"
    targets := ["web"]
    screens := ⟨"start", "", none⟩ :: writtenProps.screens.take 1
    navigation := none }

/-- Of the tabs only the file of the first one changes, and the other app has the file of the screen
that it shares. -/
theorem manifest_separate_writtenProps :
    writtenProps.bare = reshownTabs.bare ∧ writtenProps.theme = otherApp.theme ∧
      Android.packageOf "app" writtenProps = Android.packageOf "app" otherApp ∧
      ∀ platform : Platform, ∃ files tabs others,
        (platform.blueprint "app").manifest .standard writtenProps = .ok files ∧
        (platform.blueprint "app").manifest .standard reshownTabs = .ok tabs ∧
        (platform.blueprint "app").manifest .standard otherApp = .ok others ∧
        files.map (fun file => (file.path, file.language)) =
          tabs.map (fun file => (file.path, file.language)) ∧
        (∀ place, place ≠ (platform.blueprint "app").screenPlace writtenProps 0 →
          files[place]? = tabs[place]?) ∧
        ∃ file, files[(platform.blueprint "app").screenPlace writtenProps 0]? = some file ∧
          others[(platform.blueprint "app").screenPlace otherApp 1]? = some file := by
  refine ⟨rfl, rfl, rfl, fun platform => ?_⟩
  have hok : ∀ project ∈ [writtenProps, reshownTabs, otherApp],
      ∃ files, (platform.blueprint "app").manifest .standard project = .ok files := by
    have hsome : ∀ project ∈ [writtenProps, reshownTabs, otherApp],
        ((platform.blueprint "app").manifest .standard project).toOption.isSome = true := by
      cases platform <;> decide +kernel
    intro project hproject
    have hsome := hsome project hproject
    cases hmanifest : (platform.blueprint "app").manifest .standard project with
    | ok files => exact ⟨files, rfl⟩
    | error cause =>
      rw [hmanifest] at hsome
      cases hsome
  simp only [List.forall_mem_cons] at hok
  obtain ⟨⟨files, hfiles⟩, ⟨tabs, htabs⟩, ⟨others, hothers⟩, -⟩ := hok
  obtain ⟨hkinds, hplaces⟩ :=
    (manifest_separate platform "app" .standard writtenProps reshownTabs).1 rfl _ _ hfiles htabs
  obtain ⟨-, hshared⟩ :=
    (manifest_separate platform "app" .standard writtenProps otherApp).2 rfl rfl
  obtain ⟨file, -, hfile, hother⟩ := hshared _ _ hfiles hothers 0 1 _ rfl rfl
  refine ⟨files, tabs, others, hfiles, htabs, hothers, hkinds, fun place hplace => ?_, file, hfile,
    hother⟩
  by_contra hne
  obtain ⟨index, screen, changed, rfl, hscreen, hchanged, hroot⟩ := hplaces place hne
  match index, hscreen, hchanged with
  | 0, _, _ => exact hplace rfl
  | 1, rfl, rfl => exact hroot rfl

end Platform

end CapsuleLoom
