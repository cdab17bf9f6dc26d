import CapsuleLoom.Proofs.Platform.Sources
import CapsuleLoom.Proofs.Slug

/-!
# Paths of files

The files of a project are its entry files and one for each screen.  The path of a screen's file is
made from the identifier of the screen.  Screens whose identifiers are different slugs have
different paths.  A screen gets the path of another file in one case only: on iOS a screen `content`
gets `ContentView.swift`.

## Main definitions

* `Platform.screenPath` : the path of the file of a screen.
* `Platform.entryPaths` : the paths of the other files.

## Main results

* `Platform.map_path_manifest` : the paths of all files.
* `Platform.screenPath_mem_entryPaths_iff` : when a screen gets the path of another file.
* `Platform.manifest_paths_nodup` : when all paths are different.
-/

namespace CapsuleLoom.Platform

/-- The path of the file of a screen. -/
def screenPath : Platform → (id : String) → String
  | ios, id => Ios.viewName (some id) ++ ".swift"
  | android, id => Android.screenName id ++ ".kt"
  | web, id => "pages/" ++ id ++ ".tsx"
  | desktop, id => "pages/" ++ id ++ ".tsx"

/-- The paths of the files that belong to no screen. -/
def entryPaths (project : Project) : Platform → List String
  | ios => [appIdentifier project.name ++ "App.swift", "ContentView.swift"]
  | android => ["MainActivity.kt"]
  | web => ["App.tsx", "tailwind.config.js"]
  | desktop => ["App.tsx", "tailwind.config.js"]

variable {platform : Platform} {defaultPackage id other : String} {limits : Limits}
  {project : Project} {files : List SourceFile}

theorem path_screenFile (platform : Platform) (defaultPackage : String) (project : Project)
    (screen : Screen) (fragment : String) :
    ((platform.blueprint defaultPackage).screenFile project screen fragment).path =
      platform.screenPath screen.id := by
  cases platform <;> rfl

/-- The paths of all files of a project, up to their order. -/
theorem map_path_manifest
    (hmanifest : (platform.blueprint defaultPackage).manifest limits project = .ok files) :
    (files.map SourceFile.path).Perm
      (platform.entryPaths project ++ (project.screens.map Screen.id).map platform.screenPath) := by
  obtain ⟨screens, hscreens, rfl⟩ := Blueprint.exists_screens_of_manifest hmanifest
  have hpaths : screens.map SourceFile.path =
      (project.screens.map Screen.id).map platform.screenPath := by
    rw [List.map_map]
    exact Blueprint.map_screens_eq (platform.path_screenFile defaultPackage project) hscreens
  have hentries : platform.entryPaths project =
      ((platform.blueprint defaultPackage).opening project).map SourceFile.path ++
        ((platform.blueprint defaultPackage).closing project).map SourceFile.path := by
    cases platform <;> rfl
  rw [List.map_append, List.map_append, hpaths, hentries, List.append_assoc, List.append_assoc]
  exact List.perm_append_comm.append_left _

/-! ### Screens and other files -/

theorem nodup_entryPaths (platform : Platform) (project : Project) :
    (platform.entryPaths project).Nodup := by
  cases platform with
  | ios =>
    refine List.nodup_cons.mpr ⟨fun hmem => ?_, List.nodup_singleton _⟩
    have hchars := congrArg (fun s => s.toList.reverse) (List.mem_singleton.mp hmem)
    simp at hchars
  | android => exact List.nodup_singleton _
  | web | desktop => exact (by decide : ["App.tsx", "tailwind.config.js"].Nodup)

/-- Screens whose identifiers are different slugs have different paths. -/
theorem screenPath_inj (platform : Platform) (hid : isSlug id = true) (hother : isSlug other = true)
    (heq : platform.screenPath id = platform.screenPath other) : id = other := by
  cases platform with
  | ios =>
    simp only [screenPath, Ios.viewName, typeName_of_isSlug hid, typeName_of_isSlug hother,
      String.append_left_inj] at heq
    exact capitalize_inj_of_isSlug hid hother heq
  | android =>
    simp only [screenPath, Android.screenName, screenTypeName, typeName_of_isSlug hid,
      typeName_of_isSlug hother, String.append_left_inj] at heq
    exact capitalize_inj_of_isSlug hid hother heq
  | web | desktop =>
    simpa only [screenPath, String.append_left_inj, String.append_right_inj] using heq

theorem screenPath_content : ios.screenPath "content" = "ContentView.swift" := by
  decide +kernel

/-- A screen gets the path of another file only on iOS, and only if it is called `content`. -/
theorem screenPath_mem_entryPaths_iff (platform : Platform) (project : Project)
    (hid : isSlug id = true) :
    platform.screenPath id ∈ platform.entryPaths project ↔ platform = .ios ∧ id = "content" := by
  cases platform with
  | ios =>
    constructor
    · intro hmem
      rcases List.mem_cons.mp hmem with happ | hview
      · rw [screenPath, Ios.viewName, typeName_of_isSlug hid] at happ
        have hchars := congrArg (fun s => s.toList.reverse) happ
        simp at hchars
      · rw [List.mem_singleton, ← screenPath_content] at hview
        exact ⟨rfl, ios.screenPath_inj hid (by decide) hview⟩
    · rintro ⟨-, rfl⟩
      rw [screenPath_content]
      exact List.mem_cons_of_mem _ List.mem_cons_self
  | android =>
    refine iff_of_false (fun hmem => ?_) (by simp)
    rw [entryPaths, List.mem_singleton, screenPath, Android.screenName, screenTypeName,
      typeName_of_isSlug hid] at hmem
    have hchars := congrArg (fun s => s.toList.reverse) hmem
    simp at hchars
  | web | desktop =>
    refine iff_of_false (fun hmem => ?_) (by simp)
    rcases List.mem_cons.mp hmem with happ | hcolors
    · have hchars := congrArg String.toList happ
      simp [screenPath] at hchars
    · have hchars := congrArg String.toList (List.mem_singleton.mp hcolors)
      simp [screenPath] at hchars

/-! ### All files -/

section Slugs

variable (hslugs : ∀ screen ∈ project.screens, isSlug screen.id = true)

include hslugs

theorem isSlug_of_mem_ids (hid : id ∈ project.screens.map Screen.id) : isSlug id = true := by
  obtain ⟨screen, hscreen, rfl⟩ := List.mem_map.mp hid
  exact hslugs screen hscreen

theorem nodup_screenPaths (platform : Platform)
    (hdistinct : (project.screens.map Screen.id).Nodup) :
    ((project.screens.map Screen.id).map platform.screenPath).Nodup := by
  refine List.Nodup.map_on (fun id hid other hother heq => ?_) hdistinct
  exact platform.screenPath_inj (isSlug_of_mem_ids hslugs hid) (isSlug_of_mem_ids hslugs hother) heq

end Slugs

/-- When the identifiers of the screens are different slugs, the paths of all files are different,
unless a screen of an app for iOS is called `content`.  Then this screen has the path of the way
between the screens, and all other paths are different. -/
theorem manifest_paths_nodup (platform : Platform) (defaultPackage : String) (limits : Limits)
    (project : Project) (files : List SourceFile)
    (hslugs : ∀ screen ∈ project.screens, isSlug screen.id = true)
    (hdistinct : (project.screens.map Screen.id).Nodup)
    (hmanifest : (platform.blueprint defaultPackage).manifest limits project = .ok files) :
    ((files.map SourceFile.path).Nodup ↔
      ¬ (platform = .ios ∧ "content" ∈ project.screens.map Screen.id)) ∧
    ((files.map SourceFile.path).erase "ContentView.swift").Nodup := by
  have hperm := map_path_manifest hmanifest
  have hentries := platform.nodup_entryPaths project
  have hscreens := nodup_screenPaths hslugs platform hdistinct
  have hclash : ∀ id ∈ project.screens.map Screen.id,
      platform.screenPath id ∈ platform.entryPaths project → platform = .ios ∧ id = "content" :=
    fun id hid => (platform.screenPath_mem_entryPaths_iff project (isSlug_of_mem_ids hslugs hid)).mp
  have hnodup : (files.map SourceFile.path).Nodup ↔
      ¬ (platform = .ios ∧ "content" ∈ project.screens.map Screen.id) := by
    rw [hperm.nodup_iff, List.nodup_append]
    constructor
    · rintro ⟨-, -, hapart⟩ ⟨rfl, hcontent⟩
      have hmem := (ios.screenPath_mem_entryPaths_iff project (by decide)).mpr ⟨rfl, rfl⟩
      exact hapart _ hmem _ (List.mem_map_of_mem hcontent) rfl
    · refine fun hnone => ⟨hentries, hscreens, fun path hentry other hother heq => hnone ?_⟩
      obtain ⟨id, hid, rfl⟩ := List.mem_map.mp hother
      obtain ⟨hios, rfl⟩ := hclash id hid (heq ▸ hentry)
      exact ⟨hios, hid⟩
  refine ⟨hnodup, ?_⟩
  by_cases hios : platform = .ios
  · subst hios
    have hmem : "ContentView.swift" ∈ ios.entryPaths project :=
      List.mem_cons_of_mem _ List.mem_cons_self
    rw [(hperm.erase _).nodup_iff, List.erase_append_left _ hmem, List.nodup_append]
    refine ⟨hentries.erase _, hscreens, fun path hentry other hother heq => ?_⟩
    obtain ⟨id, hid, rfl⟩ := List.mem_map.mp hother
    obtain ⟨-, rfl⟩ := hclash id hid (heq ▸ List.mem_of_mem_erase hentry)
    rw [heq, screenPath_content] at hentry
    exact hentries.not_mem_erase hentry
  · exact (hnodup.mpr fun hboth => hios hboth.1).erase _

/-- Two screens, the second of which is called `content`. -/
def contentScreen : Project where
  name := "Reader"
  version := "1.0.0"
  description := none
  targets := []
  screens := [⟨"home", "Home", none⟩, ⟨"content", "Content", none⟩]
  theme := .open
  navigation := none
  platformConfig := none

/-- The files of `contentScreen` have different paths everywhere but on iOS. -/
theorem manifest_paths_nodup_contentScreen :
    (∀ screen ∈ contentScreen.screens, isSlug screen.id = true) ∧
      (contentScreen.screens.map Screen.id).Nodup ∧
      ∀ platform : Platform, ∃ files,
        (platform.blueprint "com.example.app").manifest .standard contentScreen = .ok files ∧
          ((files.map SourceFile.path).Nodup ↔ platform ≠ .ios) := by
  have hslugs : ∀ screen ∈ contentScreen.screens, isSlug screen.id = true := by decide
  have hdistinct : (contentScreen.screens.map Screen.id).Nodup := by decide
  refine ⟨hslugs, hdistinct, fun platform => ?_⟩
  have hfiles : ∃ files,
      (platform.blueprint "com.example.app").manifest .standard contentScreen = .ok files := by
    cases platform <;> exact ⟨_, rfl⟩
  obtain ⟨files, hmanifest⟩ := hfiles
  refine ⟨files, hmanifest, ?_⟩
  rw [(manifest_paths_nodup _ _ _ _ files hslugs hdistinct hmanifest).1]
  exact not_congr (and_iff_left (by decide))

end CapsuleLoom.Platform
