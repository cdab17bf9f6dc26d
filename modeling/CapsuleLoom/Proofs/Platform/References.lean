import CapsuleLoom.Proofs.Platform.Entry
import CapsuleLoom.Proofs.Platform.Sources
import CapsuleLoom.Proofs.Project.Readback

/-!
# References between files

The entry file of a project shows components that other files declare.  Names, packages and places
are made anew in each of these files, and yet they agree: every component that is shown is declared
by the file of its screen, under its name and where the entry file looks for it.  Only a name of
several lines is shown in another form than the one in which it is declared.

## Main definitions

* `Platform.entryPath`, `Platform.entryFile` : the entry file.
* `Platform.place?` : what is said about where the component of a screen is found.
* `Platform.Declares` : the files that declare the component of a screen.

## Main results

* `Platform.content_entryFile` : the text of the entry file.
* `Platform.mem_above_of_place?` : the places that are told.
* `Platform.exists_declares` : every screen has a file that declares its component.
* `Platform.references_declared` : what is shown is declared.
-/

namespace CapsuleLoom.Platform

open Text

/-! ### What the files say -/

/-- What is said about where the component of a screen is found.  On iOS all files know each other,
on Android all files of a package are named at once, and in browsers each page is named. -/
def place? (platform : Platform) (package : String) (screen : Screen) : Option String :=
  match platform with
  | ios => none
  | android => some ("import " ++ (package ++ ".screens.*"))
  | web | desktop =>
    some ("import " ++ platform.componentName screen ++ " from './pages/" ++ screen.id ++ "'")

/-- The path of the entry file. -/
def entryPath : Platform → String
  | ios => "ContentView.swift"
  | android => "MainActivity.kt"
  | web | desktop => "App.tsx"

/-- The entry file. -/
def entryFile (platform : Platform) (package : String) (project : Project) : SourceFile :=
  match platform with
  | ios => Ios.contentFile project
  | android => Android.activityFile package project
  | web | desktop => Web.appFile project

/-- The line that declares a component. -/
def declarationLine (platform : Platform) (name : String) : String :=
  match platform with
  | ios => "struct " ++ name ++ ": View \x7b"
  | android => "fun " ++ name ++ "() \x7b"
  | web | desktop => "export default function " ++ name ++ "() \x7b"

/-- A file declares the component of a screen where it is looked for. -/
structure Declares (platform : Platform) (package : String) (screen : Screen)
    (file : SourceFile) : Prop where
  /-- It is found under the name of the component, or under the identifier of a page. -/
  path : file.path =
    match platform with
    | ios => platform.componentName screen ++ ".swift"
    | android => platform.componentName screen ++ ".kt"
    | web | desktop => "pages/" ++ screen.id ++ ".tsx"
  /-- It has the line of the declaration. -/
  content : ∃ above below, file.content =
    stack (above ++ platform.declarationLine (platform.componentName screen) :: below)
  /-- On Android it belongs to the package. -/
  membership : platform = android →
    ∃ below, file.content = stack (("package " ++ package ++ ".screens") :: below)

variable {platform : Platform} {defaultPackage : String} {limits : Limits}
  {project : Project} {screen : Screen} {files : List SourceFile}

/-! ### The entry file -/

/-- The text of the entry file. -/
theorem content_entryFile (platform : Platform) (package : String)
    (hscreens : project.screens ≠ []) (hids : ∀ screen ∈ project.screens, screen.id ≠ "") :
    (platform.entryFile package project).content =
      (platform.entryLayout package project).text platform.backend.unit platform.componentName
        project.shownScreens := by
  cases platform with
  | ios => exact Ios.content_contentFile hscreens hids
  | android => exact Android.content_activityFile package hscreens hids
  | web | desktop => exact Web.content_appFile hscreens hids

theorem entryFile_mem
    (hmanifest : (platform.blueprint defaultPackage).manifest limits project = .ok files) :
    platform.entryFile (Android.packageOf defaultPackage project) project ∈ files := by
  obtain ⟨screens, -, rfl⟩ := Blueprint.exists_screens_of_manifest hmanifest
  refine List.mem_append_left _ (List.mem_append_left _ ?_)
  cases platform with
  | ios => exact List.mem_cons_of_mem _ List.mem_cons_self
  | android | web | desktop => exact List.mem_cons_self

/-- The places of all screens are told above the components. -/
theorem mem_above_of_place? (platform : Platform) (package : String)
    (hscreen : screen ∈ project.screens) :
    ∀ place ∈ platform.place? package screen,
      place ∈ (platform.entryLayout package project).above := by
  rintro place hplace
  cases platform with
  | ios => cases hplace
  | android =>
    cases hplace
    simp [entryLayout, Android.entryLayout, Android.importRows]
  | web | desktop =>
    cases hplace
    have hrow : Web.importRow screen ∈ project.screens.map Web.importRow :=
      List.mem_map_of_mem hscreen
    exact List.mem_append_left _ (List.mem_append_right _ hrow)

/-! ### The files of screens -/

theorem declares_screenFile (platform : Platform) (defaultPackage : String) (project : Project)
    (hid : screen.id ≠ "") (fragment : String) :
    platform.Declares (Android.packageOf defaultPackage project) screen
      ((platform.blueprint defaultPackage).screenFile project screen fragment) := by
  -- the names that the files are made with
  have hview : ios.componentName screen = Ios.viewName (some screen.id) :=
    (typeName_of_ne_empty hid _ _).symm
  have hcomposable : android.componentName screen = Android.screenName screen.id :=
    (typeName_of_ne_empty hid _ _).symm
  have hpage : web.componentName screen = Web.pageName (some screen.id) :=
    (typeName_of_ne_empty hid _ _).symm
  cases platform with
  | ios =>
    refine ⟨?_, ?_, fun hplatform => nomatch hplatform⟩ <;> rw [hview]
    · rfl
    · exact ⟨["import SwiftUI", ""], _, rfl⟩
  | android =>
    refine ⟨?_, ?_, fun _ => ⟨_, rfl⟩⟩ <;> rw [hcomposable]
    · rfl
    · exact ⟨["package " ++ Android.packageOf defaultPackage project ++ ".screens", "",
          Android.importLines Android.screenImports, "", "@Composable"],
        [ Android.line 1 "Column(",
          Android.line 2 "modifier = Modifier",
          Android.line 3 ".fillMaxSize()",
          Android.line 3 ".padding(16.dp)",
          Android.line 1 ") \x7b",
          Android.line 2 (Android.styledText screen.title (some "headlineSmall")),
          Android.line 2 Android.spacer,
          indent Android.unit 2 fragment,
          Android.line 1 "\x7d",
          "\x7d",
          "" ],
        rfl⟩
  | web | desktop =>
    refine ⟨rfl, ?_, fun hplatform => nomatch hplatform⟩
    change ∃ above below, _ =
      stack (above ++ web.declarationLine (web.componentName screen) :: below)
    rw [hpage]
    exact ⟨["import React from 'react'", ""], _, rfl⟩

/-- Every screen has a file that declares its component. -/
theorem exists_declares
    (hmanifest : (platform.blueprint defaultPackage).manifest limits project = .ok files)
    (hscreen : screen ∈ project.screens) (hid : screen.id ≠ "") :
    ∃ file ∈ files, (platform.blueprint defaultPackage).screen limits project screen = .ok file ∧
      platform.Declares (Android.packageOf defaultPackage project) screen file := by
  obtain ⟨screenFiles, hfiles, rfl⟩ := Blueprint.exists_screens_of_manifest hmanifest
  obtain ⟨file, hfile, hmade⟩ := exists_mem_of_forall₂ hfiles hscreen
  refine ⟨file, List.mem_append_left _ (List.mem_append_right _ hfile), hmade, ?_⟩
  obtain ⟨fragment, -, rfl⟩ := Blueprint.exists_fragment_of_screen hmade
  exact platform.declares_screenFile defaultPackage project hid fragment

/-- The screens of a project that was read have an identifier. -/
theorem id_ne_empty_of_readProject {complete : Bool} {raw : Doc}
    (hread : readProject complete raw = .ok project) :
    ∀ screen ∈ project.screens, screen.id ≠ "" := by
  intro screen hscreen hempty
  have hshown := ((settled_of_readProject hread).screens screen hscreen).id.shown
  rw [hempty] at hshown
  cases hshown

/-- What is shown is declared.  In a project with screens, all of which have an identifier as in
every project that was read, the entry file shows the components of all screens in their order if
the navigation has tabs and there are several screens, and else the component of the screen to start
with.  A component stands there under its name, unless the identifier of the screen has several
lines and the row is moved in.  Every screen, be it shown or not, has a file that declares its
component under this name and at the place that is told. -/
theorem references_declared (platform : Platform) (defaultPackage : String) (limits : Limits)
    (project : Project) (files : List SourceFile) (hscreens : project.screens ≠ [])
    (hids : ∀ screen ∈ project.screens, screen.id ≠ "")
    (hmanifest : (platform.blueprint defaultPackage).manifest limits project = .ok files) :
    let package := Android.packageOf defaultPackage project
    let layout := platform.entryLayout package project
    let tabs := project.navigation.map (·.style) = some .tabs ∧ 1 < project.screens.length
    let shown := if tabs then project.screens else project.startScreen?.toList
    (∃ entry ∈ files, entry.path = platform.entryPath ∧
      entry.content = layout.text platform.backend.unit platform.componentName shown) ∧
    shown ≠ [] ∧
    (∀ screen ∈ shown, screen ∈ project.screens ∧ ∀ position,
      let slot := layout.slot screen position
      (∃ front, slot.row platform.backend.unit (platform.componentName screen) =
        front ++ (slot.before ++ platform.componentName screen ++ slot.after)) ↔
      (∀ c ∈ screen.id.toList, isLineBreak c = false) ∨ platform.generator = web ∧ ¬ tabs) ∧
    ∀ screen ∈ project.screens,
      (∀ place ∈ platform.place? package screen, place ∈ layout.above) ∧
      ∃ file ∈ files, (platform.blueprint defaultPackage).screen limits project screen = .ok file ∧
        platform.Declares package screen file := by
  intro package layout tabs shown
  refine ⟨⟨_, entryFile_mem hmanifest, ?_, ?_⟩, ?_, fun screen hshown => ⟨?_, fun position => ?_⟩,
    fun screen hscreen => ⟨?_, ?_⟩⟩
  · cases platform <;> rfl
  · exact platform.content_entryFile _ hscreens hids
  · exact Project.shownScreens_ne_nil hscreens hids
  · exact Project.mem_screens_of_shown hscreens hids hshown
  · exact platform.exists_row_eq_iff package project screen position
  · exact platform.mem_above_of_place? package hscreen
  · exact exists_declares hmanifest hscreen (hids screen hscreen)

/-- A document of two screens, the second of which is the one to start with. -/
def notesDoc (style : NavigationStyle) : Doc :=
  .obj [("name", .str "Notes"),
    ("screens", .arr [.obj [("id", .str "home")], .obj [("id", .str "a\nb"), ("name", .str "B")]]),
    ("navigation", .obj [("type", .str style.name), ("initialScreen", .str "a\nb")]),
    ("platformConfig", .obj [("android", .obj [("packageName", .str "org.notes")])])]

/-- The project of this document. -/
def notes (style : NavigationStyle) : Project where
  name := "Notes"
  version := "1.0.0"
  description := none
  targets := []
  screens := [⟨"home", "", none⟩, ⟨"a\nb", "B", none⟩]
  theme := .open
  navigation := some ⟨style, some "a\nb"⟩
  platformConfig := some ⟨some ⟨some "org.notes", []⟩, none, []⟩

/-- On every platform `notes` shows both screens as tabs, or else the second.  The name of the
second has two lines: it keeps its form on a page that is shown alone, and in `ContentView.swift`
it does not. -/
theorem references_declared_notes :
    (∀ style, readProject false (notesDoc style) = .ok (notes style) ∧
      ∀ platform : Platform, ∃ files,
        (platform.blueprint "com.example.app").manifest .standard (notes style) = .ok files ∧
        (∃ entry ∈ files, entry.path = platform.entryPath ∧
          entry.content = (platform.entryLayout "org.notes" (notes style)).text
            platform.backend.unit platform.componentName
            (match style with
            | .tabs => [⟨"home", "", none⟩, ⟨"a\nb", "B", none⟩]
            | .stack => [⟨"a\nb", "B", none⟩])) ∧
        (let slot := (platform.entryLayout "org.notes" (notes style)).slot ⟨"a\nb", "B", none⟩ 1
        (∃ front, slot.row platform.backend.unit (platform.componentName ⟨"a\nb", "B", none⟩) =
          front ++ (slot.before ++ platform.componentName ⟨"a\nb", "B", none⟩ ++ slot.after)) ↔
        platform.generator = web ∧ style = .stack) ∧
        ∃ file ∈ files, platform.Declares "org.notes" ⟨"a\nb", "B", none⟩ file) ∧
    (ios.entryLayout "org.notes" (notes .tabs)).rows ios.backend.unit ios.componentName
        (notes .tabs).screens =
      [ "            HomeView()",
        "                .tabItem \x7b",
        "                    Label(\"home\", systemImage: \"star\")",
        "                \x7d",
        "            A\n            bView()",
        "                .tabItem \x7b",
        "                    Label(\"B\", systemImage: \"star\")",
        "                \x7d" ] ∧
    ios.declarationLine (ios.componentName ⟨"a\nb", "B", none⟩) = "struct A\nbView: View \x7b" := by
  refine ⟨fun style => ?_, by decide +kernel, by decide +kernel⟩
  have hread : readProject false (notesDoc style) = .ok (notes style) := by cases style <;> rfl
  refine ⟨hread, fun platform => ?_⟩
  obtain ⟨files, hmanifest⟩ : ∃ files,
      (platform.blueprint "com.example.app").manifest .standard (notes style) = .ok files := by
    cases platform <;> exact ⟨_, rfl⟩
  obtain ⟨hentry, -, hshown, hdeclared⟩ :=
    references_declared platform "com.example.app" .standard (notes style) files
      (List.cons_ne_nil _ _) (id_ne_empty_of_readProject hread) hmanifest
  obtain ⟨-, file, hfile, -, hdeclares⟩ :=
    hdeclared ⟨"a\nb", "B", none⟩ (List.mem_cons_of_mem _ List.mem_cons_self)
  refine ⟨files, hmanifest, ?_, ?_, file, hfile, hdeclares⟩
  · cases style <;> exact hentry
  · refine ((hshown ⟨"a\nb", "B", none⟩ ?_).2 1).trans ?_
    · cases style <;> simp [notes, Project.startScreen?]
    · cases style <;> simp [notes, isLineBreak]

end CapsuleLoom.Platform
