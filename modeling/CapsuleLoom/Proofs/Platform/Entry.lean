import CapsuleLoom.Platform
import CapsuleLoom.Proofs.Platform.Printer
import CapsuleLoom.Proofs.Text.Case

/-!
# Entry files

The entry files `ContentView.swift`, `MainActivity.kt` and `App.tsx` show the components of the
screens of a project.  The text of an entry file is written down here as rows, some of which show
the component of a screen by its name.  Such a row is moved in as a whole, and with it the name: a
name of several lines does not keep its form.

## Main definitions

* `Project.SideBySide` : the projects with tabs.
* `Project.shownScreens` : the screens whose components are shown.
* `Slot` : a place for the name of a component.
* `EntryLayout` : the rows of an entry file around the names.
* `Platform.componentName`, `Platform.entryLayout` : names and rows on each platform.

## Main results

* `Project.initialScreen?_eq` : the screen that an app starts with.
* `Ios.content_contentFile`, `Android.content_activityFile`, `Web.content_appFile` : the text of
  the entry file.
* `Platform.exists_row_eq_iff` : the names that keep their form.
-/

namespace CapsuleLoom

open Text

/-! ### Screens that are shown -/

namespace Project

/-- The first screen whose identifier is the one that the navigation names, or else the first. -/
def startScreen? (project : Project) : Option Screen :=
  (project.screens.find? fun screen =>
    project.navigation.any fun navigation => navigation.initialScreen == some screen.id) <|>
  project.screens.head?

/-- The navigation has tabs, and there are several screens. -/
def SideBySide (project : Project) : Prop :=
  project.navigation.map (·.style) = some .tabs ∧ 1 < project.screens.length

instance (project : Project) : Decidable project.SideBySide := inferInstanceAs (Decidable (_ ∧ _))

/-- The screens that are shown: all if there are tabs, or else the one to start with. -/
def shownScreens (project : Project) : List Screen :=
  if project.SideBySide then project.screens else project.startScreen?.toList

variable {project : Project}

theorem usesTabs_eq (project : Project) : project.usesTabs = decide project.SideBySide := by
  rw [usesTabs, Bool.eq_iff_iff, Bool.and_eq_true, decide_eq_true_eq, decide_eq_true_eq,
    SideBySide]
  refine and_congr_left fun _ => ?_
  cases project.navigation <;> simp

/-- An empty text in the navigation is passed over, and is the identifier of no screen. -/
theorem initialScreen?_eq (hids : ∀ screen ∈ project.screens, screen.id ≠ "") :
    project.initialScreen? = project.startScreen? := by
  have hnamed : (do
      let navigation ← project.navigation
      let wanted ← nonempty? navigation.initialScreen
      project.screens.find? fun screen => screen.id == wanted) =
      project.screens.find? fun screen =>
        project.navigation.any fun navigation => navigation.initialScreen == some screen.id := by
    cases project.navigation with
    | none => exact (List.find?_eq_none.mpr (by simp)).symm
    | some navigation =>
      change (nonempty? navigation.initialScreen).bind _ =
        project.screens.find? fun screen => navigation.initialScreen == some screen.id
      cases navigation.initialScreen with
      | none => exact (List.find?_eq_none.mpr (by simp)).symm
      | some wanted =>
        by_cases hempty : wanted = ""
        · -- nothing is looked for on the one side, and nothing is found on the other
          subst hempty
          exact (List.find?_eq_none.mpr fun screen hscreen => by
            simpa using (hids screen hscreen).symm).symm
        · have hwanted : nonempty? (some wanted) = some wanted := by simp [nonempty?, hempty]
          rw [hwanted, Option.bind_some]
          have hsame : (fun screen : Screen => screen.id == wanted) =
              fun screen => some wanted == some screen.id := by
            funext screen
            rw [Bool.eq_iff_iff, beq_iff_eq, beq_iff_eq, Option.some_inj]
            exact eq_comm
          rw [hsame]
  rw [initialScreen?, startScreen?, ← hnamed]

theorem mem_screens_of_startScreen? {screen : Screen}
    (hstart : project.startScreen? = some screen) : screen ∈ project.screens := by
  rw [startScreen?, Option.orElse_eq_some] at hstart
  rcases hstart with hfind | ⟨-, hhead⟩
  · exact List.mem_of_find?_eq_some hfind
  · exact List.mem_of_head? hhead

/-- All screens are shown, or the one to start with. -/
theorem shownScreens_cases (hscreens : project.screens ≠ [])
    (hids : ∀ screen ∈ project.screens, screen.id ≠ "") :
    (project.SideBySide ∧ project.shownScreens = project.screens) ∨
    (¬ project.SideBySide ∧ ∃ screen ∈ project.screens,
      project.initialScreenId? = some screen.id ∧ project.shownScreens = [screen]) := by
  by_cases htabs : project.SideBySide
  · exact .inl ⟨htabs, if_pos htabs⟩
  · have hsome : ∃ screen, project.startScreen? = some screen := by
      obtain ⟨first, rest, hsplit⟩ := List.exists_cons_of_ne_nil hscreens
      unfold startScreen?
      cases project.screens.find? fun screen => project.navigation.any fun navigation =>
          navigation.initialScreen == some screen.id with
      | none => exact ⟨first, by rw [hsplit]; rfl⟩
      | some screen => exact ⟨screen, rfl⟩
    obtain ⟨screen, hstart⟩ := hsome
    refine .inr ⟨htabs, screen, mem_screens_of_startScreen? hstart, ?_, ?_⟩
    · rw [initialScreenId?, initialScreen?_eq hids, hstart]
      rfl
    · rw [shownScreens, if_neg htabs, hstart]
      rfl

theorem shownScreens_ne_nil (hscreens : project.screens ≠ [])
    (hids : ∀ screen ∈ project.screens, screen.id ≠ "") : project.shownScreens ≠ [] := by
  rcases shownScreens_cases hscreens hids with ⟨-, hshown⟩ | ⟨-, screen, -, -, hshown⟩
  · rwa [hshown]
  · rw [hshown]
    exact List.cons_ne_nil screen []

/-- The screens that are shown are screens of the project. -/
theorem mem_screens_of_shown (hscreens : project.screens ≠ [])
    (hids : ∀ screen ∈ project.screens, screen.id ≠ "") {screen : Screen}
    (hscreen : screen ∈ project.shownScreens) : screen ∈ project.screens := by
  rcases shownScreens_cases hscreens hids with ⟨-, hshown⟩ | ⟨-, start, hstart, -, hshown⟩
  · rwa [hshown] at hscreen
  · rw [hshown, List.mem_singleton] at hscreen
    exact hscreen ▸ hstart

end Project

/-! ### Rows -/

/-- Rows of texts one below the other are one row. -/
theorem stack_flatMap {α : Type} {rows : α → List String} {items : List α}
    (hrows : ∀ item ∈ items, rows item ≠ []) :
    stack (items.map fun item => stack (rows item)) = stack (items.flatMap rows) := by
  induction items with
  | nil => rfl
  | cons item items ih =>
    obtain ⟨hitem, hrest⟩ := List.forall_mem_cons.mp hrows
    rw [List.flatMap_cons, List.map_cons]
    by_cases hlast : items = []
    · subst hlast
      simp [stack]
    · have hbehind : items.flatMap rows ≠ [] := by
        obtain ⟨next, items, rfl⟩ := List.exists_cons_of_ne_nil hlast
        rw [List.flatMap_cons]
        exact List.append_ne_nil_of_left_ne_nil (hrest next List.mem_cons_self) _
      rw [stack_cons _ (by simpa using hlast), ih hrest, stack_append hitem hbehind]

theorem stack_singleton (text : String) : stack [text] = text := by simp [stack]

/-- A place for the name of a component in an entry file. -/
structure Slot where
  /-- How many levels the row is moved in. -/
  levels : Nat
  /-- The beginning of the row. -/
  lead : String
  /-- What stands next to the name in front of it. -/
  before : String
  /-- What stands next to the name behind it. -/
  after : String
  /-- There is no line boundary in front of the name. -/
  before_free : ∀ c ∈ before.toList, isLineBreak c = false := by decide
  /-- There is no line boundary behind the name. -/
  after_free : ∀ c ∈ after.toList, isLineBreak c = false := by decide
  /-- There is something behind the name. -/
  after_shown : isBlankText after = false := by decide

/-- The row of a slot with a name in it. -/
def Slot.row (slot : Slot) (unit name : String) : String :=
  indent unit slot.levels (slot.lead ++ (slot.before ++ name ++ slot.after))

/-- A name keeps its form in a row that is not moved in, and else if it is on one line. -/
theorem Slot.exists_row_eq_iff (slot : Slot) {unit : String}
    (hunit : ∀ c ∈ unit.toList, isLineBreak c = false) (hne : unit ≠ "") (name : String) :
    (∃ front, slot.row unit name = front ++ (slot.before ++ name ++ slot.after)) ↔
      slot.levels = 0 ∨ ∀ c ∈ name.toList, isLineBreak c = false := by
  by_cases hlevels : slot.levels = 0
  · refine iff_of_true ⟨slot.lead, ?_⟩ (.inl hlevels)
    rw [row, hlevels, indent_zero]
  · rw [row, exists_indent_eq_append_iff hunit hne hlevels slot.after_free slot.after_shown,
      or_iff_right hlevels, String.toList_append, List.forall_mem_append,
      and_iff_right slot.before_free]

/-- The rows of an entry file. -/
structure EntryLayout where
  /-- The rows above the components. -/
  above : List String
  /-- The slot for the component of a screen at a position. -/
  slot : Screen → Nat → Slot
  /-- The rows that follow the component of a screen. -/
  following : Screen → List String
  /-- The rows below the components. -/
  below : List String

namespace EntryLayout

/-- The rows of the components of some screens. -/
def rows (layout : EntryLayout) (unit : String) (name : Screen → String) (shown : List Screen) :
    List String :=
  shown.zipIdx.flatMap fun entry =>
    (layout.slot entry.1 entry.2).row unit (name entry.1) :: layout.following entry.1

/-- The entry file of some screens. -/
def text (layout : EntryLayout) (unit : String) (name : Screen → String) (shown : List Screen) :
    String :=
  stack (layout.above ++ layout.rows unit name shown ++ layout.below)

variable {layout : EntryLayout} {unit : String} {name : Screen → String} {shown : List Screen}

theorem rows_ne_nil (hshown : shown ≠ []) : layout.rows unit name shown ≠ [] := by
  obtain ⟨first, rest, rfl⟩ := List.exists_cons_of_ne_nil hshown
  simp [rows, List.zipIdx_cons]

/-- Texts one below the other that begin with a row of their slot. -/
theorem stack_rows (print : Screen → Nat → String)
    (hprint : ∀ screen ∈ shown, ∀ position, print screen position =
      stack ((layout.slot screen position).row unit (name screen) :: layout.following screen)) :
    stack (shown.zipIdx.map fun entry => print entry.1 entry.2) =
      stack (layout.rows unit name shown) := by
  rw [rows, ← stack_flatMap fun _ _ => List.cons_ne_nil _ _]
  refine congrArg stack (List.map_congr_left fun entry hentry => ?_)
  exact hprint entry.1 (List.fst_mem_of_mem_zipIdx hentry) entry.2

theorem stack_rows_of_screens {print : Screen → String}
    (hprint : ∀ screen ∈ shown, ∀ position, print screen =
      stack ((layout.slot screen position).row unit (name screen) :: layout.following screen)) :
    stack (shown.map print) = stack (layout.rows unit name shown) := by
  rw [← stack_rows (fun screen _ => print screen) hprint, ← List.zipIdx_map_fst 0 shown,
    List.map_map, List.zipIdx_map_fst]
  rfl

/-- The text of an entry file from the inside out. -/
theorem stack_nest_rows (hshown : shown ≠ []) (opening closing : List String)
    {above below : List String} (habove : layout.above = above ++ opening)
    (hbelow : layout.below = closing ++ below) :
    stack (above ++ stack (opening ++ stack (layout.rows unit name shown) :: closing) :: below) =
      layout.text unit name shown := by
  rw [stack_nest (rows_ne_nil hshown), stack_nest (by simp [rows_ne_nil hshown]), text, habove,
    hbelow]
  simp only [List.append_assoc]

theorem rows_singleton (screen : Screen) :
    layout.rows unit name [screen] =
      (layout.slot screen 0).row unit (name screen) :: layout.following screen := by
  simp [rows]

end EntryLayout

/-! ### Names -/

theorem typeName_of_ne_empty {id : String} (hid : id ≠ "") (suffix default : String) :
    typeName (some id) suffix default = capitalize id ++ suffix := by
  rw [typeName, Option.getD_some, if_neg (by simpa using hid)]

/-- The name of the component of a screen. -/
def Platform.componentName (platform : Platform) (screen : Screen) : String :=
  match platform with
  | ios => capitalize screen.id ++ "View"
  | android => capitalize screen.id ++ "Screen"
  | web | desktop => capitalize screen.id ++ "Page"

/-! ### iOS -/

namespace Ios

/-- The lines above the body of `ContentView`. -/
def linesAbove : List String :=
  [ "import SwiftUI",
    "",
    "struct ContentView: View \x7b",
    line 1 "var body: some View \x7b" ]

/-- The lines below the body of `ContentView`. -/
def linesBelow : List String :=
  [ line 1 "\x7d",
    "\x7d",
    "",
    "#Preview \x7b",
    line 1 "ContentView()",
    "\x7d",
    "" ]

/-- The rows of `ContentView.swift`. -/
def entryLayout (tabs : Bool) : EntryLayout where
  above := linesAbove ++ [line 2 (if tabs then "TabView \x7b" else "NavigationStack \x7b")]
  slot _ _ := if tabs then .mk 3 "" "" "()" else .mk 2 "    " "" "()"
  following screen :=
    if tabs then
      [ indent unit 3 (line 1 ".tabItem \x7b"),
        indent unit 3 (line 2 ("Label(\"" ++ screen.title ++ "\", systemImage: \"star\")")),
        indent unit 3 (line 1 "\x7d") ]
    else []
  below := line 2 "\x7d" :: linesBelow

/-- The tabs, three levels deep. -/
theorem indent_tabs {screens : List Screen} (hids : ∀ screen ∈ screens, screen.id ≠ "") :
    indent unit 3 (stack (screens.map tab)) =
      stack ((entryLayout true).rows unit Platform.ios.componentName screens) := by
  rw [indent_stack, List.map_map]
  refine EntryLayout.stack_rows_of_screens fun screen hscreen position => ?_
  rw [Function.comp_apply, tab, indent_stack, viewName, typeName_of_ne_empty (hids screen hscreen)]
  simp only [List.map_cons, List.map_nil, Slot.row, entryLayout, if_true, String.empty_append]
  rfl

/-- The text of `ContentView.swift`. -/
theorem content_contentFile {project : Project} (hscreens : project.screens ≠ [])
    (hids : ∀ screen ∈ project.screens, screen.id ≠ "") :
    (contentFile project).content =
      (entryLayout (decide project.SideBySide)).text unit Platform.ios.componentName
        project.shownScreens := by
  have hcontent : (contentFile project).content =
      stack (linesAbove ++ indent unit 2 (contentBody project) :: linesBelow) := rfl
  rw [hcontent, contentBody, project.usesTabs_eq]
  rcases Project.shownScreens_cases hscreens hids with
    ⟨htabs, hshown⟩ | ⟨htabs, screen, hscreen, hstart, hshown⟩
  · have hunit : ∀ c ∈ unit.toList, isLineBreak c = false := Platform.ios.unit_free
    rw [decide_eq_true htabs, if_pos rfl, indent_stack, List.map_cons, List.map_cons,
      indent_indent hunit, indent_tabs hids, hshown]
    exact EntryLayout.stack_nest_rows hscreens [_] [_] rfl rfl
  · have hrow : stack ((entryLayout false).rows unit Platform.ios.componentName [screen]) =
        indent unit 2 (line 1 (capitalize screen.id ++ "View" ++ "()")) := by
      rw [EntryLayout.rows_singleton, Slot.row]
      simp only [entryLayout, Bool.false_eq_true, if_false, String.empty_append, stack_singleton]
      rfl
    rw [decide_eq_false htabs, if_neg Bool.false_ne_true, indent_stack, hstart, hshown, viewName,
      typeName_of_ne_empty (hids screen hscreen), List.map_cons, List.map_cons, ← hrow]
    exact EntryLayout.stack_nest_rows (List.cons_ne_nil _ _) [_] [_] rfl rfl

end Ios

/-! ### Android -/

namespace Android

/-- The rows of the names that the activity needs. -/
def importRows (package app : String) (tabs : Bool) : List String :=
  [ "import android.os.Bundle",
    "import androidx.activity.ComponentActivity",
    "import androidx.activity.compose.setContent" ] ++
  (if tabs then
    [ "import androidx.compose.foundation.layout.Box",
      "import androidx.compose.foundation.layout.padding",
      "import androidx.compose.material.icons.Icons",
      "import androidx.compose.material.icons.filled.Star" ]
  else []) ++
  [ "import androidx.compose.material3.*",
    "import androidx.compose.runtime.*",
    "import " ++ (package ++ ".screens.*"),
    "import " ++ (package ++ ".ui.theme." ++ app ++ "Theme") ] ++
  (if tabs then ["import androidx.compose.ui.Modifier"] else [])

/-- The lines of `MainActivity.kt` between the imports and the body. -/
def linesAbove (app : String) : List String :=
  [ "",
    "class MainActivity : ComponentActivity() \x7b",
    line 1 "override fun onCreate(savedInstanceState: Bundle?) \x7b",
    line 2 "super.onCreate(savedInstanceState)",
    line 2 "setContent \x7b",
    line 3 (app ++ "Theme \x7b") ]

/-- The lines below the body of `MainActivity.kt`. -/
def linesBelow : List String :=
  [ line 3 "\x7d",
    line 2 "\x7d",
    line 1 "\x7d",
    "\x7d",
    "" ]

/-- The lines above the branches of the tabs, which name the screens by their titles. -/
def barLines (screens : List Screen) : List String :=
  [ declaration "selectedTab" "mutableIntStateOf(0)",
    "Scaffold(",
    line 1 "bottomBar = \x7b",
    line 2 "NavigationBar \x7b",
    indent unit 3 (stack (screens.zipIdx.map fun entry => tab entry.1 entry.2)),
    line 2 "\x7d",
    line 1 "\x7d",
    ") \x7b padding ->",
    line 1 "Box(modifier = Modifier.padding(padding)) \x7b",
    line 2 "when (selectedTab) \x7b" ]

/-- The rows of `MainActivity.kt`. -/
def entryLayout (package app : String) (tabs : Bool) (screens : List Screen) : EntryLayout where
  above := ["package " ++ package, ""] ++ importRows package app tabs ++ linesAbove app ++
    if tabs then (barLines screens).map (indent unit 4)
    else [line 4 "Surface(color = MaterialTheme.colorScheme.background) \x7b"]
  slot _ position :=
    if tabs then .mk 7 (toString position ++ " -> ") "" "()" else .mk 4 "    " "" "()"
  following _ := []
  below := (if tabs then [line 6 "\x7d", line 5 "\x7d", line 4 "\x7d"] else [line 4 "\x7d"]) ++
    linesBelow

theorem map_activityImports (package : String) (project : Project) :
    (activityImports package project).map ("import " ++ ·) =
      importRows package (appIdentifier project.name) project.usesTabs := by
  rw [importRows, activityImports]
  cases project.usesTabs <;> rfl

/-- The branches of the tabs, seven levels deep. -/
theorem indent_branches (package app : String) {screens : List Screen}
    (hids : ∀ screen ∈ screens, screen.id ≠ "") :
    indent unit 7 (stack (screens.zipIdx.map fun entry => branch entry.1 entry.2)) =
      stack ((entryLayout package app true screens).rows unit Platform.android.componentName
        screens) := by
  have hbranch : ∀ screen ∈ screens, ∀ position, indent unit 7 (branch screen position) =
      indent unit 7 (toString position ++ " -> " ++
        (Platform.android.componentName screen ++ "()")) := by
    intro screen hscreen position
    rw [branch, screenName, screenTypeName, typeName_of_ne_empty (hids screen hscreen),
      String.append_assoc]
    rfl
  rw [indent_stack, List.map_map]
  refine EntryLayout.stack_rows (fun screen position => indent unit 7 (branch screen position))
    fun screen hscreen position => (hbranch screen hscreen position).trans ?_
  simp only [entryLayout, Slot.row, if_true, String.empty_append, stack_singleton]

/-- The text of `MainActivity.kt`. -/
theorem content_activityFile (package : String) {project : Project}
    (hscreens : project.screens ≠ []) (hids : ∀ screen ∈ project.screens, screen.id ≠ "") :
    (activityFile package project).content =
      (entryLayout package (appIdentifier project.name) (decide project.SideBySide)
        project.screens).text unit Platform.android.componentName project.shownScreens := by
  have hcontent : (activityFile package project).content =
      stack (["package " ++ package, ""] ++
        stack ((activityImports package project).map ("import " ++ ·)) ::
        (linesAbove (appIdentifier project.name) ++
          indent unit 4 (if project.usesTabs then tabBody project.screens else stackBody project) ::
          linesBelow)) := rfl
  rw [hcontent, stack_nest (by simp [activityImports]), map_activityImports, ← List.append_assoc,
    project.usesTabs_eq]
  rcases Project.shownScreens_cases hscreens hids with
    ⟨htabs, hshown⟩ | ⟨htabs, screen, hscreen, hstart, hshown⟩
  · have hunit : ∀ c ∈ unit.toList, isLineBreak c = false := Platform.android.unit_free
    have hbody : tabBody project.screens =
        stack (barLines project.screens ++
          indent unit 3 (stack (project.screens.zipIdx.map fun entry => branch entry.1 entry.2)) ::
          [line 2 "\x7d", line 1 "\x7d", "\x7d"]) := rfl
    rw [decide_eq_true htabs, if_pos rfl, hbody, indent_stack, List.map_append, List.map_cons,
      indent_indent hunit, indent_branches package (appIdentifier project.name) hids, hshown]
    exact EntryLayout.stack_nest_rows hscreens _ [_, _, _] rfl rfl
  · have hrow : stack ((entryLayout package (appIdentifier project.name) false
        project.screens).rows unit Platform.android.componentName [screen]) =
        indent unit 4 (line 1 (capitalize screen.id ++ "Screen" ++ "()")) := by
      rw [EntryLayout.rows_singleton, Slot.row]
      simp only [entryLayout, Bool.false_eq_true, if_false, String.empty_append, stack_singleton]
      rfl
    rw [decide_eq_false htabs, if_neg Bool.false_ne_true, stackBody, indent_stack, hstart, hshown,
      typeName_of_ne_empty (hids screen hscreen), List.map_cons, List.map_cons, ← hrow]
    exact EntryLayout.stack_nest_rows (List.cons_ne_nil _ _) [_] [_] rfl rfl

end Android

/-! ### Browsers -/

namespace Web

/-- The lines below the tabs, which are switched by their identifiers. -/
def switchLines (start : String) : List String :=
  [ "]",
    "",
    "export default function App() \x7b",
    line 1 ("const [active, setActive] = useState('" ++ start ++ "')"),
    line 1 "const current = tabs.find(t => t.id === active) ?? tabs[0]",
    line 1 "return (",
    line 2 "<div className=\"min-h-screen bg-gray-50 pb-16\">",
    line 3 "<current.Page />",
    line 3 "<nav className=\"fixed bottom-0 inset-x-0 flex border-t bg-white\">",
    line 4 "\x7btabs.map(t => (",
    line 5 "<button",
    line 6 ("key=" ++ braced "t.id"),
    line 6 ("onClick=" ++ braced "() => setActive(t.id)"),
    line 6 ("className=" ++ braced ("`flex-1 py-3 $" ++
      braced "t.id === current.id ? 'text-primary font-semibold' : 'text-gray-500'" ++ "`")),
    line 5 ">",
    line 6 (braced "t.label"),
    line 5 "</button>",
    line 4 "))\x7d",
    line 3 "</nav>",
    line 2 "</div>",
    line 1 ")",
    "\x7d",
    "" ]

/-- The lines above the page that is shown. -/
def linesAbove : List String :=
  [ "",
    "export default function App() \x7b",
    line 1 "return (",
    line 2 "<div className=\"min-h-screen bg-gray-50\">" ]

/-- The lines below the page that is shown. -/
def linesBelow : List String :=
  [ line 2 "</div>",
    line 1 ")",
    "\x7d",
    "" ]

/-- The row that makes a page known. -/
def importRow (screen : Screen) : String :=
  "import " ++ Platform.web.componentName screen ++ " from './pages/" ++ screen.id ++ "'"

/-- The rows of `App.tsx`. -/
def entryLayout (start : String) (tabs : Bool) (pages : List Screen) : EntryLayout where
  above := [ if tabs then "import React, \x7b useState \x7d from 'react'"
      else "import React from 'react'" ] ++ pages.map importRow ++
    if tabs then ["", "const tabs = ["] else linesAbove
  slot screen _ :=
    if tabs then
      .mk 1 ("\x7b id: '" ++ screen.id ++ "', label: '" ++ screen.title ++ "', ") "Page: " " \x7d,"
    else .mk 0 "      " "<" " />"
  following _ := []
  below := if tabs then switchLines start else linesBelow

theorem map_importLine {screens : List Screen} (hids : ∀ screen ∈ screens, screen.id ≠ "") :
    screens.map importLine = screens.map importRow := by
  refine List.map_congr_left fun screen hscreen => ?_
  rw [importLine, pageName, typeName_of_ne_empty (hids screen hscreen)]
  rfl

/-- The tabs, one level deep. -/
theorem indent_tabs (start : String) {screens : List Screen}
    (hids : ∀ screen ∈ screens, screen.id ≠ "") :
    indent unit 1 (stack (screens.map tab)) =
      stack ((entryLayout start true screens).rows unit Platform.web.componentName screens) := by
  rw [indent_stack, List.map_map]
  refine EntryLayout.stack_rows_of_screens fun screen hscreen position => ?_
  have htab : tab screen = "\x7b" ++ (" id: '" ++ screen.id ++ "', label: '" ++ screen.title ++
      "', Page: " ++ pageName (some screen.id) ++ " ") ++ "\x7d" ++ "," := rfl
  rw [Function.comp_apply, htab, pageName, typeName_of_ne_empty (hids screen hscreen), Slot.row]
  simp only [entryLayout, if_true, stack_singleton, Platform.componentName]
  refine congrArg (indent unit 1) (String.toList_inj.mp ?_)
  simp

/-- The text of `App.tsx`. -/
theorem content_appFile {project : Project} (hscreens : project.screens ≠ [])
    (hids : ∀ screen ∈ project.screens, screen.id ≠ "") :
    (appFile project).content =
      (entryLayout (project.initialScreenId?.getD "") (decide project.SideBySide)
        project.screens).text unit Platform.web.componentName project.shownScreens := by
  have happ : (appFile project).content =
      if project.usesTabs then tabApp project else stackApp project := rfl
  have himports : project.screens.map importRow ≠ [] := by simpa using hscreens
  rw [happ, project.usesTabs_eq]
  rcases Project.shownScreens_cases hscreens hids with
    ⟨htabs, hshown⟩ | ⟨htabs, screen, hscreen, hstart, hshown⟩
  · have hcontent : tabApp project =
        stack (["import React, " ++ braced " useState " ++ " from 'react'"] ++
          stack (project.screens.map importLine) ::
          (["", "const tabs = ["] ++ indent unit 1 (stack (project.screens.map tab)) ::
            switchLines (project.initialScreenId?.getD ""))) := rfl
    rw [decide_eq_true htabs, if_pos rfl, hcontent, map_importLine hids, stack_nest himports,
      ← List.append_assoc, indent_tabs (project.initialScreenId?.getD "") hids, hshown,
      stack_nest (EntryLayout.rows_ne_nil hscreens)]
    rfl
  · have hcontent : stackApp project =
        stack (["import React from 'react'"] ++ stack (project.screens.map importLine) ::
          (linesAbove ++ line 3 ("<" ++ pageName project.initialScreenId? ++ " />") ::
            linesBelow)) := rfl
    have hrow : stack ((entryLayout (project.initialScreenId?.getD "") false
        project.screens).rows unit Platform.web.componentName [screen]) =
        line 3 ("<" ++ (capitalize screen.id ++ "Page") ++ " />") := by
      rw [EntryLayout.rows_singleton, Slot.row]
      simp only [entryLayout, Bool.false_eq_true, if_false, stack_singleton, indent_zero]
      rfl
    rw [decide_eq_false htabs, if_neg Bool.false_ne_true, hcontent, map_importLine hids,
      stack_nest himports, ← List.append_assoc, hshown, pageName, hstart,
      typeName_of_ne_empty (hids screen hscreen), ← hrow,
      stack_nest (EntryLayout.rows_ne_nil (List.cons_ne_nil _ _))]
    rfl

end Web

/-! ### All platforms -/

namespace Platform

/-- The rows of the entry file of a project. -/
def entryLayout (platform : Platform) (package : String) (project : Project) : EntryLayout :=
  match platform with
  | ios => Ios.entryLayout (decide project.SideBySide)
  | android =>
    Android.entryLayout package (appIdentifier project.name) (decide project.SideBySide)
      project.screens
  | web | desktop =>
    Web.entryLayout (project.initialScreenId?.getD "") (decide project.SideBySide) project.screens

theorem levels_slot_eq_zero_iff (platform : Platform) (package : String) (project : Project)
    (screen : Screen) (position : Nat) :
    ((platform.entryLayout package project).slot screen position).levels = 0 ↔
      platform.generator = web ∧ ¬ project.SideBySide := by
  by_cases htabs : project.SideBySide <;> cases platform <;>
    simp [entryLayout, Ios.entryLayout, Android.entryLayout, Web.entryLayout, generator, htabs]

theorem componentName_free_iff (platform : Platform) (screen : Screen) :
    (∀ c ∈ (platform.componentName screen).toList, isLineBreak c = false) ↔
      ∀ c ∈ screen.id.toList, isLineBreak c = false := by
  have hsuffix (suffix : String) (hfree : ∀ c ∈ suffix.toList, isLineBreak c = false) :
      (∀ c ∈ (capitalize screen.id ++ suffix).toList, isLineBreak c = false) ↔
        ∀ c ∈ screen.id.toList, isLineBreak c = false := by
    rw [String.toList_append, List.forall_mem_append, and_iff_left hfree, capitalize_free_iff]
  cases platform <;> exact hsuffix _ (by decide)

/-- The component of a screen is shown under its name if the identifier is on one line, and else
only on a page that is shown alone. -/
theorem exists_row_eq_iff (platform : Platform) (package : String) (project : Project)
    (screen : Screen) (position : Nat) :
    let slot := (platform.entryLayout package project).slot screen position
    (∃ front, slot.row platform.backend.unit (platform.componentName screen) =
      front ++ (slot.before ++ platform.componentName screen ++ slot.after)) ↔
    (∀ c ∈ screen.id.toList, isLineBreak c = false) ∨
      platform.generator = web ∧ ¬ project.SideBySide := by
  intro slot
  have hne : platform.backend.unit ≠ "" := by cases platform <;> decide
  rw [slot.exists_row_eq_iff platform.unit_free hne, componentName_free_iff,
    levels_slot_eq_zero_iff, or_comm]

end Platform

end CapsuleLoom
