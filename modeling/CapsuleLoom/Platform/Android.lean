import CapsuleLoom.Capsule.Props
import CapsuleLoom.Platform.Basic

/-!
# Sources for Android

Composables for Jetpack Compose.  `MainActivity.kt` starts the app and holds a `Scaffold` with a
`NavigationBar` for all screens or a `Surface` around the initial one, and each screen has a file
`<Screen>Screen.kt` of its own.

## Main definitions

* `Android.backend` : the translators of the kinds.
* `Android.blueprint` : the files.

## References

* HubLab API specification, §4.1 (fragment translators), column Android; §4.2 (screen and file
  assembler), Android.
-/

namespace CapsuleLoom.Android

/-- One step of indentation. -/
def unit : String := "    "

/-- A line moved in by some levels. -/
def line (levels : Nat) (text : String) : String := inset unit levels text

/-- The `Spacer` between neighbours. -/
def spacer : String := "Spacer(Modifier.height(8.dp))"

/-! ### Pieces -/

/-- A `Text`, which may have a style of the typography. -/
def styledText (content : String) (style? : Option String) : String :=
  match style? with
  | some style => s!"Text(\"{content}\", style = MaterialTheme.typography.{style})"
  | none => s!"Text(\"{content}\")"

/-- The composables of buttons by variant. -/
def buttonNames : List (String × String) :=
  [("outline", "OutlinedButton"), ("ghost", "TextButton"), ("secondary", "FilledTonalButton")]

/-- The button of a variant, with its action in `onClick`. -/
def button : PieceRule := fun capsule _ _ =>
  let name := (buttonNames.lookup (textProp capsule.props ["variant"] "")).getD "Button"
  let action := textProp capsule.props ["onPress"] "action"
  .ok <| .solid <| stack
    [ s!"{name}(onClick = " ++ braced s!" /* {action} */ " ++ ") \x7b",
      line 1 (styledText (textProp capsule.props ["text"] "Button") none),
      "\x7d" ]

/-- The styles of texts by variant. -/
def textStyles : List (String × String) :=
  [("heading", "headlineMedium"), ("subheading", "titleMedium"), ("caption", "labelSmall")]

/-- A `Text` in the style of its variant. -/
def text : PieceRule := fun capsule _ _ =>
  .ok <| .solid <| styledText (textProp capsule.props ["content", "text"] "")
    (textStyles.lookup (textProp capsule.props ["variant"] ""))

/-- The declaration of a remembered state variable. -/
def declaration (variableName initial : String) : String :=
  s!"var {variableName} by remember " ++ braced s!" {initial} "

/-- The argument that assigns changes to a state variable. -/
def change (argument variableName : String) : String :=
  s!"{argument} = " ++ braced s!" {variableName} = it "

/-- An argument that is a lambda with a `Text`. -/
def textArgument (argument content : String) : String :=
  s!"{argument} = " ++ braced (" " ++ styledText content none ++ " ")

/-- An `OutlinedTextField` with label and placeholder, and the variable of its text. -/
def input : PieceRule := fun capsule _ _ =>
  let name := stateName capsule.id "text"
  .ok <| .solid <| stack
    [ declaration name "mutableStateOf(\"\")",
      "OutlinedTextField(",
      line 1 s!"value = {name},",
      line 1 (change "onValueChange" name ++ ","),
      line 1 (textArgument "label" (textProp capsule.props ["label"] "") ++ ","),
      line 1 (textArgument "placeholder" (textProp capsule.props ["placeholder"] "") ++ ","),
      line 1 "modifier = Modifier.fillMaxWidth()",
      ")" ]

/-- The title of a card, in the style `titleMedium`. -/
def cardTitle? (capsule : Capsule) : Option String :=
  let title := textProp capsule.props ["title"] ""
  if title.isEmpty then none else some (styledText title (some "titleMedium"))

/-- A card: a `Card` with a `Column` around its title and its children. -/
def card : PieceRule := fun capsule _ _ =>
  .ok <| .frame
    { opening := stack
        [ "Card(modifier = Modifier.fillMaxWidth()) \x7b",
          line 1 "Column(modifier = Modifier.padding(16.dp)) \x7b" ]
      lead := cardTitle? capsule
      step := 2
      closing := stack [line 1 "\x7d", "\x7d"] }

/-- The `ListItem` of a text. -/
def listRow (content : String) : String :=
  line 1 ("ListItem(headlineContent = " ++ braced s!" Text({content}) " ++ ")")

/-- The `items` of a list, over `items` or over five numbers. -/
def listRows (capsule : Capsule) : String :=
  match textItems? capsule.props with
  | some items =>
    stack ["items(listOf(" ++ quotedItems items ++ ")) \x7b item ->", listRow "item", "\x7d"]
  | none =>
    stack
      [ "items(5) \x7b index ->",
        listRow ("\"Item $" ++ braced "index + 1" ++ "\""),
        "\x7d" ]

/-- A `LazyColumn` of rows of its own. -/
def list : PieceRule := fun capsule _ _ =>
  .ok <| .solid <| stack ["LazyColumn \x7b", Text.indent unit 1 (listRows capsule), "\x7d"]

/-- A `LinearProgressIndicator` or a `CircularProgressIndicator`. -/
def progress : PieceRule := fun capsule _ _ => do
  let value := fractionNumeral (← fraction capsule.props "value" defaultPercent)
  let argument := "progress = " ++ braced s!" {value}f "
  if textProp capsule.props ["variant"] "" = "circular" then
    return .solid s!"CircularProgressIndicator({argument})"
  return .solid <| stack
    [ "LinearProgressIndicator(",
      line 1 s!"{argument},",
      line 1 "modifier = Modifier.fillMaxWidth()",
      ")" ]

/-- A `Row` with a label and a `Switch`, and the variable of its state. -/
def switch : PieceRule := fun capsule _ _ =>
  let name := stateName capsule.id "checked"
  let checked := if boolProp capsule.props "checked" false then "true" else "false"
  .ok <| .solid <| stack
    [ declaration name s!"mutableStateOf({checked})",
      "Row(verticalAlignment = Alignment.CenterVertically) \x7b",
      line 1 (styledText (textProp capsule.props ["label"] "") none),
      line 1 "Spacer(Modifier.weight(1f))",
      line 1 (s!"Switch(checked = {name}, " ++ change "onCheckedChange" name ++ ")"),
      "\x7d" ]

/-- A `Slider`, whose value is a fraction, and the variable of its value. -/
def slider : PieceRule := fun capsule _ _ => do
  let name := stateName capsule.id "value"
  let lowest := numeral (← numberProp capsule.props "min" (.int 0))
  let highest := numeral (← numberProp capsule.props "max" (.int 100))
  let value := fractionNumeral (← fraction capsule.props "value" defaultPercent)
  return .solid <| stack
    [ declaration name s!"mutableFloatStateOf({value}f)",
      "Slider(",
      line 1 s!"value = {name},",
      line 1 (change "onValueChange" name ++ ","),
      line 1 s!"valueRange = {lowest}f..{highest}f",
      ")" ]

/-- A `HorizontalDivider`. -/
def divider : PieceRule := fun _ _ _ => .ok (.solid "HorizontalDivider()")

/-- An `OutlinedTextField` with a search icon, and the variable of its text. -/
def searchbar : PieceRule := fun capsule _ _ =>
  let name := stateName capsule.id "query"
  .ok <| .solid <| stack
    [ declaration name "mutableStateOf(\"\")",
      "OutlinedTextField(",
      line 1 s!"value = {name},",
      line 1 (change "onValueChange" name ++ ","),
      line 1
        (textArgument "placeholder" (textProp capsule.props ["placeholder"] "Search...") ++ ","),
      line 1 ("leadingIcon = " ++ braced " Icon(Icons.Default.Search, \"Search\") " ++ ","),
      line 1 "modifier = Modifier.fillMaxWidth()",
      ")" ]

/-- A `Box` in the place of a chart. -/
def chart : PieceRule := fun capsule _ _ =>
  .ok <| .solid <| stack
    [ "// Chart - draw with Canvas or a charting library",
      "Box(",
      line 1 "modifier = Modifier",
      line 2 ".fillMaxWidth()",
      line 2 ".height(200.dp),",
      line 1 "contentAlignment = Alignment.Center",
      ") \x7b",
      line 1 (styledText (textProp capsule.props ["title"] "Chart") none),
      "\x7d" ]

/-- The comment and the `Text` for a kind without a rule and without children. -/
def placeholder (kind : String) : String := stack [s!"// TODO: {kind}", styledText kind none]

/-- The `Column` for a kind without a rule but with children. -/
def container : Frame := ⟨"Column \x7b", none, 1, "\x7d"⟩

/-- The fragments for Android. -/
def backend : Backend where
  unit := unit
  separator := "\n" ++ spacer ++ "\n"
  empty := styledText "Empty" none
  placeholder := placeholder
  container := container
  rules :=
    [ ("button", button), ("text", text), ("input", input), ("card", card), ("list", list),
      ("progress", progress), ("switch", switch), ("slider", slider), ("divider", divider),
      ("searchbar", searchbar), ("chart", chart) ]

/-! ### Files -/

variable {κ : Type}

/-- A file in Kotlin. -/
def file (path content : String) : SourceFile := ⟨path, "kotlin", content⟩

/-- The `import` lines of some names. -/
def importLines (names : List String) : String := stack (names.map ("import " ++ ·))

/-- The name of the composable of a screen. -/
def screenName (id : String) : String := screenTypeName id "Screen"

/-- The imports of `MainActivity.kt`. -/
def activityImports (package : String) (project : Project κ) : List String :=
  let app := appIdentifier project.name
  [ "android.os.Bundle",
    "androidx.activity.ComponentActivity",
    "androidx.activity.compose.setContent" ] ++
  (if project.usesTabs then
    [ "androidx.compose.foundation.layout.Box",
      "androidx.compose.foundation.layout.padding",
      "androidx.compose.material.icons.Icons",
      "androidx.compose.material.icons.filled.Star" ]
  else []) ++
  [ "androidx.compose.material3.*",
    "androidx.compose.runtime.*",
    s!"{package}.screens.*",
    s!"{package}.ui.theme.{app}Theme" ] ++
  (if project.usesTabs then ["androidx.compose.ui.Modifier"] else [])

/-- The `NavigationBarItem` of the screen at a position. -/
def tab (screen : Screen κ) (position : Nat) : String :=
  let title := screen.title
  stack
    [ "NavigationBarItem(",
      line 1 s!"selected = selectedTab == {position},",
      line 1 ("onClick = " ++ braced s!" selectedTab = {position} " ++ ","),
      line 1 ("icon = " ++
        braced s!" Icon(Icons.Default.Star, contentDescription = \"{title}\") " ++ ","),
      line 1 (textArgument "label" title),
      ")" ]

/-- The branch of `when` that shows the screen at a position. -/
def branch (screen : Screen κ) (position : Nat) : String :=
  s!"{position} -> " ++ screenName screen.id ++ "()"

/-- The `Scaffold` with a `NavigationBar` for all screens. -/
def tabBody (screens : List (Screen κ)) : String :=
  stack
    [ declaration "selectedTab" "mutableIntStateOf(0)",
      "Scaffold(",
      line 1 "bottomBar = \x7b",
      line 2 "NavigationBar \x7b",
      Text.indent unit 3 (stack (screens.zipIdx.map fun entry => tab entry.1 entry.2)),
      line 2 "\x7d",
      line 1 "\x7d",
      ") \x7b padding ->",
      line 1 "Box(modifier = Modifier.padding(padding)) \x7b",
      line 2 "when (selectedTab) \x7b",
      Text.indent unit 3 (stack (screens.zipIdx.map fun entry => branch entry.1 entry.2)),
      line 2 "\x7d",
      line 1 "\x7d",
      "\x7d" ]

/-- The `Surface` around the initial screen. -/
def stackBody (project : Project κ) : String :=
  stack
    [ "Surface(color = MaterialTheme.colorScheme.background) \x7b",
      line 1 (typeName project.initialScreenId? "Screen" "Main" ++ "()"),
      "\x7d" ]

/-- The file `MainActivity.kt`. -/
def activityFile (package : String) (project : Project κ) : SourceFile :=
  let app := appIdentifier project.name
  let body := if project.usesTabs then tabBody project.screens else stackBody project
  file "MainActivity.kt" <| stack
    [ s!"package {package}",
      "",
      importLines (activityImports package project),
      "",
      "class MainActivity : ComponentActivity() \x7b",
      line 1 "override fun onCreate(savedInstanceState: Bundle?) \x7b",
      line 2 "super.onCreate(savedInstanceState)",
      line 2 "setContent \x7b",
      line 3 s!"{app}Theme \x7b",
      Text.indent unit 4 body,
      line 3 "\x7d",
      line 2 "\x7d",
      line 1 "\x7d",
      "\x7d",
      "" ]

/-- The imports of `<Screen>Screen.kt`. -/
def screenImports : List String :=
  [ "androidx.compose.foundation.layout.*",
    "androidx.compose.foundation.lazy.LazyColumn",
    "androidx.compose.foundation.lazy.items",
    "androidx.compose.material.icons.Icons",
    "androidx.compose.material.icons.filled.Search",
    "androidx.compose.material3.*",
    "androidx.compose.runtime.*",
    "androidx.compose.ui.Alignment",
    "androidx.compose.ui.Modifier",
    "androidx.compose.ui.unit.dp" ]

/-- The file `<Screen>Screen.kt`. -/
def screenFile (package : String) (screen : Screen κ) (fragment : String) : SourceFile :=
  let name := screenName screen.id
  file s!"{name}.kt" <| stack
    [ s!"package {package}.screens",
      "",
      importLines screenImports,
      "",
      "@Composable",
      s!"fun {name}() \x7b",
      line 1 "Column(",
      line 2 "modifier = Modifier",
      line 3 ".fillMaxSize()",
      line 3 ".padding(16.dp)",
      line 1 ") \x7b",
      line 2 (styledText screen.title (some "headlineSmall")),
      line 2 spacer,
      Text.indent unit 2 fragment,
      line 1 "\x7d",
      "\x7d",
      "" ]

/-- The package of a project: `platformConfig.android.packageName`, or else the default. -/
def packageOf (defaultPackage : String) (project : Project κ) : String :=
  project.androidPackage?.getD defaultPackage

/-- The files for Android: `MainActivity.kt` and the composables of the screens. -/
def blueprint (defaultPackage : String) : Blueprint κ where
  backend := backend
  opening project := [activityFile (packageOf defaultPackage project) project]
  screenFile project := screenFile (packageOf defaultPackage project)
  closing _ := []

end CapsuleLoom.Android
