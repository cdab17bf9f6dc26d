import CapsuleLoom.Capsule.Props
import CapsuleLoom.Platform.Basic

/-!
# Sources for iOS

Views for SwiftUI.  `<App>App.swift` starts the app, `ContentView.swift` holds a `TabView` of all
screens or a `NavigationStack` over the initial one, and each screen has a file `<Screen>View.swift`
of its own.

## Main definitions

* `Ios.backend` : the translators of the kinds.
* `Ios.blueprint` : the files.

## References

* HubLab API specification, §4.1 (fragment translators), column iOS; §4.2 (screen and file
  assembler), iOS.
-/

namespace CapsuleLoom.Ios

/-- One step of indentation. -/
def unit : String := "    "

/-- A line moved in by some levels. -/
def line (levels : Nat) (text : String) : String := inset unit levels text

/-! ### Pieces -/

/-- A `Button`; the variants `secondary` and `outline` are bordered, all others prominent. -/
def button : PieceRule := fun capsule _ _ =>
  let action := textProp capsule.props ["onPress"] "action"
  let label := textProp capsule.props ["text"] "Button"
  let style :=
    if ["secondary", "outline"].contains (textProp capsule.props ["variant"] "") then ".bordered"
    else ".borderedProminent"
  .ok <| .solid <| stack
    [ "Button(action: " ++ braced s!" /* {action} */ " ++ ") \x7b",
      line 1 s!"Text(\"{label}\")",
      "\x7d",
      s!".buttonStyle({style})" ]

/-- The fonts of texts by variant. -/
def textFonts : List (String × String) :=
  [("heading", ".title"), ("subheading", ".headline"), ("caption", ".caption")]

/-- A `Text` in the font of its variant. -/
def text : PieceRule := fun capsule _ _ =>
  let content := textProp capsule.props ["content", "text"] ""
  .ok <| .solid <|
    match textFonts.lookup (textProp capsule.props ["variant"] "") with
    | some font => stack [s!"Text(\"{content}\")", line 1 s!".font({font})"]
    | none => s!"Text(\"{content}\")"

/-- A `TextField`, or a `SecureField` for the type `password`. -/
def input : PieceRule := fun capsule _ _ =>
  let field :=
    if textProp capsule.props ["type"] "" = "password" then "SecureField" else "TextField"
  let hint := textProp capsule.props ["placeholder"] ""
  .ok <| .solid <| stack
    [ s!"{field}(\"{hint}\", text: .constant(\"\"))",
      line 1 ".textFieldStyle(.roundedBorder)" ]

/-- The title of a card, in the headline font. -/
def cardTitle? (capsule : Capsule) : Option String :=
  let title := textProp capsule.props ["title"] ""
  if title.isEmpty then none else some s!"Text(\"{title}\").font(.headline)"

/-- A card: a `VStack` around its title and its children. -/
def card : PieceRule := fun capsule _ _ =>
  .ok <| .frame
    { opening := "VStack(alignment: .leading, spacing: 16) \x7b"
      lead := cardTitle? capsule
      step := 1
      closing := stack
        [ "\x7d",
          ".padding()",
          ".background(Color(.systemBackground))",
          ".cornerRadius(12)",
          ".shadow(radius: 4)" ] }

/-- The `ForEach` of a list without children, over `items` or over five numbers. -/
def listRows (capsule : Capsule) : String :=
  match textItems? capsule.props with
  | some items =>
    stack
      [ "ForEach([" ++ quotedItems items ++ "], id: \\.self) \x7b item in",
        line 1 "Text(item)",
        "\x7d" ]
  | none =>
    stack
      [ "ForEach(0..<5, id: \\.self) \x7b index in",
        line 1 "Text(\"Item \\(index + 1)\")",
        "\x7d" ]

/-- A `List` around its children, or around rows of its own. -/
def list : PieceRule := fun capsule _ hasChildren =>
  .ok <| .frame
    { opening := "List \x7b"
      lead := if hasChildren then none else some (listRows capsule)
      step := 1
      closing := stack ["\x7d", ".listStyle(.plain)"] }

/-- A `ProgressView`, linear or circular. -/
def progress : PieceRule := fun capsule _ _ => do
  let value := fractionNumeral (← fraction capsule.props "value" defaultPercent)
  let style :=
    if textProp capsule.props ["variant"] "" = "circular" then ".circular" else ".linear"
  return .solid <| stack
    [ s!"ProgressView(value: {value})",
      line 1 s!".progressViewStyle({style})" ]

/-- A `Toggle`. -/
def switch : PieceRule := fun capsule _ _ =>
  let label := textProp capsule.props ["label"] ""
  let checked := if boolProp capsule.props "checked" false then "true" else "false"
  .ok <| .solid s!"Toggle(\"{label}\", isOn: .constant({checked}))"

/-- A `Chart` without data. -/
def chart : PieceRule := fun _ _ _ =>
  .ok <| .solid <| stack
    [ "// Chart - requires iOS 16+ and Charts framework",
      "Chart \x7b",
      line 1 "// Add chart data",
      "\x7d",
      ".frame(height: 200)" ]

/-- A `TextField` with a magnifying glass laid over it. -/
def searchbar : PieceRule := fun capsule _ _ =>
  let hint := textProp capsule.props ["placeholder"] "Search..."
  .ok <| .solid <| stack
    [ s!"TextField(\"{hint}\", text: .constant(\"\"))",
      line 1 ".textFieldStyle(.roundedBorder)",
      line 1 ".overlay(",
      line 2 "HStack \x7b",
      line 3 "Image(systemName: \"magnifyingglass\")",
      line 4 ".foregroundColor(.gray)",
      line 4 ".padding(.leading, 8)",
      line 3 "Spacer()",
      line 2 "\x7d",
      line 1 ")" ]

/-- A `Slider`, whose value is a fraction. -/
def slider : PieceRule := fun capsule _ _ => do
  let lowest := numeral (← numberProp capsule.props "min" (.int 0))
  let highest := numeral (← numberProp capsule.props "max" (.int 100))
  let value := fractionNumeral (← fraction capsule.props "value" defaultPercent)
  return .solid s!"Slider(value: .constant({value}), in: {lowest}...{highest})"

/-- A `Divider`. -/
def divider : PieceRule := fun _ _ _ => .ok (.solid "Divider()")

/-- An `AsyncImage`, with a `ProgressView` in its place while it is loaded. -/
def image : PieceRule := fun capsule _ _ =>
  let source := textProp capsule.props ["src", "url"] ""
  .ok <| .solid <| stack
    [ s!"AsyncImage(url: URL(string: \"{source}\")) \x7b image in",
      line 1 "image.resizable().scaledToFit()",
      "\x7d placeholder: \x7b",
      line 1 "ProgressView()",
      "\x7d" ]

/-- The comment and the `Text` for a kind without a rule and without children. -/
def placeholder (kind : String) : String := stack [s!"// TODO: {kind}", s!"Text(\"{kind}\")"]

/-- The `VStack` for a kind without a rule but with children. -/
def container : Frame := ⟨"VStack(spacing: 16) \x7b", none, 1, "\x7d"⟩

/-- The fragments for iOS. -/
def backend : Backend where
  unit := unit
  separator := "\n"
  empty := "EmptyView()"
  placeholder := placeholder
  container := container
  rules :=
    [ ("button", button), ("text", text), ("input", input), ("card", card), ("list", list),
      ("progress", progress), ("switch", switch), ("chart", chart), ("searchbar", searchbar),
      ("slider", slider), ("divider", divider), ("image", image) ]

/-! ### Files -/

variable {κ : Type}

/-- A file in Swift. -/
def file (path content : String) : SourceFile := ⟨path, "swift", content⟩

/-- The name of the `View` of a screen. -/
def viewName (id? : Option String) : String := typeName id? "View" "Home"

/-- The file `<App>App.swift`, with the entry point of the app. -/
def appFile (project : Project κ) : SourceFile :=
  let app := appIdentifier project.name
  file s!"{app}App.swift" <| stack
    [ "import SwiftUI",
      "",
      "@main",
      s!"struct {app}App: App \x7b",
      line 1 "var body: some Scene \x7b",
      line 2 "WindowGroup \x7b",
      line 3 "ContentView()",
      line 2 "\x7d",
      line 1 "\x7d",
      "\x7d",
      "" ]

/-- The entry of a screen in the `TabView`. -/
def tab (screen : Screen κ) : String :=
  let title := screen.title
  stack
    [ viewName (some screen.id) ++ "()",
      line 1 ".tabItem \x7b",
      line 2 s!"Label(\"{title}\", systemImage: \"star\")",
      line 1 "\x7d" ]

/-- The body of `ContentView`: a `TabView` of all screens, or a `NavigationStack` over the initial
one. -/
def contentBody (project : Project κ) : String :=
  if project.usesTabs then
    stack ["TabView \x7b", Text.indent unit 1 (stack (project.screens.map tab)), "\x7d"]
  else
    stack ["NavigationStack \x7b", line 1 (viewName project.initialScreenId? ++ "()"), "\x7d"]

/-- The file `ContentView.swift`. -/
def contentFile (project : Project κ) : SourceFile :=
  file "ContentView.swift" <| stack
    [ "import SwiftUI",
      "",
      "struct ContentView: View \x7b",
      line 1 "var body: some View \x7b",
      Text.indent unit 2 (contentBody project),
      line 1 "\x7d",
      "\x7d",
      "",
      "#Preview \x7b",
      line 1 "ContentView()",
      "\x7d",
      "" ]

/-- The file `<Screen>View.swift`, with a preview of the screen. -/
def screenFile (screen : Screen κ) (fragment : String) : SourceFile :=
  let view := viewName (some screen.id)
  let title := screen.title
  file s!"{view}.swift" <| stack
    [ "import SwiftUI",
      "",
      s!"struct {view}: View \x7b",
      line 1 "var body: some View \x7b",
      Text.indent unit 2 fragment,
      line 3 s!".navigationTitle(\"{title}\")",
      line 1 "\x7d",
      "\x7d",
      "",
      "#Preview \x7b",
      line 1 "NavigationStack \x7b",
      line 2 s!"{view}()",
      line 1 "\x7d",
      "\x7d",
      "" ]

/-- The files for iOS: the app, `ContentView.swift`, and the views of the screens. -/
def blueprint : Blueprint κ where
  backend := backend
  opening project := [appFile project, contentFile project]
  screenFile _ := screenFile
  closing _ := []

end CapsuleLoom.Ios
