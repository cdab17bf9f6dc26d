import CapsuleLoom.Capsule.Props
import CapsuleLoom.Platform.Basic

/-!
# Sources for browsers and desktops

Components for React with the utility classes of Tailwind.  `App.tsx` starts the app and holds a tab
bar for all pages or the initial page, each screen has a page `pages/<screen-id>.tsx` of its own,
and `tailwind.config.js` holds the colours of the theme.

## Main definitions

* `Web.backend` : the translators of the kinds.
* `Web.blueprint` : the files.

## References

* HubLab API specification, §4.1 (fragment translators), column web; §4.2 (screen and file
  assembler), web/desktop.
-/

namespace CapsuleLoom.Web

/-- One step of indentation. -/
def unit : String := "  "

/-- A line moved in by some levels. -/
def line (levels : Nat) (text : String) : String := inset unit levels text

/-- A value between braces twice, which is an object as an attribute. -/
def styleBraces (text : String) : String := braced (braced s!" {text} ")

/-! ### Pieces -/

/-- The classes of buttons by variant. -/
def buttonClasses : List (String × String) :=
  [ ("outline", "px-4 py-2 border border-primary text-primary rounded-lg hover:bg-gray-50"),
    ("ghost", "px-4 py-2 text-primary rounded-lg hover:bg-gray-100"),
    ("secondary", "px-4 py-2 bg-secondary text-white rounded-lg hover:opacity-90") ]

/-- The classes of a button without such a variant. -/
def plainButtonClasses : String := "px-4 py-2 bg-primary text-white rounded-lg hover:opacity-90"

/-- A `<button>` with the classes of its variant. -/
def button : PieceRule := fun capsule _ _ =>
  let classes :=
    (buttonClasses.lookup (textProp capsule.props ["variant"] "")).getD plainButtonClasses
  let action := textProp capsule.props ["onPress"] "action"
  .ok <| .solid <| stack
    [ "<button",
      line 1 ("onClick=" ++ braced ("() => " ++ braced s!" /* {action} */ ")),
      line 1 s!"className=\"{classes}\"",
      ">",
      line 1 (textProp capsule.props ["text"] "Button"),
      "</button>" ]

/-- A `<p>`, or a heading for the variants `heading` and `subheading`. -/
def text : PieceRule := fun capsule _ _ =>
  let content := textProp capsule.props ["content", "text"] ""
  .ok <| .solid <|
    match textProp capsule.props ["variant"] "" with
    | "heading" => s!"<h2 className=\"text-xl font-semibold\">{content}</h2>"
    | "subheading" => s!"<h3 className=\"text-lg font-medium\">{content}</h3>"
    | "caption" => s!"<p className=\"text-sm text-gray-500\">{content}</p>"
    | _ => s!"<p>{content}</p>"

/-- The `<input>` of a field, without its label. -/
def inputField (capsule : Capsule) : String :=
  let kind := textProp capsule.props ["type"] "text"
  let hint := textProp capsule.props ["placeholder"] ""
  stack
    [ "<input",
      line 1 s!"type=\"{kind}\"",
      line 1 s!"placeholder=\"{hint}\"",
      line 1
        "className=\"w-full px-3 py-2 border rounded-lg focus:ring-2 focus:ring-primary\"",
      "/>" ]

/-- An `<input>`, inside a `<label>` if it has one. -/
def input : PieceRule := fun capsule _ _ =>
  let label := textProp capsule.props ["label"] ""
  .ok <| .solid <|
    if label.isEmpty then inputField capsule
    else
      stack
        [ "<label className=\"block space-y-1\">",
          line 1 s!"<span className=\"text-sm font-medium\">{label}</span>",
          Text.indent unit 1 (inputField capsule),
          "</label>" ]

/-- The title of a card, an `<h3>`. -/
def cardTitle? (capsule : Capsule) : Option String :=
  let title := textProp capsule.props ["title"] ""
  if title.isEmpty then none
  else some s!"<h3 className=\"text-lg font-semibold mb-2\">{title}</h3>"

/-- A card: a `<div>` around its title and its children. -/
def card : PieceRule := fun capsule _ _ =>
  .ok <| .frame
    { opening := "<div className=\"bg-white rounded-xl shadow-md p-4\">"
      lead := cardTitle? capsule
      step := 1
      closing := "</div>" }

/-- The rows of a list: `items` with `row` for each, which is named `name` there. -/
def rowsOf (items name row : String) : String :=
  stack
    [ s!"\x7b{items}.map({name} => (",
      line 1 ("<li key=" ++ braced name ++ " className=\"py-3\">" ++ row ++ "</li>"),
      "))\x7d" ]

/-- The `<li>` elements of a list, over `items` or over five numbers. -/
def listRows (capsule : Capsule) : String :=
  match textItems? capsule.props with
  | some items => rowsOf ((Doc.strs items).write .spaced) "item" (braced "item")
  | none => rowsOf "[1, 2, 3, 4, 5]" "i" ("Item " ++ braced "i")

/-- A `<ul>` of rows of its own. -/
def list : PieceRule := fun capsule _ _ =>
  .ok <| .solid <| stack
    ["<ul className=\"divide-y\">", Text.indent unit 1 (listRows capsule), "</ul>"]

/-- A bar whose width is the percentage. -/
def progress : PieceRule := fun capsule _ _ => do
  let width := numeral (← percent capsule.props "value" defaultPercent)
  return .solid <| stack
    [ "<div className=\"w-full bg-gray-200 rounded-full h-2\">",
      line 1 ("<div className=\"bg-primary h-2 rounded-full\" style=" ++
        styleBraces s!"width: '{width}%'" ++ " />"),
      "</div>" ]

/-- A checkbox in a `<label>`. -/
def switch : PieceRule := fun capsule _ _ =>
  let checked := if boolProp capsule.props "checked" false then " defaultChecked" else ""
  let label := textProp capsule.props ["label"] ""
  .ok <| .solid <| stack
    [ "<label className=\"flex items-center gap-2\">",
      line 1 s!"<input type=\"checkbox\" className=\"toggle\"{checked} />",
      line 1 s!"<span>{label}</span>",
      "</label>" ]

/-- An `<input>` of the type `range`. -/
def slider : PieceRule := fun capsule _ _ => do
  let lowest := numeral (← numberProp capsule.props "min" (.int 0))
  let highest := numeral (← numberProp capsule.props "max" (.int 100))
  let value := numeral (← percent capsule.props "value" defaultPercent)
  return .solid <| stack
    [ "<input",
      line 1 "type=\"range\"",
      line 1 ("min=" ++ braced lowest),
      line 1 ("max=" ++ braced highest),
      line 1 ("defaultValue=" ++ braced value),
      line 1 "className=\"w-full accent-primary\"",
      "/>" ]

/-- An `<input>` of the type `search`. -/
def searchbar : PieceRule := fun capsule _ _ =>
  let hint := textProp capsule.props ["placeholder"] "Search..."
  .ok <| .solid <| stack
    [ "<input",
      line 1 "type=\"search\"",
      line 1 s!"placeholder=\"{hint}\"",
      line 1
        "className=\"w-full px-3 py-2 border rounded-full focus:ring-2 focus:ring-primary\"",
      "/>" ]

/-- An `<hr>`. -/
def divider : PieceRule := fun _ _ _ =>
  .ok (.solid "<hr className=\"my-4 border-gray-200\" />")

/-- An `<img>`. -/
def image : PieceRule := fun capsule _ _ =>
  let source := textProp capsule.props ["src", "url"] ""
  let description := textProp capsule.props ["alt"] ""
  .ok <| .solid <|
    s!"<img src=\"{source}\" alt=\"{description}\" className=\"w-full rounded-lg\" />"

/-- The number of a document that is one. -/
def number? : Doc → Option Number
  | .num n => some n
  | _ => none

/-- The data of a chart that has none. -/
def sampleData : List Number := [.int 40, .int 65, .int 30, .int 80, .int 55]

/-- The data of a chart: a list of numbers that is not empty. -/
def chartData (props : Fields) : List Number :=
  match props.get "data" with
  | .arr [] => sampleData
  | .arr items => (items.mapM number?).getD sampleData
  | _ => sampleData

/-- The number that a whole bar stands for: the greatest, or one if that is zero. -/
def chartTop : List Number → Number
  | [] => .int 1
  | first :: rest =>
    let top := rest.foldl Number.max first
    if top.isZero then .int 1 else top

/-- The height of a bar in percent, to one decimal place. -/
def barHeight (top value : Number) : Except Overflow String :=
  if (Number.int 0).lt value then do
    let share ← value.divide top
    return numeral (.double ((share.mul (Double.ofInt 100)).roundTo 1))
  else .ok "0"

/-- A `<div>` with a bar for each number of its data. -/
def chart : PieceRule := fun capsule theme _ => do
  let data := chartData capsule.props
  let heights := ", ".intercalate (← data.mapM (barHeight (chartTop data)))
  let color := theme.color .primary
  return .solid <| stack
    [ "<div className=\"flex items-end gap-2 h-48\">",
      line 1 s!"\x7b[{heights}].map((h, i) => (",
      line 2 ("<div key=" ++ braced "i" ++ " className=\"flex-1 rounded-t\" style=" ++
        styleBraces
          ("height: `$" ++ braced "h" ++ s!"%`, backgroundColor: '{color}'") ++ " />"),
      line 1 "))\x7d",
      "</div>" ]

/-- The `<div>` with a comment for a kind without a rule and without children. -/
def placeholder (kind : String) : String := "<div>" ++ braced s!"/* TODO: {kind} */" ++ "</div>"

/-- The `<div>` for a kind without a rule but with children. -/
def container : Frame := ⟨"<div className=\"space-y-4\">", none, 1, "</div>"⟩

/-- The fragments for browsers. -/
def backend : Backend where
  unit := unit
  separator := "\n"
  empty := "<div />"
  placeholder := placeholder
  container := container
  rules :=
    [ ("button", button), ("text", text), ("input", input), ("card", card), ("list", list),
      ("progress", progress), ("switch", switch), ("slider", slider), ("searchbar", searchbar),
      ("divider", divider), ("image", image), ("chart", chart) ]

/-! ### Files -/

variable {κ : Type}

/-- A file in TypeScript. -/
def file (path content : String) : SourceFile := ⟨path, "typescript", content⟩

/-- The name of the page of a screen. -/
def pageName (id? : Option String) : String := typeName id? "Page" "Home"

/-- The line of `App.tsx` that imports the page of a screen. -/
def importLine (screen : Screen κ) : String :=
  "import " ++ pageName (some screen.id) ++ " from './pages/" ++ screen.id ++ "'"

/-- The entry of a screen in the list of tabs. -/
def tab (screen : Screen κ) : String :=
  let page := pageName (some screen.id)
  let id := screen.id
  let title := screen.title
  braced s!" id: '{id}', label: '{title}', Page: {page} " ++ ","

/-- The text of `App.tsx` with a tab bar for all pages. -/
def tabApp (project : Project κ) : String :=
  let first := project.initialScreenId?.getD ""
  stack
    [ "import React, " ++ braced " useState " ++ " from 'react'",
      stack (project.screens.map importLine),
      "",
      "const tabs = [",
      Text.indent unit 1 (stack (project.screens.map tab)),
      "]",
      "",
      "export default function App() \x7b",
      line 1 s!"const [active, setActive] = useState('{first}')",
      line 1 "const current = tabs.find(t => t.id === active) ?? tabs[0]",
      line 1 "return (",
      line 2 "<div className=\"min-h-screen bg-gray-50 pb-16\">",
      line 3 "<current.Page />",
      line 3 "<nav className=\"fixed bottom-0 inset-x-0 flex border-t bg-white\">",
      line 4 "\x7btabs.map(t => (",
      line 5 "<button",
      line 6 ("key=" ++ braced "t.id"),
      line 6 ("onClick=" ++ braced "() => setActive(t.id)"),
      line 6 ("className=" ++ braced ("`flex-1 py-3 $" ++
        braced "t.id === current.id ? 'text-primary font-semibold' : 'text-gray-500'" ++ "`")),
      line 5 ">",
      line 6 (braced "t.label"),
      line 5 "</button>",
      line 4 "))\x7d",
      line 3 "</nav>",
      line 2 "</div>",
      line 1 ")",
      "\x7d",
      "" ]

/-- The text of `App.tsx` with the initial page alone. -/
def stackApp (project : Project κ) : String :=
  stack
    [ "import React from 'react'",
      stack (project.screens.map importLine),
      "",
      "export default function App() \x7b",
      line 1 "return (",
      line 2 "<div className=\"min-h-screen bg-gray-50\">",
      line 3 ("<" ++ pageName project.initialScreenId? ++ " />"),
      line 2 "</div>",
      line 1 ")",
      "\x7d",
      "" ]

/-- The file `App.tsx`. -/
def appFile (project : Project κ) : SourceFile :=
  file "App.tsx" (if project.usesTabs then tabApp project else stackApp project)

/-- The file `pages/<screen-id>.tsx`. -/
def screenFile (screen : Screen κ) (fragment : String) : SourceFile :=
  let page := pageName (some screen.id)
  let title := screen.title
  file ("pages/" ++ screen.id ++ ".tsx") <| stack
    [ "import React from 'react'",
      "",
      s!"export default function {page}() \x7b",
      line 1 "return (",
      line 2 "<div className=\"container mx-auto p-4\">",
      line 3 s!"<h1 className=\"text-2xl font-bold mb-4\">{title}</h1>",
      Text.indent unit 3 fragment,
      line 2 "</div>",
      line 1 ")",
      "\x7d",
      "" ]

/-- The entry of a colour in `tailwind.config.js`. -/
def colorEntry (name : String) (theme : Theme) (token : ColorToken) : String :=
  let color := theme.color token
  s!"{name}: '{color}',"

/-- The file `tailwind.config.js`. -/
def colorFile (theme : Theme) : SourceFile :=
  ⟨"tailwind.config.js", "javascript", stack
    [ "module.exports = \x7b",
      line 1 ("content: ['./src/**/*." ++ braced "js,ts,jsx,tsx" ++ "'],"),
      line 1 "theme: \x7b",
      line 2 "extend: \x7b",
      line 3 "colors: \x7b",
      line 4 (colorEntry "primary" theme .primary),
      line 4 (colorEntry "secondary" theme .secondary),
      line 4 (colorEntry "background" theme .background),
      line 4 (colorEntry "surface" theme .surface),
      line 4 "foreground: \x7b",
      line 5 (colorEntry "DEFAULT" theme .textPrimary),
      line 5 (colorEntry "muted" theme .textSecondary),
      line 4 "\x7d,",
      line 3 "\x7d",
      line 2 "\x7d",
      line 1 "\x7d,",
      line 1 "plugins: []",
      "\x7d",
      "" ]⟩

/-- The files for browsers and desktops: `App.tsx`, the pages of the screens, and
`tailwind.config.js`. -/
def blueprint : Blueprint κ where
  backend := backend
  opening project := [appFile project]
  screenFile _ := screenFile
  closing project := [colorFile project.theme]

end CapsuleLoom.Web
