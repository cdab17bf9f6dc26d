import CapsuleLoom.Fragment
import CapsuleLoom.Naming
import CapsuleLoom.Project.Basic
import CapsuleLoom.Text.Case

/-!
# Platforms

The platforms that sources can be generated for, and what every generator of sources has.

## Main definitions

* `Platform` : the platforms by name.
* `SourceFile` : one generated file.
* `Blueprint` : a backend with the files around its fragments.
* `Blueprint.manifestOver`, `Blueprint.manifest` : all files of a project.

## References

* HubLab API specification, §3 (data model), GeneratedFile; §4.3 (backend selector and
  orchestrator).
-/

namespace CapsuleLoom

/-- A platform that sources can be generated for. -/
inductive Platform where
  /-- Phones and tablets with iOS. -/
  | ios
  /-- Phones and tablets with Android. -/
  | android
  /-- Browsers. -/
  | web
  /-- Desktop computers, which show the same sources as browsers. -/
  | desktop
  deriving DecidableEq

namespace Platform

/-- All platforms, in the order in which they are announced. -/
def all : List Platform := [ios, android, web, desktop]

/-- The name of a platform. -/
def name : Platform → String
  | ios => "ios"
  | android => "android"
  | web => "web"
  | desktop => "desktop"

/-- The platform of a name. -/
def ofName? (name : String) : Option Platform := all.find? fun platform => platform.name == name

/-- The platform that a request asks for: upper case and white space around the name do not
count. -/
def ofRequest? (request : String) : Option Platform := ofName? (Text.lower (Text.strip request))

/-- The platform whose generator serves a platform. -/
def generator : Platform → Platform
  | desktop => web
  | platform => platform

end Platform

/-- The platform that a document asks for, which must be a text for that. -/
def Platform.ofDoc? (request : Doc) : Option Platform := request.text?.bind ofRequest?

/-- The requests that ask for no platform. -/
def unknownRequests (requests : List Doc) : List Doc :=
  requests.filter fun request => (Platform.ofDoc? request).isNone

/-- One generated file. -/
structure SourceFile where
  /-- Where the file belongs. -/
  path : String
  /-- The language of the file. -/
  language : String
  /-- The text of the file. -/
  content : String
  deriving DecidableEq

/-- A backend with the files around its fragments. -/
structure Blueprint (κ : Type := Tree Capsule) where
  /-- The fragments. -/
  backend : Backend
  /-- The files in front of the screens. -/
  opening : Project κ → List SourceFile
  /-- The file of a screen, around its fragment. -/
  screenFile : Project κ → Screen κ → (fragment : String) → SourceFile
  /-- The files behind the screens. -/
  closing : Project κ → List SourceFile

namespace Blueprint

variable {κ : Type}

/-- The file of a screen that shows places of an outline. -/
def screenOver (blueprint : Blueprint κ) (outline : Outline κ) (limits : Limits)
    (project : Project κ) (screen : Screen κ) : Except (WalkError Overflow) SourceFile :=
  (blueprint.backend.renderFrom project.theme limits outline screen.root).map
    (blueprint.screenFile project screen)

/-- All files of a project whose screens show places of an outline. -/
def manifestOver (blueprint : Blueprint κ) (outline : Outline κ) (limits : Limits)
    (project : Project κ) : Except (WalkError Overflow) (List SourceFile) := do
  let screens ← project.screens.mapM (blueprint.screenOver outline limits project)
  return blueprint.opening project ++ screens ++ blueprint.closing project

/-- The file of a screen that shows a tree. -/
def screen (blueprint : Blueprint) (limits : Limits) (project : Project) (screen : Screen) :
    Except (WalkError Overflow) SourceFile :=
  blueprint.screenOver Tree.outline limits project screen

/-- All files of a project whose screens show trees. -/
def manifest (blueprint : Blueprint) (limits : Limits) (project : Project) :
    Except (WalkError Overflow) (List SourceFile) :=
  blueprint.manifestOver Tree.outline limits project

end Blueprint

/-- The texts of the property `items`, if it is a list of texts and not empty. -/
def textItems? (props : Fields) : Option (List String) :=
  match props.get "items" with
  | .arr [] => none
  | .arr items => items.mapM Doc.text?
  | _ => none

/-- Texts in quotation marks with commas between them. -/
def quotedItems (items : List String) : String :=
  ", ".intercalate (items.map fun item => s!"\"{item}\"")

end CapsuleLoom
