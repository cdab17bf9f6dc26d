import CapsuleLoom.Project.Basic

/-!
# Documents of projects

A project as a document, in which every field is there.

## Main definitions

* `Tree.toDoc`, `Project.toDoc` : the documents of a tree of capsules and of a project.

## References

* HubLab API specification, §3 (data model), wire format.
-/

namespace CapsuleLoom

/-- The document of a value that may be absent. -/
def docOf? {α : Type} (doc : α → Doc) : Option α → Doc
  | none => .null
  | some value => doc value

/-- The document of a capsule, given the documents of its children. -/
def Capsule.toDoc (capsule : Capsule) (children : List Doc) : Doc :=
  .obj [("id", .str capsule.id), ("capsuleId", .str capsule.kind), ("props", .obj capsule.props),
    ("children", .arr children)]

/-- The document of a tree of capsules. -/
def Tree.toDoc (tree : Tree Capsule) : Doc := tree.fold Capsule.toDoc

/-- The document of a screen. -/
def Screen.toDoc (screen : Screen) : Doc :=
  .obj [("id", .str screen.id), ("name", .str screen.name), ("root", docOf? Tree.toDoc screen.root)]

/-- The document of the colours of texts. -/
def TextColors.toDoc (colors : TextColors) : Doc :=
  .obj [("primary", .ofText? colors.primary), ("secondary", .ofText? colors.secondary)]

/-- The document of the colours of a theme. -/
def ThemeColors.toDoc (colors : ThemeColors) : Doc :=
  .obj [("primary", .ofText? colors.primary), ("secondary", .ofText? colors.secondary),
    ("background", .ofText? colors.background), ("surface", .ofText? colors.surface),
    ("text", docOf? TextColors.toDoc colors.text)]

/-- The document of a theme. -/
def Theme.toDoc (theme : Theme) : Doc :=
  .obj [("name", .ofText? theme.name), ("colors", theme.colors.toDoc)]

/-- The object `navigation`. -/
def Navigation.toDoc (navigation : Navigation) : Doc :=
  .obj [("type", .str navigation.style.name), ("initialScreen", .ofText? navigation.initialScreen)]

/-- The object `platformConfig.android`. -/
def AndroidConfig.toDoc (config : AndroidConfig) : Doc :=
  .obj (("packageName", .ofText? config.packageName) :: config.extras)

/-- The object `platformConfig.ios`. -/
def IosConfig.toDoc (config : IosConfig) : Doc :=
  .obj (("bundleId", .ofText? config.bundleId) :: config.extras)

/-- The object `platformConfig`. -/
def PlatformConfig.toDoc (config : PlatformConfig) : Doc :=
  .obj (("android", docOf? AndroidConfig.toDoc config.android) ::
    ("ios", docOf? IosConfig.toDoc config.ios) :: config.extras)

/-- The document of a project. -/
def Project.toDoc (project : Project) : Doc :=
  .obj [("name", .str project.name), ("version", .str project.version),
    ("description", .ofText? project.description), ("targets", .strs project.targets),
    ("screens", .arr (project.screens.map Screen.toDoc)), ("theme", project.theme.toDoc),
    ("navigation", docOf? Navigation.toDoc project.navigation),
    ("platformConfig", docOf? PlatformConfig.toDoc project.platformConfig)]

end CapsuleLoom
