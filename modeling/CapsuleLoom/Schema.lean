import CapsuleLoom.Doc.Basic

/-!
# The schema of project documents

The JSON schema that `GET /schema` answers with.

## Main definitions

* `projectSchema` : a document that says what project documents look like.

## References

* HubLab API specification, §6 (external interfaces), `GET /schema`.
-/

namespace CapsuleLoom

/-- The platforms that the schema names. -/
def schemaPlatforms : List String := ["web", "ios", "android", "desktop"]

/-- The kinds of properties that the schema names. -/
def schemaPropTypes : List String :=
  ["string", "number", "boolean", "color", "size", "spacing", "icon", "image", "action", "array",
    "object", "select", "slot"]

/-- The kinds of capsules that the schema names. -/
def schemaCapsules : List String :=
  ["button", "text", "input", "card", "image", "list", "modal", "form", "navigation",
    "auth-screen", "chart", "skeleton", "switch", "slider", "tabs", "accordion", "dropdown",
    "datepicker", "progress", "tooltip", "table", "searchbar", "rating", "stepper", "chip",
    "divider", "calendar", "file-upload", "carousel", "timeline", "bottom-sheet", "popover",
    "color-picker", "rich-text-editor", "signature", "map", "video", "audio", "data-table",
    "kanban", "chat", "qrcode", "scanner", "pdf-viewer", "notifications", "webview",
    "biometrics", "location", "camera", "social-share"]

/-- The pattern of identifiers. -/
def slugPattern : String := "^[a-z][a-z0-9-]*$"

/-- A schema of texts that match a pattern. -/
def patternSchema (pattern : String) : Doc :=
  .obj [("type", .str "string"), ("pattern", .str pattern)]

/-- A schema of one of some texts. -/
def choiceSchema (choices : List String) : Doc := .obj [("enum", .strs choices)]

/-- A schema that stands elsewhere. -/
def schemaLink (name : String) : Doc := .obj [("$ref", .str ("#/definitions/" ++ name))]

/-- A schema of lists. -/
def listSchema (items : Doc) : Doc := .obj [("type", .str "array"), ("items", items)]

/-- A schema of objects. -/
def objectSchema : Doc := .obj [("type", .str "object")]

/-- The schema of a capsule. -/
def capsuleSchema : Doc :=
  .obj
    [ ("type", .str "object"),
      ("required", .strs ["id", "capsuleId", "props"]),
      ("properties", .obj
        [ ("id", patternSchema slugPattern),
          ("capsuleId", .obj [("type", .str "string"), ("enum", .strs schemaCapsules)]),
          ("props", .obj [("type", .str "object"), ("additionalProperties", .bool true)]),
          ("children", listSchema (schemaLink "CapsuleInstance")) ]) ]

/-- A project that follows the schema. -/
def schemaExample : Doc :=
  .obj
    [ ("name", .str "Todo App"),
      ("version", .str "1.0.0"),
      ("targets", .strs ["ios", "android"]),
      ("theme", .obj
        [ ("name", .str "Default"),
          ("colors", .obj
            [ ("primary", .str "#6366F1"),
              ("secondary", .str "#8B5CF6"),
              ("background", .str "#FFFFFF") ]) ]),
      ("screens", .arr
        [ .obj
          [ ("id", .str "home"),
            ("name", .str "Home"),
            ("root", .obj
              [ ("id", .str "card"),
                ("capsuleId", .str "card"),
                ("props", .obj [("title", .str "Tasks")]),
                ("children", .arr []) ]) ] ]) ]

/-- A document that says what project documents look like. -/
def projectSchema : Doc :=
  .obj
    [ ("$schema", .str "http://json-schema.org/draft-07/schema#"),
      ("title", .str "HubLab Project Schema"),
      ("description", .str "Schema for AI-generated multi-platform app projects"),
      ("version", .str "1.0.0"),
      ("definitions", .obj
        [ ("PropType", choiceSchema schemaPropTypes),
          ("Platform", choiceSchema schemaPlatforms),
          ("CapsuleInstance", capsuleSchema) ]),
      ("type", .str "object"),
      ("required", .strs ["name", "version", "targets", "screens", "theme"]),
      ("properties", .obj
        [ ("name", patternSchema "^[A-Za-z][A-Za-z0-9 -]*$"),
          ("version", patternSchema "^\\d+\\.\\d+\\.\\d+$"),
          ("targets", listSchema (schemaLink "Platform")),
          ("screens", listSchema objectSchema),
          ("theme", objectSchema) ]),
      ("examples", .arr [schemaExample]) ]

end CapsuleLoom
