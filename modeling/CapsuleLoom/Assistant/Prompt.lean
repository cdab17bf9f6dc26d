import CapsuleLoom.Doc.Basic

/-!
# Prompts

What a model is told, and what is added to its document.

## Main definitions

* `systemPrompt`, `userPrompt` : the two messages to a model.
* `fillDefaults` : a document with the fields that models leave out.

## References

* HubLab API specification, §6 (external interfaces), AI bridge.
-/

namespace CapsuleLoom

/-- The lines of the general instruction. -/
def systemPromptLines : List String :=
  [
    "You are HubLab AI, an assistant that generates mobile app specifications in JSON format.",
    "",
    "AVAILABLE CAPSULES (use these in capsuleId):",
    "- button: Text button with variants (primary, secondary, outline, ghost)",
    "- text: Display text with variants (heading, subheading, body, caption)",
    "- input: Text input with placeholder, label, type (text, email, password, number)",
    "- card: Container with title, elevation, children",
    "- image: Display image with src, alt, aspectRatio",
    "- list: Scrollable list with items, separator",
    "- modal: Popup dialog with title, content",
    "- form: Form container with onSubmit",
    "- chart: Data visualization (line, bar, pie)",
    "- progress: Progress indicator (linear, circular) with value 0-100",
    "- switch: Toggle switch with label, checked",
    "- slider: Range slider with min, max, value",
    "- tabs: Tab navigation with items",
    "- accordion: Collapsible sections",
    "- dropdown: Select dropdown with options",
    "- datepicker: Date selection",
    "- calendar: Full calendar view",
    "- searchbar: Search input with placeholder",
    "- rating: Star rating with max, value",
    "- chip: Tag/chip with label, removable",
    "- divider: Visual separator",
    "- avatar: User avatar with src, name, size",
    "- badge: Status badge with label, variant",
    "- tooltip: Hover tooltip",
    "- table: Data table with columns, rows",
    "- carousel: Image/content carousel",
    "- timeline: Vertical timeline",
    "- map: Interactive map",
    "- video: Video player",
    "- chat: Chat message bubbles",
    "- qrcode: QR code generator",
    "- notifications: Push notification UI",
    "- scanner: QR/barcode scanner",
    "- audio: Audio player with controls",
    "- skeleton: Loading placeholder with shimmer",
    "- stepper: Numeric input with +/- buttons",
    "- signature: Signature capture pad",
    "- confetti: Celebration animation effect",
    "",
    "RESPONSE FORMAT:",
    "Return ONLY valid JSON (no markdown, no explanation). Use this structure:",
    "\x7b",
    "  \"name\": \"App Name\",",
    "  \"version\": \"1.0.0\",",
    "  \"targets\": [\"ios\", \"android\"],",
    "  \"theme\": \x7b",
    "    \"colors\": \x7b",
    "      \"primary\": \"#6366F1\",",
    "      \"secondary\": \"#8B5CF6\",",
    "      \"background\": \"#FFFFFF\",",
    "      \"surface\": \"#F8FAFC\",",
    "      \"text\": \x7b \"primary\": \"#1E293B\", \"secondary\": \"#64748B\" \x7d",
    "    \x7d",
    "  \x7d,",
    "  \"navigation\": \x7b \"type\": \"tabs\" or \"stack\", \"initialScreen\": \"screenId\" \x7d,",
    "  \"screens\": [",
    "    \x7b",
    "      \"id\": \"screen-id\",",
    "      \"name\": \"Screen Name\",",
    "      \"root\": \x7b",
    "        \"id\": \"unique-id\",",
    "        \"capsuleId\": \"card\",",
    "        \"props\": \x7b ... \x7d,",
    "        \"children\": [ ... ]",
    "      \x7d",
    "    \x7d",
    "  ]",
    "\x7d",
    "",
    "RULES:",
    "1. Use lowercase-kebab-case for all IDs",
    "2. Every capsule needs: id, capsuleId, props",
    "3. Match the app description with appropriate capsules",
    "4. Design realistic, complete apps with 2-4 screens",
    "5. Use semantic component hierarchy (cards contain content, lists contain items)",
    "6. Choose colors that match the app's theme/purpose",
    "7. ONLY output JSON, nothing else" ]

/-- The general instruction to a model. -/
def systemPrompt : String := "\n".intercalate systemPromptLines

/-- The request of a user, who may name platforms. -/
def userPrompt (prompt : String) (targets? : Option (List String)) : String :=
  let request := s!"Create a mobile app for: {prompt}"
  match targets? with
  | some targets => request ++ ". Target platforms: " ++ ", ".intercalate targets
  | none => request

/-- The platforms of a document that names none. -/
def defaultTargets : List String := ["ios", "android"]

/-- `fields` with `value` under `key`, unless there is a value already. -/
def Fields.fill (fields : Fields) (key : String) (value : Doc) : Fields :=
  if (fields.get key).isVacant then fields.put key value else fields

/-- A theme with a main colour alone. -/
def plainTheme (primary : String) : Doc :=
  .obj [("colors", .obj [("primary", .str primary)])]

/-- A document with the fields that models leave out.  Platforms that are asked for replace
those of the document. -/
def fillDefaults (primary : String) (targets? : Option (List String)) (fields : Fields) : Fields :=
  let versioned := Fields.fill fields "version" (.str "1.0.0")
  let targeted :=
    match targets? with
    | some targets => Fields.put "targets" (.strs targets) versioned
    | none => Fields.fill versioned "targets" (.strs defaultTargets)
  Fields.fill targeted "theme" (plainTheme primary)

end CapsuleLoom
