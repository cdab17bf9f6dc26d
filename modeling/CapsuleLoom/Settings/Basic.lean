import CapsuleLoom.Capsule.Walk
import CapsuleLoom.Number.Double
import CapsuleLoom.Text.Blank

/-!
# Settings

The settings of the service with their defaults, and the names under which they are set.

## Main definitions

* `Settings` : everything that can be set.
* `Setting` : one of them, by name.
* `Settings.toDoc` : all settings as a document.
* `Settings.assign` : settings with some of them changed.

## References

* HubLab API specification, §9 (ambient stack), configuration.
-/

namespace CapsuleLoom

/-- Everything that can be set. -/
structure Settings where
  /-- The name of the service. -/
  serviceName : String := "HubLab API"
  /-- The version of the service. -/
  version : String := "1.0.0"
  /-- The environment that the service runs in. -/
  environment : String := "dev"
  /-- The host to listen at. -/
  host : String := "0.0.0.0"
  /-- The number to listen at. -/
  listenPort : Int := 3001
  /-- Where the documentation is. -/
  docsUrl : String := "https://hublab.dev/docs"
  /-- The least level of records that are logged. -/
  logLevel : String := "INFO"
  /-- The format of records that are logged. -/
  logFormat : String := "text"
  /-- The key for the model. -/
  apiKey : String := ""
  /-- The address of the model. -/
  baseUrl : String := "https://api.groq.com/openai/v1"
  /-- The name of the model. -/
  model : String := "llama-3.3-70b-versatile"
  /-- How freely the model answers. -/
  temperature : Number := .double (.ofDecimal false 7 (-1))
  /-- How long an answer of the model may be. -/
  maxTokens : Int := 4000
  /-- How long to wait for the model. -/
  timeoutSeconds : Number := .double (.ofInt 60)
  /-- How often the model is asked when it fails. -/
  maxAttempts : Int := 1
  /-- The greatest depth of a tree of capsules. -/
  maxTreeDepth : Int := 64
  /-- The greatest count of capsules of a screen. -/
  maxTreeNodes : Int := 5000
  /-- Whether unknown platforms are refused. -/
  strictTargets : Bool := false
  /-- The Android package of projects that choose none. -/
  defaultAndroidPackage : String := "com.hublab.app"
  /-- The main colour of documents of a model that have no theme. -/
  defaultThemePrimary : String := "#6366F1"
  /-- The origins that may send requests. -/
  corsAllowOrigins : List String := ["*"]
  /-- The methods that such requests may have. -/
  corsAllowMethods : List String := ["*"]
  /-- The headers that such requests may have. -/
  corsAllowHeaders : List String := ["*"]
  /-- How long a request may be, in bytes. -/
  maxBodyBytes : Int := 10485760

namespace Settings

/-- The settings that apply when nothing else is said. -/
def standard : Settings := {}

/-- The limits of trees of capsules. -/
def limits (settings : Settings) : Limits := ⟨settings.maxTreeDepth, settings.maxTreeNodes⟩

/-- Whether there is a key for the model. -/
def modelConfigured (settings : Settings) : Bool := !Text.isBlankText settings.apiKey

end Settings

/-- Bounds of a number. -/
structure Bounds where
  /-- The least number. -/
  least : Option Int
  /-- The greatest number. -/
  greatest : Option Int

/-- No bounds. -/
def Bounds.free : Bounds := ⟨none, none⟩

/-- A part of the settings by the kind of its value. -/
inductive SettingPart where
  /-- A text. -/
  | text (get : Settings → String) (set : Settings → String → Settings)
  /-- An integer. -/
  | int (bounds : Bounds) (get : Settings → Int) (set : Settings → Int → Settings)
  /-- A number. -/
  | number (bounds : Bounds) (get : Settings → Number) (set : Settings → Number → Settings)
  /-- A truth value. -/
  | bool (get : Settings → Bool) (set : Settings → Bool → Settings)
  /-- A list of texts. -/
  | texts (get : Settings → List String) (set : Settings → List String → Settings)

/-- A part of the settings with its name. -/
structure Setting where
  /-- The name. -/
  name : String
  /-- The part. -/
  part : SettingPart

/-- All settings by name, in order. -/
def Setting.all : List Setting :=
  [ ⟨"service_name", .text (·.serviceName) ({ · with serviceName := · })⟩,
    ⟨"version", .text (·.version) ({ · with version := · })⟩,
    ⟨"environment", .text (·.environment) ({ · with environment := · })⟩,
    ⟨"host", .text (·.host) ({ · with host := · })⟩,
    ⟨"port", .int .free (·.listenPort) ({ · with listenPort := · })⟩,
    ⟨"docs_url", .text (·.docsUrl) ({ · with docsUrl := · })⟩,
    ⟨"log_level", .text (·.logLevel) ({ · with logLevel := · })⟩,
    ⟨"log_format", .text (·.logFormat) ({ · with logFormat := · })⟩,
    ⟨"groq_api_key", .text (·.apiKey) ({ · with apiKey := · })⟩,
    ⟨"groq_base_url", .text (·.baseUrl) ({ · with baseUrl := · })⟩,
    ⟨"groq_model", .text (·.model) ({ · with model := · })⟩,
    ⟨"groq_temperature",
      .number ⟨some 0, some 2⟩ (·.temperature) ({ · with temperature := · })⟩,
    ⟨"groq_max_tokens", .int .free (·.maxTokens) ({ · with maxTokens := · })⟩,
    ⟨"groq_timeout_seconds", .number .free (·.timeoutSeconds) ({ · with timeoutSeconds := · })⟩,
    ⟨"groq_max_attempts", .int ⟨some 1, some 5⟩ (·.maxAttempts) ({ · with maxAttempts := · })⟩,
    ⟨"max_tree_depth", .int ⟨some 1, some 256⟩ (·.maxTreeDepth) ({ · with maxTreeDepth := · })⟩,
    ⟨"max_tree_nodes", .int ⟨some 1, none⟩ (·.maxTreeNodes) ({ · with maxTreeNodes := · })⟩,
    ⟨"strict_targets", .bool (·.strictTargets) ({ · with strictTargets := · })⟩,
    ⟨"default_android_package",
      .text (·.defaultAndroidPackage) ({ · with defaultAndroidPackage := · })⟩,
    ⟨"default_theme_primary",
      .text (·.defaultThemePrimary) ({ · with defaultThemePrimary := · })⟩,
    ⟨"cors_allow_origins", .texts (·.corsAllowOrigins) ({ · with corsAllowOrigins := · })⟩,
    ⟨"cors_allow_methods", .texts (·.corsAllowMethods) ({ · with corsAllowMethods := · })⟩,
    ⟨"cors_allow_headers", .texts (·.corsAllowHeaders) ({ · with corsAllowHeaders := · })⟩,
    ⟨"max_body_bytes", .int .free (·.maxBodyBytes) ({ · with maxBodyBytes := · })⟩ ]

/-- The value of a part as a document. -/
def SettingPart.toDoc (settings : Settings) : SettingPart → Doc
  | text get _ => .str (get settings)
  | int _ get _ => .int (get settings)
  | number _ get _ => .num (get settings)
  | bool get _ => .bool (get settings)
  | texts get _ => .strs (get settings)

/-- All settings as a document. -/
def Settings.toDoc (settings : Settings) : Doc :=
  .obj (Setting.all.map fun setting => (setting.name, setting.part.toDoc settings))

/-- Settings with another value of a part; a value of another kind changes nothing. -/
def SettingPart.assign (settings : Settings) : SettingPart → Doc → Settings
  | text _ set, .str value => set settings value
  | int _ _ set, .num (.int value) => set settings value
  | number _ _ set, .num value => set settings value
  | bool _ set, .bool value => set settings value
  | texts _ set, .arr items => set settings (items.filterMap Doc.text?)
  | _, _ => settings

/-- Settings with some of them changed, by name. -/
def Settings.assign (settings : Settings) (fields : Fields) : Settings :=
  fields.foldl
    (fun settings field =>
      match Setting.all.find? fun setting => setting.name == field.1 with
      | some setting => setting.part.assign settings field.2
      | none => settings)
    settings

end CapsuleLoom
