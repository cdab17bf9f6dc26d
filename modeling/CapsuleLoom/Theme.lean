import CapsuleLoom.Doc.Basic
import CapsuleLoom.Text.Quoted

/-!
# Themes

The colours of a project.  Every colour may be left open, and an open colour has a fallback.

## Main definitions

* `Theme`, `ThemeColors`, `TextColors` : the colours that a project chooses.
* `ColorToken` : the colours that generated sources ask for.
* `Theme.color` : the colour of a token.

## References

* HubLab API specification, §3 (data model), Theme with its fallback colours.
-/

namespace CapsuleLoom

/-- The colours of texts. -/
structure TextColors where
  /-- The colour of plain text. -/
  primary : Option String
  /-- The colour of text in the background. -/
  secondary : Option String
  deriving DecidableEq

/-- The colours of a theme. -/
structure ThemeColors where
  /-- The main colour. -/
  primary : Option String
  /-- The second colour. -/
  secondary : Option String
  /-- The colour of the background. -/
  background : Option String
  /-- The colour of raised areas. -/
  surface : Option String
  /-- The colours of texts. -/
  text : Option TextColors
  deriving DecidableEq

/-- A named choice of colours. -/
structure Theme where
  /-- The name of the theme. -/
  name : Option String
  /-- The colours. -/
  colors : ThemeColors
  deriving DecidableEq

/-- The colours with every choice left open. -/
def ThemeColors.open : ThemeColors := ⟨none, none, none, none, none⟩

/-- The theme with every choice left open. -/
def Theme.open : Theme := ⟨none, .open⟩

/-- A colour that generated sources ask for. -/
inductive ColorToken where
  /-- The main colour. -/
  | primary
  /-- The second colour. -/
  | secondary
  /-- The colour of the background. -/
  | background
  /-- The colour of raised areas. -/
  | surface
  /-- The colour of plain text. -/
  | textPrimary
  /-- The colour of text in the background. -/
  | textSecondary
  deriving DecidableEq

namespace ColorToken

/-- All tokens. -/
def all : List ColorToken :=
  [primary, secondary, background, surface, textPrimary, textSecondary]

/-- The name of a token. -/
def name : ColorToken → String
  | primary => "primary"
  | secondary => "secondary"
  | background => "background"
  | surface => "surface"
  | textPrimary => "text.primary"
  | textSecondary => "text.secondary"

/-- The colour of a token that a theme leaves open. -/
def fallback : ColorToken → String
  | primary => "#6366F1"
  | secondary => "#8B5CF6"
  | background => "#FFFFFF"
  | surface => "#F8FAFC"
  | textPrimary => "#1E293B"
  | textSecondary => "#64748B"

/-- The token of a name. -/
def ofName? (name : String) : Option ColorToken := all.find? fun token => token.name == name

end ColorToken

/-- The choice of a theme for a token. -/
def ThemeColors.choice (colors : ThemeColors) : ColorToken → Option String
  | .primary => colors.primary
  | .secondary => colors.secondary
  | .background => colors.background
  | .surface => colors.surface
  | .textPrimary => colors.text.bind (·.primary)
  | .textSecondary => colors.text.bind (·.secondary)

/-- The colour of a token: the choice of the theme, unless it is left open or empty. -/
def Theme.color (theme : Theme) (token : ColorToken) : String :=
  match theme.colors.choice token with
  | some color => if color.isEmpty then token.fallback else color
  | none => token.fallback

end CapsuleLoom
