import CapsuleLoom.Platform
import CapsuleLoom.Proofs.Project.Texts
import CapsuleLoom.Proofs.Slug

/-!
# Legal names

The names that sources take from the name of a project and from the identifiers of its screens are
meant to be identifiers of the languages of all platforms.  A space in the name of a project is left
out, but a hyphen is kept, in the name of a project as well as in the identifier of a screen.  So
the names are legal exactly if there are no hyphens.

## Main definitions

* `isIdentifier` : what is a name in the languages of all platforms.
* `isProjectName` : what a project may be called.
* `Platform.sourceNames` : the names that sources take from a project.

## Main results

* `isIdentifier_capitalize_iff` : a text with a capital letter in front, and a suffix behind.
* `Platform.isIdentifier_sourceNames_iff` : the legal names of a project.
-/

namespace CapsuleLoom

/-! ### Identifiers -/

/-- A character of an identifier behind the first one. -/
def isIdentifierChar (c : Char) : Bool := c.isAlphanum || c == '_'

/-- A letter or underscore, and behind it letters, digits and underscores. -/
def isIdentifier (name : String) : Bool :=
  match name.toList with
  | [] => false
  | first :: rest => (first.isAlpha || first == '_') && rest.all isIdentifierChar

/-- All characters of an identifier may stand behind the first one. -/
theorem isIdentifierChar_of_mem {name : String} (hname : isIdentifier name = true) {c : Char}
    (hc : c ∈ name.toList) : isIdentifierChar c = true := by
  unfold isIdentifier at hname
  split at hname
  · rename_i hnil
    rw [hnil] at hc
    cases hc
  · rename_i first rest hcons
    rw [hcons, List.mem_cons] at hc
    rw [Bool.and_eq_true, List.all_eq_true] at hname
    rcases hc with rfl | hc
    · unfold isIdentifierChar
      rcases Bool.or_eq_true_iff.mp hname.1 with halpha | hunderscore
      · rw [isAlphanum_of_isAlpha halpha, Bool.true_or]
      · rw [hunderscore, Bool.or_true]
    · exact hname.2 c hc

/-- A character of the name of a project behind the first one. -/
def isNameChar (c : Char) : Bool := c.isAlphanum || c == ' ' || c == '-'

/-- A letter, and behind it letters, digits, spaces and hyphens. -/
def isProjectName (name : String) : Bool :=
  match name.toList with
  | [] => false
  | first :: rest => first.isAlpha && rest.all isNameChar

/-- The capital form of a letter is one letter. -/
theorem exists_upperChar_of_isAlpha {c : Char} (hc : c.isAlpha = true) :
    ∃ capital, Text.upperChar c = [capital] ∧ capital.isAlpha = true := by
  have hcode : c.toNat < 128 := toNat_lt_of_isAlphanum (isAlphanum_of_isAlpha hc)
  obtain ⟨hone, hletters⟩ := forall_basicChar
    (P := fun c => c.isAlpha = true →
      (Text.upperChar c).length = 1 ∧ ∀ d ∈ Text.upperChar c, d.isAlpha = true)
    (by decide +kernel) hcode hc
  obtain ⟨capital, hcapital⟩ := List.length_eq_one_iff.mp hone
  exact ⟨capital, hcapital, hletters capital (hcapital ▸ List.mem_singleton_self capital)⟩

/-- A text that begins with a letter is legal behind its capital letter, with a suffix of letters,
exactly if none of its characters is a hyphen. -/
theorem isIdentifier_capitalize_iff {first : Char} {rest : List Char} {suffix : String}
    (hfirst : first.isAlpha = true) (hrest : ∀ c ∈ rest, c.isAlphanum = true ∨ c = '-')
    (hsuffix : suffix.toList.all isIdentifierChar = true) :
    isIdentifier (String.ofList (Text.capitalizeChars (first :: rest)) ++ suffix) = true ↔
      '-' ∉ first :: rest := by
  obtain ⟨capital, hcapital, hletter⟩ := exists_upperChar_of_isAlpha hfirst
  have hhyphen : first ≠ '-' := by
    rintro rfl
    cases hfirst
  have htext : (String.ofList (Text.capitalizeChars (first :: rest)) ++ suffix).toList =
      capital :: (rest ++ suffix.toList) := by
    rw [String.toList_append, String.toList_ofList, Text.capitalizeChars, hcapital]
    rfl
  have hlegal : ∀ c ∈ rest, isIdentifierChar c = true ↔ c ≠ '-' := by
    intro c hc
    rcases hrest c hc with hword | rfl
    · refine iff_of_true (by rw [isIdentifierChar, hword, Bool.true_or]) ?_
      rintro rfl
      cases hword
    · decide
  rw [isIdentifier, htext]
  dsimp only
  rw [hletter, Bool.true_or, Bool.true_and, List.all_append, hsuffix, Bool.and_true,
    List.all_eq_true, List.mem_cons, not_or]
  constructor
  · exact fun hall => ⟨hhyphen.symm, fun hmem => (hlegal '-' hmem).mp (hall '-' hmem) rfl⟩
  · rintro ⟨-, hnone⟩ c hc
    exact (hlegal c hc).mpr fun hc' => hnone (hc' ▸ hc)

/-- A space is the only white space in the name of a project. -/
theorem isBlank_iff_of_isNameChar {c : Char} (hc : isNameChar c = true) :
    Text.isBlank c = true ↔ c = ' ' := by
  have hcode : c.toNat < 128 := by
    simp only [isNameChar, Bool.or_eq_true, beq_iff_eq] at hc
    rcases hc with (hword | rfl) | rfl
    · exact toNat_lt_of_isAlphanum hword
    · decide
    · decide
  exact forall_basicChar (P := fun c => isNameChar c = true → (Text.isBlank c = true ↔ c = ' '))
    (by decide +kernel) hcode hc

/-- White space in the name of a project is left out, and hyphens are kept. -/
theorem isIdentifier_appIdentifier_iff {name suffix : String} (hname : isProjectName name = true)
    (hsuffix : suffix.toList.all isIdentifierChar = true) :
    isIdentifier (appIdentifier name ++ suffix) = true ↔ '-' ∉ name.toList := by
  unfold isProjectName at hname
  split at hname
  · cases hname
  · rename_i first rest hsplit
    rw [Bool.and_eq_true, List.all_eq_true] at hname
    obtain ⟨hfirst, hrest⟩ := hname
    have hshown : (!Text.isBlank first) = true := by
      rw [Bool.not_eq_true', Bool.eq_false_iff, Ne,
        isBlank_iff_of_isNameChar (by simp [isNameChar, isAlphanum_of_isAlpha hfirst])]
      rintro rfl
      cases hfirst
    have hkept : ∀ c ∈ rest.filter (fun c => !Text.isBlank c), c.isAlphanum = true ∨ c = '-' := by
      intro c hc
      obtain ⟨hmem, hblank⟩ := List.mem_filter.mp hc
      have hspace : c ≠ ' ' := by
        rwa [Bool.not_eq_true', Bool.eq_false_iff, Ne, isBlank_iff_of_isNameChar (hrest c hmem)]
          at hblank
      have hchar := hrest c hmem
      simp only [isNameChar, Bool.or_eq_true, beq_iff_eq, hspace, or_false] at hchar
      exact hchar
    have hhyphen : (!Text.isBlank '-') = true := by decide +kernel
    rw [appIdentifier, hsplit, List.filter_cons, if_pos hshown,
      isIdentifier_capitalize_iff hfirst hkept hsuffix, List.mem_cons, List.mem_cons,
      List.mem_filter, and_iff_left hhyphen]

/-- The identifier of a screen keeps its hyphens. -/
theorem isIdentifier_typeName_iff {id suffix : String} (hid : isSlug id = true)
    (hsuffix : suffix.toList.all isIdentifierChar = true) (default : String) :
    isIdentifier (typeName (some id) suffix default) = true ↔ '-' ∉ id.toList := by
  obtain ⟨first, rest, hsplit, hfirst, hrest⟩ := exists_of_isSlug hid
  rw [typeName_of_isSlug hid, Text.capitalize, hsplit]
  refine isIdentifier_capitalize_iff (isAlpha_of_isLower hfirst) ?_ hsuffix
  intro c hc
  have hslug := hrest c hc
  simp only [isSlugChar, Bool.or_eq_true, decide_eq_true_eq] at hslug
  rcases hslug with (hlower | hdigit) | hhyphen
  · exact .inl (isAlphanum_of_isAlpha (isAlpha_of_isLower hlower))
  · exact .inl (isAlphanum_of_isDigit hdigit)
  · exact .inr hhyphen

/-! ### Names of a project -/

/-- The names of types, functions and components that sources take from the name of a project and
from its screens. -/
def Platform.sourceNames (project : Project) : Platform → List String
  | ios =>
    [appIdentifier project.name ++ "App", Ios.viewName project.initialScreenId?] ++
      project.screens.map fun screen => Ios.viewName (some screen.id)
  | android =>
    [appIdentifier project.name ++ "Theme", typeName project.initialScreenId? "Screen" "Main"] ++
      project.screens.map fun screen => Android.screenName screen.id
  | web | desktop =>
    Web.pageName project.initialScreenId? ::
      project.screens.map fun screen => Web.pageName (some screen.id)

/-- The names of all screens are legal exactly if no identifier has a hyphen.  The screen that the
app starts with is one of them, and without screens the default stands for it. -/
theorem isIdentifier_screens_iff {project : Project}
    (hids : ∀ screen ∈ project.screens, isSlug screen.id = true) {suffix default : String}
    (hsuffix : suffix.toList.all isIdentifierChar = true)
    (hdefault : isIdentifier (typeName none suffix default) = true) (other : String) :
    (isIdentifier (typeName project.initialScreenId? suffix default) = true ∧
      ∀ screen ∈ project.screens,
        isIdentifier (typeName (some screen.id) suffix other) = true) ↔
      ∀ screen ∈ project.screens, '-' ∉ screen.id.toList := by
  constructor
  · intro hlegal screen hscreen
    exact (isIdentifier_typeName_iff (hids screen hscreen) hsuffix other).mp
      (hlegal.2 screen hscreen)
  · intro hnone
    have hlegal (default : String) (screen : Screen) (hscreen : screen ∈ project.screens) :
        isIdentifier (typeName (some screen.id) suffix default) = true :=
      (isIdentifier_typeName_iff (hids screen hscreen) hsuffix default).mpr (hnone screen hscreen)
    refine ⟨?_, hlegal other⟩
    rw [Project.initialScreenId?]
    cases hinitial : project.initialScreen? with
    | none => exact hdefault
    | some screen => exact hlegal default screen (mem_screens_of_initialScreen? hinitial)

/-- Given a project whose name and identifiers follow their patterns, the name of the app is legal
exactly if the name of the project has no hyphen, and the name of a screen exactly if its identifier
has none.  So all names of a platform are legal exactly if there are no hyphens where it looks. -/
theorem Platform.isIdentifier_sourceNames_iff (project : Project)
    (hname : isProjectName project.name = true)
    (hids : ∀ screen ∈ project.screens, isSlug screen.id = true) :
    (∀ suffix ∈ ["App", "Theme"],
      (isIdentifier (appIdentifier project.name ++ suffix) = true ↔
        '-' ∉ project.name.toList)) ∧
    (∀ screen ∈ project.screens, ∀ suffix ∈ ["View", "Screen", "Page"], ∀ default : String,
      (isIdentifier (typeName (some screen.id) suffix default) = true ↔
        '-' ∉ screen.id.toList)) ∧
    ∀ platform : Platform,
      (∀ name ∈ platform.sourceNames project, isIdentifier name = true) ↔
        (platform.generator ≠ web → '-' ∉ project.name.toList) ∧
        ∀ screen ∈ project.screens, '-' ∉ screen.id.toList := by
  have happSuffixes : ∀ suffix ∈ ["App", "Theme"],
      suffix.toList.all isIdentifierChar = true := by
    decide
  have hscreenSuffixes : ∀ suffix ∈ ["View", "Screen", "Page"],
      suffix.toList.all isIdentifierChar = true := by
    decide
  have happ (suffix : String) (hsuffix : suffix ∈ ["App", "Theme"]) :
      isIdentifier (appIdentifier project.name ++ suffix) = true ↔ '-' ∉ project.name.toList :=
    isIdentifier_appIdentifier_iff hname (happSuffixes suffix hsuffix)
  have hscreens (suffix default : String) (hsuffix : suffix ∈ ["View", "Screen", "Page"])
      (hdefault : isIdentifier (typeName none suffix default) = true) :=
    isIdentifier_screens_iff hids (hscreenSuffixes suffix hsuffix) hdefault "Home"
  refine ⟨happ, ?_, ?_⟩
  · intro screen hscreen suffix hsuffix default
    exact isIdentifier_typeName_iff (hids screen hscreen) (hscreenSuffixes suffix hsuffix) default
  · intro platform
    cases platform with
    | ios =>
      rw [sourceNames, List.forall_mem_append, List.forall_mem_cons, List.forall_mem_singleton,
        List.forall_mem_map, and_assoc, happ "App" (by decide)]
      exact and_congr (imp_iff_right (by decide : ios.generator ≠ web)).symm
        (hscreens "View" "Home" (by decide) (by decide +kernel))
    | android =>
      rw [sourceNames, List.forall_mem_append, List.forall_mem_cons, List.forall_mem_singleton,
        List.forall_mem_map, and_assoc, happ "Theme" (by decide)]
      exact and_congr (imp_iff_right (by decide : android.generator ≠ web)).symm
        (hscreens "Screen" "Main" (by decide) (by decide +kernel))
    | web | desktop =>
      have hpages := hscreens "Page" "Home" (by decide) (by decide +kernel)
      rw [sourceNames, List.forall_mem_cons, List.forall_mem_map]
      exact ⟨fun hlegal => ⟨fun hother => absurd rfl hother, hpages.mp hlegal⟩,
        fun hnone => hpages.mpr hnone.2⟩

/-- A project of two words with one screen of two words. -/
def hyphenProject : Project where
  name := "My App"
  version := "1.0.0"
  description := none
  targets := []
  screens := [⟨"user-profile", "", none⟩]
  theme := .open
  navigation := none
  platformConfig := none

/-- The hyphen makes the name of the screen illegal on every platform, and the space does no harm
to the name of the app. -/
theorem Platform.isIdentifier_sourceNames_iff_hyphenProject :
    isIdentifier (appIdentifier "My App" ++ "App") = true ∧
    typeName (some "user-profile") "View" "Home" = "User-profileView" ∧
    isIdentifier (typeName (some "user-profile") "View" "Home") = false ∧
    ∀ platform : Platform,
      ¬ ∀ name ∈ platform.sourceNames hyphenProject, isIdentifier name = true := by
  obtain ⟨happ, hscreens, hall⟩ :=
    Platform.isIdentifier_sourceNames_iff hyphenProject (by decide) (by decide)
  have hscreen := hscreens _ List.mem_cons_self "View" (by decide) "Home"
  refine ⟨(happ "App" (by decide)).mpr (by decide), by decide +kernel, ?_, ?_⟩
  · rw [Bool.eq_false_iff, Ne, hscreen]
    decide
  · intro platform
    rw [hall]
    exact fun hnone => hnone.2 _ List.mem_cons_self (by decide)

end CapsuleLoom
