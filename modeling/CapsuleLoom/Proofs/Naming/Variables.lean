import CapsuleLoom.Platform
import CapsuleLoom.Proofs.Platform.Printer
import CapsuleLoom.Proofs.Slug

/-!
# State variables

The state of a capsule on Android is a variable whose name is the identifier of the capsule in
camel case.  A hyphen in front of a small letter is still seen in such a name, as the capital form
of the letter.  A hyphen in front of a digit or of another hyphen, or at the end, is not: these are
idle, and slugs that differ in idle hyphens only share one variable.

## Main definitions

* `camelChars` : a text in camel case.
* `dropIdleHyphens` : a slug without idle hyphens.
* `Android.declaredVariable?` : the variable that a text begins to declare.

## Main results

* `toList_stateName` : the name of a state variable in camel case.
* `expandCapitals_camelChars` : a slug without idle hyphens is read back from its camel case.
* `Android.declaredVariable_eq_iff` : which capsules share a variable.
-/

namespace CapsuleLoom

/-! ### Camel case -/

/-- A text in camel case: what is outside the words is left out, and the word behind it begins with
a capital letter.  So does the text itself if it is `raised`. -/
def camelChars : (raised : Bool) → List Char → List Char
  | _, [] => []
  | raised, c :: rest =>
    if isWordChar c then (if raised then Text.upperChar c else [c]) ++ camelChars false rest
    else camelChars true rest

/-- The pieces of a text put together again, each but the first with a capital letter. -/
def joinPieces : List (List Char) → List Char
  | [] => []
  | piece :: rest => piece ++ rest.flatMap Text.capitalizeChars

/-- Camel case raises the first letter of every piece of a text, and of the first piece only if the
text is raised. -/
theorem camelChars_eq (cs : List Char) :
    camelChars true cs = (cs.foldr prependToWords []).flatMap Text.capitalizeChars ∧
      camelChars false cs = joinPieces (cs.foldr prependToWords []) := by
  induction cs with
  | nil => exact ⟨rfl, rfl⟩
  | cons c cs ih =>
    rw [List.foldr_cons, prependToWords.eq_def]
    generalize cs.foldr prependToWords [] = pieces at ih ⊢
    by_cases hc : isWordChar c = true
    · rw [if_pos hc, camelChars, camelChars, if_pos hc, if_pos hc, ih.2]
      cases pieces with
      | nil => exact ⟨by simp [joinPieces, Text.capitalizeChars], rfl⟩
      | cons piece rest => exact ⟨by simp [joinPieces, Text.capitalizeChars], rfl⟩
    · rw [if_neg hc, camelChars, camelChars, if_neg hc, if_neg hc, ih.1]
      exact ⟨rfl, rfl⟩

/-- Empty pieces are not seen in camel case. -/
theorem flatMap_capitalizeChars_filter (pieces : List (List Char)) :
    (pieces.filter fun piece => !piece.isEmpty).flatMap Text.capitalizeChars =
      pieces.flatMap Text.capitalizeChars := by
  induction pieces with
  | nil => rfl
  | cons piece pieces ih =>
    cases piece with
    | nil => simpa [Text.capitalizeChars] using ih
    | cons c piece => simp [ih]

/-- A hyphen is the only character of a slug outside the words. -/
theorem isWordChar_iff_of_isSlugChar {c : Char} (hc : isSlugChar c = true) :
    isWordChar c = true ↔ c ≠ '-' :=
  forall_slugChar (P := fun c => isWordChar c = true ↔ c ≠ '-') (by decide) hc

/-- A small letter is kept at the beginning of a name, where a digit would not be. -/
theorem lowerChar_of_isLower {c : Char} (hc : c.isLower = true) :
    Text.lowerChar c = [c] ∧ c.isDigit = false :=
  forall_slugChar (P := fun c => c.isLower = true → Text.lowerChar c = [c] ∧ c.isDigit = false)
    (by decide +kernel) (isSlugChar_of_isLower hc) hc

/-- The name of the state variable of a capsule whose identifier is a slug. -/
theorem toList_stateName {id : String} (hid : isSlug id = true) (suffix : String) :
    (stateName id suffix).toList =
      camelChars false id.toList ++ Text.capitalizeChars suffix.toList := by
  obtain ⟨first, rest, hsplit, hfirst, -⟩ := exists_of_isSlug hid
  have hword : isWordChar first = true := isAlphanum_of_isAlpha (isAlpha_of_isLower hfirst)
  obtain ⟨word, pieces, hpieces⟩ :
      ∃ word pieces, (first :: rest).foldr prependToWords [] = (first :: word) :: pieces := by
    rw [List.foldr_cons, prependToWords.eq_def, if_pos hword]
    split
    · exact ⟨[], [], rfl⟩
    · rename_i word pieces _
      exact ⟨word, pieces, rfl⟩
  have hwords : splitWords id.toList =
      (first :: word) :: pieces.filter fun piece => !piece.isEmpty := by
    rw [splitWords, hsplit, hpieces]
    exact List.filter_cons_of_pos rfl
  obtain ⟨hlower, hdigit⟩ := lowerChar_of_isLower hfirst
  have hhead : (first :: word).head?.any Char.isDigit = false := hdigit
  rw [stateName, hwords, hsplit, (camelChars_eq _).2, hpieces]
  dsimp only
  rw [hhead, if_neg Bool.false_ne_true, String.toList_ofList, flatMap_capitalizeChars_filter,
    uncapitalizeChars, hlower]
  rfl

/-- Camel case has letters and digits only. -/
theorem isWordChar_of_mem_camelChars {cs : List Char} (hcs : ∀ c ∈ cs, isSlugChar c = true)
    (raised : Bool) : ∀ c ∈ camelChars raised cs, isWordChar c = true := by
  induction cs generalizing raised with
  | nil => simp [camelChars]
  | cons c cs ih =>
    obtain ⟨hc, hcs⟩ := List.forall_mem_cons.mp hcs
    have hupper : isWordChar c = true → ∀ d ∈ Text.upperChar c, isWordChar d = true :=
      forall_slugChar (P := fun c =>
        isWordChar c = true → ∀ d ∈ Text.upperChar c, isWordChar d = true) (by decide +kernel) hc
    rw [camelChars]
    split_ifs with hword hraised
    · exact List.forall_mem_append.mpr ⟨hupper hword, ih hcs false⟩
    · exact List.forall_mem_append.mpr ⟨List.forall_mem_singleton.mpr hword, ih hcs false⟩
    · exact ih hcs true

/-! ### Idle hyphens -/

/-- Leaves out the hyphens that are idle: those that are not in front of a small letter. -/
def dropIdleChars : List Char → List Char
  | [] => []
  | c :: rest =>
    if c = '-' ∧ rest.head?.any Char.isLower = false then dropIdleChars rest
    else c :: dropIdleChars rest

/-- A slug without idle hyphens. -/
def dropIdleHyphens (id : String) : String := String.ofList (dropIdleChars id.toList)

/-- A capital letter written as a hyphen and the small letter. -/
def expandCapital (c : Char) : List Char :=
  if c.isUpper then ['-', Char.ofNat (c.toNat + 32)] else [c]

/-- Writes every capital letter as a hyphen and the small letter. -/
def expandCapitals (cs : List Char) : List Char := cs.flatMap expandCapital

/-- The characters of a slug are still seen in camel case, and a raised small letter tells of the
hyphen in front. -/
theorem expandCapital_of_isSlugChar {c : Char} (hc : isSlugChar c = true) :
    expandCapital c = [c] ∧
      expandCapitals (Text.upperChar c) = if c.isLower then ['-', c] else [c] :=
  forall_slugChar (P := fun c => expandCapital c = [c] ∧
    expandCapitals (Text.upperChar c) = if c.isLower then ['-', c] else [c]) (by decide +kernel) hc

theorem expandCapitals_append (cs ds : List Char) :
    expandCapitals (cs ++ ds) = expandCapitals cs ++ expandCapitals ds := List.flatMap_append

/-- A slug without idle hyphens is read back from its camel case.  A raised text stands behind a
hyphen. -/
theorem expandCapitals_camelChars {cs : List Char} (hcs : ∀ c ∈ cs, isSlugChar c = true)
    (raised : Bool) :
    expandCapitals (camelChars raised cs) =
      dropIdleChars (if raised then '-' :: cs else cs) := by
  induction cs generalizing raised with
  | nil => cases raised <;> rfl
  | cons c cs ih =>
    obtain ⟨hc, hcs⟩ := List.forall_mem_cons.mp hcs
    obtain ⟨hkept, hraised⟩ := expandCapital_of_isSlugChar hc
    by_cases hhyphen : c = '-'
    · -- of two hyphens in a row the first one is idle
      rw [camelChars, if_neg fun hword =>
        (isWordChar_iff_of_isSlugChar hc).mp hword hhyphen, ih hcs]
      subst hhyphen
      cases raised <;> simp [dropIdleChars]
    · have hplain : expandCapitals [c] = [c] := by
        rw [expandCapitals, List.flatMap_singleton, hkept]
      rw [camelChars, if_pos ((isWordChar_iff_of_isSlugChar hc).mpr hhyphen),
        expandCapitals_append, ih hcs]
      cases raised <;> cases hlower : c.isLower <;>
        simp [dropIdleChars, hhyphen, hplain, hraised, hlower]

/-- Only a small letter in front shows whether a text is raised. -/
theorem camelChars_of_head {cs : List Char} (hcs : ∀ c ∈ cs, isSlugChar c = true)
    (hhead : cs.head?.any Char.isLower = false) (raised : Bool) :
    camelChars raised cs = camelChars true cs := by
  cases cs with
  | nil => rfl
  | cons c cs =>
    have hupper : c.isLower = false → Text.upperChar c = [c] :=
      forall_slugChar (P := fun c => c.isLower = false → Text.upperChar c = [c])
        (by decide +kernel) (hcs c List.mem_cons_self)
    rw [camelChars, camelChars, hupper hhead]
    cases raised <;> rfl

/-- Idle hyphens are not seen in camel case. -/
theorem camelChars_dropIdleChars {cs : List Char} (hcs : ∀ c ∈ cs, isSlugChar c = true)
    (raised : Bool) : camelChars raised (dropIdleChars cs) = camelChars raised cs := by
  induction cs generalizing raised with
  | nil => rfl
  | cons c cs ih =>
    have hrest := (List.forall_mem_cons.mp hcs).2
    rw [dropIdleChars]
    split_ifs with hidle
    · obtain ⟨rfl, hhead⟩ := hidle
      rw [ih hrest, camelChars_of_head hrest hhead]
      rfl
    · rw [camelChars, camelChars, ih hrest, ih hrest]

/-- Slugs share a name for their state exactly if they differ in idle hyphens only. -/
theorem stateName_eq_iff {id other : String} (hid : isSlug id = true)
    (hother : isSlug other = true) (suffix : String) :
    stateName id suffix = stateName other suffix ↔
      dropIdleHyphens id = dropIdleHyphens other := by
  have hchars := isSlugChar_of_isSlug hid
  have hchars' := isSlugChar_of_isSlug hother
  rw [← String.toList_inj, toList_stateName hid, toList_stateName hother,
    List.append_cancel_right_eq, dropIdleHyphens, dropIdleHyphens, String.ofList_inj]
  constructor
  · intro hcamel
    have hread := congrArg expandCapitals hcamel
    rwa [expandCapitals_camelChars hchars, expandCapitals_camelChars hchars'] at hread
  · intro hdrop
    rw [← camelChars_dropIdleChars hchars, hdrop, camelChars_dropIdleChars hchars']

/-! ### Declarations -/

namespace Android

/-- The kinds of capsules with a state, and what the names of their variables end with. -/
def statefulKinds : List (String × String) :=
  [("input", "text"), ("switch", "checked"), ("slider", "value"), ("searchbar", "query")]

/-- The variable that a text begins to declare. -/
def declaredVariable? (text : String) : Option String :=
  match text.toList with
  | 'v' :: 'a' :: 'r' :: ' ' :: rest => some (String.ofList (rest.takeWhile (· != ' ')))
  | _ => none

theorem declaredVariable?_declaration {name : String} (hname : ∀ c ∈ name.toList, c ≠ ' ')
    (initial rest : String) :
    declaredVariable? (declaration name initial ++ rest) = some name := by
  have htext : (declaration name initial ++ rest).toList =
      'v' :: 'a' :: 'r' :: ' ' :: (name.toList ++
        ' ' :: ("by remember " ++ braced (" " ++ initial ++ " ") ++ rest).toList) := by
    simp only [declaration, String.toList_append, List.append_assoc]
    rfl
  rw [declaredVariable?, htext]
  change some (String.ofList ((name.toList ++ ' ' :: _).takeWhile (· != ' '))) = some name
  rw [List.takeWhile_append_of_pos fun c hc => bne_iff_ne.mpr (hname c hc),
    List.takeWhile_cons_of_neg (by decide), List.append_nil, String.ofList_toList]

/-- The piece of a capsule with a state begins with the declaration of its variable. -/
theorem exists_declaration {kind suffix : String} (hkind : (kind, suffix) ∈ statefulKinds)
    {theme : Theme} {id : String} {props : Fields} {hasChildren : Bool} {piece : Piece}
    (hpiece : backend.piece theme ⟨id, kind, props⟩ hasChildren = .ok piece) :
    ∃ initial, ∃ lines ≠ [],
      piece = .solid (stack (declaration (stateName id suffix) initial :: lines)) := by
  simp only [statefulKinds, List.mem_cons, Prod.mk.injEq, List.not_mem_nil, or_false] at hkind
  rcases hkind with ⟨rfl, rfl⟩ | ⟨rfl, rfl⟩ | ⟨rfl, rfl⟩ | ⟨rfl, rfl⟩
  · cases hpiece
    exact ⟨_, _, List.cons_ne_nil _ _, rfl⟩
  · cases hpiece
    exact ⟨_, _, List.cons_ne_nil _ _, rfl⟩
  · obtain ⟨lowest, -, hpiece⟩ := Steps.exists_of_bind_eq_ok hpiece
    obtain ⟨highest, -, hpiece⟩ := Steps.exists_of_bind_eq_ok hpiece
    obtain ⟨value, -, hpiece⟩ := Steps.exists_of_bind_eq_ok hpiece
    cases hpiece
    exact ⟨_, _, List.cons_ne_nil _ _, rfl⟩
  · cases hpiece
    exact ⟨_, _, List.cons_ne_nil _ _, rfl⟩

/-- The fragment of a capsule with a state declares its variable. -/
theorem declaredVariable?_fragment {kind suffix : String} (hkind : (kind, suffix) ∈ statefulKinds)
    {theme : Theme} {id : String} (hid : isSlug id = true) {props : Fields}
    {fragments : List String} {text : String}
    (hfragment : backend.fragment theme ⟨id, kind, props⟩ fragments = .ok text) :
    declaredVariable? text = some (stateName id suffix) := by
  obtain ⟨piece, hpiece, rfl⟩ := Backend.exists_piece hfragment
  obtain ⟨initial, lines, hlines, rfl⟩ := exists_declaration hkind hpiece
  rw [Piece.assemble, stack_cons _ hlines, String.append_assoc]
  refine declaredVariable?_declaration ?_ initial _
  have hsuffix : ∀ entry ∈ statefulKinds, ∀ c ∈ Text.capitalizeChars entry.2.toList,
      isWordChar c = true := by
    decide +kernel
  rw [toList_stateName hid]
  intro c hc hspace
  have hword := List.forall_mem_append.mpr
    ⟨isWordChar_of_mem_camelChars (isSlugChar_of_isSlug hid) false, hsuffix _ hkind⟩ c hc
  rw [hspace] at hword
  exact absurd hword (by decide)

/-- Every capsule with a state declares a variable of its own name.  Two capsules of one kind whose
identifiers are slugs declare different variables exactly if the slugs do not differ in idle hyphens
only. -/
theorem declaredVariable_eq_iff {kind suffix : String} (hkind : (kind, suffix) ∈ statefulKinds)
    (id other : String) (hid : isSlug id = true) (hother : isSlug other = true) :
    (stateName id suffix = stateName other suffix ↔
      dropIdleHyphens id = dropIdleHyphens other) ∧
    ∀ (theme : Theme) (props props' : Fields) (fragments fragments' : List String)
      (text text' : String),
      backend.fragment theme ⟨id, kind, props⟩ fragments = .ok text →
      backend.fragment theme ⟨other, kind, props'⟩ fragments' = .ok text' →
      declaredVariable? text = some (stateName id suffix) ∧
      declaredVariable? text' = some (stateName other suffix) ∧
      (declaredVariable? text = declaredVariable? text' ↔
        dropIdleHyphens id = dropIdleHyphens other) := by
  have hnames := stateName_eq_iff hid hother suffix
  refine ⟨hnames, fun theme props props' fragments fragments' text text' hfragment hfragment' => ?_⟩
  have htext := declaredVariable?_fragment hkind hid hfragment
  have htext' := declaredVariable?_fragment hkind hother hfragment'
  refine ⟨htext, htext', ?_⟩
  rw [htext, htext', Option.some_inj]
  exact hnames

/-- Two fields for entering text whose identifiers differ in a hyphen in front of a digit declare
one variable, and a hyphen in front of a letter keeps a third one apart. -/
theorem declaredVariable_eq_iff_numberedFields :
    (∃ text text' : String,
      backend.fragment .open ⟨"item-1", "input", []⟩ [] = .ok text ∧
      backend.fragment .open ⟨"item1", "input", []⟩ [] = .ok text' ∧
      declaredVariable? text = some "item1Text" ∧ declaredVariable? text' = some "item1Text") ∧
    stateName "item1" "text" ≠ stateName "it-em1" "text" := by
  have hkind : ("input", "text") ∈ statefulKinds := List.mem_cons_self
  constructor
  · obtain ⟨htext, htext', -⟩ :=
      (declaredVariable_eq_iff hkind "item-1" "item1" (by decide) (by decide)).2
        .open [] [] [] [] _ _ rfl rfl
    have hname : stateName "item-1" "text" = "item1Text" := by decide +kernel
    have hname' : stateName "item1" "text" = "item1Text" := by decide +kernel
    exact ⟨_, _, rfl, rfl, hname ▸ htext, hname' ▸ htext'⟩
  · rw [Ne, (declaredVariable_eq_iff hkind "item1" "it-em1" (by decide) (by decide)).1]
    decide

end Android

end CapsuleLoom
