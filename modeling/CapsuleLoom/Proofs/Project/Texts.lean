import CapsuleLoom.Platform.Basic
import CapsuleLoom.Capsule.Props
import CapsuleLoom.Proofs.Capsule.TreeWalk
import CapsuleLoom.Proofs.Naming
import CapsuleLoom.Proofs.Number.Numeral

/-!
# The texts of a project

The texts that a project brings into the generated sources: names, identifiers, kinds, the keys
and values of properties at any depth, and colours.  When they have no brackets, everything that
is made from them has balanced brackets, also the lists and objects that are written out as texts.

## Main definitions

* `Doc.texts`, `Capsule.texts`, `Screen.texts`, `Project.texts` : the texts of a project.

## Main results

* `Doc.balanced_write` : a document that is written out.
* `balanced_textProp` : a property as a text.
-/

namespace CapsuleLoom

/-! ### Texts -/

mutual

/-- The texts of a document: keys and values at any depth. -/
def Doc.texts : Doc → List String
  | .str text => [text]
  | .arr items => itemTexts items
  | .obj fields => fieldTexts fields
  | _ => []

/-- The texts of the items of a list. -/
def itemTexts : List Doc → List String
  | [] => []
  | item :: rest => item.texts ++ itemTexts rest

/-- The texts of the fields of an object. -/
def fieldTexts : List (String × Doc) → List String
  | [] => []
  | (key, value) :: rest => key :: (value.texts ++ fieldTexts rest)

end

/-- The texts of a capsule. -/
def Capsule.texts (capsule : Capsule) : List String :=
  capsule.id :: capsule.kind :: fieldTexts capsule.props

/-- The texts of a screen. -/
def Screen.texts (screen : Screen) : List String :=
  screen.id :: screen.name ::
    screen.root.toList.flatMap fun tree => tree.values.flatMap Capsule.texts

/-- The colours that a theme chooses. -/
def Theme.texts (theme : Theme) : List String := ColorToken.all.filterMap theme.colors.choice

/-- The texts of a project that get into the generated sources. -/
def Project.texts (project : Project) : List String :=
  project.name :: (project.screens.flatMap Screen.texts ++ project.theme.texts ++
    project.androidPackage?.toList)

/-! ### Documents -/

theorem unitEscape_free (unit : Nat) : ∀ c ∈ unitEscape unit, isBracket c = false := by
  have hdigits := toDigits_atoms (by decide : 1 < 16) (by decide) unit
  refine List.forall_mem_cons.mpr ⟨rfl, List.forall_mem_cons.mpr ⟨rfl, ?_⟩⟩
  refine List.forall_mem_append.mpr
    ⟨fun c hc => ?_, fun c hc => isBracket_of_isAtomChar (hdigits c hc)⟩
  rw [List.eq_of_mem_replicate hc]
  rfl

theorem ite_free {p : Prop} [Decidable p] {first second : List Char}
    (hfirst : ∀ c ∈ first, isBracket c = false) (hsecond : ∀ c ∈ second, isBracket c = false) :
    ∀ c ∈ if p then first else second, isBracket c = false := by
  split
  · exact hfirst
  · exact hsecond

theorem codePointEscape_free (code : Nat) : ∀ c ∈ codePointEscape code, isBracket c = false :=
  ite_free (unitEscape_free code)
    (List.forall_mem_append.mpr ⟨unitEscape_free _, unitEscape_free _⟩)

theorem docChar_free (basicOnly : Bool) {c : Char} (hc : isBracket c = false) :
    ∀ d ∈ docChar basicOnly c, isBracket d = false := by
  unfold docChar
  iterate 7 refine ite_free (by decide) ?_
  refine ite_free (unitEscape_free c.toNat) (ite_free (codePointEscape_free c.toNat) ?_)
  exact List.forall_mem_singleton.mpr hc

theorem bracketFree_docText (basicOnly : Bool) {text : String} (htext : BracketFree text) :
    BracketFree (docText basicOnly text) := by
  rw [BracketFree, docText, String.toList_ofList]
  refine List.forall_mem_cons.mpr ⟨rfl, List.forall_mem_append.mpr ⟨fun d hd => ?_, by decide⟩⟩
  obtain ⟨c, hc, hd⟩ := List.mem_flatMap.mp hd
  exact docChar_free basicOnly (htext c hc) d hd

theorem bracketFree_docNumber (n : Number) : BracketFree (docNumber n) := by
  unfold docNumber
  split
  · decide
  · split_ifs <;> decide
  · exact (isAtomic_numberText _).bracketFree

/-- Separators without brackets. -/
structure DocLayout.IsFree (layout : DocLayout) : Prop where
  /-- Between items and between fields. -/
  itemSeparator : BracketFree layout.itemSeparator
  /-- Between a key and its value. -/
  keySeparator : BracketFree layout.keySeparator

variable {layout : DocLayout}

/-- Texts between two brackets with separators between them. -/
theorem balanced_listed (hlayout : layout.IsFree) {texts : List String}
    (htexts : ∀ text ∈ texts, Balanced text) {opening closing : String}
    (hpair : Balanced (opening ++ closing)) :
    Balanced (opening ++ layout.itemSeparator.intercalate texts ++ closing) := by
  have hinside := balanced_intercalate hlayout.itemSeparator.balanced htexts
  intro owed?
  rw [settle_append, settle_append, hinside, ← settle_append, hpair]

mutual

/-- A document whose texts have no brackets is written with balanced brackets. -/
theorem Doc.balanced_write (hlayout : layout.IsFree) :
    (doc : Doc) → (∀ text ∈ doc.texts, BracketFree text) → Balanced (doc.write layout)
  | .null, _ => by
    rw [Doc.write]
    exact .of_spelled rfl
  | .bool b, _ => by
    rw [Doc.write]
    split <;> exact .of_spelled rfl
  | .num n, _ => by
    rw [Doc.write]
    exact (bracketFree_docNumber n).balanced
  | .str text, htexts => by
    rw [Doc.write]
    exact (bracketFree_docText _ (htexts text (by simp [Doc.texts]))).balanced
  | .arr items, htexts => by
    rw [Doc.texts] at htexts
    rw [Doc.write]
    exact balanced_listed hlayout (balanced_writeItems hlayout items htexts) (.of_settle_nil rfl)
  | .obj fields, htexts => by
    rw [Doc.texts] at htexts
    rw [Doc.write]
    exact balanced_listed hlayout (balanced_writeFields hlayout fields htexts) (.of_settle_nil rfl)

theorem balanced_writeItems (hlayout : layout.IsFree) :
    (items : List Doc) → (∀ text ∈ itemTexts items, BracketFree text) →
      ∀ text ∈ writeItems layout items, Balanced text
  | [], _ => by simp [writeItems]
  | item :: rest, htexts => by
    rw [itemTexts, List.forall_mem_append] at htexts
    rw [writeItems, List.forall_mem_cons]
    exact ⟨item.balanced_write hlayout htexts.1, balanced_writeItems hlayout rest htexts.2⟩

theorem balanced_writeFields (hlayout : layout.IsFree) :
    (fields : List (String × Doc)) → (∀ text ∈ fieldTexts fields, BracketFree text) →
      ∀ text ∈ writeFields layout fields, Balanced text
  | [], _ => by simp [writeFields]
  | (key, value) :: rest, htexts => by
    rw [fieldTexts, List.forall_mem_cons, List.forall_mem_append] at htexts
    rw [writeFields, List.forall_mem_cons]
    refine ⟨?_, balanced_writeFields hlayout rest htexts.2.2⟩
    exact ((bracketFree_docText _ htexts.1).balanced.append hlayout.keySeparator.balanced).append
      (value.balanced_write hlayout htexts.2.1)

end

/-! ### Properties -/

theorem Doc.texts_strs (items : List String) : (Doc.strs items).texts = items := by
  rw [Doc.strs, Doc.texts]
  induction items with
  | nil => simp [itemTexts]
  | cons item items ih => simp [itemTexts, Doc.texts, ih]

theorem eq_map_str_of_mapM {docs : List Doc} {items : List String}
    (hdocs : docs.mapM Doc.text? = some items) : docs = items.map Doc.str := by
  induction docs generalizing items with
  | nil =>
    cases hdocs
    rfl
  | cons doc docs ih =>
    simp only [List.mapM_cons, Option.bind_eq_bind, Option.bind_eq_some_iff,
      Option.pure_def] at hdocs
    obtain ⟨item, hitem, rest, hrest, hcons⟩ := hdocs
    cases hcons
    cases doc with
    | str text =>
      cases hitem
      rw [ih hrest, List.map_cons]
    | _ => cases hitem

section Props

variable {props : Fields}

theorem texts_subset_fieldTexts {key : String} {value : Doc} (hmem : (key, value) ∈ props) :
    value.texts ⊆ fieldTexts props := by
  induction props with
  | nil => cases hmem
  | cons field rest ih =>
    rw [fieldTexts]
    rcases List.mem_cons.mp hmem with rfl | hmem
    · exact fun text htext => List.mem_cons_of_mem _ (List.mem_append_left _ htext)
    · exact fun text htext => List.mem_cons_of_mem _ (List.mem_append_right _ (ih hmem htext))

theorem texts_get_subset (props : Fields) (key : String) :
    (props.get key).texts ⊆ fieldTexts props := by
  unfold Fields.get Fields.get?
  cases hfind : props.find? fun field => field.1 == key with
  | none => simp [Doc.texts]
  | some field => exact texts_subset_fieldTexts (List.mem_of_find?_eq_some hfind)

theorem Doc.balanced_asText {value : Doc} (hvalue : ∀ text ∈ value.texts, BracketFree text) :
    Balanced value.asText := by
  have hcompact : DocLayout.compact.IsFree := ⟨by decide, by decide⟩
  cases value with
  | null => exact (.of_spelled rfl : Balanced "None")
  | bool b => cases b <;> exact .of_spelled rfl
  | num n => exact (isAtomic_numeral n).bracketFree.balanced
  | str text => exact (hvalue text (by simp [Doc.texts])).balanced
  | arr items => exact Doc.balanced_write hcompact (.arr items) hvalue
  | obj fields => exact Doc.balanced_write hcompact (.obj fields) hvalue

theorem Doc.eq_asText_of_nonemptyText? {value : Doc} {text : String}
    (htext : value.nonemptyText? = some text) : text = value.asText := by
  unfold Doc.nonemptyText? at htext
  split at htext
  · cases htext
  · split_ifs at htext
    exact (Option.some.inj htext).symm

/-- A property as a text is the default or the text of a value. -/
theorem textProp_eq_or (props : Fields) (keys : List String) (default : String) :
    textProp props keys default = default ∨
      ∃ key, textProp props keys default = (props.get key).asText := by
  unfold textProp
  cases hfind : keys.findSome? fun key => (props.get key).nonemptyText? with
  | none => exact .inl rfl
  | some text =>
    obtain ⟨key, -, htext⟩ := List.exists_of_findSome?_eq_some hfind
    exact .inr ⟨key, Doc.eq_asText_of_nonemptyText? htext⟩

theorem subset_of_textItems? {items : List String} (hitems : textItems? props = some items) :
    items ⊆ fieldTexts props := by
  have hget := texts_get_subset props "items"
  unfold textItems? at hitems
  split at hitems
  · cases hitems
  · rename_i docs _ hdocs
    rw [hdocs, eq_map_str_of_mapM hitems] at hget
    exact fun item hitem => hget ((Doc.texts_strs items).symm ▸ hitem)
  · cases hitems

variable (hprops : ∀ text ∈ fieldTexts props, BracketFree text)

include hprops

/-- A property as a text has balanced brackets, and it may stand anywhere. -/
theorem balanced_textProp (keys : List String) {default : String}
    (hdefault : Balanced default) : Balanced (textProp props keys default) := by
  rcases textProp_eq_or props keys default with htext | ⟨key, htext⟩
  · rwa [htext]
  · rw [htext]
    exact Doc.balanced_asText fun text hmem => hprops text (texts_get_subset props key hmem)

theorem bracketFree_of_textItems? {items : List String} (hitems : textItems? props = some items) :
    ∀ item ∈ items, BracketFree item := fun item hitem =>
  hprops item (subset_of_textItems? hitems hitem)

end Props

theorem balanced_quotedItems {items : List String} (hitems : ∀ item ∈ items, BracketFree item) :
    Balanced (quotedItems items) := by
  refine balanced_intercalate (.of_spelled rfl) fun text htext => ?_
  obtain ⟨item, hitem, rfl⟩ := List.mem_map.mp htext
  have hquote : Balanced "\"" := .of_spelled rfl
  exact (hquote.append (hitems item hitem).balanced).append hquote

/-! ### Projects -/

section Projects

variable {project : Project} {screen : Screen}

theorem bracketFree_title (hscreen : ∀ text ∈ screen.texts, BracketFree text) :
    BracketFree screen.title := by
  unfold Screen.title
  split_ifs
  · exact hscreen screen.id (by simp [Screen.texts])
  · exact hscreen screen.name (by simp [Screen.texts])

theorem bracketFree_color {theme : Theme} (htheme : ∀ text ∈ theme.texts, BracketFree text)
    (token : ColorToken) : BracketFree (theme.color token) := by
  have hall : token ∈ ColorToken.all := by cases token <;> decide
  have hfallback : BracketFree token.fallback := by cases token <;> decide
  unfold Theme.color
  split
  · rename_i color hchoice
    split_ifs
    · exact hfallback
    · exact htheme color (List.mem_filterMap.mpr ⟨token, hall, hchoice⟩)
  · exact hfallback

theorem mem_screens_of_initialScreen? (hscreen : project.initialScreen? = some screen) :
    screen ∈ project.screens := by
  simp only [Project.initialScreen?, Option.orElse_eq_some, Option.bind_eq_bind,
    Option.bind_eq_some_iff] at hscreen
  rcases hscreen with ⟨navigation, -, wanted, -, hfind⟩ | ⟨-, hhead⟩
  · exact List.mem_of_find?_eq_some hfind
  · exact List.mem_of_head? hhead

variable (hproject : ∀ text ∈ project.texts, BracketFree text)

include hproject

theorem bracketFree_of_mem_screens (hscreen : screen ∈ project.screens) :
    ∀ text ∈ screen.texts, BracketFree text := by
  intro text htext
  refine hproject text (List.mem_cons_of_mem _ (List.mem_append_left _ (List.mem_append_left _ ?_)))
  exact List.mem_flatMap.mpr ⟨screen, hscreen, htext⟩

theorem bracketFree_of_mem_theme : ∀ text ∈ project.theme.texts, BracketFree text := by
  intro text htext
  refine hproject text (List.mem_cons_of_mem _ (List.mem_append_left _ ?_))
  exact List.mem_append_right _ htext

theorem bracketFree_initialScreenId : ∀ id ∈ project.initialScreenId?, BracketFree id := by
  intro id hid
  obtain ⟨screen, hscreen, rfl⟩ := Option.map_eq_some_iff.mp hid
  refine bracketFree_of_mem_screens hproject (mem_screens_of_initialScreen? hscreen) _ ?_
  simp [Screen.texts]

end Projects

end CapsuleLoom
