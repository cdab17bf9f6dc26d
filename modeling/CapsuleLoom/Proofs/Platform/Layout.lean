import CapsuleLoom.Proofs.Platform.Printer
import CapsuleLoom.Proofs.Text.Front

/-!
# Layouts

A text is laid out in rows: lines with a margin of some levels each.  What stands behind a margin
does not begin with white space and does not end a line, so that the text says which rows it is
made of.

## Main definitions

* `Row` : a line of a text with the level of its margin.
* `layout` : the text of some rows.

## Main results

* `indent_layout` : indentation moves all rows one level deeper.
* `layout_intercalate` : the layout of groups of rows with whole lines between them.
* `layout_inj` : a text has one layout.
-/

namespace CapsuleLoom

open Text

/-! ### Rows -/

/-- A line of a text. -/
structure Row where
  /-- The level of its margin. -/
  level : Nat
  /-- What stands behind the margin. -/
  content : String

/-- A row one level deeper. -/
def Row.deeper (row : Row) : Row := ⟨row.level + 1, row.content⟩

theorem Row.deeper_injective : Function.Injective Row.deeper := by
  rintro ⟨level, content⟩ ⟨otherLevel, otherContent⟩ heq
  cases heq
  rfl

/-- A row with its margin. -/
def Row.text (unit : String) (row : Row) : String := inset unit row.level row.content

/-- The text of some rows. -/
def layout (unit : String) (rows : List Row) : String := stack (rows.map (Row.text unit))

/-- What can stand behind a margin: a single line that does not begin with white space. -/
def isContent (content : String) : Bool :=
  content.toList.head?.any (fun c => !isBlank c) && content.toList.all fun c => !isLineBreak c

theorem exists_of_isContent {content : String} (hcontent : isContent content = true) :
    (∃ c rest, content.toList = c :: rest ∧ isBlank c = false) ∧
      ∀ c ∈ content.toList, isLineBreak c = false := by
  rw [isContent, Bool.and_eq_true, Option.any_eq_true, List.all_eq_true] at hcontent
  obtain ⟨⟨c, hhead, hc⟩, hfree⟩ := hcontent
  obtain ⟨rest, hrest⟩ := List.head?_eq_some_iff.mp hhead
  exact ⟨⟨c, rest, hrest, by simpa using hc⟩, fun d hd => by simpa using hfree d hd⟩

theorem Row.toList_text (unit : String) (row : Row) :
    (row.text unit).toList = margin unit row.level ++ row.content.toList := by
  rw [Row.text, inset, String.toList_append, String.toList_ofList]

theorem Row.text_zero (unit line : String) : Row.text unit ⟨0, line⟩ = line :=
  String.toList_inj.mp (Row.toList_text unit ⟨0, line⟩)

theorem Row.map_text_zero (unit : String) (lines : List String) :
    (lines.map (Row.mk 0)).map (Row.text unit) = lines := by
  rw [List.map_map]
  exact (List.map_congr_left fun line _ => Row.text_zero unit line).trans (List.map_id lines)

/-- A margin is put in front of a line that shows something. -/
theorem Row.indent_text {unit : String} (hunit : ∀ c ∈ unit.toList, isLineBreak c = false)
    {row : Row} (hcontent : isContent row.content = true) :
    indent unit 1 (row.text unit) = row.deeper.text unit := by
  obtain ⟨⟨c, rest, hrest, hc⟩, hfree⟩ := exists_of_isContent hcontent
  have hline : IsLine (margin unit row.level ++ row.content.toList) [] [] := by
    refine ⟨?_, .last, by simp [hrest]⟩
    intro d hd
    exact (List.mem_append.mp hd).elim (fun hd => hunit d (mem_margin hd)) (hfree d)
  have hshown : isBlankLine (margin unit row.level ++ row.content.toList) = false := by
    rw [isBlankLine_append, hrest]
    simp [isBlankLine, hc]
  have hindent := hline.indentChars_append (margin unit 1)
  rw [indentLine, if_neg (by simp [hshown])] at hindent
  rw [← String.toList_inj, indent, String.toList_ofList, Row.toList_text, Row.toList_text,
    Row.deeper, Nat.add_comm, margin_add]
  simpa [indentChars, splitLines] using hindent

theorem indent_layout {unit : String} (hunit : ∀ c ∈ unit.toList, isLineBreak c = false)
    {rows : List Row} (hcontent : ∀ row ∈ rows, isContent row.content = true) :
    indent unit 1 (layout unit rows) = layout unit (rows.map Row.deeper) := by
  rw [layout, indent_stack, layout, List.map_map, List.map_map]
  refine congrArg stack (List.map_congr_left fun row hrow => ?_)
  exact Row.indent_text hunit (hcontent row hrow)

/-! ### Groups of rows -/

section Groups

variable {α : Type} {separator : List α} {groups : List (List α)}

theorem intercalate_ne_nil (hgroups : ∀ group ∈ groups, group ≠ []) (hne : groups ≠ [])
    (separator : List α) : separator.intercalate groups ≠ [] := by
  obtain ⟨group, groups, rfl⟩ := List.exists_cons_of_ne_nil hne
  rw [intercalate_cons]
  exact List.append_ne_nil_of_left_ne_nil (hgroups group List.mem_cons_self) _

theorem forall_mem_intercalate {p : α → Prop} (hseparator : ∀ item ∈ separator, p item)
    (hgroups : ∀ group ∈ groups, ∀ item ∈ group, p item) :
    ∀ item ∈ separator.intercalate groups, p item := by
  cases groups with
  | nil => exact fun item hitem => absurd hitem List.not_mem_nil
  | cons group groups =>
    obtain ⟨hgroup, hgroups⟩ := List.forall_mem_cons.mp hgroups
    rw [intercalate_cons, List.forall_mem_append]
    refine ⟨hgroup, fun item hitem => ?_⟩
    obtain ⟨other, hother, hitem⟩ := List.mem_flatMap.mp hitem
    exact (List.mem_append.mp hitem).elim (hseparator item) (hgroups other hother item)

end Groups

theorem layout_shown (unit : String) {rows : List Row} (hne : rows ≠ [])
    (hcontent : ∀ row ∈ rows, isContent row.content = true) :
    isBlankText (layout unit rows) = false := by
  obtain ⟨row, rows, rfl⟩ := List.exists_cons_of_ne_nil hne
  obtain ⟨⟨c, rest, hrest, hc⟩, -⟩ := exists_of_isContent (hcontent row List.mem_cons_self)
  refine isBlankText_stack ?_ (rows.map (Row.text unit))
  rw [isBlankText, Row.toList_text, isBlankLine_append, hrest]
  simp [isBlankLine, hc]

/-- Groups of rows with whole lines between them. -/
theorem layout_intercalate {groups : List (List Row)} (hgroups : ∀ group ∈ groups, group ≠ [])
    (unit : String) (between : List String) :
    (stack ("" :: (between ++ [""]))).intercalate (groups.map (layout unit)) =
      layout unit ((between.map (Row.mk 0)).intercalate groups) := by
  induction groups with
  | nil => rfl
  | cons group groups ih =>
    obtain ⟨hgroup, hgroups⟩ := List.forall_mem_cons.mp hgroups
    by_cases hlast : groups = []
    · subst hlast
      rw [List.map_singleton, String.intercalate_singleton, List.intercalate_singleton]
    · have hrest := intercalate_ne_nil hgroups hlast (between.map (Row.mk 0))
      rw [List.map_cons, String.intercalate_cons_of_ne_nil (by simpa using hlast), ih hgroups,
        append_stack_append, List.intercalate_cons_of_ne_nil hlast, layout, layout, layout,
        List.map_append, List.map_append, Row.map_text_zero]
      have hfirst := stack_nest (by simpa using hgroup : group.map (Row.text unit) ≠ []) []
      rw [← List.nil_append (stack (group.map (Row.text unit)) :: _), hfirst, List.nil_append,
        ← List.append_assoc, stack_nest (by simpa using hrest), List.append_nil]

/-! ### A text has one layout -/

/-- Rows of characters of a class end where something else begins. -/
theorem append_cons_inj_of_class {α : Type} {p : α → Prop} {front other rest otherRest : List α}
    {c d : α} (hfront : ∀ x ∈ front, p x) (hother : ∀ x ∈ other, p x) (hc : ¬ p c) (hd : ¬ p d)
    (heq : front ++ c :: rest = other ++ d :: otherRest) :
    front = other ∧ c :: rest = d :: otherRest := by
  induction front generalizing other with
  | nil =>
    cases other with
    | nil => exact ⟨rfl, heq⟩
    | cons x other =>
      obtain ⟨rfl, -⟩ := List.cons.inj heq
      exact absurd (hother c List.mem_cons_self) hc
  | cons x front ih =>
    cases other with
    | nil =>
      obtain ⟨rfl, -⟩ := List.cons.inj heq
      exact absurd (hfront x List.mem_cons_self) hd
    | cons y other =>
      obtain ⟨rfl, htail⟩ := List.cons.inj heq
      obtain ⟨rfl, hrest⟩ := ih (List.forall_mem_cons.mp hfront).2
        (List.forall_mem_cons.mp hother).2 htail
      exact ⟨rfl, hrest⟩

theorem Row.eq_of_text_eq {unit : String} {width : Nat} (hwidth : 0 < width)
    (hunit : unit.toList = List.replicate width ' ') {row other : Row}
    (hrow : isContent row.content = true) (hother : isContent other.content = true)
    (heq : row.text unit = other.text unit) : row = other := by
  obtain ⟨level, content⟩ := row
  obtain ⟨otherLevel, otherContent⟩ := other
  obtain ⟨⟨c, rest, hrest, hc⟩, -⟩ := exists_of_isContent hrow
  obtain ⟨⟨d, otherRest, hotherRest, hd⟩, -⟩ := exists_of_isContent hother
  have hmargin (levels : Nat) : ∀ x ∈ margin unit levels, x = ' ' := by
    intro x hx
    have hmem := mem_margin hx
    rw [hunit] at hmem
    exact List.eq_of_mem_replicate hmem
  have hne {x : Char} (hx : isBlank x = false) : ¬ x = ' ' := by
    rintro rfl
    cases hx
  rw [← String.toList_inj, Row.toList_text, Row.toList_text, hrest, hotherRest] at heq
  obtain ⟨hlevel, hcontent⟩ :=
    append_cons_inj_of_class (hmargin level) (hmargin otherLevel) (hne hc) (hne hd) heq
  have hlength := congrArg List.length hlevel
  rw [margin, margin, hunit, List.flatten_replicate_replicate, List.flatten_replicate_replicate,
    List.length_replicate, List.length_replicate] at hlength
  rw [← hrest, ← hotherRest, String.toList_inj] at hcontent
  exact congr (congrArg Row.mk (Nat.eq_of_mul_eq_mul_right hwidth hlength)) hcontent

/-- Texts without line feeds can be told apart when they stand one below the other. -/
theorem stack_inj {texts others : List String} (htexts : ∀ text ∈ texts, '\n' ∉ text.toList)
    (hothers : ∀ text ∈ others, '\n' ∉ text.toList) (hne : texts ≠ []) (hotherNe : others ≠ [])
    (heq : stack texts = stack others) : texts = others := by
  have hread {texts : List String} (htexts : ∀ text ∈ texts, '\n' ∉ text.toList)
      (hne : texts ≠ []) : (stack texts).toList.splitOn '\n' = texts.map String.toList := by
    rw [stack, String.toList_intercalate]
    exact List.splitOn_intercalate '\n' (List.forall_mem_map.mpr htexts) (by simpa using hne)
  have hlines := hread htexts hne
  rw [heq, hread hothers hotherNe] at hlines
  exact (List.map_injective_iff.mpr (fun _ _ => String.toList_inj.mp) hlines).symm

/-- A text has one layout. -/
theorem layout_inj {unit : String} {width : Nat} (hwidth : 0 < width)
    (hunit : unit.toList = List.replicate width ' ') {rows others : List Row}
    (hrows : ∀ row ∈ rows, isContent row.content = true)
    (hothers : ∀ row ∈ others, isContent row.content = true) (hne : rows ≠ [])
    (hotherNe : others ≠ []) (heq : layout unit rows = layout unit others) : rows = others := by
  have hfeed {rows : List Row} (hrows : ∀ row ∈ rows, isContent row.content = true) :
      ∀ text ∈ rows.map (Row.text unit), '\n' ∉ text.toList := by
    intro text htext hmem
    obtain ⟨row, hrow, rfl⟩ := List.mem_map.mp htext
    rw [Row.toList_text, List.mem_append] at hmem
    rcases hmem with hmem | hmem
    · have hblank := mem_margin hmem
      rw [hunit] at hblank
      cases List.eq_of_mem_replicate hblank
    · cases (exists_of_isContent (hrows row hrow)).2 _ hmem
  have htexts := stack_inj (hfeed hrows) (hfeed hothers) (by simpa using hne)
    (by simpa using hotherNe) heq
  rw [← List.forall₂_eq_eq_eq, List.forall₂_map_left_iff, List.forall₂_map_right_iff,
    List.forall₂_iff_zip] at htexts
  rw [← List.forall₂_eq_eq_eq, List.forall₂_iff_zip]
  refine ⟨htexts.1, fun hzip => ?_⟩
  obtain ⟨hrow, hother⟩ := List.of_mem_zip hzip
  exact Row.eq_of_text_eq hwidth hunit (hrows _ hrow) (hothers _ hother) (htexts.2 hzip)

end CapsuleLoom
