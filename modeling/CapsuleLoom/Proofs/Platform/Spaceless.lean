import CapsuleLoom.Proofs.Platform.Total
import CapsuleLoom.Proofs.Project.Texts
import CapsuleLoom.Proofs.Text.Occurrences

/-!
# Pieces without spaces between neighbours

The space between neighbours on Android is a call of its own.  A capsule whose texts do not look
like such a call does not make one: every piece is a template with texts in its holes, the texts
lack the call, and no call goes across the border of a hole.  The switch makes a space of its own,
which is another one.

## Main definitions

* `Android.spacerCall` : how a call that makes a space begins.
* `Android.IsSpaceless` : pieces without spaces between neighbours.

## Main results

* `Android.lacks_asText` : a value whose texts lack the call lacks it.
* `Android.rules_spaceless` : all rules for Android.
* `Android.piece_spaceless` : the pieces of all capsules.
-/

namespace CapsuleLoom.Android

/-! ### Texts without calls for space -/

/-- The beginning of a call that makes a space. -/
def spacerCall : String := "Spacer("

theorem isWord_spacer : IsWord spacer := ⟨by decide, by decide⟩

theorem unit_blank : ∀ c ∈ unit.toList, Text.isBlank c = true := by decide

/-- A text without calls that make a space has no space between neighbours. -/
theorem occurrences_of_lacks {text : String} (htext : Lacks spacerCall text) :
    occurrences spacer text = 0 := by
  have hcall : spacerCall.toList <:+: spacer.toList := by decide
  exact occurrences_eq_zero_iff.mpr fun hspacer => htext (hcall.trans hspacer)

theorem lacks_of_bracketFree {text : String} (htext : BracketFree text) :
    Lacks spacerCall text := by
  have hopening : '(' ∈ spacerCall.toList := by decide
  refine .of_not_mem hopening fun hmem => ?_
  cases htext '(' hmem

/-- How a character is written: as it is, or by an escape that does not look like a call. -/
def IsWritten (c : Char) (written : List Char) : Prop :=
  written = [c] ∨ ∃ code, written = '\\' :: code ∧ 'S' ∉ code

theorem IsWritten.ite {p : Prop} [Decidable p] {c : Char} {code other : List Char}
    (hcode : 'S' ∉ code) (hother : IsWritten c other) :
    IsWritten c (if p then '\\' :: code else other) := by
  split
  · exact .inr ⟨code, rfl, hcode⟩
  · exact hother

theorem isWritten_docChar (c : Char) : IsWritten c (docChar false c) := by
  have hunit : ∀ unit < 32, 'S' ∉ 'u' :: Text.hex 4 unit := by decide
  unfold docChar
  iterate 7 refine .ite (by decide) ?_
  by_cases hcontrol : c.toNat < 0x20
  · rw [if_pos hcontrol]
    exact .inr ⟨_, rfl, hunit c.toNat hcontrol⟩
  · rw [if_neg hcontrol]
    exact .inl rfl

theorem lacks_docText {text : String} (htext : Lacks spacerCall text) :
    Lacks spacerCall (docText false text) := by
  have hquote : ClosedAround spacerCall "\"" := .of_spelled rfl
  have hdoc : docText false text =
      "\"" ++ String.ofList (text.toList.flatMap (docChar false)) ++ "\"" := by
    rw [← String.toList_inj]
    simp [docText]
  rw [hdoc]
  refine (hquote.1.fill ?_ hquote).1
  rw [Lacks, String.toList_ofList]
  exact fun hinside => htext (isInfix_of_flatMap isWritten_docChar (by decide) hinside)

theorem lacks_docNumber (n : Number) : Lacks spacerCall (docNumber n) :=
  lacks_of_bracketFree (bracketFree_docNumber n)

mutual

/-- A document whose texts make no call is written without one. -/
theorem lacks_write :
    (doc : Doc) → (∀ text ∈ doc.texts, Lacks spacerCall text) →
      Lacks spacerCall (doc.write .compact)
  | .null, _ => by
    rw [Doc.write]
    exact .of_spelled rfl
  | .bool b, _ => by
    rw [Doc.write]
    split <;> exact .of_spelled rfl
  | .num n, _ => by
    rw [Doc.write]
    exact lacks_docNumber n
  | .str text, htexts => by
    rw [Doc.write]
    exact lacks_docText (htexts text (by simp [Doc.texts]))
  | .arr items, htexts => by
    rw [Doc.texts] at htexts
    rw [Doc.write]
    have hopening : ClosedBehind spacerCall "[" := .of_spelled rfl
    have hcomma : ClosedAround spacerCall "," := .of_spelled rfl
    have hitems := lacks_intercalate hcomma (.of_spelled rfl) (lacks_writeItems items htexts)
    exact (hopening.fill hitems (.of_spelled (by rfl))).1
  | .obj fields, htexts => by
    rw [Doc.texts] at htexts
    rw [Doc.write]
    have hopening : ClosedBehind spacerCall "\x7b" := .of_spelled rfl
    have hcomma : ClosedAround spacerCall "," := .of_spelled rfl
    have hfields := lacks_intercalate hcomma (.of_spelled rfl) (lacks_writeFields fields htexts)
    exact (hopening.fill hfields (.of_spelled (by rfl))).1

theorem lacks_writeItems :
    (items : List Doc) → (∀ text ∈ itemTexts items, Lacks spacerCall text) →
      ∀ text ∈ writeItems .compact items, Lacks spacerCall text
  | [], _ => by simp [writeItems]
  | item :: rest, htexts => by
    rw [itemTexts, List.forall_mem_append] at htexts
    rw [writeItems, List.forall_mem_cons]
    exact ⟨lacks_write item htexts.1, lacks_writeItems rest htexts.2⟩

theorem lacks_writeFields :
    (fields : List (String × Doc)) → (∀ text ∈ fieldTexts fields, Lacks spacerCall text) →
      ∀ text ∈ writeFields .compact fields, Lacks spacerCall text
  | [], _ => by simp [writeFields]
  | (key, value) :: rest, htexts => by
    rw [fieldTexts, List.forall_mem_cons, List.forall_mem_append] at htexts
    rw [writeFields, List.forall_mem_cons]
    refine ⟨?_, lacks_writeFields rest htexts.2.2⟩
    have hkey := (lacks_docText htexts.1).append_closedAround
      (.of_spelled rfl : ClosedAround spacerCall ":")
    exact hkey.append_lacks (lacks_write value htexts.2.1)

end

theorem lacks_asText {value : Doc} (hvalue : ∀ text ∈ value.texts, Lacks spacerCall text) :
    Lacks spacerCall value.asText := by
  cases value with
  | null => exact (.of_spelled rfl : Lacks spacerCall "None")
  | bool b => cases b <;> exact .of_spelled rfl
  | num n => exact lacks_of_bracketFree (isAtomic_numeral n).bracketFree
  | str text => exact hvalue text (by simp [Doc.texts])
  | arr items => exact lacks_write (.arr items) hvalue
  | obj fields => exact lacks_write (.obj fields) hvalue

section Props

variable {props : Fields} (hprops : ∀ text ∈ fieldTexts props, Lacks spacerCall text)

include hprops

theorem lacks_textProp (keys : List String) {default : String}
    (hdefault : Lacks spacerCall default) : Lacks spacerCall (textProp props keys default) := by
  rcases textProp_eq_or props keys default with htext | ⟨key, htext⟩
  · rwa [htext]
  · rw [htext]
    exact lacks_asText fun text hmem => hprops text (texts_get_subset props key hmem)

theorem lacks_quotedItems {items : List String} (hitems : textItems? props = some items) :
    Lacks spacerCall (quotedItems items) := by
  have hquote : ClosedAround spacerCall "\"" := .of_spelled rfl
  refine lacks_intercalate (.of_spelled rfl) (.of_spelled rfl) ?_
  refine List.forall_mem_map.mpr fun item hitem => ?_
  exact (hquote.1.fill (hprops item (subset_of_textItems? hitems hitem)) hquote).1

end Props

/-! ### Parts of texts -/

theorem lacks_stateName (id : String) {suffix : String} (hsuffix : BracketFree suffix) :
    Lacks spacerCall (stateName id suffix) :=
  lacks_of_bracketFree (bracketFree_stateName id hsuffix)

theorem lacks_braced {text : String} (htext : Lacks spacerCall text) :
    Lacks spacerCall (braced text) := by
  have hopening : ClosedBehind spacerCall "\x7b" := .of_spelled rfl
  exact (hopening.fill htext (.of_spelled (by rfl))).1

theorem lacks_styledText {content : String} (hcontent : Lacks spacerCall content)
    {style? : Option String} (hstyle : ∀ style ∈ style?, Lacks spacerCall style) :
    Lacks spacerCall (styledText content style?) := by
  have hopening : ClosedBehind spacerCall "Text(\"" := .of_spelled rfl
  cases style? with
  | none => exact (hopening.fill hcontent (.of_spelled (by rfl))).1
  | some style =>
    have hstyled : ClosedAround spacerCall "\", style = MaterialTheme.typography." :=
      .of_spelled rfl
    have hfront := hopening.fill hcontent hstyled
    exact (hfront.fill (hstyle style rfl) (.of_spelled (by rfl))).1

theorem lacks_plainText {content : String} (hcontent : Lacks spacerCall content) :
    Lacks spacerCall (styledText content none) :=
  lacks_styledText hcontent (by simp)

theorem lacks_declaration {variableName initial : String} (hname : Lacks spacerCall variableName)
    (hinitial : Lacks spacerCall initial) :
    Lacks spacerCall (declaration variableName initial) := by
  have hkeyword : ClosedBehind spacerCall "var " := .of_spelled rfl
  have hblank : ClosedAround spacerCall " " := .of_spelled rfl
  have hvalue := lacks_braced (hblank.1.fill hinitial hblank).1
  exact (hkeyword.fill hname (.of_spelled (by rfl))).append_lacks hvalue

theorem lacks_change {argument variableName : String} (hargument : Lacks spacerCall argument)
    (hname : Lacks spacerCall variableName) : Lacks spacerCall (change argument variableName) := by
  have hblank : ClosedBehind spacerCall " " := .of_spelled rfl
  have hassigned : ClosedAround spacerCall " = it " := .of_spelled rfl
  have hvalue := lacks_braced (hblank.fill hname hassigned).1
  exact (hargument.append_closedAround (.of_spelled (by rfl))).append_lacks hvalue

theorem lacks_textArgument {argument content : String} (hargument : Lacks spacerCall argument)
    (hcontent : Lacks spacerCall content) : Lacks spacerCall (textArgument argument content) := by
  have hblank : ClosedAround spacerCall " " := .of_spelled rfl
  have hvalue := lacks_braced (hblank.1.fill (lacks_plainText hcontent) hblank).1
  exact (hargument.append_closedAround (.of_spelled (by rfl))).append_lacks hvalue

theorem lacks_valueArgument {variableName : String} (hname : Lacks spacerCall variableName) :
    Lacks spacerCall ("value = " ++ variableName ++ ",") := by
  have hlabel : ClosedBehind spacerCall "value = " := .of_spelled rfl
  exact (hlabel.fill hname (.of_spelled (by rfl))).1

theorem lacks_comma {text : String} (htext : Lacks spacerCall text) :
    Lacks spacerCall (text ++ ",") :=
  (htext.append_closedAround (.of_spelled (by rfl))).1

theorem lacks_line {text : String} (htext : Lacks spacerCall text) (levels : Nat) :
    Lacks spacerCall (line levels text) := by
  have hmargin : ∀ c ∈ (String.ofList (Text.margin unit levels)).toList, c = ' ' := by
    intro c hc
    rw [String.toList_ofList] at hc
    exact (by decide : ∀ c ∈ unit.toList, c = ' ') c (Text.mem_margin hc)
  have hclosed : ClosedBehind spacerCall (String.ofList (Text.margin unit levels)) := by
    refine ⟨.of_not_mem (by decide : 'S' ∈ spacerCall.toList) fun hmem => ?_, fun c hc => ?_⟩
    · cases hmargin 'S' hmem
    · rw [hmargin c (List.mem_of_getLast? (Option.mem_toList.mp hc))]
      decide
  exact hclosed.append_lacks htext

theorem lacks_listRow {content : String} (hcontent : Lacks spacerCall content) :
    Lacks spacerCall (listRow content) := by
  have hopening : ClosedBehind spacerCall " Text(" := .of_spelled rfl
  have hlabel : ClosedBehind spacerCall "ListItem(headlineContent = " := .of_spelled rfl
  have hclosing : ClosedAround spacerCall ") " := .of_spelled rfl
  have hvalue := lacks_braced (hopening.fill hcontent hclosing).1
  exact lacks_line (hlabel.fill hvalue (.of_spelled (by rfl))).1 1

/-! ### Pieces -/

/-- A piece whose own texts have no space between neighbours. -/
inductive IsSpaceless : Piece → Prop
  /-- A text that shows nothing of the children. -/
  | solid {text : String} (htext : occurrences spacer text = 0) : IsSpaceless (.solid text)
  /-- A text around the children's. -/
  | frame {frame : Frame} (hopening : occurrences spacer frame.opening = 0)
      (hlead : ∀ text ∈ frame.lead, occurrences spacer text = 0)
      (hclosing : occurrences spacer frame.closing = 0) : IsSpaceless (.frame frame)

/-- A rule that gives such pieces for capsules without calls that make a space. -/
def RuleSpaceless (rule : PieceRule) : Prop :=
  ∀ capsule theme hasChildren, (∀ text ∈ capsule.texts, Lacks spacerCall text) →
    ∀ piece, rule capsule theme hasChildren = .ok piece → IsSpaceless piece

theorem lacks_props {capsule : Capsule} (hcapsule : ∀ text ∈ capsule.texts, Lacks spacerCall text) :
    ∀ text ∈ fieldTexts capsule.props, Lacks spacerCall text := fun text htext =>
  hcapsule text (List.mem_cons_of_mem _ (List.mem_cons_of_mem _ htext))

theorem occurrences_stack_eq_zero {lines : List String}
    (hlines : lines.Forall fun line => occurrences spacer line = 0) :
    occurrences spacer (stack lines) = 0 := by
  rw [List.forall_iff_forall_mem] at hlines
  rw [occurrences_stack isWord_spacer, List.sum_eq_zero_iff]
  exact List.forall_mem_map.mpr hlines

theorem occurrences_stack_of_lacks {lines : List String}
    (hlines : lines.Forall (Lacks spacerCall)) : occurrences spacer (stack lines) = 0 :=
  occurrences_stack_eq_zero (hlines.imp fun _ => occurrences_of_lacks)

theorem button_spaceless : RuleSpaceless button := by
  rintro capsule theme hasChildren hcapsule _ ⟨⟩
  have hprops := lacks_props hcapsule
  have hnames : ∀ entry ∈ buttonNames, ClosedBehind spacerCall entry.2 := by
    simp only [buttonNames, List.forall_mem_cons, List.not_mem_nil, false_implies, implies_true,
      and_true]
    exact ⟨.of_spelled rfl, .of_spelled rfl, .of_spelled rfl⟩
  have hname := of_lookup_getD hnames (.of_spelled rfl : ClosedBehind spacerCall "Button")
    (textProp capsule.props ["variant"] "")
  have hopening := hname.append (.of_spelled rfl : ClosedBehind spacerCall "(onClick = ")
  have hcomment : ClosedBehind spacerCall " /* " := .of_spelled rfl
  have haction := lacks_textProp hprops ["onPress"] (.of_spelled rfl : Lacks spacerCall "action")
  have hend : ClosedAround spacerCall " */ " := .of_spelled rfl
  have hbody := lacks_braced (hcomment.fill haction hend).1
  have htext := lacks_textProp hprops ["text"] (.of_spelled rfl : Lacks spacerCall "Button")
  exact .solid (occurrences_stack_of_lacks
    ⟨(hopening.fill hbody (.of_spelled (by rfl))).1, lacks_line (lacks_plainText htext) 1,
      .of_spelled rfl⟩)

theorem text_spaceless : RuleSpaceless text := by
  rintro capsule theme hasChildren hcapsule _ ⟨⟩
  have hstyles : ∀ entry ∈ textStyles, Lacks spacerCall entry.2 := by decide
  refine .solid (occurrences_of_lacks (lacks_styledText ?_ fun style hstyle => ?_))
  · exact lacks_textProp (lacks_props hcapsule) _ (.of_spelled rfl)
  · exact of_lookup hstyles hstyle

theorem input_spaceless : RuleSpaceless input := by
  rintro capsule theme hasChildren hcapsule _ ⟨⟩
  have hprops := lacks_props hcapsule
  have hname := lacks_stateName capsule.id (by decide : BracketFree "text")
  have hchange := lacks_change (.of_spelled rfl : Lacks spacerCall "onValueChange") hname
  have hlabel := lacks_textArgument (.of_spelled rfl : Lacks spacerCall "label")
    (lacks_textProp hprops ["label"] (.of_spelled rfl : Lacks spacerCall ""))
  have hplaceholder := lacks_textArgument (.of_spelled rfl : Lacks spacerCall "placeholder")
    (lacks_textProp hprops ["placeholder"] (.of_spelled rfl : Lacks spacerCall ""))
  exact .solid (occurrences_stack_of_lacks
    ⟨lacks_declaration hname (.of_spelled rfl), .of_spelled rfl,
      lacks_line (lacks_valueArgument hname) 1, lacks_line (lacks_comma hchange) 1,
      lacks_line (lacks_comma hlabel) 1, lacks_line (lacks_comma hplaceholder) 1,
      lacks_line (.of_spelled rfl) 1, .of_spelled rfl⟩)

theorem card_spaceless : RuleSpaceless card := by
  rintro capsule theme hasChildren hcapsule _ ⟨⟩
  refine .frame ?_ ?_ ?_
  · exact occurrences_stack_of_lacks ⟨.of_spelled rfl, lacks_line (.of_spelled rfl) 1⟩
  · change ∀ text ∈ cardTitle? capsule, _
    unfold cardTitle?
    dsimp only
    split_ifs
    · simp
    · rintro text ⟨⟩
      refine occurrences_of_lacks (lacks_styledText ?_ ?_)
      · exact lacks_textProp (lacks_props hcapsule) _ (.of_spelled rfl)
      · rintro style ⟨⟩
        exact .of_spelled rfl
  · exact occurrences_stack_of_lacks ⟨lacks_line (.of_spelled rfl) 1, .of_spelled rfl⟩

theorem list_spaceless : RuleSpaceless list := by
  rintro capsule theme hasChildren hcapsule _ ⟨⟩
  refine .solid (occurrences_stack_eq_zero
    ⟨occurrences_of_lacks (.of_spelled rfl), ?_, occurrences_of_lacks (.of_spelled rfl)⟩)
  refine (occurrences_indent isWord_spacer unit_blank 1 (listRows capsule)).trans ?_
  unfold listRows
  split
  · rename_i items hitems
    have hopening : ClosedBehind spacerCall "items(listOf(" := .of_spelled rfl
    have hquoted := lacks_quotedItems (lacks_props hcapsule) hitems
    exact occurrences_stack_of_lacks
      ⟨(hopening.fill hquoted (.of_spelled (by rfl))).1, lacks_listRow (.of_spelled rfl),
        .of_spelled rfl⟩
  · exact occurrences_stack_of_lacks ⟨.of_spelled rfl, lacks_listRow (by decide), .of_spelled rfl⟩

theorem progress_spaceless : RuleSpaceless progress := by
  intro capsule theme hasChildren hcapsule piece hpiece
  obtain ⟨value, -, hpiece⟩ := Steps.exists_of_bind_eq_ok hpiece
  have hvalue := lacks_of_bracketFree (isAtomic_fractionNumeral value).bracketFree
  have hblank : ClosedBehind spacerCall " " := .of_spelled rfl
  have hlabel : ClosedBehind spacerCall "progress = " := .of_spelled rfl
  have hargument := hlabel.append_lacks
    (lacks_braced (hblank.fill hvalue (.of_spelled rfl : ClosedAround spacerCall "f ")).1)
  dsimp only at hpiece
  split_ifs at hpiece
  · cases hpiece
    have hopening : ClosedBehind spacerCall "CircularProgressIndicator(" := .of_spelled rfl
    exact .solid (occurrences_of_lacks (hopening.fill hargument (.of_spelled (by rfl))).1)
  · cases hpiece
    exact .solid (occurrences_stack_of_lacks
      ⟨.of_spelled rfl, lacks_line (lacks_comma hargument) 1, lacks_line (.of_spelled rfl) 1,
        .of_spelled rfl⟩)

theorem switch_spaceless : RuleSpaceless switch := by
  rintro capsule theme hasChildren hcapsule _ ⟨⟩
  have hname := lacks_stateName capsule.id (by decide : BracketFree "checked")
  have hchecked (checked : Bool) : Lacks spacerCall (if checked then "true" else "false") := by
    cases checked <;> exact .of_spelled rfl
  have hstate : ClosedBehind spacerCall "mutableStateOf(" := .of_spelled rfl
  have hinitial := (hstate.fill (hchecked (boolProp capsule.props "checked" false))
    (.of_spelled rfl : ClosedAround spacerCall ")")).1
  have hlabel := lacks_plainText
    (lacks_textProp (lacks_props hcapsule) ["label"] (.of_spelled rfl : Lacks spacerCall ""))
  have hopening : ClosedBehind spacerCall "Switch(checked = " := .of_spelled rfl
  have hchange := lacks_change (.of_spelled rfl : Lacks spacerCall "onCheckedChange") hname
  have hcall := ((hopening.fill hname (.of_spelled rfl : ClosedAround spacerCall ", ")).fill hchange
    (.of_spelled rfl : ClosedAround spacerCall ")")).1
  -- The call in the row of the switch makes another space than the one between neighbours.
  exact .solid (occurrences_stack_eq_zero
    ⟨occurrences_of_lacks (lacks_declaration hname hinitial),
      occurrences_of_lacks (.of_spelled rfl), occurrences_of_lacks (lacks_line hlabel 1), by decide,
      occurrences_of_lacks (lacks_line hcall 1), occurrences_of_lacks (.of_spelled rfl)⟩)

theorem slider_spaceless : RuleSpaceless slider := by
  intro capsule theme hasChildren hcapsule piece hpiece
  obtain ⟨lowest, -, hpiece⟩ := Steps.exists_of_bind_eq_ok hpiece
  obtain ⟨highest, -, hpiece⟩ := Steps.exists_of_bind_eq_ok hpiece
  obtain ⟨value, -, hpiece⟩ := Steps.exists_of_bind_eq_ok hpiece
  cases hpiece
  have hname := lacks_stateName capsule.id (by decide : BracketFree "value")
  have hvalue := lacks_of_bracketFree (isAtomic_fractionNumeral value).bracketFree
  have hstate : ClosedBehind spacerCall "mutableFloatStateOf(" := .of_spelled rfl
  have hinitial := (hstate.fill hvalue (.of_spelled rfl : ClosedAround spacerCall "f)")).1
  have hchange := lacks_change (.of_spelled rfl : Lacks spacerCall "onValueChange") hname
  have hlowest := lacks_of_bracketFree (isAtomic_numeral lowest).bracketFree
  have hhighest := lacks_of_bracketFree (isAtomic_numeral highest).bracketFree
  have hlabel : ClosedBehind spacerCall "valueRange = " := .of_spelled rfl
  have hfront := hlabel.fill hlowest (.of_spelled rfl : ClosedAround spacerCall "f..")
  have hrange := (hfront.fill hhighest (.of_spelled rfl : ClosedAround spacerCall "f")).1
  exact .solid (occurrences_stack_of_lacks
    ⟨lacks_declaration hname hinitial, .of_spelled rfl, lacks_line (lacks_valueArgument hname) 1,
      lacks_line (lacks_comma hchange) 1, lacks_line hrange 1, .of_spelled rfl⟩)

theorem divider_spaceless : RuleSpaceless divider := by
  rintro capsule theme hasChildren hcapsule _ ⟨⟩
  exact .solid (occurrences_of_lacks (.of_spelled rfl))

theorem searchbar_spaceless : RuleSpaceless searchbar := by
  rintro capsule theme hasChildren hcapsule _ ⟨⟩
  have hname := lacks_stateName capsule.id (by decide : BracketFree "query")
  have hchange := lacks_change (.of_spelled rfl : Lacks spacerCall "onValueChange") hname
  have hplaceholder := lacks_textArgument (.of_spelled rfl : Lacks spacerCall "placeholder")
    (lacks_textProp (lacks_props hcapsule) ["placeholder"]
      (.of_spelled rfl : Lacks spacerCall "Search..."))
  have hargument : ClosedBehind spacerCall "leadingIcon = " := .of_spelled rfl
  have hicon := hargument.append_lacks (lacks_braced
    (.of_spelled rfl : Lacks spacerCall " Icon(Icons.Default.Search, \"Search\") "))
  exact .solid (occurrences_stack_of_lacks
    ⟨lacks_declaration hname (.of_spelled rfl), .of_spelled rfl,
      lacks_line (lacks_valueArgument hname) 1, lacks_line (lacks_comma hchange) 1,
      lacks_line (lacks_comma hplaceholder) 1, lacks_line (lacks_comma hicon) 1,
      lacks_line (.of_spelled rfl) 1, .of_spelled rfl⟩)

theorem chart_spaceless : RuleSpaceless chart := by
  rintro capsule theme hasChildren hcapsule _ ⟨⟩
  have htitle := lacks_plainText
    (lacks_textProp (lacks_props hcapsule) ["title"] (.of_spelled rfl : Lacks spacerCall "Chart"))
  exact .solid (occurrences_stack_of_lacks
    ⟨.of_spelled rfl, .of_spelled rfl, lacks_line (.of_spelled rfl) 1,
      lacks_line (.of_spelled rfl) 2, lacks_line (.of_spelled rfl) 2,
      lacks_line (.of_spelled rfl) 1, .of_spelled rfl, lacks_line htitle 1, .of_spelled rfl⟩)

/-- The rules for Android make pieces without spaces between neighbours. -/
theorem rules_spaceless : ∀ entry ∈ backend.rules, RuleSpaceless entry.2 := by
  simp only [backend, List.forall_mem_cons, List.not_mem_nil, false_implies, implies_true, and_true]
  exact ⟨button_spaceless, text_spaceless, input_spaceless, card_spaceless, list_spaceless,
    progress_spaceless, switch_spaceless, slider_spaceless, divider_spaceless, searchbar_spaceless,
    chart_spaceless⟩

theorem placeholder_spaceless {kind : String} (hkind : Lacks spacerCall kind) :
    IsSpaceless (.solid (placeholder kind)) := by
  have hcomment : ClosedBehind spacerCall "// TODO: " := .of_spelled rfl
  exact .solid (occurrences_stack_of_lacks ⟨hcomment.append_lacks hkind, lacks_plainText hkind⟩)

/-- The pieces for Android have no spaces between neighbours. -/
theorem piece_spaceless {theme : Theme} {capsule : Capsule} {hasChildren : Bool} {piece : Piece}
    (hcapsule : ∀ text ∈ capsule.texts, Lacks spacerCall text)
    (hpiece : backend.piece theme capsule hasChildren = .ok piece) : IsSpaceless piece := by
  unfold Backend.piece at hpiece
  cases hrule : backend.rule? capsule.kind with
  | some rule =>
    rw [hrule] at hpiece
    have hmem : (capsule.kind, rule) ∈ Platform.android.backend.rules :=
      Platform.mem_rules_of_rule? hrule
    exact rules_spaceless _ hmem capsule theme hasChildren hcapsule piece hpiece
  | none =>
    rw [hrule] at hpiece
    dsimp only at hpiece
    split_ifs at hpiece with hchildren hkind
    · cases hpiece
      exact .frame (occurrences_of_lacks (.of_spelled rfl)) (by simp [backend, container])
        (occurrences_of_lacks (.of_spelled rfl))
    · cases hpiece
      exact placeholder_spaceless (.of_spelled rfl)
    · cases hpiece
      exact placeholder_spaceless (hcapsule capsule.kind (by simp [Capsule.texts]))

end CapsuleLoom.Android
