import CapsuleLoom.Naming
import CapsuleLoom.Proofs.Text.Brackets
import CapsuleLoom.Proofs.Text.Case

/-!
# Brackets and names

Names in generated sources are made from texts of a project by case mappings and by leaving
characters out, so no bracket gets into them.

## Main results

* `upperChar_free`, `lowerChar_free` : case mappings make no brackets.
* `bracketFree_appIdentifier`, `bracketFree_typeName`, `bracketFree_stateName` : names.
-/

namespace CapsuleLoom

/-! ### Case mappings -/

/-- The brackets. -/
def bracketChars : List Char := bracketPairs.flatMap fun pair => [pair.1, pair.2]

/-- The code points of the brackets. -/
def bracketCodes : List Nat := bracketChars.map Char.toNat

theorem mem_bracketChars {c : Char} (hc : isBracket c = true) : c ∈ bracketChars := by
  obtain ⟨pair, hpair, hc⟩ := List.any_eq_true.mp hc
  exact List.mem_flatMap.mpr ⟨pair, hpair, by simpa using hc⟩

theorem isBracket_ofNat {code : Nat} (hcode : code ∉ bracketCodes) :
    isBracket (Char.ofNat code) = false := by
  by_contra hbracket
  have hmem := mem_bracketChars (Bool.not_eq_false _ ▸ hbracket)
  rcases Text.toNat_ofNat_or code with hcode' | hzero
  · exact hcode (hcode' ▸ List.mem_map_of_mem hmem)
  · rw [hzero] at hmem
    revert hmem
    decide

/-- Nothing is mapped to a bracket. -/
structure MapsFree (runs : List Text.CaseRun) (expansions : List (Nat × List Nat)) : Prop where
  /-- No run meets a bracket. -/
  runs : ∀ run ∈ runs, ∀ code ∈ bracketCodes,
    code < run.image ∨ run.image + (run.last - run.first) < code
  /-- No letter becomes a bracket among others. -/
  expansions : ∀ entry ∈ expansions, ∀ code ∈ entry.2, code ∉ bracketCodes

theorem MapsFree.mapCase {runs : List Text.CaseRun} {expansions : List (Nat × List Nat)}
    (hmaps : MapsFree runs expansions) {c : Char} (hc : isBracket c = false) :
    ∀ d ∈ Text.mapCase runs expansions c, isBracket d = false := by
  rcases Text.mapCase_cases runs expansions c with
    ⟨entry, hentry, hmap⟩ | ⟨run, hrun, code, himage, hmap⟩ | hmap <;> rw [hmap]
  · intro d hd
    obtain ⟨code, hcode, rfl⟩ := List.mem_map.mp hd
    exact isBracket_ofNat (hmaps.expansions entry hentry code hcode)
  · obtain ⟨hfirst, hlast, -, rfl⟩ := Text.CaseRun.image?_eq_some_iff.mp himage
    refine List.forall_mem_singleton.mpr (isBracket_ofNat fun hcode => ?_)
    rcases hmaps.runs run hrun _ hcode with hbelow | habove <;> omega
  · exact List.forall_mem_singleton.mpr hc

theorem upperChar_free {c : Char} (hc : isBracket c = false) :
    ∀ d ∈ Text.upperChar c, isBracket d = false :=
  MapsFree.mapCase ⟨by decide +kernel, by decide +kernel⟩ hc

theorem lowerChar_free {c : Char} (hc : isBracket c = false) :
    ∀ d ∈ Text.lowerChar c, isBracket d = false :=
  MapsFree.mapCase ⟨by decide +kernel, by decide +kernel⟩ hc

/-! ### Names -/

theorem capitalizeChars_free {cs : List Char} (hcs : ∀ c ∈ cs, isBracket c = false) :
    ∀ c ∈ Text.capitalizeChars cs, isBracket c = false := by
  cases cs with
  | nil => exact hcs
  | cons c cs =>
    obtain ⟨hc, hcs⟩ := List.forall_mem_cons.mp hcs
    exact List.forall_mem_append.mpr ⟨upperChar_free hc, hcs⟩

theorem uncapitalizeChars_free {cs : List Char} (hcs : ∀ c ∈ cs, isBracket c = false) :
    ∀ c ∈ uncapitalizeChars cs, isBracket c = false := by
  cases cs with
  | nil => exact hcs
  | cons c cs =>
    obtain ⟨hc, hcs⟩ := List.forall_mem_cons.mp hcs
    exact List.forall_mem_append.mpr ⟨lowerChar_free hc, hcs⟩

theorem bracketFree_appIdentifier {projectName : String} (hname : BracketFree projectName) :
    BracketFree (appIdentifier projectName) := by
  rw [BracketFree, appIdentifier, String.toList_ofList]
  exact capitalizeChars_free fun c hc => hname c (List.mem_of_mem_filter hc)

theorem bracketFree_typeName {id? : Option String} (hid : ∀ id ∈ id?, BracketFree id)
    {suffix default : String} (hsuffix : BracketFree suffix) (hdefault : BracketFree default) :
    BracketFree (typeName id? suffix default) := by
  have hbase : BracketFree (if (id?.getD "").isEmpty then default else id?.getD "") := by
    split_ifs
    · exact hdefault
    · cases id? with
      | none => exact (by decide)
      | some id => exact hid id rfl
  rw [BracketFree, typeName, String.toList_append, Text.capitalize, String.toList_ofList]
  exact List.forall_mem_append.mpr ⟨capitalizeChars_free hbase, hsuffix⟩

theorem isBracket_of_isWordChar {c : Char} (hc : isWordChar c = true) : isBracket c = false := by
  have hnone : ∀ bracket ∈ bracketChars, isWordChar bracket = false := by decide
  by_contra hbracket
  rw [hnone c (mem_bracketChars (by simpa using hbracket))] at hc
  cases hc

/-- Words are made of letters and digits. -/
theorem splitWords_free (cs : List Char) :
    ∀ word ∈ splitWords cs, ∀ c ∈ word, isBracket c = false := by
  have hall : ∀ word ∈ cs.foldr prependToWords [], ∀ c ∈ word, isBracket c = false := by
    induction cs with
    | nil => simp
    | cons c cs ih =>
      rw [List.foldr_cons, prependToWords.eq_def]
      generalize cs.foldr prependToWords [] = words at ih
      split_ifs with hc
      · have hfree := isBracket_of_isWordChar hc
        cases words with
        | nil => simpa using hfree
        | cons word words =>
          obtain ⟨hword, hwords⟩ := List.forall_mem_cons.mp ih
          exact List.forall_mem_cons.mpr ⟨List.forall_mem_cons.mpr ⟨hfree, hword⟩, hwords⟩
      · simpa using ih
  exact fun word hword => hall word (List.mem_of_mem_filter hword)

theorem bracketFree_stateName (id : String) {suffix : String} (hsuffix : BracketFree suffix) :
    BracketFree (stateName id suffix) := by
  have hwords := splitWords_free id.toList
  unfold stateName
  split
  · exact hsuffix
  · rename_i first rest hsplit
    rw [hsplit] at hwords
    obtain ⟨hfirst, hrest⟩ := List.forall_mem_cons.mp hwords
    split_ifs
    · exact hsuffix
    · rw [BracketFree, String.toList_ofList]
      refine List.forall_mem_append.mpr ⟨List.forall_mem_append.mpr
        ⟨uncapitalizeChars_free hfirst, ?_⟩, capitalizeChars_free hsuffix⟩
      intro c hc
      obtain ⟨word, hword, hc⟩ := List.mem_flatMap.mp hc
      exact capitalizeChars_free (hrest word hword) c hc

end CapsuleLoom
