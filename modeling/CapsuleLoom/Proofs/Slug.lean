import CapsuleLoom.Naming
import Mathlib.Data.List.Basic
import Mathlib.Tactic.Common

/-!
# Slugs

The identifiers of screens are slugs: a small letter, and behind it small letters, digits and
hyphens.  A slug begins with a capital letter as soon as a name is made from it, and different
slugs still give different names.

## Main definitions

* `isSlug` : whether a text is a slug.

## Main results

* `forall_basicChar`, `forall_slugChar` : facts about the characters of slugs, by checking codes.
* `toList_capitalize_slug` : a slug with a capital letter in front.
* `capitalize_inj_of_isSlug` : different slugs stay different.
-/

namespace CapsuleLoom

/-- A character of a slug behind the first one. -/
def isSlugChar (c : Char) : Bool := c.isLower || c.isDigit || c = '-'

/-- A small letter, and behind it small letters, digits and hyphens. -/
def isSlug (id : String) : Bool :=
  match id.toList with
  | [] => false
  | first :: rest => first.isLower && rest.all isSlugChar

/-- The capital letter of a small letter of the basic character set. -/
def basicCapital (c : Char) : Char := Char.ofNat (c.toNat - 32)

theorem toNat_of_isLower {c : Char} (hc : c.isLower = true) :
    97 ≤ c.toNat ∧ c.toNat ≤ 122 := by
  obtain ⟨hfirst, hlast⟩ := Bool.and_eq_true_iff.mp hc
  exact ⟨UInt32.le_iff_toNat_le.mp (of_decide_eq_true hfirst),
    UInt32.le_iff_toNat_le.mp (of_decide_eq_true hlast)⟩

/-- What is checked for all codes of the basic character set holds for its characters. -/
theorem forall_basicChar {P : Char → Prop} (hall : ∀ code < 128, P (Char.ofNat code)) {c : Char}
    (hc : c.toNat < 128) : P c := by
  rw [← Char.ofNat_toNat c]
  exact hall c.toNat hc

theorem isAlphanum_of_isAlpha {c : Char} (hc : c.isAlpha = true) : c.isAlphanum = true :=
  Bool.or_eq_true_iff.mpr (.inl hc)

theorem isAlphanum_of_isDigit {c : Char} (hc : c.isDigit = true) : c.isAlphanum = true :=
  Bool.or_eq_true_iff.mpr (.inr hc)

theorem isAlpha_of_isLower {c : Char} (hc : c.isLower = true) : c.isAlpha = true :=
  Bool.or_eq_true_iff.mpr (.inr hc)

theorem toNat_lt_of_isAlphanum {c : Char} (hc : c.isAlphanum = true) : c.toNat < 128 := by
  rcases Bool.or_eq_true_iff.mp hc with hletter | hdigit
  · rcases Bool.or_eq_true_iff.mp hletter with hupper | hlower
    · have hlast : c.toNat ≤ 90 := UInt32.le_iff_toNat_le.mp (of_decide_eq_true hupper).2
      omega
    · have hlast := (toNat_of_isLower hlower).2
      omega
  · have hlast : c.toNat ≤ 57 :=
      UInt32.le_iff_toNat_le.mp (of_decide_eq_true (Bool.and_eq_true_iff.mp hdigit).2)
    omega

/-- A slug has characters of the basic set only. -/
theorem forall_slugChar {P : Char → Prop}
    (hall : ∀ code < 128, isSlugChar (Char.ofNat code) = true → P (Char.ofNat code)) {c : Char}
    (hc : isSlugChar c = true) : P c := by
  have hcode : c.toNat < 128 := by
    simp only [isSlugChar, Bool.or_eq_true, decide_eq_true_eq] at hc
    rcases hc with (hlower | hdigit) | rfl
    · exact toNat_lt_of_isAlphanum (isAlphanum_of_isAlpha (isAlpha_of_isLower hlower))
    · exact toNat_lt_of_isAlphanum (isAlphanum_of_isDigit hdigit)
    · decide
  exact forall_basicChar (P := fun c => isSlugChar c = true → P c) hall hcode hc

theorem isSlugChar_of_isLower {c : Char} (hc : c.isLower = true) : isSlugChar c = true := by
  rw [isSlugChar, hc, Bool.true_or, Bool.true_or]

theorem upperChar_of_isLower {c : Char} (hc : c.isLower = true) :
    Text.upperChar c = [basicCapital c] :=
  forall_slugChar (P := fun c => c.isLower = true → Text.upperChar c = [basicCapital c])
    (by decide +kernel) (isSlugChar_of_isLower hc) hc

theorem basicCapital_inj {c d : Char} (hc : c.isLower = true) (hd : d.isLower = true)
    (heq : basicCapital c = basicCapital d) : c = d := by
  obtain ⟨hcfirst, hclast⟩ := toNat_of_isLower hc
  obtain ⟨hdfirst, hdlast⟩ := toNat_of_isLower hd
  have hcodes : ∀ code < 128, (Char.ofNat code).toNat = code := by decide
  have hcode := congrArg Char.toNat heq
  rw [basicCapital, basicCapital, hcodes _ (by omega), hcodes _ (by omega)] at hcode
  rw [← Char.ofNat_toNat c, ← Char.ofNat_toNat d, show c.toNat = d.toNat by omega]

/-- A slug begins with a small letter. -/
theorem exists_of_isSlug {id : String} (hid : isSlug id = true) :
    ∃ first rest, id.toList = first :: rest ∧ first.isLower = true ∧
      ∀ c ∈ rest, isSlugChar c = true := by
  unfold isSlug at hid
  split at hid
  · cases hid
  · rename_i first rest hsplit
    rw [Bool.and_eq_true, List.all_eq_true] at hid
    exact ⟨first, rest, hsplit, hid.1, hid.2⟩

theorem isSlugChar_of_isSlug {id : String} (hid : isSlug id = true) :
    ∀ c ∈ id.toList, isSlugChar c = true := by
  obtain ⟨first, rest, hsplit, hfirst, hrest⟩ := exists_of_isSlug hid
  rw [hsplit]
  exact List.forall_mem_cons.mpr ⟨isSlugChar_of_isLower hfirst, hrest⟩

theorem isEmpty_of_isSlug {id : String} (hid : isSlug id = true) : id.isEmpty = false := by
  obtain ⟨first, rest, hsplit, -⟩ := exists_of_isSlug hid
  rw [Bool.eq_false_iff]
  intro hempty
  rw [String.isEmpty_iff.mp hempty] at hsplit
  cases hsplit

/-- A slug with a capital letter in front. -/
theorem toList_capitalize_slug {id : String} {first : Char} {rest : List Char}
    (hsplit : id.toList = first :: rest) (hfirst : first.isLower = true) :
    (Text.capitalize id).toList = basicCapital first :: rest := by
  rw [Text.capitalize, String.toList_ofList, hsplit, Text.capitalizeChars,
    upperChar_of_isLower hfirst, List.singleton_append]

/-- Different slugs stay different with a capital letter in front. -/
theorem capitalize_inj_of_isSlug {id other : String} (hid : isSlug id = true)
    (hother : isSlug other = true) (heq : Text.capitalize id = Text.capitalize other) :
    id = other := by
  obtain ⟨first, rest, hsplit, hfirst, -⟩ := exists_of_isSlug hid
  obtain ⟨first', rest', hsplit', hfirst', -⟩ := exists_of_isSlug hother
  have hlists := congrArg String.toList heq
  rw [toList_capitalize_slug hsplit hfirst, toList_capitalize_slug hsplit' hfirst'] at hlists
  obtain ⟨hcapital, rfl⟩ := List.cons.inj hlists
  rw [← String.toList_inj, hsplit, hsplit', basicCapital_inj hfirst hfirst' hcapital]

/-- The name of a type is made from a slug itself. -/
theorem typeName_of_isSlug {id : String} (hid : isSlug id = true) (suffix default : String) :
    typeName (some id) suffix default = Text.capitalize id ++ suffix := by
  rw [typeName, Option.getD_some, isEmpty_of_isSlug hid]
  rfl

end CapsuleLoom
