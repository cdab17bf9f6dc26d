import Mathlib.Data.List.TakeDrop
import Mathlib.Data.List.TakeWhile

/-!
# Fronts of texts

A reader goes through characters of some class at the front of a text.  Whether all characters of
a text are in a class is decided by a look at these characters.

## Main definitions

* `Passes` : a text without some characters of a class at its front.

## Main results

* `Passes.of_append_cons` : a character outside of the class ends the front.
* `intercalate_cons` : the first of some parts with separators between them.
-/

namespace CapsuleLoom

/-- Only the characters of the list are tried, and not the whole alphabet. -/
instance (priority := 1100) decidableForallChar (p : Char → Prop) [DecidablePred p]
    (cs : List Char) : Decidable (∀ c ∈ cs, p c) :=
  List.decidableBAll p cs

/-- Characters of a class, and nothing else, stand in front of `rest`. -/
def Passes (p : Char → Prop) (cs rest : List Char) : Prop :=
  ∃ used, cs = used ++ rest ∧ ∀ c ∈ used, p c

variable {p q : Char → Prop} {c : Char} {cs rest front back : List Char}

theorem Passes.refl (cs : List Char) : Passes p cs cs := ⟨[], rfl, by simp⟩

theorem Passes.trans {middle : List Char} (hfirst : Passes p cs middle)
    (hsecond : Passes p middle rest) : Passes p cs rest := by
  obtain ⟨first, rfl, hfirst⟩ := hfirst
  obtain ⟨second, rfl, hsecond⟩ := hsecond
  refine ⟨first ++ second, (List.append_assoc ..).symm, fun c hc => ?_⟩
  exact (List.mem_append.mp hc).elim (hfirst c) (hsecond c)

theorem Passes.cons (hc : p c) (hpasses : Passes p cs rest) : Passes p (c :: cs) rest :=
  Passes.trans ⟨[c], rfl, by simpa using hc⟩ hpasses

theorem Passes.mono (hpasses : Passes p cs rest) (himp : ∀ c, p c → q c) : Passes q cs rest := by
  obtain ⟨used, rfl, hused⟩ := hpasses
  exact ⟨used, rfl, fun c hc => himp c (hused c hc)⟩

theorem passes_dropWhile (p : Char → Bool) (cs : List Char) :
    Passes (fun c => p c = true) cs (cs.dropWhile p) :=
  ⟨cs.takeWhile p, List.takeWhile_append_dropWhile.symm, fun _ hc => List.mem_takeWhile_imp hc⟩

/-- A character that does not occur in a front of a text stands behind that front. -/
theorem exists_left_of_append_eq {used : List Char} (heq : used ++ rest = front ++ c :: back)
    (hc : c ∉ used) : ∃ left, front = used ++ left ∧ rest = left ++ c :: back := by
  rcases List.append_eq_append_iff.mp heq with ⟨left, hfront, hrest⟩ | ⟨skipped, rfl, hback⟩
  · exact ⟨left, hfront, hrest⟩
  · cases skipped with
    | nil => exact ⟨[], by simp, by simpa using hback.symm⟩
    | cons d skipped =>
      obtain ⟨rfl, -⟩ := List.cons.inj hback
      exact absurd (by simp) hc

/-- A character outside of the class is not passed. -/
theorem Passes.of_append_cons (hpasses : Passes p (front ++ c :: back) rest) (hc : ¬ p c) :
    ∃ left, left <:+ front ∧ rest = left ++ c :: back := by
  obtain ⟨used, heq, hused⟩ := hpasses
  obtain ⟨left, rfl, hrest⟩ := exists_left_of_append_eq heq.symm fun hmem => hc (hused c hmem)
  exact ⟨left, List.suffix_append used left, hrest⟩

theorem intercalate_cons {α : Type} (separator group : List α) (groups : List (List α)) :
    separator.intercalate (group :: groups) = group ++ groups.flatMap (separator ++ ·) := by
  induction groups generalizing group with
  | nil => rw [List.intercalate_singleton, List.flatMap_nil, List.append_nil]
  | cons next groups ih =>
    rw [List.intercalate_cons_cons, ih, List.flatMap_cons]
    simp only [List.append_assoc]

end CapsuleLoom
