import CapsuleLoom.Proofs.Capsule.Unfolding
import Mathlib.Data.List.Lex

/-!
# Places in order

The routes from a root are ordered from the root down, and the ways through siblings from the
first to the last.  This is the lexicographic order of routes.  A list of what is still to come
enumerates the places in this order: the first of them is replaced by the places below it.  The
enumeration does not need the outline to unfold into a tree, so that it goes round and round in a
circle.

## Main definitions

* `Outline.upTo` : the routes up to a route, which number it.
* `Occurrence` : a place at the end of a route, with the places above it.
* `Outline.pending` : the occurrences that are still to come.

## Main results

* `Outline.isOccurrence_of_mem_pending` : what is enumerated.
* `Outline.mem_past_pending_iff` : what was enumerated are the routes before the next one.
* `Outline.ncard_upTo` : the number of the next route.
-/

namespace CapsuleLoom

variable {κ : Type}

theorem le_of_isPrefix {front route : List Nat} (hfront : front <+: route) : front ≤ route := by
  obtain ⟨back, rfl⟩ := hfront
  cases back with
  | nil => rw [List.append_nil]
  | cons position back =>
    have hlt : front ++ [] < front ++ position :: back := List.Lex.append_left _ .nil front
    rw [List.append_nil] at hlt
    exact hlt.le

/-! ### Occurrences -/

/-- A place at the end of a route. -/
structure Occurrence (κ : Type) where
  /-- The route from the root. -/
  route : List Nat
  /-- The place. -/
  place : κ
  /-- The places on the route in front of this one, the nearest first. -/
  above : List κ

/-- All routes through the first occurrence come before the second one. -/
def Occurrence.Precedes (first second : Occurrence κ) : Prop :=
  ∀ more, first.route ++ more < second.route

theorem Occurrence.Precedes.lt {first second : Occurrence κ} (hprecedes : first.Precedes second) :
    first.route < second.route := by
  simpa using hprecedes []

namespace Outline

variable (outline : Outline κ)

/-- The routes that come before a route, and the route itself. -/
def upTo (root : κ) (route : List Nat) : Set (List Nat) :=
  {other ∈ outline.routes root | other ≤ route}

/-- The occurrences directly below an occurrence, in order. -/
def below (occurrence : Occurrence κ) : List (Occurrence κ) :=
  (outline.children occurrence.place).zipIdx.map fun entry =>
    ⟨occurrence.route ++ [entry.2], entry.1, occurrence.place :: occurrence.above⟩

/-- Takes the first occurrence out and puts the occurrences below it in its place. -/
def advance : List (Occurrence κ) → List (Occurrence κ)
  | [] => []
  | first :: rest => outline.below first ++ rest

/-- What is still to come after so many occurrences: the topmost of the occurrences to come, with
which those below them come too. -/
def pending (root : κ) : Nat → List (Occurrence κ)
  | 0 => [⟨[], root, []⟩]
  | count + 1 => outline.advance (pending root count)

/-- The routes that do not lead through what is still to come. -/
def past (root : κ) (occurrences : List (Occurrence κ)) : Set (List Nat) :=
  {route ∈ outline.routes root | ∀ occurrence ∈ occurrences, ¬ occurrence.route <+: route}

/-- An occurrence tells the truth about its place and the places above it. -/
structure IsOccurrence (root : κ) (occurrence : Occurrence κ) : Prop where
  /-- The route leads to the place. -/
  follow_eq : outline.follow root occurrence.route = some occurrence.place
  /-- The places above are those at the end of shorter parts of the route. -/
  mem_above_iff : ∀ place, place ∈ occurrence.above ↔
    ∃ front, front <+: occurrence.route ∧ front ≠ occurrence.route ∧
      outline.follow root front = some place
  /-- There is one place above for each step of the route. -/
  length_above : occurrence.above.length = occurrence.route.length

variable {outline} {root : κ} {occurrence first : Occurrence κ} {rest : List (Occurrence κ)}
  {count : Nat}

theorem follow_append (place : κ) (front back : List Nat) :
    outline.follow place (front ++ back) =
      (outline.follow place front).bind fun middle => outline.follow middle back := by
  induction front generalizing place with
  | nil => rfl
  | cons position front ih =>
    rw [List.cons_append, follow, follow, Option.bind_assoc]
    exact congrArg _ (funext fun child => ih child)

theorem map_place_below (occurrence : Occurrence κ) :
    (outline.below occurrence).map Occurrence.place = outline.children occurrence.place := by
  rw [below, List.map_map]
  exact List.zipIdx_map_fst 0 _

theorem mem_below_iff {child : Occurrence κ} :
    child ∈ outline.below occurrence ↔
      ∃ position, (outline.children occurrence.place)[position]? = some child.place ∧
        child.route = occurrence.route ++ [position] ∧
        child.above = occurrence.place :: occurrence.above := by
  rw [below, List.mem_map]
  constructor
  · rintro ⟨⟨place, position⟩, hmem, rfl⟩
    exact ⟨position, List.mk_mem_zipIdx_iff_getElem?.mp hmem, rfl, rfl⟩
  · obtain ⟨route, place, above⟩ := child
    rintro ⟨position, hplace, rfl, rfl⟩
    exact ⟨(place, position), List.mk_mem_zipIdx_iff_getElem?.mpr hplace, rfl⟩

theorem IsOccurrence.of_mem_below (hoccurrence : outline.IsOccurrence root occurrence)
    {child : Occurrence κ} (hchild : child ∈ outline.below occurrence) :
    outline.IsOccurrence root child := by
  obtain ⟨position, hplace, hroute, habove⟩ := mem_below_iff.mp hchild
  refine ⟨?_, fun place => ?_, ?_⟩
  · rw [hroute, follow_append, hoccurrence.follow_eq, Option.bind_some, follow, hplace]
    rfl
  · -- The parts of the longer route are the parts of the shorter one, and the shorter one itself.
    rw [habove, List.mem_cons, hoccurrence.mem_above_iff, hroute]
    constructor
    · rintro (rfl | ⟨front, hfront, hne, hfollow⟩)
      · exact ⟨occurrence.route, List.prefix_append _ _, by simp, hoccurrence.follow_eq⟩
      · refine ⟨front, hfront.trans (List.prefix_append _ _), fun heq => ?_, hfollow⟩
        have hlength := hfront.length_le
        rw [heq, List.length_append, List.length_singleton] at hlength
        omega
    · rintro ⟨front, hfront, hne, hfollow⟩
      rcases List.prefix_concat_iff.mp hfront with heq | hfront
      · exact absurd heq hne
      · by_cases heq : front = occurrence.route
        · rw [heq, hoccurrence.follow_eq] at hfollow
          exact .inl (Option.some.inj hfollow).symm
        · exact .inr ⟨front, hfront, heq, hfollow⟩
  · rw [habove, hroute, List.length_cons, List.length_append, hoccurrence.length_above,
      List.length_singleton]

/-- Everything that is enumerated is an occurrence. -/
theorem isOccurrence_of_mem_pending (hmem : occurrence ∈ outline.pending root count) :
    outline.IsOccurrence root occurrence := by
  induction count generalizing occurrence with
  | zero =>
    rw [List.mem_singleton.mp hmem]
    exact ⟨rfl, by simp, rfl⟩
  | succ count ih =>
    rw [pending] at hmem
    cases hpending : outline.pending root count with
    | nil => simp [hpending, advance] at hmem
    | cons first rest =>
      rw [hpending, advance, List.mem_append] at hmem
      rw [hpending] at ih
      rcases hmem with hbelow | hrest
      · exact (ih List.mem_cons_self).of_mem_below hbelow
      · exact ih (List.mem_cons_of_mem _ hrest)

/-! ### The order of the enumeration -/

theorem pairwise_below (occurrence : Occurrence κ) :
    (outline.below occurrence).Pairwise Occurrence.Precedes := by
  have hpositions : ((outline.children occurrence.place).zipIdx.map Prod.snd).Pairwise (· < ·) := by
    rw [List.zipIdx_map_snd]
    exact List.pairwise_lt_range'
  rw [below, List.pairwise_map]
  refine (List.pairwise_map.mp hpositions).imp fun {left right} hlt more => ?_
  change occurrence.route ++ [left.2] ++ more < occurrence.route ++ [right.2]
  rw [List.append_assoc]
  exact List.Lex.append_left _ (.rel hlt) _

/-- What is still to come stands in order. -/
theorem pairwise_pending (outline : Outline κ) (root : κ) (count : Nat) :
    (outline.pending root count).Pairwise Occurrence.Precedes := by
  induction count with
  | zero => exact List.pairwise_singleton _ _
  | succ count ih =>
    rw [pending]
    cases hpending : outline.pending root count with
    | nil => exact .nil
    | cons first rest =>
      rw [hpending] at ih
      obtain ⟨hfirst, hrest⟩ := List.pairwise_cons.mp ih
      refine List.pairwise_append.mpr ⟨pairwise_below first, hrest, ?_⟩
      intro child hchild other hother more
      obtain ⟨position, -, hroute, -⟩ := mem_below_iff.mp hchild
      rw [hroute, List.append_assoc]
      exact hfirst other hother _

/-- When the first occurrence is taken out, its route is past, and no other one. -/
theorem past_advance (hfirst : outline.IsOccurrence root first)
    (hpairwise : (first :: rest).Pairwise Occurrence.Precedes) :
    outline.past root (outline.below first ++ rest) =
      insert first.route (outline.past root (first :: rest)) := by
  obtain ⟨hbefore, -⟩ := List.pairwise_cons.mp hpairwise
  ext route
  rw [Set.mem_insert_iff]
  constructor
  · rintro ⟨hroute, hfree⟩
    obtain ⟨hbelow, hrest⟩ := List.forall_mem_append.mp hfree
    by_cases hthrough : first.route <+: route
    · obtain ⟨_ | ⟨position, back⟩, rfl⟩ := hthrough
      · exact .inl (List.append_nil _)
      · -- A route that goes on behind the first occurrence goes through one below it.
        have hback : position :: back ∈ outline.routes first.place := by
          rw [routes, Set.mem_ofPred_eq, follow_append, hfirst.follow_eq] at hroute
          exact hroute
        obtain ⟨place, hplace, -⟩ := cons_mem_routes_iff.mp hback
        have hchild : ⟨first.route ++ [position], place, first.place :: first.above⟩ ∈
            outline.below first := mem_below_iff.mpr ⟨position, hplace, rfl, rfl⟩
        refine absurd ?_ (hbelow _ hchild)
        exact ⟨back, by rw [List.append_assoc]; rfl⟩
    · exact .inr ⟨hroute, List.forall_mem_cons.mpr ⟨hthrough, hrest⟩⟩
  · rintro (rfl | ⟨hroute, hfree⟩)
    · refine ⟨?_, List.forall_mem_append.mpr ⟨fun child hchild hprefix => ?_, ?_⟩⟩
      · rw [routes, Set.mem_ofPred_eq, hfirst.follow_eq]
        rfl
      · obtain ⟨position, -, hroute, -⟩ := mem_below_iff.mp hchild
        have hlength := hprefix.length_le
        rw [hroute, List.length_append, List.length_singleton] at hlength
        omega
      · exact fun other hother hprefix =>
          absurd (le_of_isPrefix hprefix) (not_le.mpr (hbefore other hother).lt)
    · obtain ⟨hfirst, hrest⟩ := List.forall_mem_cons.mp hfree
      refine ⟨hroute, List.forall_mem_append.mpr ⟨fun child hchild hprefix => ?_, hrest⟩⟩
      obtain ⟨position, -, hchildRoute, -⟩ := mem_below_iff.mp hchild
      rw [hchildRoute] at hprefix
      exact hfirst ((List.prefix_append _ _).trans hprefix)

/-- One more route is past after each step. -/
theorem past_pending_succ (hpending : outline.pending root count = first :: rest) :
    outline.past root (outline.pending root (count + 1)) =
      insert first.route (outline.past root (outline.pending root count)) := by
  have hpairwise := outline.pairwise_pending root count
  rw [hpending] at hpairwise
  rw [pending, hpending]
  exact past_advance (isOccurrence_of_mem_pending (hpending ▸ List.mem_cons_self)) hpairwise

theorem pending_succ_of_nil (hpending : outline.pending root count = []) :
    outline.pending root (count + 1) = [] := by
  rw [pending, hpending, advance]

theorem past_pending_zero (outline : Outline κ) (root : κ) :
    outline.past root (outline.pending root 0) = ∅ := by
  ext route
  simp [past, pending]

/-- What is past was enumerated before. -/
theorem exists_pending_of_mem_past {route : List Nat}
    (hroute : route ∈ outline.past root (outline.pending root count)) :
    ∃ earlier < count, ∃ first rest, outline.pending root earlier = first :: rest ∧
      first.route = route := by
  induction count with
  | zero =>
    rw [past_pending_zero] at hroute
    cases hroute
  | succ count ih =>
    cases hpending : outline.pending root count with
    | nil =>
      rw [pending_succ_of_nil hpending, ← hpending] at hroute
      obtain ⟨earlier, hlt, hearlier⟩ := ih hroute
      exact ⟨earlier, by omega, hearlier⟩
    | cons first rest =>
      rw [past_pending_succ hpending] at hroute
      rcases hroute with rfl | hroute
      · exact ⟨count, by omega, first, rest, hpending, rfl⟩
      · obtain ⟨earlier, hlt, hearlier⟩ := ih hroute
        exact ⟨earlier, by omega, hearlier⟩

/-- What is past comes before everything that is still to come. -/
theorem lt_of_mem_past {route : List Nat}
    (hroute : route ∈ outline.past root (outline.pending root count))
    (hmem : occurrence ∈ outline.pending root count) : route < occurrence.route := by
  induction count generalizing route occurrence with
  | zero =>
    rw [past_pending_zero] at hroute
    cases hroute
  | succ count ih =>
    cases hpending : outline.pending root count with
    | nil =>
      rw [pending_succ_of_nil hpending] at hmem
      cases hmem
    | cons first rest =>
      have hpairwise := outline.pairwise_pending root count
      rw [hpending] at ih hpairwise
      obtain ⟨hbefore, -⟩ := List.pairwise_cons.mp hpairwise
      -- The occurrences below the first one come behind it.
      have hfirst : first.route < occurrence.route ∧
          (route ∈ outline.past root (first :: rest) → route < occurrence.route) := by
        rw [pending, hpending, advance, List.mem_append] at hmem
        rcases hmem with hbelow | hrest
        · obtain ⟨position, -, hchild, -⟩ := mem_below_iff.mp hbelow
          have hlt : first.route < occurrence.route := by
            rw [hchild]
            refine lt_of_le_of_ne (le_of_isPrefix (List.prefix_append _ _)) fun heq => ?_
            simp at heq
          exact ⟨hlt, fun hpast => (ih hpast List.mem_cons_self).trans hlt⟩
        · exact ⟨(hbefore _ hrest).lt, fun hpast => ih hpast (List.mem_cons_of_mem _ hrest)⟩
      rw [past_pending_succ hpending, hpending] at hroute
      rcases hroute with rfl | hroute
      · exact hfirst.1
      · exact hfirst.2 hroute

/-- What was enumerated are the routes before the next one. -/
theorem mem_past_pending_iff (hpending : outline.pending root count = first :: rest)
    {route : List Nat} :
    route ∈ outline.past root (outline.pending root count) ↔
      route ∈ outline.routes root ∧ route < first.route := by
  constructor
  · intro hroute
    exact ⟨hroute.1, lt_of_mem_past hroute (hpending ▸ List.mem_cons_self)⟩
  · rintro ⟨hroute, hlt⟩
    have hpairwise := outline.pairwise_pending root count
    rw [hpending] at hpairwise ⊢
    obtain ⟨hbefore, -⟩ := List.pairwise_cons.mp hpairwise
    refine ⟨hroute, List.forall_mem_cons.mpr ⟨fun hprefix => ?_, fun other hother hprefix => ?_⟩⟩
    · exact absurd (le_of_isPrefix hprefix) (not_le.mpr hlt)
    · have hle := le_of_isPrefix hprefix
      exact absurd (hlt.trans (hbefore other hother).lt) (not_lt.mpr hle)

/-- As many routes are past as were enumerated. -/
theorem ncard_past_pending_succ (hpending : outline.pending root count = first :: rest) :
    (outline.past root (outline.pending root (count + 1))).Finite ∧
      (outline.past root (outline.pending root (count + 1))).ncard = count + 1 := by
  induction count generalizing first rest with
  | zero =>
    rw [past_pending_succ hpending, past_pending_zero, insert_empty_eq]
    exact ⟨Set.finite_singleton _, Set.ncard_singleton _⟩
  | succ count ih =>
    have hnew : first.route ∉ outline.past root (outline.pending root (count + 1)) := fun hpast =>
      lt_irrefl _ (lt_of_mem_past hpast (hpending ▸ List.mem_cons_self))
    cases hearlier : outline.pending root count with
    | nil => simp [pending_succ_of_nil hearlier] at hpending
    | cons earlier others =>
      obtain ⟨hfinite, hcount⟩ := ih hearlier
      rw [past_pending_succ hpending, Set.ncard_insert_of_notMem hnew hfinite, hcount]
      exact ⟨hfinite.insert _, rfl⟩

/-- The number of the next route is one more than the count of those that were enumerated. -/
theorem ncard_upTo (hpending : outline.pending root count = first :: rest) :
    (outline.upTo root first.route).Finite ∧
      (outline.upTo root first.route).ncard = count + 1 := by
  have hfirst : outline.IsOccurrence root first :=
    isOccurrence_of_mem_pending (hpending ▸ List.mem_cons_self)
  have hmem : first.route ∈ outline.routes root := by
    rw [routes, Set.mem_ofPred_eq, hfirst.follow_eq]
    rfl
  have hupTo : outline.upTo root first.route =
      outline.past root (outline.pending root (count + 1)) := by
    ext route
    rw [past_pending_succ hpending, Set.mem_insert_iff, mem_past_pending_iff hpending, upTo,
      Set.mem_sep_iff, le_iff_lt_or_eq]
    constructor
    · rintro ⟨hroute, hlt | rfl⟩
      · exact .inr ⟨hroute, hlt⟩
      · exact .inl rfl
    · rintro (rfl | ⟨hroute, hlt⟩)
      · exact ⟨hmem, .inr rfl⟩
      · exact ⟨hroute, .inl hlt⟩
  rw [hupTo]
  exact ncard_past_pending_succ hpending

end Outline

end CapsuleLoom
