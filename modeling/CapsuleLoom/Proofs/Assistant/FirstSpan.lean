import CapsuleLoom.Proofs.Assistant.Reply
import Mathlib.Data.List.Induction

/-!
# The first span with balanced braces

The scan for braces goes through a text once, with a mode and a count of open braces.  What it
looks for can be said without it.  A text consists of characters and of quoted texts, of which the
last one may have no end, and it is balanced if as many braces open as close outside of the quoted
texts.  The scan finds the shortest balanced text that begins with the first opening brace, and it
finds nothing only if there is none.  The braces of this text are also nested.

## Main definitions

* `Outside` : what stands outside of the quoted texts.
* `BalancedBraces` : as many braces open as close.
* `IsFirstSpan` : the shortest balanced text from the first opening brace on.

## Main results

* `outside_iff` : what the modes of the scan tell about quoted texts.
* `scanSpan_eq_some_iff`, `scanSpan_eq_none_iff` : where the scan ends.
* `FirstCloses.exists_braced` : braces that are counted are nested.
* `firstObject?_shortest` : what the first span of a text is.
-/

namespace CapsuleLoom

/-! ### Outside of quoted texts -/

/-- What stands behind the quote of a quoted text that does not end. -/
inductive UnendedBody : List Char → Prop
  /-- There may be anything that a quoted text holds. -/
  | body {cs : List Char} (hbody : QuotedBody cs) : UnendedBody cs
  /-- A backslash has nothing to take along. -/
  | slash {cs : List Char} (hbody : QuotedBody cs) : UnendedBody (cs ++ ['\\'])

/-- What stands outside of the quoted texts of a text. -/
inductive Outside : (cs outside : List Char) → Prop
  /-- There is nothing. -/
  | nil : Outside [] []
  /-- A character that is no quote. -/
  | plain {c : Char} {cs outside : List Char} (hquote : c ≠ '"') (hrest : Outside cs outside) :
      Outside (c :: cs) (c :: outside)
  /-- A quoted text. -/
  | quoted {body cs outside : List Char} (hbody : QuotedBody body) (hrest : Outside cs outside) :
      Outside ('"' :: (body ++ '"' :: cs)) outside
  /-- A quoted text that does not end. -/
  | unended {body : List Char} (hbody : UnendedBody body) : Outside ('"' :: body) []

/-- As many braces open as close outside of the quoted texts. -/
def BalancedBraces (cs : List Char) : Prop :=
  ∃ outside, Outside cs outside ∧ outside.count '\x7b' = outside.count '\x7d'

/-- The shortest balanced text from the first opening brace on. -/
structure IsFirstSpan (cs span : List Char) : Prop where
  /-- No brace opens in front of it. -/
  first : ∃ front back, cs = front ++ (span ++ back) ∧ '\x7b' ∉ front
  /-- It begins with an opening brace. -/
  head : span.head? = some '\x7b'
  /-- It is balanced. -/
  balanced : BalancedBraces span
  /-- It does not begin with a shorter one. -/
  shortest : ∀ part, part <+: span → part ≠ [] → part ≠ span → ¬ BalancedBraces part

/-- What a scan that begins in a mode sees outside of quoted texts. -/
def outsideFrom : ScanMode → List Char → List Char
  | _, [] => []
  | mode, c :: cs =>
    if mode = .plain ∧ c ≠ '"' then c :: outsideFrom (mode.next c) cs
    else outsideFrom (mode.next c) cs

section Modes

variable {body cs outside : List Char}

theorem outsideFrom_quoted (hbody : QuotedBody body) (rest : List Char) :
    outsideFrom .quoted (body ++ rest) = outsideFrom .quoted rest := by
  induction hbody with
  | nil => rfl
  | plain hquote hslash _ ih => simpa [outsideFrom, ScanMode.next, hquote, hslash] using ih
  | escaped c _ ih => simpa [outsideFrom, ScanMode.next] using ih

theorem outsideFrom_unended (hbody : UnendedBody body) : outsideFrom .quoted body = [] := by
  cases hbody with
  | body hbody => simpa [outsideFrom] using outsideFrom_quoted hbody []
  | slash hbody => rw [outsideFrom_quoted hbody]; rfl

/-- A quoted text ends or does not. -/
theorem exists_quotedBody_or (cs : List Char) :
    (∃ body rest, QuotedBody body ∧ cs = body ++ '"' :: rest) ∨ UnendedBody cs := by
  induction cs using List.twoStepInduction with
  | nil => exact .inr (.body .nil)
  | singleton c =>
    by_cases hquote : c = '"'
    · exact .inl ⟨[], [], .nil, by simp [hquote]⟩
    by_cases hslash : c = '\\'
    · exact .inr (hslash ▸ .slash .nil)
    · exact .inr (.body (.plain hquote hslash .nil))
  | cons_cons c d cs ih ihd =>
    by_cases hquote : c = '"'
    · exact .inl ⟨[], d :: cs, .nil, by simp [hquote]⟩
    by_cases hslash : c = '\\'
    · -- The character behind a backslash is taken along, whatever it is.
      subst hslash
      rcases ih with ⟨body, rest, hbody, rfl⟩ | hbody | hbody
      · exact .inl ⟨'\\' :: d :: body, rest, .escaped d hbody, rfl⟩
      · exact .inr (.body (.escaped d hbody))
      · exact .inr (.slash (.escaped d hbody))
    · rcases ihd d with ⟨body, rest, hbody, hsplit⟩ | hbody
      · exact .inl ⟨c :: body, rest, .plain hquote hslash hbody, by rw [hsplit, List.cons_append]⟩
      · generalize d :: cs = behind at hbody
        cases hbody with
        | body hbody => exact .inr (.body (.plain hquote hslash hbody))
        | slash hbody => exact .inr (.slash (.plain hquote hslash hbody))

/-- A scan in the plain mode sees exactly what stands outside of the quoted texts. -/
theorem outside_iff : Outside cs outside ↔ outsideFrom .plain cs = outside := by
  constructor
  · intro houtside
    induction houtside with
    | nil => rfl
    | plain hquote _ ih => simpa [outsideFrom, ScanMode.next, hquote] using ih
    | quoted hbody _ ih => exact (outsideFrom_quoted hbody _).trans ih
    | unended hbody => exact outsideFrom_unended hbody
  · rintro rfl
    induction hlength : cs.length using Nat.strongRecOn generalizing cs with
    | _ length ih =>
      cases cs with
      | nil => exact .nil
      | cons c cs =>
        by_cases hquote : c = '"'
        · subst hquote
          rcases exists_quotedBody_or cs with ⟨body, rest, hbody, rfl⟩ | hbody
          · have hbehind : outsideFrom .plain ('"' :: (body ++ '"' :: rest)) =
                outsideFrom .plain rest := outsideFrom_quoted hbody ('"' :: rest)
            rw [hbehind]
            exact .quoted hbody (ih rest.length (by simp at hlength; omega) rfl)
          · have hbehind : outsideFrom .plain ('"' :: cs) = [] := outsideFrom_unended hbody
            rw [hbehind]
            exact .unended hbody
        · have hrest := ih cs.length (by simp at hlength; omega) rfl
          simpa [outsideFrom, ScanMode.next, hquote] using Outside.plain hquote hrest

end Modes

/-! ### Braces that close -/

/-- Behind `depth` open braces, as many braces close as are open then. -/
def Closes (mode : ScanMode) (depth : Nat) (part : List Char) : Prop :=
  depth + (outsideFrom mode part).count '\x7b' = (outsideFrom mode part).count '\x7d'

/-- The braces close with the last character and not before. -/
structure FirstCloses (mode : ScanMode) (depth : Nat) (part : List Char) : Prop where
  /-- The braces close. -/
  closes : Closes mode depth part
  /-- They do not close before. -/
  first : ∀ shorter, shorter <+: part → shorter ≠ part → ¬ Closes mode depth shorter

section Closing

variable {mode : ScanMode} {depth : Nat} {c : Char} {part cs : List Char}

@[simp] theorem closes_nil : Closes mode depth [] ↔ depth = 0 := by simp [Closes, outsideFrom]

/-- One character moves the mode and the count of open braces as the scan does. -/
theorem closes_cons (hdepth : 0 < depth) :
    Closes mode depth (c :: part) ↔ Closes (mode.next c) (nextDepth mode depth c) part := by
  simp only [Closes, nextDepth, outsideFrom]
  generalize outsideFrom (mode.next c) part = outside
  by_cases hmode : mode = .plain
  · by_cases hopen : c = '\x7b'
    · simp [hmode, hopen]
      omega
    by_cases hclose : c = '\x7d'
    · simp [hmode, hclose]
      omega
    · by_cases hquote : c = '"' <;> simp [hmode, hquote, hopen, hclose]
  · simp [hmode]

theorem closesSpan_iff (hdepth : 0 < depth) :
    closesSpan mode depth c = true ↔ nextDepth mode depth c = 0 := by
  unfold closesSpan nextDepth
  split_ifs <;> simp_all <;> omega

theorem firstCloses_zero : FirstCloses mode 0 part ↔ part = [] := by
  constructor
  · intro hpart
    by_contra hne
    exact hpart.first [] List.nil_prefix (Ne.symm hne) (closes_nil.mpr rfl)
  · rintro rfl
    exact ⟨closes_nil.mpr rfl, fun shorter hshorter hne =>
      absurd (List.prefix_nil.mp hshorter) hne⟩

theorem not_firstCloses_nil (hdepth : 0 < depth) : ¬ FirstCloses mode depth [] := fun hnil =>
  absurd (closes_nil.mp hnil.closes) (Nat.ne_of_gt hdepth)

theorem firstCloses_cons (hdepth : 0 < depth) :
    FirstCloses mode depth (c :: part) ↔
      FirstCloses (mode.next c) (nextDepth mode depth c) part := by
  constructor
  · intro hpart
    refine ⟨(closes_cons hdepth).mp hpart.closes, fun shorter hshorter hne hcloses => ?_⟩
    exact hpart.first (c :: shorter) (List.cons_prefix_cons.mpr ⟨rfl, hshorter⟩)
      (by simpa using hne) ((closes_cons hdepth).mpr hcloses)
  · intro hpart
    refine ⟨(closes_cons hdepth).mpr hpart.closes, fun shorter hshorter hne hcloses => ?_⟩
    cases shorter with
    | nil => exact absurd (closes_nil.mp hcloses) (Nat.ne_of_gt hdepth)
    | cons d shorter =>
      obtain ⟨rfl, hrest⟩ := List.cons_prefix_cons.mp hshorter
      exact hpart.first shorter hrest (by simpa using hne) ((closes_cons hdepth).mp hcloses)

/-- While braces are open, a part where they close first is not empty, so it goes on behind the
first character. -/
theorem exists_firstCloses_cons (hdepth : 0 < depth) {P : List Char → Prop} :
    (∃ part, part <+: c :: cs ∧ FirstCloses mode depth part ∧ P part) ↔
      ∃ part, part <+: cs ∧ FirstCloses (mode.next c) (nextDepth mode depth c) part ∧
        P (c :: part) := by
  constructor
  · rintro ⟨part, hpart, hcloses, hP⟩
    cases part with
    | nil => exact absurd hcloses (not_firstCloses_nil hdepth)
    | cons d part =>
      obtain ⟨rfl, hrest⟩ := List.cons_prefix_cons.mp hpart
      exact ⟨part, hrest, (firstCloses_cons hdepth).mp hcloses, hP⟩
  · rintro ⟨part, hpart, hcloses, hP⟩
    exact ⟨c :: part, List.cons_prefix_cons.mpr ⟨rfl, hpart⟩,
      (firstCloses_cons hdepth).mpr hcloses, hP⟩

/-- The scan ends where the braces close first. -/
theorem scanSpan_eq_some_iff (hdepth : 0 < depth) (taken : List Char) {span : List Char} :
    scanSpan mode depth taken cs = some span ↔
      ∃ part, part <+: cs ∧ FirstCloses mode depth part ∧ span = taken.reverse ++ part := by
  induction cs generalizing mode depth taken with
  | nil =>
    constructor
    · intro hnone
      cases hnone
    · rintro ⟨part, hpart, hcloses, -⟩
      rw [List.prefix_nil.mp hpart] at hcloses
      exact absurd hcloses (not_firstCloses_nil hdepth)
  | cons c cs ih =>
    rw [exists_firstCloses_cons hdepth, scanSpan]
    split_ifs with hlast
    · rw [(closesSpan_iff hdepth).mp hlast, Option.some_inj, eq_comm]
      simp [firstCloses_zero]
    · rw [closesSpan_iff hdepth] at hlast
      simpa using ih (Nat.pos_of_ne_zero hlast) (c :: taken)

/-- Where braces close, they close first somewhere. -/
theorem Closes.exists_firstCloses (hcloses : Closes mode depth part) :
    ∃ shorter, shorter <+: part ∧ FirstCloses mode depth shorter := by
  induction hlength : part.length using Nat.strongRecOn generalizing part with
  | _ length ih =>
    by_cases hbefore : ∃ shorter, shorter <+: part ∧ shorter ≠ part ∧ Closes mode depth shorter
    · obtain ⟨shorter, hshorter, hne, hcloses⟩ := hbefore
      have hlt : shorter.length < length := by
        rw [← hlength]
        exact lt_of_le_of_ne hshorter.length_le fun heq => hne (hshorter.eq_of_length heq)
      obtain ⟨least, hleast, hfirst⟩ := ih shorter.length hlt hcloses rfl
      exact ⟨least, hleast.trans hshorter, hfirst⟩
    · refine ⟨part, List.prefix_rfl, hcloses, fun shorter hshorter hne hcloses => ?_⟩
      exact hbefore ⟨shorter, hshorter, hne, hcloses⟩

/-- The scan finds nothing only if the braces never close. -/
theorem scanSpan_eq_none_iff (hdepth : 0 < depth) (taken : List Char) :
    scanSpan mode depth taken cs = none ↔ ∀ part, part <+: cs → ¬ Closes mode depth part := by
  rw [Option.eq_none_iff_forall_ne_some]
  constructor
  · intro hnone part hpart hcloses
    obtain ⟨shorter, hshorter, hfirst⟩ := hcloses.exists_firstCloses
    exact hnone _ ((scanSpan_eq_some_iff hdepth taken).mpr
      ⟨shorter, hshorter.trans hpart, hfirst, rfl⟩)
  · intro hnone span hspan
    obtain ⟨part, hpart, hfirst, -⟩ := (scanSpan_eq_some_iff hdepth taken).mp hspan
    exact hnone part hpart hfirst.closes

end Closing

/-! ### Braces that are nested -/

section Nested

variable {depth : Nat} {body part rest : List Char}

/-- Nothing closes inside of a quoted text. -/
theorem FirstCloses.of_quotedBody (hbody : QuotedBody body)
    (hcloses : FirstCloses .quoted (depth + 1) (body ++ '"' :: rest)) :
    FirstCloses .plain (depth + 1) rest := by
  induction hbody with
  | nil => exact (firstCloses_cons (Nat.succ_pos depth)).mp hcloses
  | @plain c cs hquote hslash _ ih =>
    have hmode : ScanMode.quoted.next c = .quoted := by simp [ScanMode.next, hquote, hslash]
    have hbehind := (firstCloses_cons (Nat.succ_pos depth)).mp hcloses
    rw [hmode] at hbehind
    exact ih hbehind
  | escaped c _ ih =>
    have hslash := (firstCloses_cons (Nat.succ_pos depth)).mp hcloses
    exact ih ((firstCloses_cons (Nat.succ_pos depth)).mp hslash)

/-- Braces that are counted are nested: the first one that closes one brace more than it opens has
balanced braces in front of it. -/
theorem FirstCloses.exists_braced (hpart : FirstCloses .plain (depth + 1) part) :
    ∃ inside more, part = inside ++ '\x7d' :: more ∧ Braced inside ∧
      FirstCloses .plain depth more := by
  induction hlength : part.length using Nat.strongRecOn generalizing depth part with
  | _ length ih =>
    cases part with
    | nil => exact absurd hpart (not_firstCloses_nil (Nat.succ_pos depth))
    | cons c part =>
      rw [List.length_cons] at hlength
      have hbehind := (firstCloses_cons (Nat.succ_pos depth)).mp hpart
      by_cases hquote : c = '"'
      · subst hquote
        rcases exists_quotedBody_or part with ⟨body, rest, hbody, rfl⟩ | hbody
        · have hrest : FirstCloses .plain (depth + 1) rest := .of_quotedBody hbody hbehind
          obtain ⟨inside, more, rfl, hinside, hmore⟩ :=
            ih rest.length (by simp at hlength; omega) hrest rfl
          exact ⟨'"' :: (body ++ '"' :: inside), more, by simp, .quoted hbody hinside, hmore⟩
        · -- A quoted text that does not end hides all braces.
          have hcloses : Closes .quoted (depth + 1) part := hbehind.closes
          simp [Closes, outsideFrom_unended hbody] at hcloses
      have hmode : ScanMode.plain.next c = .plain := by simp [ScanMode.next, hquote]
      rw [hmode] at hbehind
      by_cases hopen : c = '\x7b'
      · subst hopen
        obtain ⟨inside, behind, rfl, hinside, hcloses⟩ := ih part.length (by omega) hbehind rfl
        obtain ⟨inside', more, rfl, hinside', hmore⟩ :=
          ih behind.length (by simp at hlength; omega) hcloses rfl
        exact ⟨'\x7b' :: (inside ++ '\x7d' :: inside'), more, by simp, .braces hinside hinside',
          hmore⟩
      by_cases hclose : c = '\x7d'
      · subst hclose
        exact ⟨[], part, rfl, .nil, hbehind⟩
      · have hdepth : nextDepth .plain (depth + 1) c = depth + 1 := by
          simp [nextDepth, hopen, hclose]
        rw [hdepth] at hbehind
        obtain ⟨inside, more, rfl, hinside, hmore⟩ := ih part.length (by omega) hbehind rfl
        exact ⟨c :: inside, more, rfl, .plain hquote hopen hclose hinside, hmore⟩

end Nested

/-! ### The first span -/

section FirstSpan

variable {cs front behind part span : List Char}

theorem balancedBraces_iff : BalancedBraces cs ↔
    (outsideFrom .plain cs).count '\x7b' = (outsideFrom .plain cs).count '\x7d' := by
  simp [BalancedBraces, outside_iff]

theorem balancedBraces_cons : BalancedBraces ('\x7b' :: part) ↔ Closes .plain 1 part := by
  simp [balancedBraces_iff, Closes, outsideFrom, ScanMode.next, Nat.add_comm]

theorem dropWhile_front (hfront : '\x7b' ∉ front) (behind : List Char) :
    (front ++ '\x7b' :: behind).dropWhile (· ≠ '\x7b') = '\x7b' :: behind := by
  rw [List.dropWhile_append_of_pos fun c hc => decide_eq_true (ne_of_mem_of_not_mem hc hfront)]
  simp

theorem firstSpan?_of_front (hfront : '\x7b' ∉ front) (behind : List Char) :
    firstSpan? (front ++ '\x7b' :: behind) = scanSpan .plain 1 ['\x7b'] behind := by
  unfold firstSpan?
  rw [dropWhile_front hfront]
  exact scanSpan_cons rfl rfl rfl

theorem firstSpan?_of_notMem (hcs : '\x7b' ∉ cs) : firstSpan? cs = none := by
  have hdrop : cs.dropWhile (· ≠ '\x7b') = [] :=
    List.dropWhile_eq_nil_iff.mpr fun c hc => decide_eq_true (ne_of_mem_of_not_mem hc hcs)
  unfold firstSpan?
  rw [hdrop]

/-- The first span in terms of the braces behind the first one. -/
theorem isFirstSpan_iff (hfront : '\x7b' ∉ front) :
    IsFirstSpan (front ++ '\x7b' :: behind) span ↔
      ∃ part, part <+: behind ∧ FirstCloses .plain 1 part ∧ span = '\x7b' :: part := by
  constructor
  · rintro ⟨⟨front', back, hsplit, hfront'⟩, hhead, hbalanced, hshortest⟩
    obtain ⟨part, rfl⟩ := List.head?_eq_some_iff.mp hhead
    have hdrop := dropWhile_front hfront behind
    rw [hsplit, List.cons_append, dropWhile_front hfront'] at hdrop
    obtain rfl := (List.cons.inj hdrop).2
    refine ⟨part, List.prefix_append part back, ⟨balancedBraces_cons.mp hbalanced, ?_⟩, rfl⟩
    intro shorter hshorter hne hcloses
    exact hshortest ('\x7b' :: shorter) (List.cons_prefix_cons.mpr ⟨rfl, hshorter⟩)
      (List.cons_ne_nil _ _) (by simpa using hne) (balancedBraces_cons.mpr hcloses)
  · rintro ⟨part, ⟨back, rfl⟩, hpart, rfl⟩
    refine ⟨⟨front, back, rfl, hfront⟩, rfl, balancedBraces_cons.mpr hpart.closes, ?_⟩
    intro shorter hshorter hnil hne hbalanced
    obtain ⟨c, shorter, rfl⟩ := List.exists_cons_of_ne_nil hnil
    obtain ⟨rfl, hrest⟩ := List.cons_prefix_cons.mp hshorter
    exact hpart.first shorter hrest (by simpa using hne) (balancedBraces_cons.mp hbalanced)

/-- The scan finds the shortest balanced text from the first opening brace on. -/
theorem firstSpan?_eq_some_iff : firstSpan? cs = some span ↔ IsFirstSpan cs span := by
  by_cases hbrace : '\x7b' ∈ cs
  · obtain ⟨front, behind, rfl, hfront⟩ := List.eq_append_cons_of_mem hbrace
    rw [firstSpan?_of_front hfront, scanSpan_eq_some_iff Nat.one_pos, isFirstSpan_iff hfront]
    rfl
  · rw [firstSpan?_of_notMem hbrace]
    refine ⟨fun hnone => (Option.some_ne_none span hnone.symm).elim, fun hspan => ?_⟩
    obtain ⟨front, back, rfl, -⟩ := hspan.first
    have hmem : '\x7b' ∈ span := List.mem_of_mem_head? hspan.head
    exact absurd (by simp [hmem]) hbrace

theorem forall_not_closes_iff : (∀ part, part <+: behind → ¬ Closes .plain 1 part) ↔
    ∀ part, part <+: '\x7b' :: behind → part ≠ [] → ¬ BalancedBraces part := by
  constructor
  · intro hnone part hpart hnil hbalanced
    obtain ⟨c, part, rfl⟩ := List.exists_cons_of_ne_nil hnil
    obtain ⟨rfl, hrest⟩ := List.cons_prefix_cons.mp hpart
    exact hnone part hrest (balancedBraces_cons.mp hbalanced)
  · intro hnone part hpart hcloses
    exact hnone ('\x7b' :: part) (List.cons_prefix_cons.mpr ⟨rfl, hpart⟩) (List.cons_ne_nil _ _)
      (balancedBraces_cons.mpr hcloses)

/-- The scan finds nothing if there is nothing to find. -/
theorem firstSpan?_eq_none_iff : firstSpan? cs = none ↔ '\x7b' ∉ cs ∨
    ∃ front behind, cs = front ++ '\x7b' :: behind ∧ '\x7b' ∉ front ∧
      ∀ part, part <+: '\x7b' :: behind → part ≠ [] → ¬ BalancedBraces part := by
  constructor
  · intro hnone
    by_cases hbrace : '\x7b' ∈ cs
    · obtain ⟨front, behind, rfl, hfront⟩ := List.eq_append_cons_of_mem hbrace
      rw [firstSpan?_of_front hfront, scanSpan_eq_none_iff Nat.one_pos,
        forall_not_closes_iff] at hnone
      exact .inr ⟨front, behind, rfl, hfront, hnone⟩
    · exact .inl hbrace
  · rintro (hbrace | ⟨front, behind, rfl, hfront, hnone⟩)
    · exact firstSpan?_of_notMem hbrace
    · rwa [firstSpan?_of_front hfront, scanSpan_eq_none_iff Nat.one_pos, forall_not_closes_iff]

/-- The first span is an opening brace, nested braces, and a closing brace. -/
theorem IsFirstSpan.exists_braced (hspan : IsFirstSpan cs span) :
    ∃ inside, span = '\x7b' :: (inside ++ ['\x7d']) ∧ Braced inside := by
  obtain ⟨front, back, rfl, hfront⟩ := hspan.first
  obtain ⟨behind, hbehind⟩ := List.head?_eq_some_iff.mp hspan.head
  have hsplit : span ++ back = '\x7b' :: (behind ++ back) := by rw [hbehind, List.cons_append]
  rw [hsplit, isFirstSpan_iff hfront] at hspan
  obtain ⟨part, -, hpart, rfl⟩ := hspan
  have hone : FirstCloses .plain (0 + 1) part := hpart
  obtain ⟨inside, more, rfl, hinside, hmore⟩ := hone.exists_braced
  obtain rfl := firstCloses_zero.mp hmore
  exact ⟨inside, rfl, hinside⟩

theorem firstSpan?_eq_some_iff_braced : firstSpan? cs = some span ↔
    ∃ front inside back, cs = front ++ ('\x7b' :: (inside ++ ['\x7d']) ++ back) ∧
      '\x7b' ∉ front ∧ Braced inside ∧ span = '\x7b' :: (inside ++ ['\x7d']) := by
  constructor
  · intro hspan
    have hfirst := firstSpan?_eq_some_iff.mp hspan
    obtain ⟨front, back, hsplit, hfront⟩ := hfirst.first
    obtain ⟨inside, rfl, hinside⟩ := hfirst.exists_braced
    exact ⟨front, inside, back, hsplit, hfront, hinside, rfl⟩
  · rintro ⟨front, inside, back, rfl, hfront, hinside, rfl⟩
    exact firstSpan?_braced hinside (fun c hc => ne_of_mem_of_not_mem hc hfront) back

end FirstSpan

theorem firstObject?_eq_some_iff {text span : String} :
    firstObject? text = some span ↔ firstSpan? text.toList = some span.toList := by
  rw [firstObject?, Option.map_eq_some_iff]
  constructor
  · rintro ⟨cs, hcs, rfl⟩
    rw [hcs, String.toList_ofList]
  · intro hspan
    exact ⟨span.toList, hspan, String.ofList_toList⟩

/-- The first span of a text is the shortest balanced text that begins with the first opening
brace.  There is none exactly if no brace opens, or if nothing that begins with the first one is
balanced.  The braces of the span are nested, and nested braces from the first one on are the
span. -/
theorem firstObject?_shortest (text : String) :
    (∀ span : String, firstObject? text = some span ↔ IsFirstSpan text.toList span.toList) ∧
    (firstObject? text = none ↔ '\x7b' ∉ text.toList ∨
      ∃ front behind, text.toList = front ++ '\x7b' :: behind ∧ '\x7b' ∉ front ∧
        ∀ part, part <+: '\x7b' :: behind → part ≠ [] → ¬ BalancedBraces part) ∧
    ∀ span : String, firstObject? text = some span ↔
      ∃ front inside back, text.toList = front ++ ('\x7b' :: (inside ++ ['\x7d']) ++ back) ∧
        '\x7b' ∉ front ∧ Braced inside ∧ span.toList = '\x7b' :: (inside ++ ['\x7d']) := by
  refine ⟨fun span => ?_, ?_, fun span => ?_⟩
  · rw [firstObject?_eq_some_iff, firstSpan?_eq_some_iff]
  · rw [firstObject?, Option.map_eq_none_iff, firstSpan?_eq_none_iff]
  · rw [firstObject?_eq_some_iff, firstSpan?_eq_some_iff_braced]

/-- A quote and a closing brace in front do not count, nor does a brace behind an escaped quote,
and a backslash that is escaped itself does not escape a quote. -/
theorem firstObject?_shortest_escapes :
    firstObject? "\x7d \" \x7b\"\\\"\x7d\": \x7b\"\\\\\": 1\x7d\x7d \x7b\x7d" =
      some "\x7b\"\\\"\x7d\": \x7b\"\\\\\": 1\x7d\x7d" ∧
    ¬ BalancedBraces "\x7b\"\\\"\x7d".toList := by
  have hobject : firstObject? "\x7d \" \x7b\"\\\"\x7d\": \x7b\"\\\\\": 1\x7d\x7d \x7b\x7d" =
      some "\x7b\"\\\"\x7d\": \x7b\"\\\\\": 1\x7d\x7d" := by decide
  have hspan := ((firstObject?_shortest _).1 _).mp hobject
  exact ⟨hobject, hspan.shortest _ (by decide) (by decide) (by decide)⟩

end CapsuleLoom
