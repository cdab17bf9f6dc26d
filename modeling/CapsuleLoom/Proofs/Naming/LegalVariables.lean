import CapsuleLoom.Proofs.Slug

/-!
# Legal names of state variables

A capsule may have any identifier, so the name of its state variable is made from the words that
the identifier holds, as far as it holds some.  The words have letters and digits of the basic
character set only, the case mappings keep to these, and a name that would begin with a digit is
given up.  Hence the name is legal for every identifier.

## Main definitions

* `isVariableName` : what a variable may be called.
* `reservedWords` : the words that the language of Android sources keeps to itself.

## Main results

* `flatten_splitWords` : the words of a text are its letters and digits.
* `stateName_cases` : how the name of a state variable is made.
* `isVariableName_stateName` : the name is legal for every identifier.
-/

namespace CapsuleLoom

/-! ### Letters and digits -/

section Letters

variable {c : Char}

/-- What is checked for all codes of the basic character set holds for letters and digits. -/
theorem forall_wordChar {P : Char → Prop}
    (hall : ∀ code < 128, isWordChar (Char.ofNat code) = true → P (Char.ofNat code))
    (hc : isWordChar c = true) : P c :=
  forall_basicChar (P := fun c => isWordChar c = true → P c) hall (toNat_lt_of_isAlphanum hc) hc

theorem upperChar_of_isWordChar (hc : isWordChar c = true) : Text.upperChar c = [c.toUpper] :=
  forall_wordChar (P := fun c => Text.upperChar c = [c.toUpper]) (by decide +kernel) hc

theorem lowerChar_of_isWordChar (hc : isWordChar c = true) : Text.lowerChar c = [c.toLower] :=
  forall_wordChar (P := fun c => Text.lowerChar c = [c.toLower]) (by decide +kernel) hc

/-- The case of a letter can be changed without leaving the letters and digits, and it is no longer
seen in the small form. -/
theorem case_of_isWordChar (hc : isWordChar c = true) :
    (isWordChar c.toUpper = true ∧ c.toUpper.toLower = c.toLower) ∧
      isWordChar c.toLower = true ∧ c.toLower.toLower = c.toLower :=
  forall_wordChar (P := fun c => (isWordChar c.toUpper = true ∧ c.toUpper.toLower = c.toLower) ∧
    isWordChar c.toLower = true ∧ c.toLower.toLower = c.toLower) (by decide +kernel) hc

theorem isLower_toLower_of_isAlpha (hc : c.isAlpha = true) : c.toLower.isLower = true :=
  forall_wordChar (P := fun c => c.isAlpha = true → c.toLower.isLower = true) (by decide +kernel)
    (isAlphanum_of_isAlpha hc) hc

theorem basicCapital_of_isLower (hc : c.isLower = true) :
    isWordChar (basicCapital c) = true ∧ (basicCapital c).isLower = false :=
  forall_wordChar (P := fun c => c.isLower = true →
      isWordChar (basicCapital c) = true ∧ (basicCapital c).isLower = false) (by decide +kernel)
    (isAlphanum_of_isAlpha (isAlpha_of_isLower hc)) hc

/-- Two texts that differ in the case of letters only, the first one of letters and digits. -/
structure SameLetters (cs ds : List Char) : Prop where
  /-- There are letters and digits only. -/
  word : ∀ c ∈ cs, isWordChar c = true
  /-- The small forms agree. -/
  small : cs.map Char.toLower = ds.map Char.toLower

namespace SameLetters

variable {cs cs' ds ds' : List Char}

theorem append (hfront : SameLetters cs ds) (hback : SameLetters cs' ds') :
    SameLetters (cs ++ cs') (ds ++ ds') where
  word := List.forall_mem_append.mpr ⟨hfront.word, hback.word⟩
  small := by rw [List.map_append, List.map_append, hfront.small, hback.small]

theorem capitalizeChars (hcs : ∀ c ∈ cs, isWordChar c = true) :
    SameLetters (Text.capitalizeChars cs) cs := by
  cases cs with
  | nil => exact ⟨hcs, rfl⟩
  | cons c cs =>
    obtain ⟨hc, hrest⟩ := List.forall_mem_cons.mp hcs
    obtain ⟨⟨hword, hsmall⟩, -⟩ := case_of_isWordChar hc
    rw [Text.capitalizeChars, upperChar_of_isWordChar hc]
    exact ⟨List.forall_mem_cons.mpr ⟨hword, hrest⟩, by simp [hsmall]⟩

theorem uncapitalizeChars (hcs : ∀ c ∈ cs, isWordChar c = true) :
    SameLetters (CapsuleLoom.uncapitalizeChars cs) cs := by
  cases cs with
  | nil => exact ⟨hcs, rfl⟩
  | cons c cs =>
    obtain ⟨hc, hrest⟩ := List.forall_mem_cons.mp hcs
    obtain ⟨-, hword, hsmall⟩ := case_of_isWordChar hc
    rw [CapsuleLoom.uncapitalizeChars, lowerChar_of_isWordChar hc]
    exact ⟨List.forall_mem_cons.mpr ⟨hword, hrest⟩, by simp [hsmall]⟩

theorem flatMap_capitalizeChars {words : List (List Char)}
    (hwords : ∀ word ∈ words, ∀ c ∈ word, isWordChar c = true) :
    SameLetters (words.flatMap Text.capitalizeChars) words.flatten := by
  induction words with
  | nil => exact ⟨by simp, rfl⟩
  | cons word words ih =>
    obtain ⟨hword, hrest⟩ := List.forall_mem_cons.mp hwords
    exact (capitalizeChars hword).append (ih hrest)

end SameLetters

end Letters

/-! ### Words -/

/-- The words of a text are its letters and digits. -/
theorem flatten_splitWords (cs : List Char) : (splitWords cs).flatten = cs.filter isWordChar := by
  rw [splitWords, List.flatten_filter_not_isEmpty]
  induction cs with
  | nil => rfl
  | cons c cs ih =>
    rw [List.foldr_cons, prependToWords.eq_def, List.filter_cons, ← ih]
    split_ifs
    · cases cs.foldr prependToWords [] <;> rfl
    · rfl

theorem isWordChar_of_mem_splitWords {cs word : List Char} (hword : word ∈ splitWords cs) :
    ∀ c ∈ word, isWordChar c = true := by
  intro c hc
  have hmem : c ∈ (splitWords cs).flatten := List.mem_flatten.mpr ⟨word, hword, hc⟩
  rw [flatten_splitWords] at hmem
  exact (List.mem_filter.mp hmem).2

/-- The first word begins with the first letter or digit. -/
theorem exists_cons_of_splitWords {cs first : List Char} {rest : List (List Char)}
    (hsplit : splitWords cs = first :: rest) :
    ∃ c word, first = c :: word ∧ cs.find? isWordChar = some c := by
  have hne : first ≠ [] := by
    have hmem : first ∈ splitWords cs := hsplit ▸ List.mem_cons_self
    simpa using (List.mem_filter.mp hmem).2
  obtain ⟨c, word, rfl⟩ := List.exists_cons_of_ne_nil hne
  refine ⟨c, word, rfl, ?_⟩
  rw [← List.head?_filter, ← flatten_splitWords, hsplit]
  rfl

/-! ### Names -/

/-- A small letter, and behind it letters and digits. -/
def isVariableName (name : String) : Bool :=
  match name.toList with
  | [] => false
  | first :: rest => first.isLower && rest.all Char.isAlphanum

/-- The words that the language of Android sources keeps to itself. -/
def reservedWords : List String :=
  ["as", "break", "class", "continue", "do", "else", "false", "for", "fun", "if", "in", "interface",
    "is", "null", "object", "package", "return", "super", "this", "throw", "true", "try",
    "typealias", "typeof", "val", "var", "when", "while"]

/-- There are no capital letters in reserved words. -/
theorem isLower_of_mem_reservedWords :
    ∀ word ∈ reservedWords, ∀ c ∈ word.toList, c.isLower = true := by
  decide

theorem isVariableName_iff {name : String} :
    isVariableName name = true ↔ ∃ first rest, name.toList = first :: rest ∧
      first.isLower = true ∧ ∀ c ∈ rest, isWordChar c = true := by
  unfold isVariableName
  cases name.toList with
  | nil => simp
  | cons first rest => simp [isWordChar]

/-- The name of a state variable is the suffix alone if no letter comes first.  Otherwise it is the
letters and digits of the identifier, the first one small, and the suffix with a capital letter. -/
theorem stateName_cases (id suffix : String) :
    ((∀ c ∈ id.toList.find? isWordChar, c.isDigit = true) ∧ stateName id suffix = suffix) ∨
    ∃ first front, id.toList.find? isWordChar = some first ∧ first.isAlpha = true ∧
      SameLetters (first.toLower :: front) (id.toList.filter isWordChar) ∧
      stateName id suffix = String.ofList (first.toLower :: front) ++ Text.capitalize suffix := by
  unfold stateName
  split
  · rename_i hsplit
    have hnone : id.toList.filter isWordChar = [] := by rw [← flatten_splitWords, hsplit]; rfl
    rw [← List.head?_filter, hnone]
    exact .inl ⟨by simp, rfl⟩
  · rename_i word rest hsplit
    obtain ⟨first, letters, rfl, hfind⟩ := exists_cons_of_splitWords hsplit
    have hwords : ∀ word ∈ (first :: letters) :: rest, ∀ c ∈ word, isWordChar c = true :=
      fun word hword => isWordChar_of_mem_splitWords (hsplit ▸ hword)
    obtain ⟨hletters, hrest⟩ := List.forall_mem_cons.mp hwords
    have hfirst : isWordChar first = true := hletters first List.mem_cons_self
    rw [hfind]
    cases hdigit : first.isDigit with
    | true => exact .inl ⟨by simpa using hdigit, by simp [hdigit]⟩
    | false =>
      have halpha : first.isAlpha = true := by
        simpa [isWordChar, Char.isAlphanum, hdigit] using hfirst
      have hhead : uncapitalizeChars (first :: letters) = first.toLower :: letters := by
        rw [uncapitalizeChars, lowerChar_of_isWordChar hfirst, List.singleton_append]
      refine .inr ⟨first, letters ++ rest.flatMap Text.capitalizeChars, rfl, halpha, ?_, ?_⟩
      · have hsame := (SameLetters.uncapitalizeChars hletters).append
          (SameLetters.flatMap_capitalizeChars hrest)
        rwa [hhead, ← List.flatten_cons, ← hsplit, flatten_splitWords] at hsame
      · have hkept : (first :: letters).head?.any Char.isDigit = false := hdigit
        rw [hkept, if_neg Bool.false_ne_true, hhead, Text.capitalize, ← String.ofList_append]
        rfl

/-- For every identifier and every suffix that may be the name of a variable, the name of the state
variable may be one, and it is no reserved word unless the suffix is.  It is the suffix if the first
letter or digit of the identifier is a digit or missing.  Otherwise it spells the letters and digits
of the identifier, case aside, and then the suffix with a capital letter. -/
theorem isVariableName_stateName (id suffix : String) (hsuffix : isVariableName suffix = true) :
    isVariableName (stateName id suffix) = true ∧
    (suffix ∉ reservedWords → stateName id suffix ∉ reservedWords) ∧
    (((∀ c ∈ id.toList.find? isWordChar, c.isDigit = true) ∧ stateName id suffix = suffix) ∨
      ∃ first front, id.toList.find? isWordChar = some first ∧ first.isAlpha = true ∧
        stateName id suffix = front ++ Text.capitalize suffix ∧
        front.toList.map Char.toLower = (id.toList.filter isWordChar).map Char.toLower) := by
  rcases stateName_cases id suffix with hcase | ⟨first, front, hfind, halpha, hsame, hname⟩
  · refine ⟨?_, fun hfree => ?_, .inl hcase⟩
    · rwa [hcase.2]
    · rwa [hcase.2]
  · obtain ⟨head, tail, hsplit, hhead, htail⟩ := isVariableName_iff.mp hsuffix
    obtain ⟨hword, hcapital⟩ := basicCapital_of_isLower hhead
    have hchars : (stateName id suffix).toList =
        first.toLower :: (front ++ basicCapital head :: tail) := by
      rw [hname, String.toList_append, String.toList_ofList, toList_capitalize_slug hsplit hhead]
      rfl
    refine ⟨isVariableName_iff.mpr ⟨_, _, hchars, isLower_toLower_of_isAlpha halpha, ?_⟩, ?_,
      .inr ⟨first, _, hfind, halpha, hname, by rw [String.toList_ofList, hsame.small]⟩⟩
    · exact List.forall_mem_append.mpr ⟨(List.forall_mem_cons.mp hsame.word).2,
        List.forall_mem_cons.mpr ⟨hword, htail⟩⟩
    · -- Reserved words have no capital letters.
      intro _ hreserved
      have hlower := isLower_of_mem_reservedWords _ hreserved (basicCapital head) (by simp [hchars])
      cases hcapital.symm.trans hlower

/-- Letters outside the basic character set are no words, and a digit in front leaves the suffix. -/
theorem isVariableName_stateName_anyText :
    stateName "--Émail INPUT_2!" "text" = "mailINPUT2Text" ∧
    isVariableName (stateName "--Émail INPUT_2!" "text") = true ∧
    stateName "٣ 9lives" "text" = "text" ∧
    isVariableName (stateName "٣ 9lives" "text") = true := by
  have hsuffix : isVariableName "text" = true := by decide
  exact ⟨by decide +kernel, (isVariableName_stateName "--Émail INPUT_2!" "text" hsuffix).1,
    by decide +kernel, (isVariableName_stateName "٣ 9lives" "text" hsuffix).1⟩

end CapsuleLoom
