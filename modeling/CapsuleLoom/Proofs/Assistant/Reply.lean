import CapsuleLoom.Assistant.Reply
import CapsuleLoom.Proofs.Doc.Replay

/-!
# Documents in chatter

A model writes prose or fences around the document it was asked for.  Taking white space and
fences away leaves the document and what remains of the prose on its two sides.  The rest is then
read as a whole, which gives the document or finds a fault, since no value begins in prose without
quotes and brackets but a number or a word, and the document is still behind it.  In the second
case the scan for braces runs through the document and stops where it ends, because it agrees with
the reader about which braces count.

## Main results

* `scanSpan_braced` : the scan runs through a text with balanced braces.
* `exists_around_stripFences` : what is left around a document.
* `read_around` : reading a text around a document.
* `readReply_around` : the document is found in every reply.
-/

namespace CapsuleLoom

/-! ### The scan for braces -/

section Scan

variable {body inside taken rest : List Char} {depth : Nat}

theorem scanSpan_cons {mode mode' : ScanMode} {depth' : Nat} {c : Char}
    (hopen : closesSpan mode depth c = false) (hmode : mode.next c = mode')
    (hdepth : nextDepth mode depth c = depth') :
    scanSpan mode depth taken (c :: rest) = scanSpan mode' depth' (c :: taken) rest := by
  rw [scanSpan, hopen, hmode, hdepth]
  rfl

/-- Inside of a quoted text the scan goes on up to the quote that ends it. -/
theorem scanSpan_quotedBody (hbody : QuotedBody body) (depth : Nat) (taken rest : List Char) :
    scanSpan .quoted depth taken (body ++ '"' :: rest) =
      scanSpan .plain depth ('"' :: (body.reverse ++ taken)) rest := by
  induction hbody generalizing taken with
  | nil => exact scanSpan_cons rfl rfl rfl
  | @plain c cs hquote hslash hbody ih =>
    have hmode : ScanMode.quoted.next c = .quoted := by simp [ScanMode.next, hquote, hslash]
    calc scanSpan .quoted depth taken (c :: (cs ++ '"' :: rest))
      _ = scanSpan .quoted depth (c :: taken) (cs ++ '"' :: rest) := scanSpan_cons rfl hmode rfl
      _ = _ := by simpa using ih (c :: taken)
  | @escaped c cs hbody ih =>
    calc scanSpan .quoted depth taken ('\\' :: c :: (cs ++ '"' :: rest))
      _ = scanSpan .escaped depth ('\\' :: taken) (c :: (cs ++ '"' :: rest)) :=
        scanSpan_cons rfl rfl rfl
      _ = scanSpan .quoted depth (c :: '\\' :: taken) (cs ++ '"' :: rest) :=
        scanSpan_cons rfl rfl rfl
      _ = _ := by simpa using ih (c :: '\\' :: taken)

/-- The scan runs through a text with balanced braces, and the count of open braces is then what
it was before. -/
theorem scanSpan_braced (hinside : Braced inside) (depth : Nat) (taken rest : List Char) :
    scanSpan .plain (depth + 1) taken (inside ++ rest) =
      scanSpan .plain (depth + 1) (inside.reverse ++ taken) rest := by
  induction hinside generalizing depth taken rest with
  | nil => rfl
  | @plain c cs hquote hopen hclose hcs ih =>
    have hmode : ScanMode.plain.next c = .plain := by simp [ScanMode.next, hquote]
    have hdepth : nextDepth .plain (depth + 1) c = depth + 1 := by
      simp [nextDepth, hopen, hclose]
    rw [List.cons_append, scanSpan_cons (by simp [closesSpan, hclose]) hmode hdepth]
    simpa using ih depth (c :: taken) rest
  | @quoted body cs hbody hcs ih =>
    rw [List.cons_append, List.append_assoc, List.cons_append]
    calc scanSpan .plain (depth + 1) taken ('"' :: (body ++ '"' :: (cs ++ rest)))
      _ = scanSpan .quoted (depth + 1) ('"' :: taken) (body ++ '"' :: (cs ++ rest)) :=
        scanSpan_cons rfl rfl rfl
      _ = scanSpan .plain (depth + 1) ('"' :: (body.reverse ++ '"' :: taken)) (cs ++ rest) :=
        scanSpan_quotedBody hbody _ _ _
      _ = _ := by simpa using ih depth ('"' :: (body.reverse ++ '"' :: taken)) rest
  | @braces inside cs hinside hcs ihinside ih =>
    rw [List.cons_append, List.append_assoc, List.cons_append]
    calc scanSpan .plain (depth + 1) taken ('\x7b' :: (inside ++ '\x7d' :: (cs ++ rest)))
      _ = scanSpan .plain (depth + 2) ('\x7b' :: taken) (inside ++ '\x7d' :: (cs ++ rest)) :=
        scanSpan_cons rfl rfl rfl
      _ = scanSpan .plain (depth + 2) (inside.reverse ++ '\x7b' :: taken)
          ('\x7d' :: (cs ++ rest)) := ihinside (depth + 1) _ _
      _ = scanSpan .plain (depth + 1) ('\x7d' :: (inside.reverse ++ '\x7b' :: taken))
          (cs ++ rest) :=
        scanSpan_cons (by simp [closesSpan]) rfl rfl
      _ = _ := by simpa using ih depth ('\x7d' :: (inside.reverse ++ '\x7b' :: taken)) rest

/-- The first span of a text ends where the braces that begin it are balanced. -/
theorem firstSpan?_braced (hinside : Braced inside) {front : List Char}
    (hfront : ∀ c ∈ front, c ≠ '\x7b') (back : List Char) :
    firstSpan? (front ++ ('\x7b' :: (inside ++ ['\x7d']) ++ back)) =
      some ('\x7b' :: (inside ++ ['\x7d'])) := by
  have hdrop : (front ++ ('\x7b' :: (inside ++ ['\x7d']) ++ back)).dropWhile (· ≠ '\x7b') =
      '\x7b' :: (inside ++ '\x7d' :: back) := by
    rw [List.dropWhile_append_of_pos (by simpa using hfront)]
    simp
  unfold firstSpan?
  rw [hdrop]
  refine (scanSpan_cons rfl rfl rfl).trans ((scanSpan_braced hinside 0 _ _).trans ?_)
  simp [scanSpan, closesSpan]

end Scan

/-! ### What is left around a document -/

section Around

variable {cs rest front document back : List Char}

theorem passes_dropNewline (cs : List Char) : Passes (· = '\n') cs (dropNewline cs) := by
  unfold dropNewline
  split
  · exact .cons rfl (.refl _)
  · exact .refl _

theorem passes_dropMatching? {classes : List (List Char)} {p : Char → Prop}
    (hclasses : ∀ choice ∈ classes, ∀ c ∈ choice, p c)
    (hdrop : dropMatching? classes cs = some rest) : Passes p cs rest := by
  induction classes generalizing cs with
  | nil =>
    cases hdrop
    exact .refl _
  | cons choice classes ih =>
    obtain ⟨hchoice, hclasses⟩ := List.forall_mem_cons.mp hclasses
    cases cs with
    | nil => cases hdrop
    | cons c cs =>
      rw [dropMatching?] at hdrop
      split_ifs at hdrop with hc
      exact .cons (hchoice c (by simpa using hc)) (ih hclasses hdrop)

theorem passes_fence (hfence : fence.isPrefixOf? cs = some rest) : Passes (· = '\x60') cs rest :=
  ⟨fence, (List.isPrefixOf?_eq_some_iff_append_eq.mp hfence).symm, by decide⟩

theorem passes_dropOpeningFence (cs : List Char) :
    Passes (· ≠ '\x7b') cs (dropOpeningFence cs) := by
  unfold dropOpeningFence
  split
  · rename_i rest hfence
    have hfirst : Passes (· ≠ '\x7b') cs rest := (passes_fence hfence).mono (by simp)
    have hlanguage : Passes (· ≠ '\x7b') rest ((dropMatching? fenceLanguage rest).getD rest) := by
      cases hmatch : dropMatching? fenceLanguage rest with
      | none => exact .refl rest
      | some behind => exact passes_dropMatching? (by decide) hmatch
    exact hfirst.trans (hlanguage.trans ((passes_dropNewline _).mono (by simp)))
  · exact .refl cs

theorem passes_reverse_dropClosingFence (cs : List Char) :
    Passes (· ≠ '\x7d') cs.reverse (dropClosingFence cs).reverse := by
  unfold dropClosingFence
  split
  · rename_i rest hfence
    rw [List.reverse_reverse]
    exact ((passes_fence hfence).mono (by simp)).trans ((passes_dropNewline rest).mono (by simp))
  · exact .refl cs.reverse

/-- What stands in front of a document with a brace at its front is taken away from the front. -/
theorem exists_front_of_passes (hopen : document.head? = some '\x7b')
    (hpasses : Passes (· ≠ '\x7b') (front ++ (document ++ back)) rest) :
    ∃ left, left <:+ front ∧ rest = left ++ (document ++ back) := by
  obtain ⟨cs, rfl⟩ := List.head?_eq_some_iff.mp hopen
  exact hpasses.of_append_cons (by simp)

/-- What stands behind a document with a brace at its end is taken away from the end. -/
theorem exists_back_of_passes_reverse (hclose : document.getLast? = some '\x7d')
    (hpasses : Passes (· ≠ '\x7d') (front ++ (document ++ back)).reverse rest.reverse) :
    ∃ left, rest = front ++ (document ++ left) := by
  obtain ⟨cs, rfl⟩ := List.getLast?_eq_some_iff.mp hclose
  simp only [List.reverse_append, List.reverse_cons, List.nil_append, List.append_assoc,
    List.cons_append] at hpasses
  obtain ⟨left, -, hrest⟩ := hpasses.of_append_cons (by simp)
  exact ⟨left.reverse, List.reverse_injective (by simpa using hrest)⟩

theorem ne_of_isBlank {c : Char} (hc : Text.isBlank c = true) : c ≠ '\x7b' ∧ c ≠ '\x7d' := by
  constructor <;> rintro rfl <;> revert hc <;> decide

/-- White space is taken away on the two sides of a document. -/
theorem exists_around_trimWhile (hopen : document.head? = some '\x7b')
    (hclose : document.getLast? = some '\x7d') (front back : List Char) :
    ∃ front' back', front' <:+ front ∧ Text.trimWhile Text.isBlank (front ++ (document ++ back)) =
      front' ++ (document ++ back') := by
  have hfront := (passes_dropWhile Text.isBlank (front ++ (document ++ back))).mono
    fun c hc => (ne_of_isBlank hc).1
  obtain ⟨front', hsuffix, hdrop⟩ := exists_front_of_passes hopen hfront
  have hback := (passes_dropWhile Text.isBlank (front' ++ (document ++ back)).reverse).mono
    fun c hc => (ne_of_isBlank hc).2
  rw [← List.reverse_reverse (List.dropWhile _ _)] at hback
  obtain ⟨back', hkept⟩ := exists_back_of_passes_reverse hclose hback
  refine ⟨front', back', hsuffix, ?_⟩
  rw [Text.trimWhile, hdrop, Text.dropRightWhile, hkept]

/-- White space and fences are taken away on the two sides of a document. -/
theorem exists_around_stripFences {reply : String} (hopen : document.head? = some '\x7b')
    (hclose : document.getLast? = some '\x7d')
    (hreply : reply.toList = front ++ (document ++ back)) :
    ∃ front' back', front' <:+ front ∧
      (stripFences reply).toList = front' ++ (document ++ back') := by
  obtain ⟨front₁, back₁, hfront₁, htrim⟩ := exists_around_trimWhile hopen hclose front back
  obtain ⟨front₂, hfront₂, hopened⟩ := exists_front_of_passes hopen
    (passes_dropOpeningFence (front₁ ++ (document ++ back₁)))
  obtain ⟨back₂, hclosed⟩ := exists_back_of_passes_reverse hclose
    (passes_reverse_dropClosingFence (front₂ ++ (document ++ back₁)))
  obtain ⟨front₃, back₃, hfront₃, hagain⟩ := exists_around_trimWhile hopen hclose front₂ back₂
  refine ⟨front₃, back₃, hfront₃.trans (hfront₂.trans hfront₁), ?_⟩
  simp only [stripFences, Text.strip, String.toList_ofList]
  rw [hreply, htrim, hopened, hclosed, hagain]

end Around

/-! ### Reading a text around a document -/

/-- Prose in which no quoted text, list or object begins and no integer is too long. -/
structure IsProse (cs : List Char) : Prop where
  /-- No quoted text, list or object begins. -/
  plain : ∀ c ∈ cs, c ≠ '\x7b' ∧ c ≠ '[' ∧ c ≠ '"'
  /-- There are not too many digits in a row. -/
  digits : ∀ run, run <:+: cs → (∀ c ∈ run, c.isDigit = true) → run.length ≤ maxIntegerDigits

theorem IsProse.of_suffix {cs rest : List Char} (hcs : IsProse cs) (hrest : rest <:+ cs) :
    IsProse rest where
  plain c hc := hcs.plain c (hrest.subset hc)
  digits run hrun := hcs.digits run (hrun.trans hrest.isInfix)

section Read

variable {room : Nat} {front document back cs rest : List Char} {value : Doc}

theorem readDocument_of_readValue
    (hvalue : readValue room (2 * cs.length + 2) (skipBlanks cs) = .ok (value, rest)) :
    readDocument room cs = if skipBlanks rest = [] then .ok value
      else .error (.fault .extraData (skipBlanks rest)) := by
  rw [readDocument, hvalue]
  cases hrest : skipBlanks rest with
  | nil => simp [hrest]
  | cons c behind => simp [hrest]

/-- Prose in front of a document is at most a number or a word, and then the document is too
much. -/
theorem readAtom_prose (hopen : document.head? = some '\x7b') (hfront : IsProse front)
    (back : List Char) :
    (∃ cause rest, readAtom (front ++ (document ++ back)) = .error (.fault cause rest)) ∨
      ∃ value rest, readAtom (front ++ (document ++ back)) = .ok (value, rest) ∧
        skipBlanks rest ≠ [] := by
  obtain ⟨cs, rfl⟩ := List.head?_eq_some_iff.mp hopen
  cases hread : readAtom (front ++ ('\x7b' :: cs ++ back)) with
  | ok found =>
    obtain ⟨left, -, hrest⟩ := (readAtom_passes hread).of_append_cons (by decide)
    refine .inr ⟨found.1, found.2, rfl, fun hnil => ?_⟩
    have hblank := skipBlanks_eq_nil_iff.mp hnil '\x7b' (by simp [hrest])
    cases hblank
  | error stop =>
    cases stop with
    | fault cause rest => exact .inl ⟨cause, rest, rfl⟩
    | integerTooLong digits =>
      obtain ⟨before, run, rest, hsplit, hatoms, hrun, hlong⟩ := readAtom_tooLong hread
      have hbrace : '\x7b' ∉ before ++ run := fun hmem => absurd (hatoms _ hmem) (by decide)
      obtain ⟨left, rfl, -⟩ := exists_left_of_append_eq hsplit.symm hbrace
      have hshort := hfront.digits run ⟨before, left, rfl⟩ hrun
      omega
    | nestedTooDeep compound => exact absurd hread (readAtom_ne_nestedTooDeep _ compound)

/-- A text with a document in it reads as the document, or it is malformed. -/
theorem readDocument_around (hopen : document.head? = some '\x7b') (hfront : IsProse front)
    (hagain : ∀ more behind, 2 * document.length + 2 ≤ more →
      readValue room more (document ++ behind) = .ok (value, behind)) :
    readDocument room (front ++ (document ++ back)) = .ok value ∨
      ∃ cause rest, readDocument room (front ++ (document ++ back)) =
        .error (.fault cause rest) := by
  have hpasses := (passes_dropWhile isDocBlank (front ++ (document ++ back))).mono
    fun c hc => (isPlain_of_isDocBlank hc).2.2.2.1
  obtain ⟨left, hleft, hskip⟩ := exists_front_of_passes hopen hpasses
  have hskip : skipBlanks (front ++ (document ++ back)) = left ++ (document ++ back) := hskip
  cases left with
  | nil =>
    have hvalue := hagain (2 * (front ++ (document ++ back)).length + 2) back (by simp; omega)
    rw [readDocument_of_readValue (by rw [hskip]; exact hvalue)]
    split_ifs
    · exact .inl rfl
    · exact .inr ⟨_, _, rfl⟩
  | cons c left =>
    have hprose := hfront.of_suffix hleft
    obtain ⟨hbrace, hbracket, hquote⟩ := hprose.plain c (by simp)
    have hatom : readValue room (2 * (front ++ (document ++ back)).length + 2)
        (skipBlanks (front ++ (document ++ back))) =
          readAtom (c :: left ++ (document ++ back)) := by
      rw [hskip]
      exact readValue_atom (by simpa using hquote) (by simpa using hbracket) (by simpa using hbrace)
    rcases readAtom_prose hopen hprose back with
      ⟨cause, rest, hfault⟩ | ⟨found, rest, hfound, hrest⟩
    · refine .inr ⟨cause, rest, ?_⟩
      rw [readDocument, hatom, hfault]
    · rw [readDocument_of_readValue (hatom.trans hfound), if_neg hrest]
      exact .inr ⟨_, _, rfl⟩

theorem read_around {s : String} (hs : s.toList = front ++ (document ++ back))
    (hopen : document.head? = some '\x7b') (hfront : IsProse front)
    (hagain : ∀ more behind, 2 * document.length + 2 ≤ more →
      readValue room more (document ++ behind) = .ok (value, behind)) :
    Doc.readWithin room s = .ok value ∨
      ∃ fault position, Doc.readWithin room s = .error (.malformed fault position) := by
  by_cases hmark : s.toList.head? = some '\ufeff'
  · obtain ⟨cs, hcs⟩ := List.head?_eq_some_iff.mp hmark
    refine .inr ⟨.byteOrderMark, Position.behind s.toList 0, ?_⟩
    rw [Doc.readWithin, hcs]
    rfl
  · rw [Doc.readWithin_of_ne_mark hmark, hs]
    rcases readDocument_around hopen hfront hagain with hread | ⟨cause, rest, hread⟩
    · rw [hread]
      exact .inl rfl
    · rw [hread]
      exact .inr ⟨_, _, rfl⟩

end Read

/-! ### Replies -/

/-- In a reply with prose in front of a document and anything behind it, the document is found, if
there is room for it.  The scan for braces ends where the document ends, with and without the
fences. -/
theorem readReply_around (room : Nat) (before document behind : String) (fields : Fields)
    (hopen : document.toList.head? = some '\x7b') (hclose : document.toList.getLast? = some '\x7d')
    (hread : Doc.readWithin room document = .ok (.obj fields))
    (hplain : ∀ c ∈ before.toList, c ≠ '\x7b' ∧ c ≠ '[' ∧ c ≠ '"')
    (hdigits : ∀ run, run <:+: before.toList → (∀ c ∈ run, c.isDigit = true) →
      run.length ≤ maxIntegerDigits) :
    readReplyWithin room (before ++ document ++ behind) = .ok fields ∧
      firstObject? (before ++ document ++ behind) = some document ∧
      firstObject? (stripFences (before ++ document ++ behind)) = some document := by
  have hbefore : IsProse before.toList := ⟨hplain, hdigits⟩
  have hreply : (before ++ document ++ behind).toList =
      before.toList ++ (document.toList ++ behind.toList) := by simp
  obtain ⟨inside, hdocument, hinside, hagain⟩ := Doc.exists_inside_of_read hopen hclose hread
  obtain ⟨front, back, hfront, hstrip⟩ := exists_around_stripFences hopen hclose hreply
  have hspan {s : String} {front back : List Char}
      (hs : s.toList = front ++ (document.toList ++ back)) (hfront : IsProse front) :
      firstObject? s = some document := by
    rw [firstObject?, hs, hdocument, firstSpan?_braced hinside fun c hc => (hfront.plain c hc).1,
      ← hdocument]
    simp
  refine ⟨?_, hspan hreply hbefore, hspan hstrip (hbefore.of_suffix hfront)⟩
  have hsomewhere :
      readSomewhere room (stripFences (before ++ document ++ behind)) = .ok (.obj fields) := by
    rcases read_around hstrip hopen (hbefore.of_suffix hfront) hagain with
      hwhole | ⟨fault, position, hwhole⟩
    · simp only [readSomewhere, hwhole]
    · simp only [readSomewhere, hwhole, hspan hstrip (hbefore.of_suffix hfront), hread]
  unfold readReplyWithin
  rw [hsomewhere]

theorem readReply_around_fenced :
    readReply ("Sure, here are 2 screens:\n```json\n" ++
        "\x7b\"name\": \"a \x7d \\\" \x7b b\", \"at\": [\x7b\"id\": \x7b\x7d\x7d]\x7d" ++
        "\n```\nUse \x7b\"theme\": \x7b\x7d\x7d for \"colours\".") =
      .ok [("name", .str "a \x7d \" \x7b b"), ("at", .arr [.obj [("id", .obj [])]])] := by
  refine (readReply_around _ _ _ _ _ (by decide) (by decide) (by cbv) (by decide) ?_).1
  intro run hrun _
  exact hrun.length_le.trans (by decide)

end CapsuleLoom
