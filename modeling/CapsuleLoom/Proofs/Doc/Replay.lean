import CapsuleLoom.Proofs.Doc.Atom

/-!
# Documents in front of other texts

A value takes the same characters of a text and stands for the same document whatever follows it
there, as long as what follows cannot be a part of it; nothing can be a part of an object behind
its closing brace.  The characters that a value takes have nested braces and brackets.

The items of a list and the fields of an object are rows of entries between commas, and one
argument by steps serves both.

## Main definitions

* `ReadsRow` : how a row of entries is read.
* `EntryReplays`, `RowReplays`, `ValueReplays` : the texts of entries, rows and values are read
  again in front of another text.

## Main results

* `replays` : the texts of values and rows are read again.
* `Doc.exists_inside_of_read` : the text of an object, and its document in front of other texts.
-/

namespace CapsuleLoom

/-! ### Blanks -/

theorem isDelimiter_of_isDocBlank {c : Char} (hc : isDocBlank c = true) : isDelimiter c = true := by
  simp [isDelimiter, hc]

theorem isPlain_of_isDocBlank {c : Char} (hc : isDocBlank c = true) : IsPlain c := by
  refine ⟨?_, ?_, ?_, ?_, ?_⟩ <;> rintro rfl <;> cases hc

theorem skipBlanks_cons_of_blank {c : Char} (hc : isDocBlank c = true) (cs : List Char) :
    skipBlanks (c :: cs) = skipBlanks cs :=
  List.dropWhile_cons_of_pos hc

theorem skipBlanks_cons_of_not_blank {c : Char} (hc : ¬ isDocBlank c = true) (cs : List Char) :
    skipBlanks (c :: cs) = c :: cs :=
  List.dropWhile_cons_of_neg hc

/-- The blanks that were skipped are skipped again, whatever follows. -/
theorem exists_blanks {cs rest : List Char} {c : Char} (hskip : skipBlanks cs = c :: rest) :
    ∃ blanks, cs = blanks ++ c :: rest ∧ Bracketed blanks ∧
      ∀ behind, skipBlanks (blanks ++ c :: behind) = c :: behind := by
  induction cs with
  | nil => cases hskip
  | cons d cs ih =>
    by_cases hd : isDocBlank d = true
    · rw [skipBlanks_cons_of_blank hd] at hskip
      obtain ⟨blanks, rfl, hblanks, hagain⟩ := ih hskip
      refine ⟨d :: blanks, rfl, .plain (isPlain_of_isDocBlank hd) hblanks, fun behind => ?_⟩
      rw [List.cons_append, skipBlanks_cons_of_blank hd, hagain]
    · rw [skipBlanks_cons_of_not_blank hd] at hskip
      cases hskip
      exact ⟨[], rfl, .nil, skipBlanks_cons_of_not_blank hd⟩

theorem exists_blanks_append {cs inside rest : List Char} {last : Char}
    (hskip : skipBlanks cs = inside ++ last :: rest) :
    ∃ blanks, cs = blanks ++ (inside ++ last :: rest) ∧ Bracketed blanks ∧
      ∀ behind, skipBlanks (blanks ++ (inside ++ last :: behind)) = inside ++ last :: behind := by
  cases inside with
  | nil => exact exists_blanks hskip
  | cons c inside =>
    obtain ⟨blanks, hcs, hblanks, hagain⟩ := exists_blanks hskip
    exact ⟨blanks, hcs, hblanks, fun behind => hagain _⟩

/-- Blanks in front of a delimiter are delimiters themselves. -/
theorem Delimited.of_skipBlanks {cs rest : List Char} {c : Char} (hskip : skipBlanks cs = c :: rest)
    (hc : isDelimiter c = true) : Delimited cs := by
  cases cs with
  | nil => cases hskip
  | cons d cs =>
    by_cases hd : isDocBlank d = true
    · exact ⟨d, cs, rfl, isDelimiter_of_isDocBlank hd⟩
    · rw [skipBlanks_cons_of_not_blank hd] at hskip
      cases hskip
      exact ⟨c, rest, rfl, hc⟩

/-! ### Rows of entries -/

section Rows

variable {σ γ : Type}

/-- How a row of entries is read: behind an entry the row is closed, or a comma and another row
follow. -/
structure ReadsRow (read : Nat → σ → List Char → Except Stop (Doc × List Char))
    (entry : Nat → List Char → γ → List Char → Prop) (closing : Char) (add : γ → σ → σ)
    (finish : σ → Doc) : Prop where
  /-- What closes the row may follow an entry. -/
  delimiter : isDelimiter closing = true
  /-- An entry is read, and then the rest of the row. -/
  succ : ∀ bound done cs value rest, read (bound + 1) done cs = .ok (value, rest) ↔
    ∃ found next, entry bound cs found next ∧
      (skipBlanks next = closing :: rest ∧ value = finish (add found done) ∨
        ∃ behind, skipBlanks next = ',' :: behind ∧
          read bound (add found done) (skipBlanks behind) = .ok (value, rest))

/-- The text of an entry is read again in front of every delimiter. -/
def EntryReplays (entry : Nat → List Char → γ → List Char → Prop) (bound : Nat) : Prop :=
  ∀ {cs next : List Char} {found : γ}, entry bound cs found next → Delimited next →
    ∃ used, cs = used ++ next ∧ Bracketed used ∧
      ∀ more behind, bound ≤ more → Delimited behind → entry more (used ++ behind) found behind

/-- The text of a row is read again, whatever follows the character that closes it. -/
def RowReplays (read : Nat → σ → List Char → Except Stop (Doc × List Char)) (closing : Char)
    (bound : Nat) : Prop :=
  ∀ {done : σ} {cs rest : List Char} {value : Doc}, read bound done cs = .ok (value, rest) →
    ∃ inside, cs = inside ++ closing :: rest ∧ Bracketed inside ∧
      ∀ more behind, bound ≤ more →
        read more done (inside ++ closing :: behind) = .ok (value, behind)

theorem ReadsRow.replays_succ {read : Nat → σ → List Char → Except Stop (Doc × List Char)}
    {entry : Nat → List Char → γ → List Char → Prop} {closing : Char} {add : γ → σ → σ}
    {finish : σ → Doc} (hrow : ReadsRow read entry closing add finish) {bound : Nat}
    (hentry : EntryReplays entry bound) (hrest : RowReplays read closing bound) :
    RowReplays read closing (bound + 1) := by
  intro done cs rest value hread
  obtain ⟨found, next, hfound, ⟨hskip, rfl⟩ | ⟨behind, hskip, hnext⟩⟩ :=
    (hrow.succ _ _ _ _ _).mp hread
  · obtain ⟨used, rfl, hused, hagain⟩ := hentry hfound (.of_skipBlanks hskip hrow.delimiter)
    obtain ⟨blanks, rfl, hblanks, hskips⟩ := exists_blanks hskip
    refine ⟨used ++ blanks, by simp, hused.append hblanks, fun more behind hmore => ?_⟩
    obtain ⟨more, rfl⟩ := Nat.exists_eq_add_of_lt hmore
    rw [List.append_assoc, hrow.succ]
    exact ⟨found, _, hagain _ _ (by omega) (.of_skipBlanks (hskips behind) hrow.delimiter),
      .inl ⟨hskips behind, rfl⟩⟩
  · obtain ⟨used, rfl, hused, hagain⟩ := hentry hfound (.of_skipBlanks hskip rfl)
    obtain ⟨blanks, rfl, hblanks, hskips⟩ := exists_blanks hskip
    obtain ⟨inside, hinside, hbraced, hagains⟩ := hrest hnext
    obtain ⟨between, rfl, hbetween, hskipped⟩ := exists_blanks_append hinside
    refine ⟨used ++ (blanks ++ ',' :: (between ++ inside)), by simp, ?_,
      fun more behind hmore => ?_⟩
    · exact hused.append (hblanks.append (.plain (by decide) (hbetween.append hbraced)))
    · obtain ⟨more, rfl⟩ := Nat.exists_eq_add_of_lt hmore
      rw [hrow.succ]
      refine ⟨found, blanks ++ ',' :: (between ++ (inside ++ closing :: behind)), ?_,
        .inr ⟨_, hskips _, ?_⟩⟩
      · simp only [List.append_assoc, List.cons_append]
        exact hagain _ _ (by omega) (.of_skipBlanks (hskips _) rfl)
      · rw [hskipped]
        exact hagains _ _ (by omega)

end Rows

/-! ### Values -/

section Values

variable {room bound : Nat} {cs rest next : List Char} {value item : Doc}

theorem readValue_text (room bound : Nat) (cs : List Char) :
    readValue room (bound + 1) ('"' :: cs) =
      (readText ('"' :: cs) ⟨[], none⟩ cs).map fun (text, rest) => (.str text, rest) := by
  rw [readValue]

theorem readValue_atom (hquote : cs.head? ≠ some '"') (hbracket : cs.head? ≠ some '[')
    (hbrace : cs.head? ≠ some '\x7b') : readValue room (bound + 1) cs = readAtom cs := by
  rw [readValue.eq_def]
  split
  · rename_i heq
    cases heq
  · rename_i heq
    cases heq
    split
    · exact absurd rfl hquote
    · exact absurd rfl hbracket
    · exact absurd rfl hbrace
    · rfl

theorem readValue_noRoom (compound : Compound) (bound : Nat) (cs : List Char) :
    readValue 0 (bound + 1) (compound.opening :: cs) = .error (.nestedTooDeep compound) := by
  cases compound <;> rfl

theorem readValue_noItems (hskip : skipBlanks cs = ']' :: rest) :
    readValue (room + 1) (bound + 1) ('[' :: cs) = .ok (.arr [], rest) := by
  simp [readValue, hskip]

theorem readValue_items (hskip : (skipBlanks cs).head? ≠ some ']') :
    readValue (room + 1) (bound + 1) ('[' :: cs) = readItems room bound [] (skipBlanks cs) := by
  rw [readValue]
  split
  · rename_i heq
    exact absurd (congrArg List.head? heq) hskip
  · rfl

theorem readValue_noFields (hskip : skipBlanks cs = '\x7d' :: rest) :
    readValue (room + 1) (bound + 1) ('\x7b' :: cs) = .ok (.obj [], rest) := by
  simp [readValue, hskip]

theorem readValue_fields (hskip : (skipBlanks cs).head? ≠ some '\x7d') :
    readValue (room + 1) (bound + 1) ('\x7b' :: cs) = readFields room bound [] (skipBlanks cs) := by
  rw [readValue]
  split
  · rename_i heq
    exact absurd (congrArg List.head? heq) hskip
  · rfl

/-- An item stands at the front of a text. -/
def ReadsItem (room bound : Nat) (cs : List Char) (item : Doc) (next : List Char) : Prop :=
  readValue room bound cs = .ok (item, next)

theorem readsRow_readItems (room : Nat) :
    ReadsRow (readItems room) (ReadsItem room) ']' (fun item done => item :: done) fun items =>
      .arr items.reverse where
  delimiter := rfl
  succ bound done cs value rest := by
    rw [readItems]
    unfold ReadsItem
    constructor
    · intro hread
      split at hread
      · cases hread
      · rename_i item next hitem
        refine ⟨item, next, hitem, ?_⟩
        split at hread
        · rename_i hskip
          cases hread
          exact .inl ⟨hskip, rfl⟩
        · rename_i hskip
          exact .inr ⟨_, hskip, hread⟩
        · cases hread
    · rintro ⟨item, next, hitem, ⟨hskip, rfl⟩ | ⟨behind, hskip, hread⟩⟩
      · simp [hitem, hskip]
      · simp [hitem, hskip, hread]

/-- A field stands at the front of a text. -/
def ReadsField (room bound : Nat) (cs : List Char) (field : String × Doc) (next : List Char) :
    Prop :=
  ∃ text colon behind, cs = '"' :: text ∧ readText cs ⟨[], none⟩ text = .ok (field.1, colon) ∧
    skipBlanks colon = ':' :: behind ∧
    readValue room bound (skipBlanks behind) = .ok (field.2, next)

theorem readsRow_readFields (room : Nat) :
    ReadsRow (readFields room) (ReadsField room) '\x7d'
      (fun field done => Fields.put field.1 field.2 done) Doc.obj where
  delimiter := rfl
  succ bound done cs value rest := by
    rw [readFields.eq_def]
    unfold ReadsField
    constructor
    · intro hread
      dsimp only at hread
      split at hread
      · rename_i text
        split at hread
        · cases hread
        · rename_i key colon hkey
          split at hread
          · rename_i behind hcolon
            split at hread
            · cases hread
            · rename_i item next hvalue
              refine ⟨(key, item), next, ⟨text, colon, behind, rfl, hkey, hcolon, hvalue⟩, ?_⟩
              split at hread
              · rename_i hskip
                cases hread
                exact .inl ⟨hskip, rfl⟩
              · rename_i hskip
                exact .inr ⟨_, hskip, hread⟩
              · cases hread
          · cases hread
      · cases hread
    · rintro ⟨⟨key, item⟩, next, ⟨text, colon, behind, rfl, hkey, hcolon, hvalue⟩,
        ⟨hskip, rfl⟩ | ⟨behind, hskip, hread⟩⟩
      · simp_all
      · simp_all

/-- The text of a value is read again in front of every delimiter, and that of an object in front
of everything. -/
def ValueReplays (room bound : Nat) : Prop :=
  ∀ {cs rest : List Char} {value : Doc}, readValue room bound cs = .ok (value, rest) →
    cs.head? = some '\x7b' ∨ Delimited rest →
    ∃ used, cs = used ++ rest ∧ used ≠ [] ∧ Bracketed used ∧
      (cs.head? = some '\x7b' →
        ∃ inside, Bracketed inside ∧ used = '\x7b' :: (inside ++ ['\x7d'])) ∧
      ∀ more behind, bound ≤ more → cs.head? = some '\x7b' ∨ Delimited behind →
        readValue room more (used ++ behind) = .ok (value, behind)

theorem ValueReplays.readsItem (hvalue : ValueReplays room bound) :
    EntryReplays (ReadsItem room) bound := by
  intro cs next item hitem hnext
  obtain ⟨used, rfl, -, hused, -, hagain⟩ := hvalue hitem (.inr hnext)
  exact ⟨used, rfl, hused, fun more behind hmore hbehind => hagain more behind hmore (.inr hbehind)⟩

theorem ValueReplays.readsField (hvalue : ValueReplays room bound) :
    EntryReplays (ReadsField room) bound := by
  rintro cs next ⟨key, item⟩ ⟨text, colon, behind, rfl, hkey, hcolon, hitem⟩ hnext
  obtain ⟨body, rfl, hbody, hkeys⟩ := readText_ok hkey
  obtain ⟨blanks, rfl, hblanks, hcolons⟩ := exists_blanks hcolon
  obtain ⟨used, hskip, hne, hused, -, hagain⟩ := hvalue hitem (.inr hnext)
  obtain ⟨first, used, rfl⟩ := List.exists_cons_of_ne_nil hne
  obtain ⟨between, rfl, hbetween, hskips⟩ := exists_blanks hskip
  refine ⟨'"' :: (body ++ '"' :: (blanks ++ ':' :: (between ++ first :: used))), by simp, ?_,
    fun more behind hmore hbehind => ?_⟩
  · exact .quoted hbody (hblanks.append
      (.plain (by decide) (hbetween.append hused)))
  · refine ⟨body ++ '"' :: (blanks ++ ':' :: (between ++ first :: (used ++ behind))), _, _,
      by simp, hkeys _ _, hcolons _, ?_⟩
    rw [hskips]
    exact hagain more behind hmore (.inr hbehind)

/-- The text between the two characters around a row is read again, whatever follows. -/
theorem RowReplays.between {σ : Type} {read : Nat → σ → List Char → Except Stop (Doc × List Char)}
    {opening closing : Char} {none : Doc} {initial : σ} (hrow : RowReplays read closing bound)
    (hnone : ∀ {bound cs rest}, skipBlanks cs = closing :: rest →
      readValue room (bound + 1) (opening :: cs) = .ok (none, rest))
    (hsome : ∀ {bound cs}, (skipBlanks cs).head? ≠ some closing →
      readValue room (bound + 1) (opening :: cs) = read bound initial (skipBlanks cs))
    (hread : readValue room (bound + 1) (opening :: cs) = .ok (value, rest)) :
    ∃ inside, cs = inside ++ closing :: rest ∧ Bracketed inside ∧
      ∀ more behind, bound + 1 ≤ more →
        readValue room more (opening :: (inside ++ closing :: behind)) = .ok (value, behind) := by
  by_cases hclosed : (skipBlanks cs).head? = some closing
  · obtain ⟨left, hskip⟩ := List.head?_eq_some_iff.mp hclosed
    rw [hnone hskip] at hread
    cases hread
    obtain ⟨blanks, rfl, hblanks, hskips⟩ := exists_blanks hskip
    refine ⟨blanks, rfl, hblanks, fun more behind hmore => ?_⟩
    obtain ⟨more, rfl⟩ := Nat.exists_eq_add_of_lt hmore
    exact hnone (hskips behind)
  · rw [hsome hclosed] at hread
    obtain ⟨inside, hskip, hinside, hagain⟩ := hrow hread
    obtain ⟨blanks, rfl, hblanks, hskips⟩ := exists_blanks_append hskip
    refine ⟨blanks ++ inside, by simp, hblanks.append hinside, fun more behind hmore => ?_⟩
    obtain ⟨more, rfl⟩ := Nat.exists_eq_add_of_lt hmore
    have hopen : (skipBlanks (blanks ++ (inside ++ closing :: behind))).head? ≠ some closing := by
      rw [hskip] at hclosed
      rw [hskips]
      cases inside with
      | nil => exact absurd rfl hclosed
      | cons c inside => exact hclosed
    rw [List.append_assoc, hsome hopen, hskips]
    exact hagain _ behind (by omega)

/-- The text of a compound is read again, whatever follows. -/
theorem exists_inside_of_compound (hitems : ∀ room, RowReplays (readItems room) ']' bound)
    (hfields : ∀ room, RowReplays (readFields room) '\x7d' bound) (compound : Compound)
    (hread : readValue room (bound + 1) (compound.opening :: cs) = .ok (value, rest)) :
    ∃ inside, cs = inside ++ compound.closing :: rest ∧ Bracketed inside ∧
      ∀ more behind, bound + 1 ≤ more →
        readValue room more (compound.opening :: (inside ++ compound.closing :: behind)) =
          .ok (value, behind) := by
  cases room with
  | zero =>
    rw [readValue_noRoom] at hread
    cases hread
  | succ room =>
    cases compound with
    | list => exact RowReplays.between (hitems room) readValue_noItems readValue_items hread
    | object => exact RowReplays.between (hfields room) readValue_noFields readValue_fields hread

theorem valueReplays_succ (hitems : ∀ room, RowReplays (readItems room) ']' bound)
    (hfields : ∀ room, RowReplays (readFields room) '\x7d' bound) (room : Nat) :
    ValueReplays room (bound + 1) := by
  intro cs rest value hread hrest
  by_cases hquote : cs.head? = some '"'
  · obtain ⟨cs, rfl⟩ := List.head?_eq_some_iff.mp hquote
    rw [readValue_text] at hread
    obtain ⟨⟨text, left⟩, htext, heq⟩ := exists_of_map_eq_ok hread
    cases heq
    obtain ⟨body, rfl, hbody, hagain⟩ := readText_ok htext
    refine ⟨'"' :: (body ++ ['"']), by simp, by simp, .quoted hbody .nil, by simp,
      fun more behind hmore hbehind => ?_⟩
    obtain ⟨more, rfl⟩ := Nat.exists_eq_add_of_lt hmore
    simp only [List.cons_append, List.append_assoc, List.nil_append]
    rw [readValue_text, hagain]
    rfl
  by_cases hbracket : cs.head? = some '['
  · obtain ⟨cs, rfl⟩ := List.head?_eq_some_iff.mp hbracket
    obtain ⟨inside, rfl, hinside, hagain⟩ := exists_inside_of_compound hitems hfields .list hread
    refine ⟨'[' :: (inside ++ [']']), by simp [Compound.closing], by simp,
      .nested .list hinside .nil, by simp, fun more behind hmore hbehind => ?_⟩
    simpa [Compound.opening, Compound.closing] using hagain more behind hmore
  by_cases hbrace : cs.head? = some '\x7b'
  · obtain ⟨cs, rfl⟩ := List.head?_eq_some_iff.mp hbrace
    obtain ⟨inside, rfl, hinside, hagain⟩ := exists_inside_of_compound hitems hfields .object hread
    refine ⟨'\x7b' :: (inside ++ ['\x7d']), by simp [Compound.closing], by simp,
      .nested .object hinside .nil, fun _ => ⟨inside, hinside, rfl⟩,
      fun more behind hmore hbehind => ?_⟩
    simpa [Compound.opening, Compound.closing] using hagain more behind hmore
  · rw [readValue_atom hquote hbracket hbrace] at hread
    obtain ⟨used, rfl, hne, hused, hagain⟩ := readAtom_ok hread (hrest.resolve_left hbrace)
    have hhead (behind : List Char) : (used ++ behind).head? = (used ++ rest).head? := by
      rw [List.head?_append_of_ne_nil _ hne, List.head?_append_of_ne_nil _ hne]
    refine ⟨used, rfl, hne, hused, fun h => absurd h hbrace, fun more behind hmore hbehind => ?_⟩
    obtain ⟨more, rfl⟩ := Nat.exists_eq_add_of_lt hmore
    rw [readValue_atom (by rwa [hhead]) (by rwa [hhead]) (by rwa [hhead])]
    exact hagain behind (hbehind.resolve_left hbrace)

/-- The texts of values and rows are read again, with the same room. -/
theorem replays (bound : Nat) :
    (∀ room, ValueReplays room bound) ∧ (∀ room, RowReplays (readItems room) ']' bound) ∧
      ∀ room, RowReplays (readFields room) '\x7d' bound := by
  induction bound with
  | zero =>
    refine ⟨fun room _ _ _ hread => ?_, fun room _ _ _ _ hread => ?_, fun room _ _ _ _ hread => ?_⟩
    · cases hread
    · cases hread
    · cases hread
  | succ bound ih =>
    obtain ⟨hvalue, hitems, hfields⟩ := ih
    exact ⟨valueReplays_succ hitems hfields,
      fun room => (readsRow_readItems room).replays_succ
        (ValueReplays.readsItem (hvalue room)) (hitems room),
      fun room => (readsRow_readFields room).replays_succ
        (ValueReplays.readsField (hvalue room)) (hfields room)⟩

end Values

/-! ### Documents -/

theorem readDocument_eq_ok {room : Nat} {cs : List Char} {value : Doc}
    (hread : readDocument room cs = .ok value) :
    ∃ rest, readValue room (2 * cs.length + 2) (skipBlanks cs) = .ok (value, rest) ∧
      skipBlanks rest = [] := by
  unfold readDocument at hread
  split at hread
  · cases hread
  · rename_i found rest hfound
    split at hread
    · rename_i hrest
      cases hread
      exact ⟨rest, hfound, hrest⟩
    · cases hread

theorem mapError_eq_ok_iff {ε ε' α : Type} {outcome : Except ε α} {f : ε → ε'} {result : α} :
    outcome.mapError f = .ok result ↔ outcome = .ok result := by
  cases outcome <;> simp [Except.mapError]

theorem Doc.readWithin_of_ne_mark {s : String} (hs : s.toList.head? ≠ some '\ufeff') (room : Nat) :
    Doc.readWithin room s = (readDocument room s.toList).mapError (Stop.toReadError s.toList) := by
  unfold Doc.readWithin
  split
  · rename_i heq
    exact absurd (congrArg List.head? heq) hs
  · rfl

theorem skipBlanks_eq_nil_iff {cs : List Char} :
    skipBlanks cs = [] ↔ ∀ c ∈ cs, isDocBlank c = true :=
  List.dropWhile_eq_nil_iff

/-- A document between two braces fills its text, which has balanced braces, and the document is
read from it in front of every text. -/
theorem Doc.exists_inside_of_read {room : Nat} {s : String} {value : Doc}
    (hopen : s.toList.head? = some '\x7b') (hclose : s.toList.getLast? = some '\x7d')
    (hread : Doc.readWithin room s = .ok value) :
    ∃ inside, s.toList = '\x7b' :: (inside ++ ['\x7d']) ∧ Braced inside ∧
      ∀ more behind, 2 * s.toList.length + 2 ≤ more →
        readValue room more (s.toList ++ behind) = .ok (value, behind) := by
  rw [Doc.readWithin_of_ne_mark (by simp [hopen]), mapError_eq_ok_iff] at hread
  obtain ⟨cs, hcs⟩ := List.head?_eq_some_iff.mp hopen
  have hblank : skipBlanks s.toList = s.toList := by
    rw [hcs]
    exact skipBlanks_cons_of_not_blank (by decide) cs
  obtain ⟨rest, hvalue, hrest⟩ := readDocument_eq_ok hread
  rw [hblank] at hvalue
  obtain ⟨used, hused, -, -, hinside, hagain⟩ := (replays _).1 room hvalue (.inl hopen)
  obtain ⟨inside, hbracketed, rfl⟩ := hinside hopen
  -- The last character is the closing brace, so no blank follows it.
  have hnone : rest = [] := by
    rcases List.eq_nil_or_concat rest with rfl | ⟨front, last, rfl⟩
    · rfl
    · have hlast : last = '\x7d' := by
        rw [hused, List.concat_eq_append, ← List.append_assoc, List.getLast?_concat] at hclose
        exact Option.some.inj hclose
      have hblanks := skipBlanks_eq_nil_iff.mp hrest last (by simp)
      rw [hlast] at hblanks
      cases hblanks
  rw [hnone, List.append_nil] at hused
  refine ⟨inside, hused, hbracketed.braced, fun more behind hmore => ?_⟩
  rw [hused]
  exact hagain more behind hmore (.inl hopen)

end CapsuleLoom
