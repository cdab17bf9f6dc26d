import CapsuleLoom.Proofs.Assistant.Reply

/-!
# Replies that are given up

The reader gives up on an integer with more digits than are converted, and on a list or an object
inside so many others that there is no room for it.  It only looks at what remains of a text, and
what it has passed is nested, so the place where it gives up tells what is wrong with the text: the
digits stand in a row there, or so many braces and brackets are open.  A reply is only cut at its
two ends before it is read.

## Main definitions

* `HasLongRun` : more digits stand in a row in a text than are converted.
* `NestsBeyond` : a compound lies deeper in a text than there is room for.
* `GivesUp` : what the reader gives up on in a text.

## Main results

* `givesUp_reading` : the reader gives up nowhere else.
* `isInfix_stripFences`, `isInfix_firstObject?` : what is read of a reply is a part of it.
* `hasLongRun_of_readReply`, `nestsBeyond_of_readReply` : the replies that are given up.
* `readReply_powerReply`, `readReply_nestedReply` : two of them.
-/

namespace CapsuleLoom

/-- More digits stand in a row in a text than are converted. -/
def HasLongRun (cs : List Char) : Prop :=
  ∃ run, run <:+: cs ∧ (∀ c ∈ run, c.isDigit = true) ∧ maxIntegerDigits < run.length

theorem HasLongRun.of_isInfix {cs part : List Char} (hlong : HasLongRun part)
    (hpart : part <:+: cs) : HasLongRun cs := by
  obtain ⟨run, hrun, hdigits, hlength⟩ := hlong
  exact ⟨run, hrun.trans hpart, hdigits, hlength⟩

/-- A compound begins in a text where as many others are open as there is room for. -/
def NestsBeyond (room : Nat) (cs : List Char) : Prop :=
  ∃ passed compound rest, cs = passed ++ Compound.opening compound :: rest ∧ OpenTo room passed

/-- What a reader with some room gives up on in a text. -/
inductive GivesUp : (room : Nat) → Stop → List Char → Prop
  /-- An integer is too long. -/
  | integer (room : Nat) {digits : Nat} {cs : List Char}
      (hatom : readAtom cs = .error (.integerTooLong digits)) :
      GivesUp room (.integerTooLong digits) cs
  /-- There is no room for a compound. -/
  | compound (compound : Compound) (rest : List Char) :
      GivesUp 0 (.nestedTooDeep compound) (compound.opening :: rest)
  /-- A compound is entered first. -/
  | inside (compound : Compound) {room : Nat} {stop : Stop} {cs : List Char}
      (hcs : GivesUp room stop cs) : GivesUp (room + 1) stop (compound.opening :: cs)
  /-- Something nested is passed first. -/
  | behind {passed : List Char} (hpassed : Bracketed passed) {room : Nat} {stop : Stop}
      {cs : List Char} (hcs : GivesUp room stop cs) : GivesUp room stop (passed ++ cs)

section GivesUp

variable {room digits : Nat} {compound : Compound} {cs : List Char}

theorem GivesUp.hasLongRun (hstops : GivesUp room (.integerTooLong digits) cs) :
    HasLongRun cs := by
  generalize hstop : Stop.integerTooLong digits = stop at hstops
  induction hstops with
  | integer room hatom =>
    obtain ⟨before, run, rest, hsplit, -, hdigits, hlength⟩ := readAtom_tooLong hatom
    exact ⟨run, ⟨before, rest, hsplit.symm⟩, hdigits, hlength⟩
  | compound => cases hstop
  | inside compound _ ih => exact (ih hstop).of_isInfix (List.suffix_cons _ _).isInfix
  | behind _ _ ih => exact (ih hstop).of_isInfix (List.suffix_append _ _).isInfix

theorem GivesUp.nestsBeyond (hstops : GivesUp room (.nestedTooDeep compound) cs) :
    NestsBeyond room cs := by
  generalize hstop : Stop.nestedTooDeep compound = stop at hstops
  induction hstops with
  | integer => cases hstop
  | compound compound rest => exact ⟨[], compound, rest, rfl, .closed .nil⟩
  | inside outer _ ih =>
    obtain ⟨passed, compound, rest, rfl, hpassed⟩ := ih hstop
    exact ⟨outer.opening :: passed, compound, rest, rfl, .inside outer .nil hpassed⟩
  | behind hbefore _ ih =>
    obtain ⟨passed, compound, rest, rfl, hpassed⟩ := ih hstop
    exact ⟨_, compound, rest, (List.append_assoc _ _ _).symm, hbefore.append_openTo hpassed⟩

end GivesUp

/-! ### Reading -/

/-- Whether a text is malformed where reading stopped. -/
def Stop.isFault : Stop → Bool
  | fault _ _ => true
  | _ => false

section Reading

variable {room bound : Nat} {cs : List Char} {stop : Stop}

theorem exists_bracketed_skipBlanks (cs : List Char) :
    ∃ blanks, Bracketed blanks ∧ cs = blanks ++ skipBlanks cs := by
  refine ⟨cs.takeWhile isDocBlank, .of_plain fun c hc => ?_, ?_⟩
  · exact isPlain_of_isDocBlank (List.mem_takeWhile_imp hc)
  · exact List.takeWhile_append_dropWhile.symm

/-- What is passed up to the next value behind a comma or a colon. -/
theorem exists_bracketed_of_skipBlanks {rest : List Char} {c : Char}
    (hskip : skipBlanks cs = c :: rest) (hc : IsPlain c) :
    ∃ front, Bracketed front ∧ cs = front ++ skipBlanks rest := by
  obtain ⟨blanks, hblanks, hcs⟩ := exists_bracketed_skipBlanks cs
  obtain ⟨between, hbetween, hrest⟩ := exists_bracketed_skipBlanks rest
  refine ⟨blanks ++ c :: between, hblanks.append (.plain hc hbetween), ?_⟩
  rw [List.append_assoc, List.cons_append, ← hrest, ← hskip]
  exact hcs

theorem isFault_of_readText {opening : List Char} {p : Pending}
    (hread : readText opening p cs = .error stop) : stop.isFault = true := by
  fun_induction readText opening p cs <;> simp_all [Stop.isFault]
  all_goals (subst hread; rfl)

theorem givesUp_of_readAtom (hread : readAtom cs = .error stop) (hstop : stop.isFault = false) :
    GivesUp room stop cs := by
  cases stop with
  | fault => cases hstop
  | integerTooLong digits => exact .integer room hread
  | nestedTooDeep compound => exact absurd hread (readAtom_ne_nestedTooDeep cs compound)

/-- The reader of a list gives up in the first item or in those behind a comma. -/
theorem readItems_error {done : List Doc} (hread : readItems room (bound + 1) done cs = .error stop)
    (hstop : stop.isFault = false) :
    readValue room bound cs = .error stop ∨
      ∃ item rest next, readValue room bound cs = .ok (item, rest) ∧
        skipBlanks rest = ',' :: next ∧
        readItems room bound (item :: done) (skipBlanks next) = .error stop := by
  rw [readItems] at hread
  split at hread
  · rename_i stop hvalue
    cases hread
    exact .inl hvalue
  · rename_i item rest hvalue
    split at hread
    · cases hread
    · rename_i next hskip
      exact .inr ⟨item, rest, next, hvalue, hskip, hread⟩
    · cases hread
      cases hstop

/-- The reader of an object gives up in the value of the first field or in the fields behind a
comma. -/
theorem readFields_error {done : Fields}
    (hread : readFields room (bound + 1) done cs = .error stop) (hstop : stop.isFault = false) :
    ∃ text key colon behind, cs = '"' :: text ∧ readText cs ⟨[], none⟩ text = .ok (key, colon) ∧
      skipBlanks colon = ':' :: behind ∧
      (readValue room bound (skipBlanks behind) = .error stop ∨
        ∃ value rest next, readValue room bound (skipBlanks behind) = .ok (value, rest) ∧
          skipBlanks rest = ',' :: next ∧
          readFields room bound (Fields.put key value done) (skipBlanks next) = .error stop) := by
  rw [readFields.eq_def] at hread
  dsimp only at hread
  split at hread
  · rename_i text
    split at hread
    · rename_i stop hkey
      cases hread
      cases hstop.symm.trans (isFault_of_readText hkey)
    · rename_i key colon hkey
      split at hread
      · rename_i behind hcolon
        refine ⟨text, key, colon, behind, rfl, hkey, hcolon, ?_⟩
        split at hread
        · rename_i stop hvalue
          cases hread
          exact .inl hvalue
        · rename_i value rest hvalue
          split at hread
          · cases hread
          · rename_i next hskip
            exact .inr ⟨value, rest, next, hvalue, hskip, hread⟩
          · cases hread
            cases hstop
      · cases hread
        cases hstop
  · cases hread
    cases hstop

/-- A reader gives up only on what is too long or too deep. -/
def GivesUpRightly (room : Nat) (read : List Char → Except Stop (Doc × List Char)) : Prop :=
  ∀ {cs : List Char} {stop : Stop}, read cs = .error stop → stop.isFault = false →
    GivesUp room stop cs

theorem givesUp_readValue_succ
    (hitems : ∀ room done, GivesUpRightly room (readItems room bound done))
    (hfields : ∀ room done, GivesUpRightly room (readFields room bound done)) (room : Nat) :
    GivesUpRightly room (readValue room (bound + 1)) := by
  intro cs stop hread hstop
  by_cases hquote : cs.head? = some '"'
  · obtain ⟨text, rfl⟩ := List.head?_eq_some_iff.mp hquote
    rw [readValue_text] at hread
    cases htext : readText ('"' :: text) ⟨[], none⟩ text with
    | ok found => rw [htext] at hread; cases hread
    | error stop =>
      rw [htext] at hread
      cases hread
      cases hstop.symm.trans (isFault_of_readText htext)
  by_cases hopens : ∃ compound inside, cs = Compound.opening compound :: inside
  · obtain ⟨compound, inside, rfl⟩ := hopens
    obtain ⟨blanks, hblanks, hinside⟩ := exists_bracketed_skipBlanks inside
    cases room with
    | zero =>
      rw [readValue_noRoom] at hread
      cases hread
      exact .compound compound inside
    | succ room =>
      rw [hinside]
      refine .inside compound (.behind hblanks ?_)
      cases compound with
      | list =>
        by_cases hclosed : (skipBlanks inside).head? = some ']'
        · obtain ⟨rest, hskip⟩ := List.head?_eq_some_iff.mp hclosed
          cases (readValue_noItems hskip).symm.trans hread
        · exact hitems room [] ((readValue_items hclosed).symm.trans hread) hstop
      | object =>
        by_cases hclosed : (skipBlanks inside).head? = some '\x7d'
        · obtain ⟨rest, hskip⟩ := List.head?_eq_some_iff.mp hclosed
          cases (readValue_noFields hskip).symm.trans hread
        · exact hfields room [] ((readValue_fields hclosed).symm.trans hread) hstop
  · have hhead (compound : Compound) : cs.head? ≠ some compound.opening := fun hhead =>
      hopens ⟨compound, List.head?_eq_some_iff.mp hhead⟩
    rw [readValue_atom hquote (hhead .list) (hhead .object)] at hread
    exact givesUp_of_readAtom hread hstop

/-- What stands behind a value and a comma comes after something nested. -/
theorem exists_bracketed_behind_comma {value : Doc} {rest next : List Char}
    (hvalue : readValue room bound cs = .ok (value, rest)) (hskip : skipBlanks rest = ',' :: next) :
    ∃ front, Bracketed front ∧ cs = front ++ skipBlanks next := by
  -- A comma ends whatever value stands before it, so the value is a front of the text.
  obtain ⟨used, rfl, -, hused, -⟩ := (replays bound).1 room hvalue (.inr (.of_skipBlanks hskip rfl))
  obtain ⟨front, hfront, hrest⟩ := exists_bracketed_of_skipBlanks hskip (by decide)
  exact ⟨used ++ front, hused.append hfront, by rw [List.append_assoc, ← hrest]⟩

theorem givesUp_readItems_succ (hvalue : GivesUpRightly room (readValue room bound))
    (hitems : ∀ done, GivesUpRightly room (readItems room bound done)) (done : List Doc) :
    GivesUpRightly room (readItems room (bound + 1) done) := by
  intro cs stop hread hstop
  rcases readItems_error hread hstop with hfirst | ⟨item, rest, next, hitem, hskip, hothers⟩
  · exact hvalue hfirst hstop
  · obtain ⟨front, hfront, hcs⟩ := exists_bracketed_behind_comma hitem hskip
    rw [hcs]
    exact .behind hfront (hitems _ hothers hstop)

theorem givesUp_readFields_succ (hvalue : GivesUpRightly room (readValue room bound))
    (hfields : ∀ done, GivesUpRightly room (readFields room bound done)) (done : Fields) :
    GivesUpRightly room (readFields room (bound + 1) done) := by
  intro cs stop hread hstop
  obtain ⟨text, key, colon, behind, rfl, hkey, hcolon, hinside⟩ := readFields_error hread hstop
  -- The key is set off by quotes, and a colon stands in front of the value.
  obtain ⟨body, rfl, hbody, -⟩ := readText_ok hkey
  obtain ⟨between, hbetween, rfl⟩ := exists_bracketed_of_skipBlanks hcolon (by decide)
  have hkeyed : '"' :: (body ++ '"' :: (between ++ skipBlanks behind)) =
      '"' :: (body ++ '"' :: between) ++ skipBlanks behind := by simp
  rw [hkeyed]
  refine .behind (.quoted hbody hbetween) ?_
  rcases hinside with hfirst | ⟨value, rest, next, hfirst, hskip, hothers⟩
  · exact hvalue hfirst hstop
  · obtain ⟨front, hfront, hrest⟩ := exists_bracketed_behind_comma hfirst hskip
    rw [hrest]
    exact .behind hfront (hfields _ hothers hstop)

/-- The readers give up only on what is too long or too deep. -/
theorem givesUp_reading (bound : Nat) :
    (∀ room, GivesUpRightly room (readValue room bound)) ∧
      (∀ room done, GivesUpRightly room (readItems room bound done)) ∧
      ∀ room done, GivesUpRightly room (readFields room bound done) := by
  -- The three readers call each other with a smaller bound, so they are taken together.
  induction bound with
  | zero =>
    refine ⟨fun room _ _ hread hstop => ?_, fun room done _ _ hread hstop => ?_,
      fun room done _ _ hread hstop => ?_⟩ <;> cases hread <;> cases hstop
  | succ bound ih =>
    obtain ⟨hvalue, hitems, hfields⟩ := ih
    exact ⟨givesUp_readValue_succ hitems hfields,
      fun room => givesUp_readItems_succ (hvalue room) (hitems room),
      fun room => givesUp_readFields_succ (hvalue room) (hfields room)⟩

theorem givesUp_readDocument (hread : readDocument room cs = .error stop)
    (hstop : stop.isFault = false) : GivesUp room stop cs := by
  unfold readDocument at hread
  split at hread
  · rename_i stop hvalue
    cases hread
    obtain ⟨blanks, hblanks, hcs⟩ := exists_bracketed_skipBlanks cs
    rw [hcs]
    exact .behind hblanks ((givesUp_reading _).1 room hvalue hstop)
  · split at hread
    · cases hread
    · cases hread
      cases hstop

end Reading

/-! ### Parts of a reply -/

theorem Passes.isSuffix {p : Char → Prop} {cs rest : List Char} (hpasses : Passes p cs rest) :
    rest <:+ cs := by
  obtain ⟨used, hused, -⟩ := hpasses
  exact ⟨used, hused.symm⟩

theorem isInfix_trimWhile (p : Char → Bool) (cs : List Char) : Text.trimWhile p cs <:+: cs := by
  have hback : Text.trimWhile p cs <+: cs.dropWhile p := by
    rw [Text.trimWhile, Text.dropRightWhile, ← List.reverse_suffix, List.reverse_reverse]
    exact List.dropWhile_suffix p
  exact hback.isInfix.trans (List.dropWhile_suffix p).isInfix

theorem isInfix_stripFences (reply : String) : (stripFences reply).toList <:+: reply.toList := by
  have hclosing (cs : List Char) : dropClosingFence cs <+: cs :=
    List.reverse_suffix.mp (passes_reverse_dropClosingFence cs).isSuffix
  simp only [stripFences, Text.strip, String.toList_ofList]
  refine (isInfix_trimWhile _ _).trans ((hclosing _).isInfix.trans ?_)
  exact (passes_dropOpeningFence _).isSuffix.isInfix.trans (isInfix_trimWhile _ _)

theorem scanSpan_eq_some {mode : ScanMode} {depth : Nat} {taken cs span : List Char}
    (hscan : scanSpan mode depth taken cs = some span) :
    ∃ used, used <+: cs ∧ span = taken.reverse ++ used := by
  fun_induction scanSpan mode depth taken cs with
  | case1 => cases hscan
  | case2 mode depth taken c rest hcloses =>
    cases hscan
    exact ⟨[c], ⟨rest, rfl⟩, List.reverse_cons⟩
  | case3 mode depth taken c rest hopen ih =>
    obtain ⟨used, hused, rfl⟩ := ih hscan
    exact ⟨c :: used, List.cons_prefix_cons.mpr ⟨rfl, hused⟩, by simp⟩

theorem isInfix_firstObject? {text span : String} (hspan : firstObject? text = some span) :
    span.toList <:+: text.toList := by
  obtain ⟨found, hfound, rfl⟩ := Option.map_eq_some_iff.mp hspan
  rw [String.toList_ofList]
  unfold firstSpan? at hfound
  split at hfound
  · cases hfound
  · rename_i cs hdrop
    obtain ⟨used, hused, rfl⟩ := scanSpan_eq_some hfound
    exact hused.isInfix.trans (List.dropWhile_suffix _).isInfix

/-! ### Replies -/

/-- Where reading was given up, for an error without a place. -/
def ReadError.stop? : ReadError → Option Stop
  | malformed _ _ => none
  | integerTooLong digits => some (.integerTooLong digits)
  | nestedTooDeep compound => some (.nestedTooDeep compound)

/-- Where reading was given up, for an error of a reply without a place. -/
def ReplyError.stop? : ReplyError → Option Stop
  | integerTooLong digits => some (.integerTooLong digits)
  | nestedTooDeep compound => some (.nestedTooDeep compound)
  | _ => none

section Replies

variable {room digits : Nat} {stop : Stop} {cs : List Char}

theorem Stop.eq_of_stop? {other : Stop} (hstop : (other.toReadError cs).stop? = some stop) :
    other = stop ∧ stop.isFault = false := by
  cases other with
  | fault => cases hstop
  | integerTooLong | nestedTooDeep => cases hstop; exact ⟨rfl, rfl⟩

theorem ReplyError.stop?_ofReadError (error : ReadError) :
    (ofReadError error).stop? = error.stop? := by
  cases error <;> rfl

theorem givesUp_readWithin {text : String} {error : ReadError}
    (hread : Doc.readWithin room text = .error error) (hstop : error.stop? = some stop) :
    GivesUp room stop text.toList := by
  unfold Doc.readWithin at hread
  split at hread
  · cases hread
    cases hstop
  · unfold Doc.readChars at hread
    cases hdocument : readDocument room text.toList with
    | ok value => rw [hdocument] at hread; cases hread
    | error other =>
      rw [hdocument] at hread
      cases hread
      obtain ⟨rfl, hfault⟩ := Stop.eq_of_stop? hstop
      exact givesUp_readDocument hdocument hfault

/-- A reply is given up only if the reader gives up on a part of it. -/
theorem givesUp_readReply {reply : String} {error : ReplyError}
    (hread : readReplyWithin room reply = .error error) (hstop : error.stop? = some stop) :
    ∃ part, part <:+: reply.toList ∧ GivesUp room stop part := by
  obtain ⟨cause, hsomewhere, hcause⟩ : ∃ cause,
      readSomewhere room (stripFences reply) = .error cause ∧ cause.stop? = some stop := by
    unfold readReplyWithin at hread
    split at hread
    · cases hread
    · cases hread
      cases hstop
    · rename_i cause hcause
      cases hread
      exact ⟨cause, hcause, (ReplyError.stop?_ofReadError cause).symm.trans hstop⟩
  have hstrip := isInfix_stripFences reply
  unfold readSomewhere at hsomewhere
  split at hsomewhere
  · split at hsomewhere
    · rename_i span hspan
      exact ⟨_, (isInfix_firstObject? hspan).trans hstrip, givesUp_readWithin hsomewhere hcause⟩
    · cases hsomewhere
      cases hcause
  · exact ⟨_, hstrip, givesUp_readWithin hsomewhere hcause⟩

/-- An integer makes a reply be given up only if it has a long run of digits. -/
theorem hasLongRun_of_readReply {reply : String}
    (hread : readReplyWithin room reply = .error (.integerTooLong digits)) :
    HasLongRun reply.toList := by
  obtain ⟨part, hpart, hstops⟩ := givesUp_readReply hread rfl
  exact hstops.hasLongRun.of_isInfix hpart

/-- A compound makes a reply be given up only if it lies deeper than there is room for. -/
theorem nestsBeyond_of_readReply {reply : String} {compound : Compound}
    (hread : readReplyWithin room reply = .error (.nestedTooDeep compound)) :
    ∃ part, part <:+: reply.toList ∧ NestsBeyond room part := by
  obtain ⟨part, hpart, hstops⟩ := givesUp_readReply hread rfl
  exact ⟨part, hpart, hstops.nestsBeyond⟩

end Replies

/-! ### Replies that are too long or too deep -/

section Examples

variable {room zeros : Nat}

theorem readReplyWithin_of_readWithin {reply : String} {error : ReadError} {stop : Stop}
    (hstrip : stripFences reply = reply) (hread : Doc.readWithin room reply = .error error)
    (hstop : error.stop? = some stop) :
    readReplyWithin room reply = .error (.ofReadError error) := by
  have hsomewhere : readSomewhere room reply = .error error := by
    unfold readSomewhere
    cases error with
    | malformed => cases hstop
    | integerTooLong | nestedTooDeep => rw [hread]
  unfold readReplyWithin
  rw [hstrip, hsomewhere]

/-- A reply that is an object with a single field, which holds a power of ten. -/
def powerReply (zeros : Nat) : String :=
  String.ofList (['\x7b', '"', 'n', '"', ':', '1'] ++ List.replicate zeros '0' ++ ['\x7d'])

theorem powerReply_ne_empty (zeros : Nat) : powerReply zeros ≠ "" := by
  intro hempty
  have hlist := congrArg String.toList hempty
  simp [powerReply] at hlist

theorem readAtom_power (hlong : maxIntegerDigits ≤ zeros) :
    readAtom ('1' :: (List.replicate zeros '0' ++ ['\x7d'])) =
      .error (.integerTooLong (zeros + 1)) := by
  have hword : readWord ('1' :: (List.replicate zeros '0' ++ ['\x7d'])) = none := rfl
  have hspan : spanWhole ('1' :: (List.replicate zeros '0' ++ ['\x7d'])) =
      ('1' :: List.replicate zeros '0', ['\x7d']) := by
    have hdigit : ∀ c ∈ '1' :: List.replicate zeros '0', c.isDigit = true := by simp
    rw [spanWhole_other (by simp), spanDigits_eq, ← List.cons_append,
      List.takeWhile_append_of_pos hdigit, List.dropWhile_append_of_pos hdigit]
    simp
  have hcount : maxIntegerDigits < ('1' :: List.replicate zeros '0').length := by
    simpa using Nat.lt_succ_of_le hlong
  rw [readAtom, hword]
  dsimp only
  rw [readNumber_eq, spanMinus_other (by simp), hspan]
  dsimp only
  rw [if_neg (by simp), if_pos ⟨rfl, hcount⟩, List.length_cons, List.length_replicate]

/-- The reader gives up on the field whose value is too long. -/
theorem readFields_tooLong_of_readAtom {tail : List Char} {digits : Nat}
    (hatom : readAtom ('1' :: tail) = .error (.integerTooLong digits)) (room bound : Nat) :
    readFields room (bound + 2) [] ('"' :: 'n' :: '"' :: ':' :: '1' :: tail) =
      .error (.integerTooLong digits) := by
  obtain ⟨key, hkey⟩ : ∃ key, readText ('"' :: 'n' :: '"' :: ':' :: '1' :: tail) ⟨[], none⟩
      ('n' :: '"' :: ':' :: '1' :: tail) = .ok (key, ':' :: '1' :: tail) :=
    ⟨_, by rw [readText_plain (by decide) (by decide), if_neg (by decide), readText_quote]⟩
  have hcolon : skipBlanks (':' :: '1' :: tail) = ':' :: '1' :: tail :=
    skipBlanks_cons_of_not_blank (by decide) _
  have hone : skipBlanks ('1' :: tail) = '1' :: tail :=
    skipBlanks_cons_of_not_blank (by decide) _
  have hvalue : readValue room (bound + 1) ('1' :: tail) = .error (.integerTooLong digits) :=
    (readValue_atom (by simp) (by simp) (by simp)).trans hatom
  simp [readFields, hkey, hcolon, hone, hvalue]

theorem readDocument_powerReply (hlong : maxIntegerDigits ≤ zeros) (room : Nat) :
    readDocument (room + 1) (powerReply zeros).toList = .error (.integerTooLong (zeros + 1)) := by
  rw [powerReply, String.toList_ofList, List.append_assoc]
  generalize htail : List.replicate zeros '0' ++ ['\x7d'] = tail
  have hatom : readAtom ('1' :: tail) = .error (.integerTooLong (zeros + 1)) :=
    htail ▸ readAtom_power hlong
  have hvalue (bound : Nat) :
      readValue (room + 1) (bound + 3) ('\x7b' :: '"' :: 'n' :: '"' :: ':' :: '1' :: tail) =
        .error (.integerTooLong (zeros + 1)) := by
    have hskip : skipBlanks ('"' :: 'n' :: '"' :: ':' :: '1' :: tail) =
        '"' :: 'n' :: '"' :: ':' :: '1' :: tail := skipBlanks_cons_of_not_blank (by decide) _
    rw [readValue_fields (by simp [hskip]), hskip]
    exact readFields_tooLong_of_readAtom hatom room bound
  simp only [List.cons_append, List.nil_append]
  unfold readDocument
  rw [List.length_cons, Nat.mul_succ, skipBlanks_cons_of_not_blank (by decide), hvalue]

theorem stripFences_powerReply (zeros : Nat) :
    stripFences (powerReply zeros) = powerReply zeros := by
  have hlist : (powerReply zeros).toList = [] ++ ((powerReply zeros).toList ++ []) := by simp
  obtain ⟨front, back, hfront, hstrip⟩ := exists_around_stripFences (by simp [powerReply])
    (by rw [powerReply, String.toList_ofList, List.getLast?_concat]) hlist
  obtain rfl := List.suffix_nil.mp hfront
  -- What is left is a part of the reply, so nothing can stand behind it.
  have hback : back = [] := by
    have hlength := (isInfix_stripFences (powerReply zeros)).length_le
    rw [hstrip, List.nil_append, List.length_append] at hlength
    exact List.length_eq_zero_iff.mp (by omega)
  rw [hback, List.nil_append, List.append_nil] at hstrip
  exact String.toList_inj.mp hstrip

/-- A reply with a large power of ten is given up. -/
theorem readReply_powerReply (hlong : maxIntegerDigits ≤ zeros) (room : Nat) :
    readReplyWithin (room + 1) (powerReply zeros) = .error (.integerTooLong (zeros + 1)) := by
  have hmark : (powerReply zeros).toList.head? ≠ some '\ufeff' := by simp [powerReply]
  have hread : Doc.readWithin (room + 1) (powerReply zeros) =
      .error (.integerTooLong (zeros + 1)) := by
    rw [Doc.readWithin_of_ne_mark hmark, readDocument_powerReply hlong, Except.mapError,
      Stop.toReadError]
  exact readReplyWithin_of_readWithin (stripFences_powerReply zeros) hread rfl

/-- A reply of opening brackets only, one more than there is room for. -/
def nestedReply (room : Nat) : String := String.ofList (List.replicate (room + 1) '[')

theorem nestedReply_ne_empty (room : Nat) : nestedReply room ≠ "" := by
  intro hempty
  have hlist := congrArg String.toList hempty
  simp [nestedReply] at hlist

theorem skipBlanks_brackets (count : Nat) :
    skipBlanks (List.replicate (count + 1) '[') = List.replicate (count + 1) '[' :=
  skipBlanks_cons_of_not_blank (by decide) _

theorem readValue_brackets (room : Nat) {bound : Nat} (hbound : 2 * room < bound) :
    readValue room bound (List.replicate (room + 1) '[') = .error (.nestedTooDeep .list) := by
  induction room generalizing bound with
  | zero =>
    obtain ⟨bound, rfl⟩ := Nat.exists_eq_add_of_lt hbound
    exact readValue_noRoom .list _ []
  | succ room ih =>
    obtain ⟨bound, rfl⟩ : ∃ more, bound = more + 2 := ⟨bound - 2, by omega⟩
    have hopen : (skipBlanks (List.replicate (room + 1) '[')).head? ≠ some ']' := by
      rw [skipBlanks_brackets]
      simp [List.replicate_succ]
    rw [List.replicate_succ, readValue_items hopen, skipBlanks_brackets, readItems,
      ih (by omega)]

theorem stripFences_nestedReply (room : Nat) :
    stripFences (nestedReply room) = nestedReply room := by
  have hblank : Text.isBlank '[' = false := by decide
  have htrim : Text.strip (nestedReply room) = nestedReply room := by
    simp [Text.strip, Text.trimWhile, Text.dropRightWhile, nestedReply, hblank]
  have hopening : dropOpeningFence (nestedReply room).toList = (nestedReply room).toList := by
    rw [nestedReply, String.toList_ofList]
    rfl
  have hclosing : dropClosingFence (nestedReply room).toList = (nestedReply room).toList := by
    rw [nestedReply, String.toList_ofList, dropClosingFence, List.reverse_replicate]
    rfl
  rw [stripFences, htrim, hopening, hclosing, String.ofList_toList, htrim]

/-- A reply that opens more brackets than there is room for is given up. -/
theorem readReply_nestedReply (room : Nat) :
    readReplyWithin room (nestedReply room) = .error (.nestedTooDeep .list) := by
  have hmark : (nestedReply room).toList.head? ≠ some '\ufeff' := by
    simp [nestedReply, List.replicate_succ]
  have hread : Doc.readWithin room (nestedReply room) = .error (.nestedTooDeep .list) := by
    rw [Doc.readWithin_of_ne_mark hmark, readDocument, nestedReply, String.toList_ofList,
      skipBlanks_brackets, readValue_brackets room (by simp; omega)]
    rfl
  exact readReplyWithin_of_readWithin (stripFences_nestedReply room) hread rfl

end Examples

end CapsuleLoom
