import CapsuleLoom.Proofs.Metrics.Ledger
import CapsuleLoom.Proofs.Service.Results

/-!
# Calls one after another

Whatever generations a service is called for, with whatever settings, and however they end, its
metrics account for what was completed, passed over, rejected and measured.  A call that fails
half-way leaves behind what it had completed by then.  This holds after each call, and in the middle
of a call after each target.

## Main definitions

* `Call`, `runCalls` : calls, and what a service does for them.
* `Call.Leaves` : what a call leaves in the metrics, for each way in which it can end.
* `Call.Midway` : a service in the middle of a call.
* `Entry` : a call with its outcome and what it left in the metrics.

## Main results

* `Call.serve_handles` : what the targets of a generation leave in the metrics.
* `Call.run_leaves` : what a call leaves in the metrics.
* `Call.exists_midway` : what a call has left in the metrics when some of its targets are served.
* `metrics_account_for_calls` : what the metrics say after some calls, and in the middle of one.
-/

namespace CapsuleLoom

instance (settings : Settings) (targets : List String) : Decidable (settings.Refuses targets) :=
  inferInstanceAs (Decidable (_ ∧ _))

/-- A call for a generation, with settings of its own. -/
structure Call where
  /-- What the screens show. -/
  κ : Type
  /-- The capsules that are shown. -/
  outline : Outline κ
  /-- Only equal places are the same object. -/
  eq_of_same : ∀ a b, outline.same a b = true → a = b
  /-- The settings. -/
  settings : Settings
  /-- The project. -/
  project : Project κ
  /-- The targets, if any are asked for. -/
  targets? : Option (List Doc)

namespace Call

/-- What a service does for a call. -/
def run (call : Call) (service : Service) : Except GenerateError Generation × Service :=
  generateOver call.outline call.project call.targets? { service with settings := call.settings }

/-- The count of capsules of a call. -/
noncomputable def capsules (call : Call) : Nat := call.project.routeCount call.outline

/-- What a service does for the targets of a call. -/
noncomputable def serve (call : Call) (targets : List String) :
    Run GenerateError (List PlatformResult) :=
  runTargets call.outline call.project call.capsules targets

/-- The service when it begins with the targets of a call. -/
def start (call : Call) (service : Service) : Service :=
  { service with settings := call.settings }.started

/-- A call gets past the checks: its targets are read and put up with, and all screens keep the
limits, so that their capsules are counted. -/
structure Passes (call : Call) (targets : List String) : Prop where
  /-- The targets are texts. -/
  read : requestedTargets call.project call.targets? = .ok targets
  /-- They are not refused. -/
  allowed : ¬ call.settings.Refuses targets
  /-- All screens keep the limits. -/
  counted : countScreens call.outline call.settings.limits call.project.screens =
    .ok call.capsules

/-- Whether a call gets past the checks. -/
def passes (call : Call) : Bool :=
  match requestedTargets call.project call.targets? with
  | .ok targets => !decide (call.settings.Refuses targets) &&
      (countScreens call.outline call.settings.limits call.project.screens).toBool
  | .error _ => false

/-- There are files for a target, unless it is passed over. -/
def Serves (call : Call) (target : String) : Prop :=
  ∀ platform ∈ Platform.ofName? target, ∃ files,
    platformFiles call.outline call.settings call.project platform = .ok files

/-- What a target that is served leaves in the metrics. -/
noncomputable def event (call : Call) (target : String) : MeterEvent :=
  match Platform.ofName? target with
  | some platform => .completed platform call.capsules
  | none => .passedOver

/-- What a call leaves in the metrics, for each way in which it can end. -/
inductive Leaves (call : Call) : Except GenerateError Generation → List MeterEvent → Prop
  /-- A target is no text. -/
  | unreadable (kind : String)
      (hread : requestedTargets call.project call.targets? = .error (.targetNotText kind)) :
      Leaves call (.error (.targetNotText kind)) []
  /-- The targets are refused. -/
  | refused (targets : List String)
      (hread : requestedTargets call.project call.targets? = .ok targets)
      (hrefuses : call.settings.Refuses targets) :
      Leaves call (.error (.unknownTargets (unknownTargets targets))) []
  /-- A screen does not keep the limits. -/
  | rejected (targets : List String)
      (hread : requestedTargets call.project call.targets? = .ok targets)
      (hallows : ¬ call.settings.Refuses targets) (breach : Breach)
      (hbreach : FirstBreach call.outline call.settings.limits call.project.screens breach) :
      Leaves call (.error (.breach breach)) [.rejected]
  /-- There are no files for a target; those in front of it have been served. -/
  | stopped (front : List String) (target : String) (back : List String)
      (hpasses : call.Passes (front ++ target :: back))
      (hfront : ∀ earlier ∈ front, call.Serves earlier) (platform : Platform)
      (hname : Platform.ofName? target = some platform) (overflow : Overflow)
      (hfiles : platformFiles call.outline call.settings call.project platform =
        .error (.combine overflow))
      (seconds : Double) :
      Leaves call (.error (.overflow overflow)) (front.map call.event ++ [.measured seconds])
  /-- All targets have been served. -/
  | done (targets : List String) (hpasses : call.Passes targets)
      (htargets : ∀ target ∈ targets, call.Serves target) (generation : Generation)
      (seconds : Double) :
      Leaves call (.ok generation) (targets.map call.event ++ [.measured seconds])

/-! ### Targets -/

/-- What the targets of a call leave in the metrics: either all of them are served, or those in
front of the first one without files. -/
inductive Handles (call : Call) (targets : List String) :
    Except GenerateError (List PlatformResult) → List MeterEvent → Prop
  /-- All targets are served. -/
  | all (htargets : ∀ target ∈ targets, call.Serves target) (results : List PlatformResult) :
      Handles call targets (.ok results) (targets.map call.event)
  /-- There are no files for a target. -/
  | upTo (front : List String) (target : String) (back : List String)
      (hsplit : targets = front ++ target :: back)
      (hfront : ∀ earlier ∈ front, call.Serves earlier) (platform : Platform)
      (hname : Platform.ofName? target = some platform) (cause : WalkError Overflow)
      (hfiles : platformFiles call.outline call.settings call.project platform = .error cause) :
      Handles call targets (.error (.ofWalk cause)) (front.map call.event)

theorem Handles.cons {call : Call} {target : String} {targets : List String}
    {outcome : Except GenerateError (List PlatformResult)} {events : List MeterEvent}
    (hserves : call.Serves target) (hrest : call.Handles targets outcome events)
    (f : List PlatformResult → List PlatformResult) :
    call.Handles (target :: targets) (outcome.map f) (call.event target :: events) := by
  cases hrest with
  | all htargets results =>
    exact .all (List.forall_mem_cons.mpr ⟨hserves, htargets⟩) (f results)
  | upTo front failing back hsplit hfront platform hname cause hfiles =>
    subst hsplit
    exact .upTo (target :: front) failing back rfl (List.forall_mem_cons.mpr ⟨hserves, hfront⟩)
      platform hname cause hfiles

/-- A run leaves an event for each target that it has served. -/
theorem serve_handles (call : Call) (targets : List String) (service : Service)
    (hsettings : service.settings = call.settings) :
    ∃ events, call.Handles targets (call.serve targets service).1 events ∧
      (call.serve targets service).2.board = events.foldl Board.record service.board := by
  unfold serve
  induction targets generalizing service with
  | nil => exact ⟨[], .all (by simp) [], rfl⟩
  | cons target targets ih =>
    cases hname : Platform.ofName? target with
    | none =>
      have hserves : call.Serves target := fun platform hplatform =>
        (nomatch hname.symm.trans hplatform)
      have hevent : call.event target = .passedOver := by rw [event, hname]
      obtain ⟨events, hhandles, hboard⟩ := ih (service.passOver call.project target) hsettings
      rw [runTargets_passOver hname]
      refine ⟨_, Except.map_id ▸ hhandles.cons hserves id, ?_⟩
      rw [hboard, hevent]
      rfl
    | some platform =>
      cases hfiles : platformFiles call.outline service.settings call.project platform with
      | error cause =>
        rw [runTargets_stop hname hfiles]
        exact ⟨[], .upTo [] target targets rfl (by simp) platform hname cause (hsettings ▸ hfiles),
          rfl⟩
      | ok files =>
        have hserves : call.Serves target := fun other hother => by
          cases hname.symm.trans hother
          exact ⟨files, hsettings ▸ hfiles⟩
        have hevent : call.event target = .completed platform call.capsules := by
          rw [event, hname]
        obtain ⟨events, hhandles, hboard⟩ :=
          ih (service.complete call.capsules platform files) hsettings
        rw [runTargets_complete hname hfiles]
        refine ⟨_, hhandles.cons hserves _, ?_⟩
        rw [hboard, hevent]
        rfl

/-! ### Single calls -/

theorem passes_eq_true_iff {call : Call} : call.passes = true ↔ ∃ targets, call.Passes targets := by
  unfold passes
  cases hread : requestedTargets call.project call.targets? with
  | error error =>
    refine ⟨fun hfalse => (nomatch hfalse), fun ⟨targets, hpasses⟩ => ?_⟩
    cases hread.symm.trans hpasses.read
  | ok targets =>
    cases hcount : countScreens call.outline call.settings.limits call.project.screens with
    | error breach =>
      refine ⟨fun hfalse => by simp [Except.toBool] at hfalse, fun ⟨targets, hpasses⟩ => ?_⟩
      cases hcount.symm.trans hpasses.counted
    | ok count =>
      cases routeCount_of_countScreens call.eq_of_same hcount
      constructor
      · intro hallows
        exact ⟨targets, hread, by simpa [Except.toBool] using hallows, hcount⟩
      · rintro ⟨others, hpasses⟩
        cases hread.symm.trans hpasses.read
        simpa [Except.toBool] using hpasses.allowed

/-- Behind the checks, a call is a measured run on its targets. -/
theorem Passes.run_eq {call : Call} {targets : List String} (hpasses : call.Passes targets)
    (service : Service) :
    (call.run service).1 = (call.serve targets (call.start service)).1.map
        (fun results => ⟨results, summarize call.project call.capsules results⟩) ∧
      ∃ seconds, (call.run service).2.board =
        (call.serve targets (call.start service)).2.board.observeDuration seconds :=
  generateOver_of_checked { service with settings := call.settings } hpasses.read hpasses.allowed
    hpasses.counted

theorem Passes.run_leaves {call : Call} {targets : List String} (hpasses : call.Passes targets)
    (service : Service) :
    ∃ events, call.Leaves (call.run service).1 events ∧
      (call.run service).2.board = events.foldl Board.record service.board := by
  obtain ⟨houtcome, seconds, hboard⟩ := hpasses.run_eq service
  obtain ⟨events, hhandles, hevents⟩ := serve_handles call targets (call.start service) rfl
  refine ⟨events ++ [.measured seconds], ?_, ?_⟩
  · rw [houtcome]
    generalize (call.serve targets (call.start service)).1 = outcome at hhandles
    cases hhandles with
    | all htargets results => exact .done targets hpasses htargets _ seconds
    | upTo front target back hsplit hfront platform hname cause hfiles =>
      obtain ⟨overflow, rfl⟩ := Blueprint.manifestOver_error hpasses.counted hfiles
      subst hsplit
      exact .stopped front target back hpasses hfront platform hname overflow hfiles seconds
  · rw [hboard, hevents, List.foldl_append]
    rfl

/-- What a call leaves in the metrics. -/
theorem run_leaves (call : Call) (service : Service) :
    ∃ events, call.Leaves (call.run service).1 events ∧
      (call.run service).2.board = events.foldl Board.record service.board := by
  cases generateOver_ends call.outline call.project call.targets?
      { service with settings := call.settings } with
  | unreadable kind hread hrun =>
    refine ⟨[], ?_⟩
    rw [run, hrun]
    exact ⟨.unreadable kind hread, rfl⟩
  | refused targets hread hrefuses hrun =>
    refine ⟨[], ?_⟩
    rw [run, hrun]
    exact ⟨.refused targets hread hrefuses, rfl⟩
  | rejected targets hread hallows breach hbreach hrun =>
    refine ⟨[.rejected], ?_⟩
    rw [run, hrun]
    exact ⟨.rejected targets hread hallows breach hbreach, rfl⟩
  | overflown targets hread hallows capsules hcount overflow hrun =>
    cases routeCount_of_countScreens call.eq_of_same hcount
    exact Passes.run_leaves ⟨hread, hallows, hcount⟩ service
  | done targets hread hallows capsules hcount generation hrun =>
    cases routeCount_of_countScreens call.eq_of_same hcount
    exact Passes.run_leaves ⟨hread, hallows, hcount⟩ service

/-! ### In the middle of a call -/

/-- A service in the middle of a call: some targets have been served, and what the call does in the
end is what it does for the others from here. -/
structure Midway (call : Call) (before : Service) (front back : List String) (now : Service) :
    Prop where
  /-- The results so far, with which the call goes on. -/
  results : ∃ results, call.serve front (call.start before) = (.ok results, now) ∧
    (call.run before).1 = (call.serve back now).1.map fun others =>
      ⟨results ++ others, summarize call.project call.capsules (results ++ others)⟩
  /-- The metrics, to which the rest of the call adds. -/
  board : ∃ seconds, (call.run before).2.board =
    (call.serve back now).2.board.observeDuration seconds

/-- What a call has left in the metrics when some of its targets are served. -/
theorem exists_midway {call : Call} {front back : List String}
    (hpasses : call.Passes (front ++ back)) (hfront : ∀ target ∈ front, call.Serves target)
    (service : Service) :
    ∃ now, call.Midway service front back now ∧
      now.board = (front.map call.event).foldl Board.record service.board := by
  obtain ⟨houtcome, seconds, hboard⟩ := hpasses.run_eq service
  obtain ⟨events, hhandles, hevents⟩ := serve_handles call front (call.start service) rfl
  rcases hserve : call.serve front (call.start service) with ⟨outcome, now⟩
  rw [hserve] at hhandles hevents
  cases hhandles with
  | upTo served target others hsplit _ platform hname cause hfiles =>
    obtain ⟨files, hserved⟩ := hfront target (by simp [hsplit]) platform hname
    cases hserved.symm.trans hfiles
  | all _ results =>
    have hrest : call.serve (front ++ back) (call.start service) = _ := runTargets_append hserve
    refine ⟨now, ⟨⟨results, hserve, ?_⟩, seconds, ?_⟩, hevents⟩
    · rw [houtcome, hrest]
      change Except.map _ (Except.map _ (call.serve back now).1) = _
      cases (call.serve back now).1 <;> rfl
    · rw [hboard, hrest]
      rfl

end Call

/-- Whether a generation ended because a screen did not keep the limits. -/
def endsInBreach : Except GenerateError Generation → Bool
  | .error (.breach _) => true
  | _ => false

namespace Call.Leaves

variable {call : Call} {outcome : Except GenerateError Generation} {events : List MeterEvent}

theorem countP_map_event (isOfKind : MeterEvent → Bool)
    (hcompleted : ∀ platform capsules, isOfKind (.completed platform capsules) = false)
    (hpassed : isOfKind .passedOver = false) (call : Call) (targets : List String) :
    (targets.map call.event).countP isOfKind = 0 := by
  refine List.countP_eq_zero.mpr fun event hevent => ?_
  obtain ⟨target, -, rfl⟩ := List.mem_map.mp hevent
  unfold Call.event
  split
  · simp [hcompleted]
  · simp [hpassed]

/-- A call is rejected once or not at all. -/
theorem countP_isRejected (hleaves : call.Leaves outcome events) :
    events.countP MeterEvent.isRejected = if endsInBreach outcome then 1 else 0 := by
  have hevents (targets : List String) :=
    countP_map_event MeterEvent.isRejected (fun _ _ => rfl) rfl call targets
  cases hleaves with
  | unreadable | refused | rejected => rfl
  | stopped | done =>
    rw [List.countP_append, hevents]
    rfl

/-- A call is measured once if it gets past the checks, and not at all else. -/
theorem countP_isMeasured (hleaves : call.Leaves outcome events) :
    events.countP MeterEvent.isMeasured = if call.passes then 1 else 0 := by
  have hevents (targets : List String) :=
    countP_map_event MeterEvent.isMeasured (fun _ _ => rfl) rfl call targets
  cases hleaves with
  | unreadable kind hread => simp [Call.passes, hread]
  | refused targets hread hrefuses => simp [Call.passes, hread, hrefuses]
  | rejected targets hread hallows breach hbreach =>
    have hcount := countScreens_eq_error_iff.mpr hbreach
    simp [Call.passes, hread, hcount, Except.toBool, MeterEvent.isMeasured]
  | stopped front target back hpasses =>
    rw [List.countP_append, hevents, if_pos (Call.passes_eq_true_iff.mpr ⟨_, hpasses⟩)]
    rfl
  | done targets hpasses =>
    rw [List.countP_append, hevents, if_pos (Call.passes_eq_true_iff.mpr ⟨_, hpasses⟩)]
    rfl

end Call.Leaves

/-! ### Sequences of calls -/

/-- What a service does for calls one after another. -/
def runCalls : List Call → Service → List (Except GenerateError Generation) × Service
  | [], service => ([], service)
  | call :: calls, service =>
    let (outcome, between) := call.run service
    let (outcomes, last) := runCalls calls between
    (outcome :: outcomes, last)

/-- A call with its outcome and what it left in the metrics. -/
structure Entry where
  /-- The call. -/
  call : Call
  /-- How it ended. -/
  outcome : Except GenerateError Generation
  /-- What it left in the metrics. -/
  events : List MeterEvent
  /-- The call ends in that way. -/
  leaves : call.Leaves outcome events

theorem exists_entries (calls : List Call) (service : Service) :
    ∃ entries : List Entry, entries.map (·.call) = calls ∧
      ∀ past, past <+: entries →
        past.map (·.outcome) = (runCalls (past.map (·.call)) service).1 ∧
        (runCalls (past.map (·.call)) service).2.board =
          (past.flatMap (·.events)).foldl Board.record service.board := by
  induction calls generalizing service with
  | nil =>
    refine ⟨[], rfl, fun past hpast => ?_⟩
    cases List.prefix_nil.mp hpast
    exact ⟨rfl, rfl⟩
  | cons call calls ih =>
    obtain ⟨events, hleaves, hboard⟩ := call.run_leaves service
    obtain ⟨entries, hcalls, hpasts⟩ := ih (call.run service).2
    refine ⟨⟨call, _, events, hleaves⟩ :: entries, by rw [List.map_cons, hcalls],
      fun past hpast => ?_⟩
    rcases List.prefix_cons_iff.mp hpast with rfl | ⟨rest, rfl, hrest⟩
    · exact ⟨rfl, rfl⟩
    · obtain ⟨houtcomes, hboards⟩ := hpasts rest hrest
      refine ⟨?_, ?_⟩
      · rw [List.map_cons, houtcomes]
        rfl
      · rw [List.flatMap_cons, List.foldl_append, ← hboard]
        exact hboards

theorem countP_flatMap_events {isOfKind : MeterEvent → Bool} {isCounted : Entry → Bool}
    (hentry : ∀ entry : Entry,
      entry.events.countP isOfKind = if isCounted entry then 1 else 0) (entries : List Entry) :
    (entries.flatMap (·.events)).countP isOfKind = entries.countP isCounted := by
  induction entries with
  | nil => rfl
  | cons entry entries ih =>
    rw [List.flatMap_cons, List.countP_append, hentry, ih, List.countP_cons, Nat.add_comm]

/-- After each of any calls the metrics account for what the calls left in them so far: there is
one rejection for each call that ended in a breach, and one measurement for each call that got past
the checks.  In the middle of a call, when some of its targets have been served and the others are
still to come, they account for what the call has left in them by then. -/
theorem metrics_account_for_calls (calls : List Call) (service : Service)
    (hnew : service.board = .new) :
    ∃ entries : List Entry, entries.map (·.call) = calls ∧
      (∀ past, past <+: entries →
        past.map (·.outcome) = (runCalls (past.map (·.call)) service).1 ∧
        (runCalls (past.map (·.call)) service).2.board = Board.after (past.flatMap (·.events)) ∧
        (runCalls (past.map (·.call)) service).2.board.Accounts (past.flatMap (·.events)) ∧
        (past.flatMap (·.events)).countP MeterEvent.isRejected =
          (runCalls (past.map (·.call)) service).1.countP endsInBreach ∧
        (past.flatMap (·.events)).countP MeterEvent.isMeasured =
          (past.map (·.call)).countP Call.passes) ∧
      ∀ past entry, past ++ [entry] <+: entries → ∀ front back,
        entry.call.Passes (front ++ back) → (∀ target ∈ front, entry.call.Serves target) →
          ∃ now, entry.call.Midway (runCalls (past.map (·.call)) service).2 front back now ∧
            now.board.Accounts (past.flatMap (·.events) ++ front.map entry.call.event) := by
  obtain ⟨entries, hcalls, hpasts⟩ := exists_entries calls service
  rw [hnew] at hpasts
  refine ⟨entries, hcalls, fun past hpast => ?_,
    fun past entry hpast front back hpasses hserved => ?_⟩
  · obtain ⟨houtcomes, hboard⟩ := hpasts past hpast
    refine ⟨houtcomes, hboard, hboard ▸ Board.after_accounts _, ?_, ?_⟩
    · rw [← houtcomes, List.countP_map]
      exact countP_flatMap_events (fun entry => entry.leaves.countP_isRejected) past
    · rw [List.countP_map]
      exact countP_flatMap_events (fun entry => entry.leaves.countP_isMeasured) past
  · obtain ⟨now, hmidway, hnow⟩ := Call.exists_midway hpasses hserved
      (runCalls (past.map (·.call)) service).2
    obtain ⟨-, hboard⟩ := hpasts past ((List.prefix_append _ _).trans hpast)
    refine ⟨now, hmidway, ?_⟩
    rw [hnow, hboard, ← List.foldl_append]
    exact Board.after_accounts _

/-- A project with a number that is too large for a double. -/
def Project.hugeBar : Project :=
  { Project.twoLevels with
    screens := [⟨"bar", "", some (Platform.progressBar Double.overflowBound)⟩] }

/-- A call for a project whose screens show trees. -/
def Call.ofTrees (settings : Settings) (project : Project) (targets? : Option (List Doc)) : Call :=
  ⟨_, Tree.outline, Tree.eq_of_same, settings, project, targets?⟩

/-- A call for two platforms, with a target between them that is passed over. -/
def twoPlatforms : Call :=
  .ofTrees .standard .twoLevels (some ([" iOS", "tv", "web"].map Doc.str))

/-- Six calls that end in the five ways: with results, with a rejection of a tree and of a capsule
below itself, with a refusal, at a target without files behind one that is passed over, and at a
target that is no text. -/
def mixedCalls : List Call :=
  [ twoPlatforms,
    .ofTrees { Settings.standard with maxTreeDepth := 1 } .twoLevels none,
    ⟨_, loop.outline, loop.eq_of_same, .standard, .looped, none⟩,
    .ofTrees { Settings.standard with strictTargets := true } .twoLevels (some [.str "tv"]),
    .ofTrees .standard .hugeBar (some [.str "tv", .str "web"]),
    .ofTrees .standard .twoLevels (some [.str "web", .null]) ]

theorem metrics_account_for_calls_mixed :
    Service.standard.board = .new ∧
      (runCalls mixedCalls .standard).2.board.rejected.value [] = .ofInt 2 ∧
      (runCalls mixedCalls .standard).2.board.duration.count [] = 2 ∧
      (∀ labels ∈ (runCalls mixedCalls .standard).2.board.generated.totals.labelSets,
        ∃ platform : Platform, labels = platform.labels) ∧
      ∃ now, twoPlatforms.Midway .standard ["ios", "tv"] ["web"] now ∧
        now.board.skipped.value [] = .ofInt 1 ∧
        now.board.rendered.value Platform.ios.labels = .ofInt 3 := by
  have hbreaches : (runCalls mixedCalls .standard).1.countP endsInBreach = 2 := by decide +kernel
  have hpasses : mixedCalls.countP Call.passes = 2 := by decide +kernel
  obtain ⟨entries, hcalls, hpasts, hmidway⟩ := metrics_account_for_calls mixedCalls .standard rfl
  obtain ⟨-, -, haccounts, hrejected, hmeasured⟩ := hpasts entries (List.prefix_refl _)
  rw [hcalls] at haccounts hrejected hmeasured
  rw [hbreaches] at hrejected
  rw [hpasses] at hmeasured
  -- The first call has three capsules, and two of its targets are served before the last one.
  obtain ⟨first, rest, rfl, hfirst, -⟩ := List.map_eq_cons_iff.mp hcalls
  have hcapsules : twoPlatforms.capsules = 3 := Project.routeCount_tree _
  have hchecked : twoPlatforms.Passes (["ios", "tv"] ++ ["web"]) := by
    refine ⟨(requestedTargets_texts _ (some [" iOS", "tv", "web"])).trans ?_, by decide, ?_⟩
    · exact congrArg Except.ok (by decide +kernel)
    · rw [hcapsules]
      rfl
  have hserved : ∀ target ∈ ["ios", "tv"], twoPlatforms.Serves target := by
    simp only [List.forall_mem_cons]
    refine ⟨?_, ?_, fun _ hnone => (List.not_mem_nil hnone).elim⟩
    · rintro platform ⟨⟩
      exact ⟨_, rfl⟩
    · rintro platform ⟨⟩
  obtain ⟨now, hnow, hledger⟩ :=
    hmidway [] first ⟨rest, rfl⟩ ["ios", "tv"] ["web"] (hfirst ▸ hchecked) (hfirst ▸ hserved)
  rw [hfirst] at hnow hledger
  refine ⟨rfl, ?_, haccounts.measured.2.trans hmeasured, fun labels hlabels => ?_, now,
    hnow, hledger.skipped.2 (by decide), ?_⟩
  · rw [haccounts.rejected.2 (by rw [hrejected]; decide), hrejected]
    rfl
  · obtain ⟨platform, hplatform, -⟩ := (haccounts.labels labels).mp hlabels
    exact ⟨platform, hplatform⟩
  · have hsum : (completions .ios (["ios", "tv"].map twoPlatforms.event)).sum = 3 := hcapsules
    exact (hledger.rendered .ios (by rw [List.flatMap_nil, List.nil_append, hsum]; decide)).trans
      (congrArg (fun sum : Nat => Double.ofInt sum) hsum)

end CapsuleLoom
