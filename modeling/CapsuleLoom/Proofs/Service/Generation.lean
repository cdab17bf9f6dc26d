import CapsuleLoom.Capsule.Graph
import CapsuleLoom.Proofs.Capsule.Agreement
import CapsuleLoom.Proofs.Metrics.Counter
import CapsuleLoom.Proofs.Service.Run
import CapsuleLoom.Service.Generation

/-!
# How generations end

A generation reads its targets, may refuse them, counts the capsules of all screens, and only
then runs the generators.  What is refused or rejected on the way leaves no trace of a result.

## Main definitions

* `Settings.Refuses` : the settings do not put up with some targets.
* `FirstBreach` : the breach of the first screen that does not keep the limits.
* `Service.reject` : what the rejection of a project leaves behind.
* `GenerationEnds` : the ways in which a generation can end.
* `Board.OneMoreRejected` : the metrics after a rejection.

## Main results

* `runTargets_error` : once all screens were counted, the generators stop at no breach.
* `generateOver_ends` : every generation ends in one of these ways.
* `Board.countRejected_oneMoreRejected` : a rejection is counted once, and nothing else is.
* `counting_decides_rejection` : counting decides which projects are rejected, for all platforms and
  all outlines.
-/

namespace CapsuleLoom

/-- The settings do not put up with the targets. -/
def Settings.Refuses (settings : Settings) (targets : List String) : Prop :=
  settings.strictTargets = true ∧ unknownTargets targets ≠ []

variable {κ : Type}

/-- The breach of the first screen that does not keep the limits. -/
def FirstBreach (outline : Outline κ) (limits : Limits) (screens : List (Screen κ))
    (breach : Breach) : Prop :=
  ∃ before screen behind, screens = before ++ screen :: behind ∧
    (∀ earlier ∈ before, ∃ count, countCapsules outline limits earlier.root = .ok count) ∧
    countCapsules outline limits screen.root = .error breach

/-- What the rejection of a project leaves behind. -/
def Service.reject (project : Project κ) (breach : Breach) (service : Service) : Service :=
  { service with board := service.board.countRejected }.tell .warning generationLogger
    s!"Rejected capsule tree for {Text.quote project.name}: {breach.message}"

/-! ### Counting -/

section Counting

variable {outline : Outline κ} {limits : Limits} {screens : List (Screen κ)} {project : Project κ}
  {service : Service}

theorem countScreens_eq_error_iff {breach : Breach} :
    countScreens outline limits screens = .error breach ↔
      FirstBreach outline limits screens breach := by
  unfold FirstBreach
  rw [← Steps.mapM_eq_error_iff, countScreens]
  cases screens.mapM fun screen => countCapsules outline limits screen.root with
  | ok counts => exact ⟨fun h => (nomatch h), fun h => (nomatch h)⟩
  | error cause => exact ⟨fun h => by cases h; rfl, fun h => by cases h; rfl⟩

theorem exists_count_of_countScreens {count : Nat}
    (hcount : countScreens outline limits screens = .ok count) {screen : Screen κ}
    (hscreen : screen ∈ screens) :
    ∃ count, countCapsules outline limits screen.root = .ok count := by
  unfold countScreens at hcount
  cases hrow : screens.mapM fun screen => countCapsules outline limits screen.root with
  | ok counts =>
    obtain ⟨count, -, hscreen⟩ := exists_mem_of_forall₂ (Steps.mapM_eq_ok_iff.mp hrow) hscreen
    exact ⟨count, hscreen⟩
  | error cause => rw [hrow] at hcount; cases hcount

theorem countProject_of_ok {count : Nat}
    (hcount : countScreens outline service.settings.limits project.screens = .ok count) :
    countProject outline project service = (.ok count, service) := by
  unfold countProject
  rw [Steps.bind_ok (Run.settings_apply service)]
  simp only [hcount]
  rfl

theorem countProject_of_error {breach : Breach}
    (hcount : countScreens outline service.settings.limits project.screens = .error breach) :
    countProject outline project service =
      (.error (.breach breach), service.reject project breach) := by
  unfold countProject
  rw [Steps.bind_ok (Run.settings_apply service)]
  simp only [hcount]
  rw [Steps.bind_ok (Run.meter_apply service _), Steps.bind_ok (Run.log_apply _ _ _ _)]
  rfl

end Counting

/-! ### Generators -/

section Generators

variable {outline : Outline κ} {project : Project κ} {count capsules : Nat}
  {service after : Service}

/-- Once all screens were counted, the files of a platform can only fail for a number. -/
theorem Blueprint.manifestOver_error {limits : Limits} {blueprint : Blueprint κ}
    {error : WalkError Overflow}
    (hcount : countScreens outline limits project.screens = .ok count)
    (hfail : blueprint.manifestOver outline limits project = .error error) :
    ∃ overflow, error = .combine overflow := by
  unfold Blueprint.manifestOver at hfail
  cases hrow : project.screens.mapM (blueprint.screenOver outline limits project) with
  | ok files => rw [hrow] at hfail; cases hfail
  | error cause =>
    rw [hrow] at hfail
    cases hfail
    obtain ⟨before, screen, behind, hsplit, -, hscreen⟩ := Steps.mapM_eq_error_iff.mp hrow
    obtain ⟨count, hcounted⟩ := exists_count_of_countScreens hcount
      (show screen ∈ project.screens by simp [hsplit])
    rw [Blueprint.screenOver] at hscreen
    rcases Backend.renderFrom_of_counted hcounted with ⟨text, hrender⟩ | ⟨overflow, hrender⟩
    · rw [hrender] at hscreen
      cases hscreen
    · rw [hrender] at hscreen
      cases hscreen
      exact ⟨overflow, rfl⟩

theorem runPlatform_of_error {platform : Platform} {cause : WalkError Overflow}
    (hmanifest : (platform.blueprint service.settings.defaultAndroidPackage).manifestOver outline
      service.settings.limits project = .error cause) :
    runPlatform outline project capsules platform service = (.error (.ofWalk cause), service) := by
  unfold runPlatform
  rw [Steps.bind_ok (Run.settings_apply service)]
  simp only [hmanifest]
  exact Steps.bind_error (Run.ofExcept_apply service _) _

theorem runPlatform_of_ok {platform : Platform} {files : List SourceFile}
    (hmanifest : (platform.blueprint service.settings.defaultAndroidPackage).manifestOver outline
      service.settings.limits project = .ok files) :
    runPlatform outline project capsules platform service =
      (.ok ⟨platform.name, files, capsules, project.screens.length, momentText service.now⟩,
        { service with board := service.board.countResult platform.name capsules }.tell .debug
          generationLogger s!"Generated {files.length} file(s) for {platform.name}") := by
  unfold runPlatform
  rw [Steps.bind_ok (Run.settings_apply service)]
  simp only [hmanifest]
  rfl

theorem skipTarget_apply (target : String) :
    skipTarget project target service =
      (.ok (), { service with board := service.board.countSkipped }.tell .warning generationLogger
        (s!"Skipping unsupported target {Text.quote target} for project " ++
          s!"{Text.quote project.name}")) :=
  rfl

theorem runTargets_cons_of_none {target : String} (hname : Platform.ofName? target = none)
    (targets : List String) :
    runTargets outline project capsules (target :: targets) =
      skipTarget project target >>= fun _ => runTargets outline project capsules targets := by
  rw [runTargets, hname]

theorem runTargets_cons_of_some {target : String} {platform : Platform}
    (hname : Platform.ofName? target = some platform) (targets : List String) :
    runTargets outline project capsules (target :: targets) =
      runPlatform outline project capsules platform >>= fun result =>
        runTargets outline project capsules targets >>= fun results =>
          pure (result :: results) := by
  rw [runTargets, hname]

/-- Once all screens were counted, the generators stop at no breach. -/
theorem runTargets_error {targets : List String} {error : GenerateError}
    (hcount : countScreens outline service.settings.limits project.screens = .ok count)
    (hrun : runTargets outline project capsules targets service = (.error error, after)) :
    ∃ overflow, error = .overflow overflow := by
  induction targets generalizing service with
  | nil => cases hrun
  | cons target targets ih =>
    cases hname : Platform.ofName? target with
    | none =>
      rw [runTargets_cons_of_none hname, Steps.bind_ok (skipTarget_apply target)] at hrun
      refine ih ?_ hrun
      exact hcount
    | some platform =>
      rw [runTargets_cons_of_some hname] at hrun
      cases hmanifest : (platform.blueprint
          service.settings.defaultAndroidPackage).manifestOver outline service.settings.limits
          project with
      | error cause =>
        rw [Steps.bind_error (runPlatform_of_error hmanifest)] at hrun
        obtain ⟨overflow, rfl⟩ := Blueprint.manifestOver_error hcount hmanifest
        cases hrun
        exact ⟨overflow, rfl⟩
      | ok files =>
        rw [Steps.bind_ok (runPlatform_of_ok hmanifest)] at hrun
        generalize hbetween : Service.tell _ _ _ _ = between at hrun
        have hsame : between.settings = service.settings := hbetween ▸ rfl
        rcases hrest : runTargets outline project capsules targets between with
          ⟨cause | results, last⟩
        · rw [Steps.bind_error hrest] at hrun
          cases hrun
          exact ih (hsame ▸ hcount) hrest
        · rw [Steps.bind_ok hrest] at hrun
          cases hrun

end Generators

/-! ### Generations -/

section Generation

variable {outline : Outline κ} {project : Project κ} {targets? : Option (List Doc)}
  {targets : List String} {service : Service}

theorem requestedTargets_error {error : GenerateError}
    (hread : requestedTargets project targets? = .error error) :
    ∃ kind, error = .targetNotText kind := by
  cases targets? with
  | none => cases hread
  | some requests =>
    obtain ⟨before, request, behind, -, -, hrequest⟩ := Steps.mapM_eq_error_iff.mp hread
    cases request with
    | str target => cases hrequest
    | null | bool | num | arr | obj => exact ⟨_, (Except.error.inj hrequest).symm⟩

theorem refuseUnknown_of_refuses (hrefuses : service.settings.Refuses targets) :
    refuseUnknown targets service =
      (.error (.unknownTargets (unknownTargets targets)), service) := by
  have hguard : (service.settings.strictTargets && !(unknownTargets targets).isEmpty) = true := by
    simp [hrefuses.1, hrefuses.2]
  unfold refuseUnknown
  rw [Steps.bind_ok (Run.settings_apply service), if_pos hguard]
  rfl

theorem refuseUnknown_of_not_refuses (hallows : ¬ service.settings.Refuses targets) :
    refuseUnknown targets service = (.ok (), service) := by
  have hguard : ¬ (service.settings.strictTargets && !(unknownTargets targets).isEmpty) = true := by
    simpa [Settings.Refuses] using hallows
  unfold refuseUnknown
  rw [Steps.bind_ok (Run.settings_apply service), if_neg hguard]
  rfl

/-- Measuring the time changes neither the outcome of a run nor the settings that it sees. -/
theorem timed_outcome {α : Type} (run : Run GenerateError α) :
    ∃ start : Service, start.settings = service.settings ∧
      (timed run service).1 = (run start).1 := by
  refine ⟨{ service with clock := service.clock.advance }, rfl, ?_⟩
  unfold timed
  rw [Steps.bind_ok (Run.readClock_apply service), Steps.bind_ok (Run.attempt_apply _ run),
    Steps.bind_ok (Run.readClock_apply _), Steps.bind_ok (Run.meter_apply _ _), Run.ofExcept_apply]

/-- The ways in which a generation can end. -/
inductive GenerationEnds (outline : Outline κ) (project : Project κ)
    (targets? : Option (List Doc)) (service : Service)
    (run : Except GenerateError Generation × Service) : Prop
  /-- A target is no text, and nothing has changed. -/
  | unreadable (kind : String)
      (hread : requestedTargets project targets? = .error (.targetNotText kind))
      (hrun : run = (.error (.targetNotText kind), service))
  /-- The targets are refused, and nothing has changed. -/
  | refused (targets : List String) (hread : requestedTargets project targets? = .ok targets)
      (hrefuses : service.settings.Refuses targets)
      (hrun : run = (.error (.unknownTargets (unknownTargets targets)), service))
  /-- A screen does not keep the limits, and the project is rejected. -/
  | rejected (targets : List String) (hread : requestedTargets project targets? = .ok targets)
      (hallows : ¬ service.settings.Refuses targets) (breach : Breach)
      (hbreach : FirstBreach outline service.settings.limits project.screens breach)
      (hrun : run = (.error (.breach breach), service.reject project breach))
  /-- All screens keep the limits, and a number is too large for a generator. -/
  | overflown (targets : List String) (hread : requestedTargets project targets? = .ok targets)
      (hallows : ¬ service.settings.Refuses targets) (count : Nat)
      (hcount : countScreens outline service.settings.limits project.screens = .ok count)
      (overflow : Overflow) (hrun : run.1 = .error (.overflow overflow))
  /-- All screens keep the limits, and there is a result. -/
  | done (targets : List String) (hread : requestedTargets project targets? = .ok targets)
      (hallows : ¬ service.settings.Refuses targets) (count : Nat)
      (hcount : countScreens outline service.settings.limits project.screens = .ok count)
      (generation : Generation) (hrun : run.1 = .ok generation)

/-- Every generation ends in one of these ways. -/
theorem generateOver_ends (outline : Outline κ) (project : Project κ)
    (targets? : Option (List Doc)) (service : Service) :
    GenerationEnds outline project targets? service
      (generateOver outline project targets? service) := by
  unfold generateOver
  cases hread : requestedTargets project targets? with
  | error cause =>
    obtain ⟨kind, rfl⟩ := requestedTargets_error hread
    exact .unreadable kind hread (Steps.bind_error (Run.ofExcept_apply service _) _)
  | ok targets =>
    rw [Steps.bind_ok (Run.ofExcept_apply service _)]
    by_cases hrefuses : service.settings.Refuses targets
    · exact .refused targets hread hrefuses (Steps.bind_error (refuseUnknown_of_refuses hrefuses) _)
    rw [Steps.bind_ok (refuseUnknown_of_not_refuses hrefuses)]
    cases hcount : countScreens outline service.settings.limits project.screens with
    | error breach =>
      exact .rejected targets hread hrefuses breach (countScreens_eq_error_iff.mp hcount)
        (Steps.bind_error (countProject_of_error hcount) _)
    | ok count =>
      rw [Steps.bind_ok (countProject_of_ok hcount)]
      obtain ⟨start, hsettings, houtcome⟩ :=
        timed_outcome (runTargets outline project count targets)
      rcases htimed : timed (runTargets outline project count targets) service with
        ⟨error | results, after⟩
      · rw [htimed] at houtcome
        rcases hrun : runTargets outline project count targets start with ⟨outcome, last⟩
        rw [hrun] at houtcome
        subst houtcome
        obtain ⟨overflow, rfl⟩ := runTargets_error (hsettings ▸ hcount) hrun
        exact .overflown targets hread hrefuses count hcount overflow
          (congrArg Prod.fst (Steps.bind_error htimed _))
      · exact .done targets hread hrefuses count hcount _
          (congrArg Prod.fst (Steps.bind_ok htimed _))

end Generation

/-! ### Rejections -/

/-- One more rejection is counted, and nothing else. -/
structure Board.OneMoreRejected (before after : Board) : Prop where
  /-- Nothing but the totals of rejections may change. -/
  same : after =
    { before with rejected := { before.rejected with totals := after.rejected.totals } }
  /-- The total is raised by one. -/
  raised : after.rejected.value [] = (before.rejected.value []).add (.ofInt 1)
  /-- Raising a total of less than 53 bits by one is exact. -/
  counted : ∀ count : Nat, count < 2 * Double.leadingBit →
    before.rejected.value [] = .ofInt count → after.rejected.value [] = .ofInt (count + 1)
  /-- Totals with labels stay. -/
  labelled : ∀ labels, labels ≠ [] → after.rejected.value labels = before.rejected.value labels

theorem Board.countRejected_oneMoreRejected (board : Board) :
    board.OneMoreRejected board.countRejected := by
  have hone : (Number.int 1).toDouble = .ok (.ofInt 1) := Number.toDouble_of_le (by decide)
  have hraised : board.countRejected.rejected.value [] =
      (board.rejected.value []).add (.ofInt 1) :=
    (Counter.value_inc hone board.rejected [] []).trans (if_pos rfl)
  refine ⟨?_, hraised, fun count hcount hvalue => ?_, fun labels hlabels => ?_⟩
  · rw [countRejected, Counter.inc, hone]
    rfl
  · rw [hraised, hvalue]
    exact Double.add_ofInt hcount.le (by decide)
  · refine (Counter.value_inc hone board.rejected [] labels).trans (if_neg fun hsorted => ?_)
    have hlength := congrArg List.length hsorted
    simp only [LabelSet.sorted, List.length_mergeSort, List.length_nil] at hlength
    exact hlabels (List.length_eq_zero_iff.mp hlength)

/-- A project is rejected exactly for the breach of its first screen with one, unless its targets
are unreadable or refused. -/
theorem generateOver_breach_iff {outline : Outline κ} {project : Project κ}
    {targets? : Option (List Doc)}
    {service after : Service} {breach : Breach} :
    generateOver outline project targets? service = (.error (.breach breach), after) ↔
      (∃ targets, requestedTargets project targets? = .ok targets ∧
        ¬ service.settings.Refuses targets) ∧
      FirstBreach outline service.settings.limits project.screens breach ∧
      after = service.reject project breach := by
  constructor
  · intro hgenerate
    have hends := generateOver_ends outline project targets? service
    rw [hgenerate] at hends
    cases hends with
    | unreadable kind hread hrun => cases hrun
    | refused targets hread hrefuses hrun => cases hrun
    | rejected targets hread hallows cause hbreach hrun =>
      cases hrun
      exact ⟨⟨targets, hread, hallows⟩, hbreach, rfl⟩
    | overflown targets hread hallows count hcount overflow hrun => cases hrun
    | done targets hread hallows count hcount generation hrun => cases hrun
  · rintro ⟨⟨targets, hread, hallows⟩, hbreach, rfl⟩
    rw [← countScreens_eq_error_iff] at hbreach
    cases generateOver_ends outline project targets? service with
    | unreadable kind hfail hrun => cases hread.symm.trans hfail
    | refused refused hread' hrefuses hrun =>
      cases hread.symm.trans hread'
      exact absurd hrefuses hallows
    | rejected targets' hread' hallows' cause hcause hrun =>
      rw [← countScreens_eq_error_iff] at hcause
      cases hbreach.symm.trans hcause
      exact hrun
    | overflown targets' hread' hallows' count hcount overflow hrun =>
      cases hbreach.symm.trans hcount
    | done targets' hread' hallows' count hcount generation hrun =>
      cases hbreach.symm.trans hcount

/-- Targets are refused before anything changes. -/
theorem generateOver_unknownTargets_iff {outline : Outline κ} {project : Project κ}
    {targets? : Option (List Doc)}
    {service after : Service} {unknown : List String} :
    generateOver outline project targets? service = (.error (.unknownTargets unknown), after) ↔
      ∃ targets, requestedTargets project targets? = .ok targets ∧
        service.settings.Refuses targets ∧ unknown = unknownTargets targets ∧ after = service := by
  constructor
  · intro hgenerate
    have hends := generateOver_ends outline project targets? service
    rw [hgenerate] at hends
    cases hends with
    | unreadable kind hread hrun => cases hrun
    | refused targets hread hrefuses hrun =>
      cases hrun
      exact ⟨targets, hread, hrefuses, rfl, rfl⟩
    | rejected targets hread hallows cause hbreach hrun => cases hrun
    | overflown targets hread hallows count hcount overflow hrun => cases hrun
    | done targets hread hallows count hcount generation hrun => cases hrun
  · rintro ⟨targets, hread, hrefuses, rfl, rfl⟩
    unfold generateOver
    rw [hread, Steps.bind_ok (Run.ofExcept_apply after _),
      Steps.bind_error (refuseUnknown_of_refuses hrefuses)]

/-- Counting decides what is rejected, whatever the platform, and also where capsules lie below
themselves.  A project is rejected for the breach of its first screen with one, before there is any
result, and only the rejection is counted; unknown targets are refused before anything changes. -/
theorem counting_decides_rejection :
    (∀ {κ : Type} (outline : Outline κ) (limits : Limits) (root : Option κ) (backend : Backend)
        (theme : Theme),
      (∀ count, countCapsules outline limits root = .ok count →
        ∀ breach, backend.renderFrom theme limits outline root ≠ .error (.breach breach)) ∧
      (∀ breach, countCapsules outline limits root = .error breach →
        backend.renderFrom theme limits outline root = .error (.breach breach) ∨
          ∃ overflow, backend.renderFrom theme limits outline root = .error (.combine overflow))) ∧
    (∀ {κ : Type} (outline : Outline κ) (project : Project κ) (targets? : Option (List Doc))
        (service after : Service) (breach : Breach),
      generateOver outline project targets? service = (.error (.breach breach), after) ↔
        (∃ targets, requestedTargets project targets? = .ok targets ∧
          ¬ service.settings.Refuses targets) ∧
        FirstBreach outline service.settings.limits project.screens breach ∧
        after = service.reject project breach) ∧
    (∀ {κ : Type} (project : Project κ) (breach : Breach) (service : Service),
      service.board.OneMoreRejected (service.reject project breach).board) ∧
    (∀ {κ : Type} (outline : Outline κ) (project : Project κ) (targets? : Option (List Doc))
        (service after : Service) (unknown : List String),
      generateOver outline project targets? service = (.error (.unknownTargets unknown), after) ↔
        ∃ targets, requestedTargets project targets? = .ok targets ∧
          service.settings.Refuses targets ∧ unknown = unknownTargets targets ∧
          after = service) := by
  refine ⟨fun outline limits root backend theme => ?_, fun _ _ _ _ _ _ => generateOver_breach_iff,
    fun _ _ service => service.board.countRejected_oneMoreRejected,
    fun _ _ _ _ _ _ => generateOver_unknownTargets_iff⟩
  refine ⟨fun count hcount breach hbreach => ?_, fun breach => Backend.renderFrom_of_breach⟩
  rcases Backend.renderFrom_of_counted hcount with ⟨text, hrender⟩ | ⟨overflow, hrender⟩
  · cases hbreach.symm.trans hrender
  · cases hbreach.symm.trans hrender

/-- A project whose first screen has one level of capsules, and whose second has two. -/
def Project.twoLevels : Project where
  name := "Levels"
  version := "1.0.0"
  description := none
  targets := ["ios", "web"]
  screens :=
    [ ⟨"flat", "", some ⟨⟨"a", "divider", []⟩, []⟩⟩,
      ⟨"deep", "", some ⟨⟨"b", "card", []⟩, [⟨⟨"c", "divider", []⟩, []⟩]⟩⟩ ]
  theme := .open
  navigation := none
  platformConfig := none

/-- A capsule that lies directly below itself. -/
def loop : Graph where
  size := 1
  capsule _ := ⟨"loop", "card", []⟩
  children place := [place]

/-- A project whose screen shows that capsule. -/
def Project.looped : Project (Fin 1) :=
  { Project.twoLevels with screens := [⟨"home", "", none⟩, ⟨"round", "", some 0⟩] }

/-- A service that puts up with one level of capsules. -/
def Service.oneLevel : Service :=
  .new { Settings.standard with maxTreeDepth := 1 } (.new Clock.defaultTick) [] 0

/-- A service with the settings that nothing was changed in. -/
def Service.standard : Service := .new .standard (.new Clock.defaultTick) [] 0

/-- A second level is too deep, and a capsule below itself is found out on the second level. -/
theorem counting_decides_rejection_twoLevels :
    let breach : Breach := ⟨.tooDeep 1, "c", 2⟩
    let after := Service.oneLevel.reject Project.twoLevels breach
    let circle : Breach := ⟨.cyclic, "loop", 2⟩
    generate .twoLevels none .oneLevel = (.error (.breach breach), after) ∧
      after.board.rejected.value [] = .ofInt 1 ∧
      after.board.rejected.value [("platform", "web")] = .zero false ∧
      (∀ platform : Platform, platform.backend.renderFrom .open ⟨1, 5000⟩ Tree.outline
        (some ⟨⟨"a", "divider", []⟩, []⟩) ≠ .error (.breach breach)) ∧
      generateOver loop.outline .looped none .standard =
        (.error (.breach circle), Service.standard.reject Project.looped circle) := by
  intro breach after circle
  obtain ⟨hrender, hreject, hboard, -⟩ := counting_decides_rejection
  have hone := hboard Project.twoLevels breach .oneLevel
  refine ⟨(hreject Tree.outline _ none _ after breach).mpr ⟨⟨_, rfl, ?_⟩, ?_, rfl⟩, ?_, ?_, ?_,
    (hreject loop.outline _ none _ _ circle).mpr ⟨⟨_, rfl, ?_⟩, ?_, rfl⟩⟩
  · exact fun hrefuses => Bool.false_ne_true hrefuses.1
  · refine ⟨[⟨"flat", "", some ⟨⟨"a", "divider", []⟩, []⟩⟩], _, [], rfl, ?_, rfl⟩
    exact List.forall_mem_singleton.mpr ⟨1, rfl⟩
  · exact hone.counted 0 (by decide) rfl
  · exact hone.labelled _ (by simp)
  · exact fun platform => (hrender _ _ _ _ _).1 1 rfl breach
  · exact fun hrefuses => Bool.false_ne_true hrefuses.1
  · refine ⟨[⟨"home", "", none⟩], _, [], rfl, ?_, rfl⟩
    exact List.forall_mem_singleton.mpr ⟨0, rfl⟩

end CapsuleLoom
