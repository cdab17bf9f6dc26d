import CapsuleLoom.Proofs.Platform.Sources
import CapsuleLoom.Proofs.Project.Check
import CapsuleLoom.Proofs.Service.Generation

/-!
# The results of generations

The results of a generation depend on the settings and the time of day alone, not on what the
service did before.  There is one for each target that names a platform, in the order of the
targets and as often as it is asked for, and the totals agree with them.

## Main definitions

* `platformResult` : the result for a platform.
* `Generation.Answers` : a generation has the results that some targets ask for.

## Main results

* `generateOver_eq_ok_iff` : when a generation succeeds, and with which results.
* `generate_answers` : the results are those that the targets ask for.
-/

namespace CapsuleLoom

variable {κ : Type}

/-! ### Targets -/

theorem Platform.name_of_ofName? {target : String} {platform : Platform}
    (hname : ofName? target = some platform) : platform.name = target := by
  have hfound := List.find?_some hname
  exact eq_of_beq hfound

theorem Platform.ofName?_isSome_iff {target : String} :
    (ofName? target).isSome = true ↔ target ∈ all.map name := by
  rw [ofName?, List.find?_isSome, List.mem_map]
  simp

theorem requestedTargets_texts (project : Project κ) (asked : Option (List String)) :
    requestedTargets project (asked.map (·.map Doc.str)) =
      .ok ((asked.getD project.targets).map normalTarget) := by
  cases asked with
  | none => rfl
  | some targets =>
    refine Steps.mapM_eq_ok_iff.mpr ?_
    rw [List.forall₂_map_left_iff, List.forall₂_map_right_iff]
    exact List.forall₂_same.mpr fun target _ => rfl

/-! ### Runs -/

/-- What passing a target over leaves behind. -/
def Service.passOver (project : Project κ) (target : String) (service : Service) : Service :=
  { service with board := service.board.countSkipped }.tell .warning generationLogger
    (s!"Skipping unsupported target {Text.quote target} for project " ++
      s!"{Text.quote project.name}")

/-- What the result for a platform leaves behind. -/
def Service.complete (capsules : Nat) (platform : Platform) (files : List SourceFile)
    (service : Service) : Service :=
  { service with board := service.board.countResult platform.name capsules }.tell .debug
    generationLogger s!"Generated {files.length} file(s) for {platform.name}"

/-- The files for a platform, which do not depend on the state of the service. -/
def platformFiles (outline : Outline κ) (settings : Settings) (project : Project κ)
    (platform : Platform) : Except (WalkError Overflow) (List SourceFile) :=
  (platform.blueprint settings.defaultAndroidPackage).manifestOver outline settings.limits project

/-- The result for a platform. -/
def platformResult (outline : Outline κ) (settings : Settings) (now : Int) (project : Project κ)
    (capsules : Nat) (platform : Platform) : Except GenerateError PlatformResult :=
  ((platformFiles outline settings project platform).map fun files =>
    ⟨platform.name, files, capsules, project.screens.length, momentText now⟩).mapError .ofWalk

section Runs

variable {outline : Outline κ} {project : Project κ} {capsules : Nat} {service : Service}
  {target : String} {platform : Platform}

theorem runTargets_passOver (hname : Platform.ofName? target = none) (targets : List String) :
    runTargets outline project capsules (target :: targets) service =
      runTargets outline project capsules targets (service.passOver project target) := by
  rw [runTargets_cons_of_none hname, Steps.bind_ok (skipTarget_apply target)]
  rfl

theorem runTargets_stop (hname : Platform.ofName? target = some platform)
    {cause : WalkError Overflow}
    (hfiles : platformFiles outline service.settings project platform = .error cause)
    (targets : List String) :
    runTargets outline project capsules (target :: targets) service =
      (.error (.ofWalk cause), service) := by
  rw [runTargets_cons_of_some hname, Steps.bind_error (runPlatform_of_error hfiles)]

theorem runTargets_complete (hname : Platform.ofName? target = some platform)
    {files : List SourceFile}
    (hfiles : platformFiles outline service.settings project platform = .ok files)
    (targets : List String) :
    runTargets outline project capsules (target :: targets) service =
      ((runTargets outline project capsules targets
          (service.complete capsules platform files)).1.map
        (⟨platform.name, files, capsules, project.screens.length, momentText service.now⟩ :: ·),
      (runTargets outline project capsules targets
        (service.complete capsules platform files)).2) := by
  rw [runTargets_cons_of_some hname, Steps.bind_ok (runPlatform_of_ok hfiles)]
  change (runTargets outline project capsules targets >>= fun results => pure (_ :: results))
    (service.complete capsules platform files) = _
  rcases hrest : runTargets outline project capsules targets
    (service.complete capsules platform files) with ⟨error | results, after⟩
  · rw [Steps.bind_error hrest]
    rfl
  · rw [Steps.bind_ok hrest]
    rfl

/-- A run on targets goes on from where a run on the first of them ended. -/
theorem runTargets_append {front back : List String} {results : List PlatformResult}
    {between : Service}
    (hfront : runTargets outline project capsules front service = (.ok results, between)) :
    runTargets outline project capsules (front ++ back) service =
      ((runTargets outline project capsules back between).1.map (results ++ ·),
        (runTargets outline project capsules back between).2) := by
  induction front generalizing service results with
  | nil =>
    cases hfront
    exact Prod.ext (congrFun Except.map_id _).symm rfl
  | cons target front ih =>
    rw [List.cons_append]
    cases hname : Platform.ofName? target with
    | none =>
      rw [runTargets_passOver hname] at hfront ⊢
      exact ih hfront
    | some platform =>
      cases hfiles : platformFiles outline service.settings project platform with
      | error cause =>
        rw [runTargets_stop hname hfiles] at hfront
        cases hfront
      | ok files =>
        rw [runTargets_complete hname hfiles] at hfront ⊢
        rcases hrest : runTargets outline project capsules front
          (service.complete capsules platform files) with ⟨error | others, last⟩
        · rw [hrest] at hfront
          cases hfront
        · rw [hrest] at hfront
          cases hfront
          rw [ih hrest]
          cases (runTargets outline project capsules back last).1 <;> rfl

/-- Passing targets over leaves no result, and the other targets have theirs in order. -/
theorem runTargets_outcome (targets : List String) :
    (runTargets outline project capsules targets service).1 =
      (targets.filterMap Platform.ofName?).mapM
        (platformResult outline service.settings service.now project capsules) := by
  induction targets generalizing service with
  | nil => rfl
  | cons target targets ih =>
    cases hname : Platform.ofName? target with
    | none =>
      rw [runTargets_passOver hname, ih, List.filterMap_cons_none hname]
      rfl
    | some platform =>
      rw [List.filterMap_cons_some hname]
      cases hfiles : platformFiles outline service.settings project platform with
      | error cause =>
        have hresult : platformResult outline service.settings service.now project capsules
            platform = .error (.ofWalk cause) := by
          rw [platformResult, hfiles]
          rfl
        rw [runTargets_stop hname hfiles, Steps.mapM_cons_of_error hresult]
      | ok files =>
        have hresult : platformResult outline service.settings service.now project capsules
            platform = .ok ⟨platform.name, files, capsules, project.screens.length,
              momentText service.now⟩ := by
          rw [platformResult, hfiles]
          rfl
        rw [runTargets_complete hname hfiles, ih, Steps.mapM_cons_of_ok hresult]
        rfl

end Runs

/-! ### Generations -/

section Generations

variable {outline : Outline κ} {project : Project κ} {targets? : Option (List Doc)}
  {targets : List String} {capsules : Nat} {service : Service}

/-- The service when a measurement starts. -/
def Service.started (service : Service) : Service :=
  { service with clock := service.clock.advance }

theorem timed_apply {α : Type} (run : Run GenerateError α) (service : Service) :
    ∃ after : Service, timed run service = ((run service.started).1, after) ∧
      ∃ seconds, after.board = (run service.started).2.board.observeDuration seconds := by
  unfold timed
  rw [Steps.bind_ok (Run.readClock_apply service), Steps.bind_ok (Run.attempt_apply _ run),
    Steps.bind_ok (Run.readClock_apply _), Steps.bind_ok (Run.meter_apply _ _), Run.ofExcept_apply]
  exact ⟨_, rfl, _, rfl⟩

/-- Behind the checks, a generation is a measured run on its targets. -/
theorem generateOver_of_checked (service : Service)
    (hread : requestedTargets project targets? = .ok targets)
    (hallows : ¬ service.settings.Refuses targets)
    (hcount : countScreens outline service.settings.limits project.screens = .ok capsules) :
    (generateOver outline project targets? service).1 =
        (runTargets outline project capsules targets service.started).1.map
          (fun results => ⟨results, summarize project capsules results⟩) ∧
      ∃ seconds, (generateOver outline project targets? service).2.board =
        (runTargets outline project capsules targets
          service.started).2.board.observeDuration seconds := by
  obtain ⟨after, htimed, seconds, hboard⟩ :=
    timed_apply (runTargets outline project capsules targets) service
  unfold generateOver
  rw [hread, Steps.bind_ok (Run.ofExcept_apply service _),
    Steps.bind_ok (refuseUnknown_of_not_refuses hallows),
    Steps.bind_ok (countProject_of_ok hcount)]
  cases houtcome : (runTargets outline project capsules targets service.started).1 with
  | error error =>
    rw [houtcome] at htimed
    rw [Steps.bind_error htimed]
    exact ⟨rfl, seconds, hboard⟩
  | ok results =>
    rw [houtcome] at htimed
    rw [Steps.bind_ok htimed]
    exact ⟨rfl, seconds, hboard⟩

/-- When a generation succeeds, and with which results. -/
theorem generateOver_eq_ok_iff {generation : Generation} :
    (generateOver outline project targets? service).1 = .ok generation ↔
      ∃ targets capsules, requestedTargets project targets? = .ok targets ∧
        ¬ service.settings.Refuses targets ∧
        countScreens outline service.settings.limits project.screens = .ok capsules ∧
        (targets.filterMap Platform.ofName?).mapM
          (platformResult outline service.settings service.now project capsules) =
            .ok generation.results ∧
        generation.summary = summarize project capsules generation.results := by
  have hmap {outcome : Except GenerateError (List PlatformResult)} {capsules : Nat} :
      outcome.map (fun results => (⟨results, summarize project capsules results⟩ : Generation)) =
          .ok generation ↔
        outcome = .ok generation.results ∧
          generation.summary = summarize project capsules generation.results := by
    obtain ⟨results, summary⟩ := generation
    cases outcome with
    | error error => simp [Except.map]
    | ok others =>
      simp only [Except.map, Except.ok.injEq, Generation.mk.injEq]
      constructor
      · rintro ⟨rfl, rfl⟩
        exact ⟨rfl, rfl⟩
      · rintro ⟨rfl, rfl⟩
        exact ⟨rfl, rfl⟩
  constructor
  · intro hgenerate
    cases generateOver_ends outline project targets? service with
    | unreadable kind hread hrun | refused targets hread hrefuses hrun
    | rejected targets hread hallows breach hbreach hrun =>
      rw [hrun] at hgenerate
      cases hgenerate
    | overflown targets hread hallows capsules hcount overflow hrun =>
      rw [hrun] at hgenerate
      cases hgenerate
    | done targets hread hallows capsules hcount _ hrun =>
      rw [(generateOver_of_checked service hread hallows hcount).1, hmap, runTargets_outcome]
        at hgenerate
      exact ⟨targets, capsules, hread, hallows, hcount, hgenerate⟩
  · rintro ⟨targets, capsules, hread, hallows, hcount, hresults⟩
    rw [(generateOver_of_checked service hread hallows hcount).1, hmap, runTargets_outcome]
    exact hresults

end Generations

/-! ### Counts -/

/-- The count of capsules of a project, all places of all trees. -/
def Project.capsuleCount (project : Project) : Nat :=
  (project.screens.map fun screen => screen.root.elim 0 Tree.size).sum

/-- The count of capsules of a project, all routes from the roots of all screens. -/
noncomputable def Project.routeCount (outline : Outline κ) (project : Project κ) : Nat :=
  (project.screens.map fun screen =>
    screen.root.elim 0 fun root => (outline.routes root).ncard).sum

/-- The count of files for a platform beside those of the screens. -/
def Platform.ownFiles : Platform → Nat
  | ios => 2
  | android => 1
  | web => 2
  | desktop => 2

/-- The capsules of a tree that keeps the limits are counted. -/
theorem countCapsules_of_within {limits : Limits} {root : Option (Tree Capsule)}
    (hwithin : ∀ tree ∈ root, tree.Within limits) :
    countCapsules Tree.outline limits root = .ok (root.elim 0 Tree.size) := by
  cases root with
  | none => rfl
  | some tree =>
    obtain ⟨places, hplaces⟩ := tree.exists_unfolds
    have hwalk := walkPure_of_unfoldsWithin Tree.eq_of_same
      ((Tree.unfoldsWithin_iff hplaces).mpr (hwithin tree rfl)) fun _ counts => 1 + total counts
    exact hwalk.trans (congrArg Except.ok (Tree.size_of_unfolds hplaces))

/-- The routes of a project are counted. -/
theorem routeCount_of_countScreens {outline : Outline κ}
    (hsame : ∀ a b, outline.same a b = true → a = b) {limits : Limits} {project : Project κ}
    {count : Nat} (hcount : countScreens outline limits project.screens = .ok count) :
    project.routeCount outline = count := by
  unfold countScreens at hcount
  cases hrow : project.screens.mapM fun screen => countCapsules outline limits screen.root with
  | error breach =>
    rw [hrow] at hcount
    cases hcount
  | ok counts =>
    rw [hrow] at hcount
    cases hcount
    have hroutes : project.screens.map (fun screen =>
        screen.root.elim 0 fun root => (outline.routes root).ncard) = counts := by
      rw [← List.forall₂_eq_eq_eq, List.forall₂_map_left_iff]
      refine (Steps.mapM_eq_ok_iff.mp hrow).imp fun screen count hcount => ?_
      cases hroot : screen.root with
      | none =>
        rw [hroot] at hcount
        exact Except.ok.inj hcount
      | some root =>
        rw [hroot] at hcount
        exact ((countCapsules_eq_ok_iff hsame).mp hcount).2.symm
    rw [Project.routeCount, hroutes]
    rfl

/-- In trees there is one route for each place. -/
theorem Project.routeCount_tree (project : Project) :
    project.routeCount Tree.outline = project.capsuleCount := by
  refine congrArg List.sum (List.map_congr_left fun screen _ => ?_)
  cases screen.root with
  | none => rfl
  | some tree =>
    obtain ⟨places, hplaces⟩ := tree.exists_unfolds
    exact hplaces.ncard_routes.2.trans (Tree.size_of_unfolds hplaces)

theorem capsuleCount_of_countScreens {limits : Limits} {project : Project} {count : Nat}
    (hcount : countScreens Tree.outline limits project.screens = .ok count) :
    project.capsuleCount = count := by
  rw [← Project.routeCount_tree]
  exact routeCount_of_countScreens Tree.eq_of_same hcount

theorem length_platformFiles {settings : Settings} {project : Project} {platform : Platform}
    {files : List SourceFile}
    (hfiles : platformFiles Tree.outline settings project platform = .ok files) :
    files.length = platform.ownFiles + project.screens.length := by
  obtain ⟨screens, hscreens, rfl⟩ := Blueprint.exists_screens_of_manifest hfiles
  rw [List.length_append, List.length_append, ← hscreens.length_eq]
  cases platform <;> simp only [Platform.blueprint, Ios.blueprint, Android.blueprint, Web.blueprint,
    Platform.ownFiles, List.length_cons, List.length_nil] <;> omega

/-! ### Answers -/

/-- A generation has the results that the targets ask for. -/
structure Generation.Answers (generation : Generation) (settings : Settings) (project : Project)
    (targets : List String) : Prop where
  /-- There is one result for each target that names a platform, in order. -/
  platforms : generation.results.map (·.platform) =
    targets.filter fun target => target ∈ Platform.all.map Platform.name
  /-- A result has the files for its platform. -/
  files : ∀ result ∈ generation.results, ∀ platform : Platform,
    result.platform = platform.name →
      platformFiles Tree.outline settings project platform = .ok result.files ∧
      result.files.length = platform.ownFiles + project.screens.length
  /-- Browsers and desktops have the same files. -/
  desktop : ∀ result ∈ generation.results, ∀ other ∈ generation.results,
    result.platform = "web" → other.platform = "desktop" → result.files = other.files
  /-- A result says how many capsules and screens there are. -/
  counts : ∀ result ∈ generation.results,
    result.capsuleCount = project.capsuleCount ∧ result.screenCount = project.screens.length
  /-- The totals agree with the results. -/
  summary : generation.summary = {
    platforms := generation.results.length
    files := (generation.results.map (·.files.length)).sum
    capsules := project.capsuleCount
    screens := project.screens.length }

theorem Platform.name_injective {platform other : Platform} (hname : platform.name = other.name) :
    platform = other := by
  revert hname
  cases platform <;> cases other <;> decide

theorem map_name_filterMap_ofName? (targets : List String) :
    (targets.filterMap Platform.ofName?).map Platform.name =
      targets.filter fun target => target ∈ Platform.all.map Platform.name := by
  induction targets with
  | nil => rfl
  | cons target targets ih =>
    cases hname : Platform.ofName? target with
    | none =>
      have hnot : target ∉ Platform.all.map Platform.name := fun hmem => by
        simp [hname, ← Platform.ofName?_isSome_iff] at hmem
      rw [List.filterMap_cons_none hname, ih, List.filter_cons_of_neg (by simpa using hnot)]
    | some platform =>
      have hmem : target ∈ Platform.all.map Platform.name :=
        Platform.ofName?_isSome_iff.mp (by rw [hname]; rfl)
      rw [List.filterMap_cons_some hname, List.map_cons, ih, Platform.name_of_ofName? hname,
        List.filter_cons_of_pos (by simpa using hmem)]

theorem platformResult_eq_ok {settings : Settings} {now : Int} {project : Project} {capsules : Nat}
    {platform : Platform} {result : PlatformResult}
    (hresult : platformResult Tree.outline settings now project capsules platform = .ok result) :
    ∃ files, platformFiles Tree.outline settings project platform = .ok files ∧
      result = ⟨platform.name, files, capsules, project.screens.length, momentText now⟩ := by
  unfold platformResult at hresult
  cases hfiles : platformFiles Tree.outline settings project platform with
  | error cause =>
    rw [hfiles] at hresult
    cases hresult
  | ok files =>
    rw [hfiles] at hresult
    cases hresult
    exact ⟨files, rfl, rfl⟩

theorem answers_of_generate {project : Project} {asked : Option (List String)} {service : Service}
    {generation : Generation}
    (hgenerate : (generate project (asked.map (·.map Doc.str)) service).1 = .ok generation) :
    generation.Answers service.settings project
      ((asked.getD project.targets).map normalTarget) := by
  obtain ⟨targets, capsules, hread, -, hcount, hresults, hsummary⟩ :=
    generateOver_eq_ok_iff.mp hgenerate
  cases (requestedTargets_texts project asked).symm.trans hread
  rw [← capsuleCount_of_countScreens hcount] at hresults hsummary
  have hrow := Steps.mapM_eq_ok_iff.mp hresults
  have hmade : ∀ result ∈ generation.results, ∃ platform files,
      platformFiles Tree.outline service.settings project platform = .ok files ∧
      result = ⟨platform.name, files, project.capsuleCount, project.screens.length,
        momentText service.now⟩ := by
    intro result hresult
    obtain ⟨platform, -, hplatform⟩ := exists_mem_of_forall₂ hrow.flip hresult
    exact ⟨platform, platformResult_eq_ok hplatform⟩
  have hfiles : ∀ result ∈ generation.results, ∀ platform : Platform,
      result.platform = platform.name →
        platformFiles Tree.outline service.settings project platform = .ok result.files := by
    intro result hresult platform hplatform
    obtain ⟨own, files, hfiles, rfl⟩ := hmade result hresult
    rw [← Platform.name_injective hplatform]
    exact hfiles
  refine ⟨?_, fun result hresult platform hplatform => ?_,
    fun result hresult other hother hweb hdesktop => ?_, fun result hresult => ?_, hsummary⟩
  · rw [← map_name_filterMap_ofName?, eq_comm, ← List.forall₂_eq_eq_eq, List.forall₂_map_left_iff,
      List.forall₂_map_right_iff]
    refine hrow.imp fun platform result hresult => ?_
    obtain ⟨files, -, rfl⟩ := platformResult_eq_ok hresult
    rfl
  · have hown := hfiles result hresult platform hplatform
    exact ⟨hown, length_platformFiles hown⟩
  · have hfirst := hfiles result hresult .web hweb
    have hsecond := hfiles other hother .desktop hdesktop
    exact Except.ok.inj (hfirst.symm.trans hsecond)
  · obtain ⟨platform, files, -, rfl⟩ := hmade result hresult
    exact ⟨rfl, rfl⟩

theorem exists_results_iff {project : Project} {service : Service}
    (hlenient : service.settings.strictTargets = false) {targets : List String}
    {results : List PlatformResult} :
    (∃ generation, (generate project (some (targets.map Doc.str)) service).1 = .ok generation ∧
        generation.results = results) ↔
      ∃ capsules, countScreens Tree.outline service.settings.limits project.screens = .ok capsules ∧
        ((targets.map normalTarget).filterMap Platform.ofName?).mapM
          (platformResult Tree.outline service.settings service.now project capsules) =
            .ok results := by
  have hread := requestedTargets_texts project (some targets)
  have hallows (targets : List String) : ¬ service.settings.Refuses targets := fun hrefuses =>
    Bool.false_ne_true (hlenient.symm.trans hrefuses.1)
  constructor
  · rintro ⟨generation, hgenerate, rfl⟩
    obtain ⟨normal, capsules, hnormal, -, hcount, hresults, -⟩ :=
      generateOver_eq_ok_iff.mp hgenerate
    cases hread.symm.trans hnormal
    exact ⟨capsules, hcount, hresults⟩
  · rintro ⟨capsules, hcount, hresults⟩
    refine ⟨⟨results, summarize project capsules results⟩, generateOver_eq_ok_iff.mpr ?_, rfl⟩
    exact ⟨_, capsules, hread, hallows _, hcount, hresults, rfl⟩

/-- If the settings put up with any targets, the results for a list of targets are those for its
first part and those for the rest. -/
theorem generate_append_iff {project : Project} {service : Service}
    (hlenient : service.settings.strictTargets = false) {front back : List String}
    {results : List PlatformResult} :
    (∃ generation, (generate project (some ((front ++ back).map Doc.str)) service).1 =
        .ok generation ∧ generation.results = results) ↔
      ∃ first second, (generate project (some (front.map Doc.str)) service).1 = .ok first ∧
        (generate project (some (back.map Doc.str)) service).1 = .ok second ∧
        results = first.results ++ second.results := by
  rw [exists_results_iff hlenient]
  simp only [List.map_append, List.filterMap_append, List.mapM_append]
  constructor
  · rintro ⟨capsules, hcount, hresults⟩
    cases hfront : ((front.map normalTarget).filterMap Platform.ofName?).mapM
        (platformResult Tree.outline service.settings service.now project capsules) with
    | error error =>
      rw [hfront] at hresults
      cases hresults
    | ok firstResults =>
      cases hback : ((back.map normalTarget).filterMap Platform.ofName?).mapM
          (platformResult Tree.outline service.settings service.now project capsules) with
      | error error =>
        rw [hfront, hback] at hresults
        cases hresults
      | ok secondResults =>
        rw [hfront, hback] at hresults
        cases hresults
        obtain ⟨first, hfirst, rfl⟩ := (exists_results_iff hlenient).mpr ⟨capsules, hcount, hfront⟩
        obtain ⟨second, hsecond, rfl⟩ := (exists_results_iff hlenient).mpr ⟨capsules, hcount, hback⟩
        exact ⟨first, second, hfirst, hsecond, rfl⟩
  · rintro ⟨first, second, hfirst, hsecond, rfl⟩
    obtain ⟨capsules, hcount, hfront⟩ := (exists_results_iff hlenient).mp ⟨first, hfirst, rfl⟩
    obtain ⟨same, hsame, hback⟩ := (exists_results_iff hlenient).mp ⟨second, hsecond, rfl⟩
    cases hcount.symm.trans hsame
    refine ⟨capsules, hcount, ?_⟩
    rw [hfront, hback]
    rfl

theorem forall_mem_names_of_strict {project : Project} {asked : Option (List String)}
    {service : Service} {generation : Generation}
    (hgenerate : (generate project (asked.map (·.map Doc.str)) service).1 = .ok generation)
    (hstrict : service.settings.strictTargets = true) :
    ∀ target ∈ (asked.getD project.targets).map normalTarget,
      target ∈ Platform.all.map Platform.name := by
  obtain ⟨targets, capsules, hread, hallows, -, -, -⟩ := generateOver_eq_ok_iff.mp hgenerate
  cases (requestedTargets_texts project asked).symm.trans hread
  have hknown : unknownTargets ((asked.getD project.targets).map normalTarget) = [] := by
    by_contra hunknown
    exact hallows ⟨hstrict, hunknown⟩
  intro target htarget
  have hsome := List.filter_eq_nil_iff.mp hknown target htarget
  rw [← Platform.ofName?_isSome_iff, ← Option.ne_none_iff_isSome]
  simpa using hsome

/-- A generation has one result for each target that names a platform, in order and as often as
it is asked for, with the files and counts of the platform, and the totals agree.  Lenient
settings give each part of a list of targets its own results, strict ones each target; and the
names of targets are normal once they have been normalized. -/
theorem generate_answers (project : Project) (service : Service) :
    (∀ (asked : Option (List String)) (generation : Generation),
      (generate project (asked.map (·.map Doc.str)) service).1 = .ok generation →
        generation.Answers service.settings project
          ((asked.getD project.targets).map normalTarget) ∧
        (service.settings.strictTargets = true →
          generation.results.map (·.platform) =
            (asked.getD project.targets).map normalTarget)) ∧
    (service.settings.strictTargets = false →
      ∀ (front back : List String) (results : List PlatformResult),
        (∃ generation, (generate project (some ((front ++ back).map Doc.str)) service).1 =
            .ok generation ∧ generation.results = results) ↔
          ∃ first second, (generate project (some (front.map Doc.str)) service).1 = .ok first ∧
            (generate project (some (back.map Doc.str)) service).1 = .ok second ∧
            results = first.results ++ second.results) ∧
    (∀ target, normalTarget (normalTarget target) = normalTarget target) := by
  refine ⟨fun asked generation hgenerate => ?_, fun hlenient front back results =>
    generate_append_iff hlenient, normalTarget_normalTarget⟩
  have hanswers := answers_of_generate hgenerate
  refine ⟨hanswers, fun hstrict => ?_⟩
  rw [hanswers.platforms, List.filter_eq_self]
  simpa only [decide_eq_true_eq] using forall_mem_names_of_strict hgenerate hstrict

/-- Two of the targets are the same platform, and one is none. -/
theorem generate_answers_mixed :
    ∃ generation : Generation,
      (generate .twoLevels (some ([" iOS", "tv", "WEB", "desktop", "web\n"].map Doc.str))
        .standard).1 = .ok generation ∧
      generation.results.map (·.platform) = ["ios", "web", "desktop", "web"] ∧
      generation.summary.platforms = 4 ∧ generation.summary.capsules = 3 ∧
      (∀ result ∈ generation.results, result.platform = "ios" → result.files.length = 4) ∧
      ∃ first second : Generation,
        (generate .twoLevels (some ([" iOS", "tv"].map Doc.str)) .standard).1 = .ok first ∧
        (generate .twoLevels (some (["WEB", "desktop", "web\n"].map Doc.str)) .standard).1 =
          .ok second ∧
        generation.results = first.results ++ second.results := by
  obtain ⟨hanswers, happend, -⟩ := generate_answers .twoLevels .standard
  cases hgenerate : (generate .twoLevels
      (some ([" iOS", "tv", "WEB", "desktop", "web\n"].map Doc.str)) .standard).1 with
  | error error =>
    have hok : (generate .twoLevels (some ([" iOS", "tv", "WEB", "desktop", "web\n"].map Doc.str))
        .standard).1.toOption.isSome := by
      decide +kernel
    rw [hgenerate] at hok
    cases hok
  | ok generation =>
    obtain ⟨hfits, -⟩ :=
      hanswers (some [" iOS", "tv", "WEB", "desktop", "web\n"]) generation hgenerate
    have hplatforms : generation.results.map (·.platform) = ["ios", "web", "desktop", "web"] :=
      hfits.platforms.trans (by decide +kernel)
    have hlength : generation.results.length = 4 := by
      simpa using congrArg List.length hplatforms
    refine ⟨generation, rfl, hplatforms, ?_, ?_, fun result hresult hios => ?_, ?_⟩
    · rw [hfits.summary, hlength]
    · rw [hfits.summary]
      rfl
    · exact (hfits.files result hresult .ios hios).2
    · exact (happend rfl [" iOS", "tv"] ["WEB", "desktop", "web\n"] generation.results).mp
        ⟨generation, hgenerate, rfl⟩

end CapsuleLoom
