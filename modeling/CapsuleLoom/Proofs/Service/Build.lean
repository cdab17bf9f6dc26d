import CapsuleLoom.Proofs.Assistant.Defaults
import CapsuleLoom.Proofs.Service.Bridge
import CapsuleLoom.Proofs.Service.Results
import CapsuleLoom.Service.Response

/-!
# Generations of documents of a model

A model is asked for a project document, the defaults of the document are filled in, and its
project is generated.  What is wrong with the document is the model's fault, so the caller is told
of a failure of the service.  A document that was generated can be sent back to be generated
again, with the same results, unless its version is blank: this is no version for a document that
a caller sends.

## Main definitions

* `Generation.stamped` : a generation as it would have been made at another time.
* `BuildRequest.filled` : the document of a model with the defaults filled in.
* `BuildEnds` : the ways in which a generation of a document of a model can end.

## Main results

* `generate_stamped` : of all that the service keeps, results depend only on the settings and the
  time of day.
* `postBuild_ends` : every generation of a document of a model ends in one of these ways.
* `postGenerate_of_postBuild` : what comes of sending a generated document back.
* `postBuild_not_caller` : faults of the model are not those of the caller.
-/

namespace CapsuleLoom

/-! ### Results at another time -/

/-- A result as it would have been made at another time. -/
def PlatformResult.stamped (now : Int) (result : PlatformResult) : PlatformResult :=
  { result with generatedAt := momentText now }

/-- A generation as it would have been made at another time. -/
def Generation.stamped (now : Int) (generation : Generation) : Generation :=
  { generation with results := generation.results.map (·.stamped now) }

theorem platformResult_stamped {settings : Settings} {now : Int} {project : Project}
    {capsules : Nat} {platform : Platform} {result : PlatformResult}
    (hresult : platformResult Tree.outline settings now project capsules platform = .ok result)
    (later : Int) :
    platformResult Tree.outline settings later project capsules platform =
      .ok (result.stamped later) := by
  obtain ⟨files, hfiles, rfl⟩ := platformResult_eq_ok hresult
  rw [platformResult, hfiles]
  rfl

theorem summarize_stamped (project : Project) (capsules : Nat) (results : List PlatformResult)
    (now : Int) :
    summarize project capsules (results.map (·.stamped now)) =
      summarize project capsules results := by
  unfold summarize
  rw [List.length_map, List.map_map]
  rfl

/-- Of all that the service keeps, results depend only on the settings and the time of day. -/
theorem generate_stamped {project : Project} {targets? : Option (List Doc)}
    {service other : Service} {generation : Generation}
    (hsettings : other.settings = service.settings)
    (hgenerate : (generate project targets? service).1 = .ok generation) :
    (generate project targets? other).1 = .ok (generation.stamped other.now) := by
  obtain ⟨targets, capsules, hread, hallows, hcount, hresults, hsummary⟩ :=
    generateOver_eq_ok_iff.mp hgenerate
  rw [← hsettings] at hallows hcount hresults
  refine generateOver_eq_ok_iff.mpr ⟨targets, capsules, hread, hallows, hcount, ?_, ?_⟩
  · refine Steps.mapM_eq_ok_iff.mpr (List.forall₂_map_right_iff.mpr ?_)
    exact (Steps.mapM_eq_ok_iff.mp hresults).imp fun _ _ hresult =>
      platformResult_stamped hresult other.now
  · exact hsummary.trans (summarize_stamped project capsules generation.results other.now).symm

/-! ### The ways in which a generation of a document of a model can end -/

/-- The document of a model with the defaults filled in and the targets that are asked for. -/
def BuildRequest.filled (request : BuildRequest) (settings : Settings) (document : Fields) :
    Fields :=
  fillDefaults settings.defaultThemePrimary (some request.targets) document

/-- The ways in which a generation of a document of a model can end. -/
inductive BuildEnds (request : BuildRequest) (service : Service)
    (run : Except RouteError Doc × Service) : Prop
  /-- Nothing is asked for. -/
  | unprompted (hprompt : nonempty? request.prompt = none)
      (hrun : run.1 = .error (.refused 400 (.str "Missing prompt")))
  /-- The model gives no document. -/
  | unanswered (error : AskError) (hanswer : service.answer = .error error)
      (hrun : run.1 = .error (.ofAsk error))
  /-- The document is no project. -/
  | invalid (document : Fields) (hanswer : service.answer = .ok document) (error : ProjectError)
      (hread : readProject false (.obj (request.filled service.settings document)) = .error error)
      (hrun : run.1 = .error (.unusable (request.filled service.settings document) error.message))
  /-- The project is not generated. -/
  | failed (document : Fields) (hanswer : service.answer = .ok document) (project : Project)
      (hread : readProject false (.obj (request.filled service.settings document)) = .ok project)
      (asked : Service) (hasked : asked.settings = service.settings) (cause : GenerateError)
      (hgenerate : (generate project none asked).1 = .error cause)
      (hrun : run.1 = .error (.ofBuild (request.filled service.settings document) cause))
  /-- The project is generated. -/
  | done (document : Fields) (hanswer : service.answer = .ok document) (project : Project)
      (hread : readProject false (.obj (request.filled service.settings document)) = .ok project)
      (asked : Service) (hasked : asked.settings = service.settings) (generation : Generation)
      (hgenerate : (generate project none asked).1 = .ok generation) (prompt : String)
      (hprompt : nonempty? request.prompt = some prompt)
      (hrun : run.1 = .ok (.obj
        (("success", .bool true) :: ("prompt", .str prompt) ::
          ("project", .obj (request.filled service.settings document)) :: generation.toFields)))

/-- Every generation of a document of a model ends in one of these ways. -/
theorem postBuild_ends (request : BuildRequest) (service : Service) :
    BuildEnds request service (postBuild request service) := by
  unfold postBuild
  cases hprompt : nonempty? request.prompt with
  | none =>
    have hrequire : requirePrompt request.prompt service =
        (.error (.refused 400 (.str "Missing prompt")), service) := by
      rw [requirePrompt, hprompt]
      rfl
    rw [Steps.bind_error hrequire]
    exact .unprompted hprompt rfl
  | some prompt =>
    have hrequire : requirePrompt request.prompt service = (.ok prompt, service) := by
      rw [requirePrompt, hprompt]
      rfl
    rw [Steps.bind_ok hrequire]
    obtain ⟨asked, hask, htalked⟩ := askProject_spec prompt (some request.targets) service
    have hasked : asked.settings = service.settings := htalked.settings
    cases hanswer : service.answer with
    | error error =>
      rw [hanswer] at hask
      rw [Steps.bind_error (Run.mapError_of_error _ hask)]
      exact .unanswered error hanswer rfl
    | ok document =>
      rw [hanswer] at hask
      rw [Steps.bind_ok (Run.mapError_of_ok _ hask)]
      -- The document that was asked for is `request.filled` by definition.
      change BuildEnds request service
        ((Run.ofExcept
          ((readProject false (.obj (request.filled service.settings document))).mapError
            fun error => .unusable (request.filled service.settings document) error.message) >>= _)
          asked)
      cases hread : readProject false (.obj (request.filled service.settings document)) with
      | error error =>
        rw [Steps.bind_error (Run.ofExcept_mapError_of_error _ rfl)]
        exact .invalid document hanswer error hread rfl
      | ok project =>
        rw [Steps.bind_ok (Run.ofExcept_mapError_of_ok _ rfl)]
        rcases hgenerate : generate project none asked with ⟨cause | generation, after⟩
        · rw [Steps.bind_error (Run.mapError_of_error _ hgenerate)]
          exact .failed document hanswer project hread asked hasked cause
            (congrArg Prod.fst hgenerate) rfl
        · rw [Steps.bind_ok (Run.mapError_of_ok _ hgenerate)]
          exact .done document hanswer project hread asked hasked generation
            (congrArg Prod.fst hgenerate) prompt hprompt rfl

/-! ### Sending a generated document back -/

section Back

variable {fields : Fields} {project : Project} {service : Service}

theorem postGenerate_of_missing {names : List String} (hnames : names ≠ [])
    (hmissing : missingFields (.obj fields) = names) :
    postGenerate (some (.obj fields)) service =
      (.error (.refused 400 (.str ("Missing required fields: " ++ ", ".intercalate names))),
        service) := by
  have hread : readProject true (.obj fields) = .error (.missingFields names) := by
    rw [readProject, hmissing, if_pos (by simpa using hnames)]
  unfold postGenerate
  dsimp only
  rw [Steps.bind_error (Run.ofExcept_mapError_of_error _ hread)]
  rfl

theorem postGenerate_of_ok {generation : Generation}
    (hread : readProject true (.obj fields) = .ok project)
    (hgenerate : (generate project none service).1 = .ok generation) :
    (postGenerate (some (.obj fields)) service).1 = .ok (.obj
      (("success", .bool true) ::
        ("project", .obj [("name", .str project.name), ("version", .str project.version)]) ::
        generation.toFields)) := by
  have hrun : generate project none service = (.ok generation, (generate project none service).2) :=
    Prod.ext hgenerate rfl
  unfold postGenerate
  dsimp only
  rw [Steps.bind_ok (Run.ofExcept_mapError_of_ok _ hread),
    Steps.bind_ok (Run.mapError_of_ok _ hrun)]
  rfl

end Back

theorem projectShape?_of_answer {service : Service} {document : Fields}
    (hanswer : service.answer = .ok document) : (projectShape? document).isSome = true := by
  unfold Service.answer at hanswer
  split at hanswer
  · cases hanswer
  · unfold replyDocument at hanswer
    split at hanswer
    · cases hanswer
    · split_ifs at hanswer with hshape
      cases hanswer
      exact hshape

/-- A document of a model that was generated has a version.  If it is not blank, the document can
be sent back at any time under the same settings, with the same results and totals, the time of day
apart; if it is blank, it counts as missing. -/
theorem postGenerate_of_postBuild {request : BuildRequest} {service direct : Service}
    (hsettings : direct.settings = service.settings) {answer : Doc}
    (hbuild : (postBuild request service).1 = .ok answer) :
    ∃ prompt fields name version generation,
      answer = .obj (("success", .bool true) :: ("prompt", .str prompt) ::
        ("project", .obj fields) :: Generation.toFields generation) ∧
      Fields.get fields "version" = .str version ∧
      (Text.isBlankText version = false →
        (postGenerate (some (.obj fields)) direct).1 = .ok (.obj
          (("success", .bool true) ::
            ("project", .obj [("name", .str name), ("version", .str version)]) ::
            (generation.stamped direct.now).toFields))) ∧
      (Text.isBlankText version = true →
        postGenerate (some (.obj fields)) direct =
          (.error (.refused 400 (.str "Missing required fields: version")), direct)) := by
  cases postBuild_ends request service with
  | unprompted hprompt hrun => cases hbuild.symm.trans hrun
  | unanswered error hanswer hrun => cases hbuild.symm.trans hrun
  | invalid document hanswer error hread hrun => cases hbuild.symm.trans hrun
  | failed document hanswer project hread asked hasked cause hgenerate hrun =>
    cases hbuild.symm.trans hrun
  | done document hanswer project hread asked hasked generation hgenerate prompt hprompt hrun =>
    obtain rfl := Except.ok.inj (hbuild.symm.trans hrun)
    have hcheck := (readProject_eq_ok_iff.mp hread).2
    -- Both readings make the same checks, but only the second looks for missing fields.
    have hmissing := missingFields_fillDefaults hcheck (projectShape?_of_answer hanswer)
    refine ⟨prompt, _, project.name, project.version, generation, rfl,
      get_version_of_checkProject hcheck, fun hversion => ?_, fun hblank => ?_⟩
    · rw [hversion] at hmissing
      refine postGenerate_of_ok (readProject_eq_ok_iff.mpr ⟨fun _ => hmissing, hcheck⟩) ?_
      exact generate_stamped (hsettings.trans hasked.symm) hgenerate
    · rw [hblank] at hmissing
      exact postGenerate_of_missing (List.cons_ne_nil _ _) hmissing

/-- The version of a document that was generated. -/
def builtVersion? (outcome : Except RouteError Doc) : Option String := do
  let answer ← outcome.toOption
  let fields ← answer.fields?
  let project ← (Fields.get fields "project").fields?
  (Fields.get project "version").text?

theorem exists_ok_of_builtVersion? {outcome : Except RouteError Doc} {version : String}
    (hbuilt : builtVersion? outcome = some version) : ∃ answer, outcome = .ok answer := by
  cases outcome with
  | error error => cases hbuilt
  | ok answer => exact ⟨answer, rfl⟩

/-- A service whose model replies with a project that has a version. -/
def Service.versioned : Service :=
  .scripted [.reply
    [some "\x7b\"name\":\"A\",\"version\":\"2\",\"screens\":[\x7b\"id\":\"h\"\x7d]\x7d"]]

/-- A service whose model replies with a project that has a blank version. -/
def Service.unversioned : Service :=
  .scripted [.reply
    [some "\x7b\"name\":\"A\",\"version\":\" \",\"screens\":[\x7b\"id\":\"h\"\x7d]\x7d"]]

theorem postGenerate_of_postBuild_versions :
    (∃ prompt fields name generation,
      (postBuild ⟨some "A list", [" iOS"]⟩ .versioned).1 = .ok (.obj
        (("success", .bool true) :: ("prompt", .str prompt) :: ("project", .obj fields) ::
          Generation.toFields generation)) ∧
      (postGenerate (some (.obj fields)) { Service.versioned with now := 1000 }).1 = .ok (.obj
        (("success", .bool true) ::
          ("project", .obj [("name", .str name), ("version", .str "2")]) ::
          (generation.stamped 1000).toFields))) ∧
    ∃ prompt fields generation,
      (postBuild ⟨some "A list", [" iOS"]⟩ .unversioned).1 = .ok (.obj
        (("success", .bool true) :: ("prompt", .str prompt) :: ("project", .obj fields) ::
          Generation.toFields generation)) ∧
      postGenerate (some (.obj fields)) .unversioned =
        (.error (.refused 400 (.str "Missing required fields: version")), .unversioned) := by
  constructor
  · have hbuilt : builtVersion? (postBuild ⟨some "A list", [" iOS"]⟩ .versioned).1 = some "2" := by
      decide +kernel
    obtain ⟨answer, hbuild⟩ := exists_ok_of_builtVersion? hbuilt
    have hsettings : { Service.versioned with now := 1000 }.settings =
        Service.versioned.settings := rfl
    obtain ⟨prompt, fields, name, version, generation, rfl, hversion, hagree, -⟩ :=
      postGenerate_of_postBuild hsettings hbuild
    rw [hbuild] at hbuilt
    have htext : (Fields.get fields "version").text? = some "2" := hbuilt
    rw [hversion] at htext
    cases htext
    exact ⟨prompt, fields, name, generation, hbuild, hagree (by decide)⟩
  · have hbuilt :
        builtVersion? (postBuild ⟨some "A list", [" iOS"]⟩ .unversioned).1 = some " " := by
      decide +kernel
    obtain ⟨answer, hbuild⟩ := exists_ok_of_builtVersion? hbuilt
    obtain ⟨prompt, fields, name, version, generation, rfl, hversion, -, hblank⟩ :=
      postGenerate_of_postBuild (rfl : Service.unversioned.settings = _) hbuild
    rw [hbuild] at hbuilt
    have htext : (Fields.get fields "version").text? = some " " := hbuilt
    rw [hversion] at htext
    cases htext
    exact ⟨prompt, fields, generation, hbuild, hblank (by decide)⟩

/-! ### Whose fault it is -/

/-- The settings put up with any targets, or all of these name a platform. -/
def Settings.Accepts (settings : Settings) (targets : List String) : Prop :=
  settings.strictTargets = false ∨
    ∀ target ∈ targets, normalTarget target ∈ Platform.all.map Platform.name

theorem Settings.Accepts.not_refuses {settings : Settings} {targets : List String}
    (haccepts : settings.Accepts targets) :
    ¬ settings.Refuses ((targets.map normalTarget).map normalTarget) := by
  -- Targets are normalised when the document is read and again when they are looked up.
  rintro ⟨hstrict, hunknown⟩
  rcases haccepts with hlenient | hknown
  · exact Bool.false_ne_true (hlenient.symm.trans hstrict)
  · refine hunknown (List.filter_eq_nil_iff.mpr fun target htarget => ?_)
    obtain ⟨raw, hraw, rfl⟩ := List.mem_map.mp (List.map_map ▸ htarget)
    have hname := Platform.ofName?_isSome_iff.mpr (hknown raw hraw)
    rw [Function.comp_apply, normalTarget_normalTarget, Option.isNone_iff_eq_none]
    exact Option.isSome_iff_ne_none.mp hname

/-- What the caller is told when a model gives no document is never that the request is wrong. -/
theorem RouteError.ofAsk_cases (error : AskError) :
    (∃ detail, ofAsk error = .refused 500 detail) ∨ ∃ message, ofAsk error = .crashed message := by
  cases error with
  | unavailable | modelFailed | unreadable | misshapen => exact .inl ⟨_, rfl⟩
  | crashed | integerTooLong => exact .inr ⟨_, rfl⟩

section Fault

variable {request : BuildRequest} {service asked : Service} {document : Fields} {project : Project}
  (haccepts : service.settings.Accepts request.targets)
  (hread : readProject false (.obj (request.filled service.settings document)) = .ok project)
  (hasked : asked.settings = service.settings)

include haccepts hread hasked

/-- The targets of the document of a model are those that are asked for, so they are accepted. -/
theorem not_refuses_of_filled :
    ∃ targets, requestedTargets project none = .ok targets ∧ ¬ asked.settings.Refuses targets := by
  refine ⟨_, rfl, ?_⟩
  rw [targets_of_checkProject (readProject_eq_ok_iff.mp hread).2, hasked]
  exact haccepts.not_refuses

/-- A breach of the limits is the only cause that the caller is told of. -/
theorem RouteError.ofBuild_cases {cause : GenerateError}
    (hgenerate : (generate project none asked).1 = .error cause) :
    (∃ detail, ofBuild (request.filled service.settings document) cause = .refused 500 detail) ∨
      ∃ message, ofBuild (request.filled service.settings document) cause = .crashed message := by
  cases cause with
  | breach breach => exact .inl ⟨_, rfl⟩
  | overflow overflow => exact .inr ⟨_, rfl⟩
  | targetNotText kind => exact .inr ⟨_, rfl⟩
  | unknownTargets unknown =>
    -- This would be blamed on the caller, but the targets are those that were accepted.
    obtain ⟨targets, htargets, hallows⟩ := not_refuses_of_filled haccepts hread hasked
    obtain ⟨others, hothers, hrefuses, -⟩ :=
      generateOver_unknownTargets_iff.mp (Prod.ext hgenerate rfl)
    cases htargets.symm.trans hothers
    exact absurd hrefuses hallows

theorem generate_of_firstBreach {breach : Breach}
    (hbreach : FirstBreach Tree.outline service.settings.limits project.screens breach) :
    (generate project none asked).1 = .error (.breach breach) := by
  rw [← hasked] at hbreach
  exact congrArg Prod.fst (generateOver_breach_iff.mpr
    ⟨not_refuses_of_filled haccepts hread hasked, hbreach, rfl⟩)

end Fault

section Blame

variable {request : BuildRequest} {service : Service} {prompt : String} {document : Fields}
  (hprompt : nonempty? request.prompt = some prompt) (hdocument : service.answer = .ok document)

include hprompt hdocument

/-- With a document at hand, what is wrong with it decides what the caller is told. -/
theorem postBuild_of_document :
    (∀ error,
      readProject false (.obj (request.filled service.settings document)) = .error error →
      (postBuild request service).1 =
        .error (.unusable (request.filled service.settings document) error.message)) ∧
    ∀ project,
      readProject false (.obj (request.filled service.settings document)) = .ok project →
      ∃ asked : Service, asked.settings = service.settings ∧
        ∀ cause, (generate project none asked).1 = .error cause →
          (postBuild request service).1 =
            .error (.ofBuild (request.filled service.settings document) cause) := by
  cases postBuild_ends request service with
  | unprompted hnone hrun => cases hprompt.symm.trans hnone
  | unanswered error hanswer hrun => cases hdocument.symm.trans hanswer
  | invalid other hanswer error hinvalid hrun =>
    cases hdocument.symm.trans hanswer
    refine ⟨fun found hread => ?_, fun project hread => ?_⟩
    · cases hread.symm.trans hinvalid
      exact hrun
    · cases hread.symm.trans hinvalid
  | failed other hanswer held hheld asked hasked cause hgenerate hrun =>
    cases hdocument.symm.trans hanswer
    refine ⟨fun found hread => ?_, fun project hread => ⟨asked, hasked, fun found hfound => ?_⟩⟩
    · cases hread.symm.trans hheld
    · cases hread.symm.trans hheld
      cases hfound.symm.trans hgenerate
      exact hrun
  | done other hanswer held hheld asked hasked generation hgenerate text htext hrun =>
    cases hdocument.symm.trans hanswer
    refine ⟨fun found hread => ?_, fun project hread => ⟨asked, hasked, fun found hfound => ?_⟩⟩
    · cases hread.symm.trans hheld
    · cases hread.symm.trans hheld
      cases hfound.symm.trans hgenerate

theorem postBuild_of_firstBreach (haccepts : service.settings.Accepts request.targets)
    {project : Project} {breach : Breach}
    (hread : readProject false (.obj (request.filled service.settings document)) = .ok project)
    (hbreach : FirstBreach Tree.outline service.settings.limits project.screens breach) :
    (postBuild request service).1 =
      .error (.unusable (request.filled service.settings document) breach.message) := by
  obtain ⟨asked, hasked, hfailed⟩ := (postBuild_of_document hprompt hdocument).2 project hread
  exact hfailed _ (generate_of_firstBreach haccepts hread hasked hbreach)

end Blame

/-- Faults of the model are not those of the caller.  A request with a prompt and targets that the
settings accept is answered, or refused for a failure of the service, or something fails that no one
thought of.  A document of the model that is no project, or that does not keep the limits, is such
a failure: the caller is told why, and gets the document with the defaults filled in and the
targets replaced. -/
theorem postBuild_not_caller {request : BuildRequest} {service : Service} {prompt : String}
    (hprompt : request.prompt = some prompt) (hne : prompt ≠ "")
    (haccepts : service.settings.Accepts request.targets) :
    ((∃ answer, (postBuild request service).1 = .ok answer) ∨
      (∃ detail, (postBuild request service).1 = .error (.refused 500 detail)) ∨
      ∃ message, (postBuild request service).1 = .error (.crashed message)) ∧
    ∀ document, service.answer = .ok document →
      (∀ key, (request.filled service.settings document).get? key =
        if key = "targets" then some (.strs request.targets)
        else (fillDefaults service.settings.defaultThemePrimary none document).get? key) ∧
      (∀ error,
        readProject false (.obj (request.filled service.settings document)) = .error error →
        (postBuild request service).1 = .error (.refused 500 (.obj
          [("error", .str "AI build failed"), ("details", .str error.message),
            ("project", .obj (request.filled service.settings document))]))) ∧
      ∀ project breach,
        readProject false (.obj (request.filled service.settings document)) = .ok project →
        FirstBreach Tree.outline service.settings.limits project.screens breach →
        (postBuild request service).1 = .error (.refused 500 (.obj
          [("error", .str "AI build failed"), ("details", .str breach.message),
            ("project", .obj (request.filled service.settings document))])) := by
  have hprompted : nonempty? request.prompt = some prompt := by
    rw [hprompt, nonempty?, Option.filter_some, if_pos (by simpa using hne)]
  constructor
  · cases postBuild_ends request service with
    | unprompted hnone hrun => cases hprompted.symm.trans hnone
    | unanswered error hanswer hrun =>
      rw [hrun]
      rcases RouteError.ofAsk_cases error with ⟨detail, hdetail⟩ | ⟨message, hmessage⟩
      · exact .inr (.inl ⟨detail, congrArg _ hdetail⟩)
      · exact .inr (.inr ⟨message, congrArg _ hmessage⟩)
    | invalid document hanswer error hread hrun => exact .inr (.inl ⟨_, hrun⟩)
    | failed document hanswer project hread asked hasked cause hgenerate hrun =>
      rw [hrun]
      rcases RouteError.ofBuild_cases haccepts hread hasked hgenerate with
        ⟨detail, hdetail⟩ | ⟨message, hmessage⟩
      · exact .inr (.inl ⟨detail, congrArg _ hdetail⟩)
      · exact .inr (.inr ⟨message, congrArg _ hmessage⟩)
    | done document hanswer project hread asked hasked generation hgenerate prompt hprompt hrun =>
      exact .inl ⟨_, hrun⟩
  · intro document hdocument
    exact ⟨get?_fillDefaults_of_requested _ _ document,
      (postBuild_of_document hprompted hdocument).1,
      fun project breach hread => postBuild_of_firstBreach hprompted hdocument haccepts hread⟩

/-- A reply with two levels of capsules. -/
def deepReply : String :=
  "\x7b\"name\":\"A\",\"screens\":[\x7b\"id\":\"h\"," ++
    "\"root\":\x7b\"children\":[\x7b\x7d]\x7d\x7d]\x7d"

/-- The document of this reply. -/
def deepDocument : Fields :=
  [("name", .str "A"),
    ("screens", .arr [.obj [("id", .str "h"), ("root", .obj [("children", .arr [.obj []])])]])]

/-- A service that puts up with one level of capsules and with no unknown targets, and whose model
replies with two levels. -/
def Service.deep : Service :=
  .new { Settings.standard with apiKey := "key", strictTargets := true, maxTreeDepth := 1 }
    (.new Clock.defaultTick) [.reply [some deepReply]] 0

theorem answer_deep : Service.deep.answer = .ok deepDocument := by
  have hread : Doc.readWithin standardRoom deepReply = .ok (.obj deepDocument) := by cbv
  have hstrip : stripFences deepReply = deepReply := by decide +kernel
  have hreply : readReplyWithin Service.deep.room deepReply = .ok deepDocument := by
    unfold readReplyWithin readSomewhere
    rw [hstrip, show Service.deep.room = standardRoom from rfl, hread]
  have hcompletion : Service.deep.completion = .ok deepReply :=
    Service.completion_eq_ok_iff.mpr ⟨rfl, ⟨[], rfl⟩, by decide⟩
  rw [Service.answer, hcompletion]
  dsimp only [replyDocument]
  rw [hreply]
  rfl

theorem postBuild_not_caller_deep :
    (postBuild ⟨some "A list", [" iOS"]⟩ .deep).1 = .error (.refused 500 (.obj
      [("error", .str "AI build failed"), ("details", .str (Breach.message ⟨.tooDeep 1, "", 2⟩)),
        ("project", .obj (deepDocument ++
          [("version", .str "1.0.0"), ("targets", .strs [" iOS"]),
            ("theme", plainTheme "#6366F1")]))])) := by
  have haccepts : Service.deep.settings.Accepts [" iOS"] := .inr (by decide +kernel)
  have hblame := @postBuild_not_caller ⟨some "A list", [" iOS"]⟩ .deep "A list" rfl (by decide)
    haccepts
  obtain ⟨-, -, hbreach⟩ := hblame.2 _ answer_deep
  exact hbreach _ _ rfl ⟨[], _, [], rfl, by simp, rfl⟩

end CapsuleLoom
