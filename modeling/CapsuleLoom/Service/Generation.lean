import CapsuleLoom.Platform
import CapsuleLoom.Project.Check
import CapsuleLoom.Project.Dump
import CapsuleLoom.Service.State
import CapsuleLoom.Text.Quoted

/-!
# Generations

A generation runs the generators of all requested targets over a project: `ios`, `android`, `web`
and `desktop`.  Other targets are passed over with a warning, or refused where `strict_targets` is
set.

## Main definitions

* `Generation` : the results with their summary.
* `generateOver`, `generate` : the generation of a project.

## References

* HubLab API specification, §3 (data model), GenerationResult and GenerationSummary; §4.3 (backend
  selector and orchestrator); §7 (error handling), (b) and (d).
-/

namespace CapsuleLoom

/-- The files for one platform. -/
structure PlatformResult where
  /-- The name of the platform. -/
  platform : String
  /-- The files. -/
  files : List SourceFile
  /-- The count of capsules of the project. -/
  capsuleCount : Nat
  /-- The count of screens of the project. -/
  screenCount : Nat
  /-- When the files were made. -/
  generatedAt : String

/-- The totals of a generation. -/
structure Summary where
  /-- The count of results. -/
  platforms : Nat
  /-- The count of files of all results. -/
  files : Nat
  /-- The count of capsules of the project. -/
  capsules : Nat
  /-- The count of screens of the project. -/
  screens : Nat

/-- The results with their summary. -/
structure Generation where
  /-- The results, in the order of the requests. -/
  results : List PlatformResult
  /-- The totals. -/
  summary : Summary

/-! ### Documents -/

/-- The document of a file. -/
def SourceFile.toDoc (file : SourceFile) : Doc :=
  .obj [("path", .str file.path), ("language", .str file.language), ("content", .str file.content)]

/-- The document of the files for one platform. -/
def PlatformResult.toDoc (result : PlatformResult) : Doc :=
  .obj
    [ ("success", .bool true),
      ("platform", .str result.platform),
      ("files", .arr (result.files.map SourceFile.toDoc)),
      ("metadata", .obj
        [ ("capsuleCount", .int result.capsuleCount),
          ("screenCount", .int result.screenCount),
          ("generatedAt", .str result.generatedAt) ]) ]

/-- The document of the totals. -/
def Summary.toDoc (summary : Summary) : Doc :=
  .obj
    [ ("totalPlatforms", .int summary.platforms),
      ("totalFiles", .int summary.files),
      ("totalCapsules", .int summary.capsules),
      ("totalScreens", .int summary.screens) ]

/-- The fields of the document of a generation. -/
def Generation.toFields (generation : Generation) : Fields :=
  [ ("results", .arr (generation.results.map PlatformResult.toDoc)),
    ("summary", generation.summary.toDoc) ]

/-! ### Targets -/

/-- Why there is no generation. -/
inductive GenerateError where
  /-- A target is no text but of the named kind. -/
  | targetNotText (kind : String)
  /-- Targets name no platform, and that is refused. -/
  | unknownTargets (targets : List String)
  /-- A screen runs into a limit. -/
  | breach (breach : Breach)
  /-- A number is beyond the doubles. -/
  | overflow (overflow : Overflow)

/-- The wording of an error. -/
def GenerateError.message : GenerateError → String
  | targetNotText kind => s!"'{kind}' object has no attribute 'strip'"
  | unknownTargets targets =>
    "Unsupported target platform(s): " ++ ", ".intercalate (targets.map Text.quote) ++
      "; expected one of " ++ ", ".intercalate (Platform.all.map Platform.name)
  | .breach cause => cause.message
  | .overflow cause => cause.message

/-- The error of a walk. -/
def GenerateError.ofWalk : WalkError Overflow → GenerateError
  | .breach cause => .breach cause
  | .combine cause => .overflow cause

/-- The name of the kind of a value. -/
def Doc.kindName : Doc → String
  | .null => "NoneType"
  | .bool _ => "bool"
  | .num (.int _) => "int"
  | .num (.double _) => "float"
  | .str _ => "str"
  | .arr _ => "list"
  | .obj _ => "dict"

/-- A target as it is compared. -/
def readTarget : Doc → Except GenerateError String
  | .str target => .ok (normalTarget target)
  | value => .error (.targetNotText value.kindName)

/-- The targets as they are compared: those that are asked for, or else those of the project. -/
def requestedTargets {κ : Type} (project : Project κ) :
    Option (List Doc) → Except GenerateError (List String)
  | some targets => targets.mapM readTarget
  | none => .ok (project.targets.map normalTarget)

/-- The targets that name no platform. -/
def unknownTargets (targets : List String) : List String :=
  targets.filter fun target => (Platform.ofName? target).isNone

/-! ### Runs -/

variable {κ : Type}

/-- The name under which generations tell about events. -/
def generationLogger : String := "hublab.app.services.generate_service"

/-- The count of capsules of all screens; each screen has to keep the limits. -/
def countScreens (outline : Outline κ) (limits : Limits) (screens : List (Screen κ)) :
    Except Breach Nat := do
  let counts ← screens.mapM fun screen => countCapsules outline limits screen.root
  return total counts

/-- The count of capsules of a project; a breach is counted and told about. -/
def countProject (outline : Outline κ) (project : Project κ) : Run GenerateError Nat := do
  match countScreens outline (← Run.settings).limits project.screens with
  | .ok count => return count
  | .error breach =>
    Run.meter Board.countRejected
    Run.log .warning generationLogger
      s!"Rejected capsule tree for {Text.quote project.name}: {breach.message}"
    throw (.breach breach)

/-- The result for a platform. -/
def runPlatform (outline : Outline κ) (project : Project κ) (capsules : Nat)
    (platform : Platform) : Run GenerateError PlatformResult := do
  let settings ← Run.settings
  let blueprint := platform.blueprint settings.defaultAndroidPackage
  let files ← Run.ofExcept
    ((blueprint.manifestOver outline settings.limits project).mapError .ofWalk)
  Run.meter (Board.countResult platform.name capsules)
  Run.log .debug generationLogger s!"Generated {files.length} file(s) for {platform.name}"
  return ⟨platform.name, files, capsules, project.screens.length, momentText (← get).now⟩

/-- Passes a target over. -/
def skipTarget (project : Project κ) (target : String) : Run GenerateError Unit := do
  Run.meter Board.countSkipped
  Run.log .warning generationLogger
    s!"Skipping unsupported target {Text.quote target} for project {Text.quote project.name}"

/-- The results for all targets that name a platform. -/
def runTargets (outline : Outline κ) (project : Project κ) (capsules : Nat) :
    List String → Run GenerateError (List PlatformResult)
  | [] => return []
  | target :: rest =>
    match Platform.ofName? target with
    | none => do
      skipTarget project target
      runTargets outline project capsules rest
    | some platform => do
      let result ← runPlatform outline project capsules platform
      return result :: (← runTargets outline project capsules rest)

/-- Measures how long a computation takes, whether it fails or not. -/
def timed {α : Type} (run : Run GenerateError α) : Run GenerateError α := do
  let start ← Run.readClock
  let outcome ← Run.attempt run
  let stop ← Run.readClock
  Run.meter (Board.observeDuration (stop.sub start))
  Run.ofExcept outcome

/-- The totals of some results. -/
def summarize (project : Project κ) (capsules : Nat) (results : List PlatformResult) :
    Summary where
  platforms := results.length
  files := total (results.map fun result => result.files.length)
  capsules := capsules
  screens := project.screens.length

/-- Refuses targets that name no platform, if the settings say so. -/
def refuseUnknown (targets : List String) : Run GenerateError Unit := do
  if (← Run.settings).strictTargets && !(unknownTargets targets).isEmpty then
    throw (.unknownTargets (unknownTargets targets))

/-- The generation of a project whose screens show places of an outline, for the targets that are
asked for or else its own. -/
def generateOver (outline : Outline κ) (project : Project κ) (targets? : Option (List Doc)) :
    Run GenerateError Generation := do
  let targets ← Run.ofExcept (requestedTargets project targets?)
  refuseUnknown targets
  let capsules ← countProject outline project
  let results ← timed (runTargets outline project capsules targets)
  let summary := summarize project capsules results
  Run.log .info generationLogger <|
    s!"Generated {Text.quote project.name}: {summary.platforms} platform(s), " ++
    s!"{summary.files} file(s), {summary.capsules} capsule(s)"
  return ⟨results, summary⟩

/-- The generation of a project whose screens show trees. -/
def generate (project : Project) (targets? : Option (List Doc)) : Run GenerateError Generation :=
  generateOver Tree.outline project targets?

end CapsuleLoom
