import CapsuleLoom.Metrics.Histogram

/-!
# The metrics of the service

The five counters and the histogram that `GET /metrics` prints.

## Main definitions

* `Board` : the metrics that the service keeps.
* `Board.render` : all of them as they are printed.

## References

* HubLab API specification, §6 (external interfaces), `GET /metrics`; §9 (ambient stack), metrics.
-/

namespace CapsuleLoom

/-- The metrics that the service keeps. -/
structure Board where
  /-- Generated results by platform. -/
  generated : Counter := .new "hublab_generate_total" "Generation results by platform"
  /-- Targets that were passed over. -/
  skipped : Counter :=
    .new "hublab_skipped_targets_total" "Requested targets with no matching generator"
  /-- Capsules in generated results by platform. -/
  rendered : Counter := .new "hublab_capsules_rendered_total" "Capsules translated by platform"
  /-- Trees that were refused. -/
  rejected : Counter :=
    .new "hublab_tree_rejections_total" "Capsule trees rejected by the walker guard"
  /-- Questions to the model by endpoint and outcome. -/
  asked : Counter := .new "hublab_ai_requests_total" "AI bridge calls by endpoint and outcome"
  /-- How long generations took. -/
  duration : Histogram :=
    .new "hublab_generate_duration_seconds" "Full generate() duration" []

namespace Board

/-- The metrics before anything happened. -/
def new : Board := {}

/-- Counts a generated result with its capsules. -/
def countResult (platform : String) (capsules : Nat) (board : Board) : Board :=
  { board with
    generated := (board.generated.inc [("platform", platform)] (.int 1)).2
    rendered := (board.rendered.inc [("platform", platform)] (.int capsules)).2 }

/-- Counts a target that was passed over. -/
def countSkipped (board : Board) : Board :=
  { board with skipped := (board.skipped.inc [] (.int 1)).2 }

/-- Counts a tree that was refused. -/
def countRejected (board : Board) : Board :=
  { board with rejected := (board.rejected.inc [] (.int 1)).2 }

/-- Counts a question to the model. -/
def countAsked (endpoint outcome : String) (board : Board) : Board :=
  { board with
    asked := (board.asked.inc [("endpoint", endpoint), ("outcome", outcome)] (.int 1)).2 }

/-- Takes the duration of a generation in. -/
def observeDuration (seconds : Double) (board : Board) : Board :=
  { board with duration := (board.duration.observe [] (.double seconds)).2 }

/-- All metrics as they are printed. -/
def render (board : Board) : Except Overflow String := do
  let duration ← board.duration.render
  return board.generated.render ++ board.skipped.render ++ board.rendered.render ++
    board.rejected.render ++ board.asked.render ++ duration

end Board

end CapsuleLoom
