import CapsuleLoom.Capsule.Basic

/-!
# Guarded walks

A walk visits capsules from a root downwards and combines the results of the children at each
capsule, children first.  The capsules may form a graph in which a capsule is reached on several
ways, or even lies below itself; a walk therefore keeps the capsules that are open above the
current one, and it counts the capsules that it has entered.  It stops at the first capsule that
is too deep, lies below itself, or is one too many, in this order.  Combining may fail, and it
may change a world of its own, such as a record of the calls.

## Main definitions

* `Outline` : what a walk needs to know of capsules and their children.
* `Limits`, `Breach` : the guards and the ways to run into one.
* `Walker` : what a walk keeps while it runs.
* `visit` : the walk from one capsule on.
* `walkWith`, `walk`, `walkPure` : the walk from a root, for combining with a world, without
  one, and without failures.
* `countCapsules` : the count of capsules that a walk enters.

## References

* HubLab API specification, §4.3, counting capsules; §5 (concurrency and resource model), the
  ceilings of depth and count and the detection of cycles.
-/

namespace CapsuleLoom

/-- Places that hold capsules and have places below them. -/
structure Outline (κ : Type) where
  /-- The capsule at a place. -/
  capsule : κ → Capsule
  /-- The places directly below a place, in order. -/
  children : κ → List κ
  /-- Whether two places are one and the same object. -/
  same : κ → κ → Bool

/-- The places of a tree are all different, so a walk through a tree never meets one again. -/
def Tree.outline : Outline (Tree Capsule) := ⟨Tree.value, Tree.children, fun _ _ => false⟩

/-- How deep and how large a tree of capsules may be. -/
structure Limits where
  /-- The greatest count of capsules on a path from the root. -/
  maxDepth : Int
  /-- The greatest count of capsules. -/
  maxNodes : Int
  deriving DecidableEq

/-- The limits that apply when nothing else is said. -/
def Limits.standard : Limits := ⟨64, 5000⟩

/-- What is wrong with the capsule at which a walk stops. -/
inductive BreachKind where
  /-- The capsule is below the greatest depth. -/
  | tooDeep (limit : Int)
  /-- The capsule lies below itself. -/
  | cyclic
  /-- The capsule is one too many. -/
  | tooLarge (limit : Int)
  deriving DecidableEq

/-- A guard of a walk that a capsule ran into. -/
structure Breach where
  /-- What is wrong. -/
  kind : BreachKind
  /-- The identifier of the capsule. -/
  nodeId : String
  /-- The depth of the capsule, the root being at depth one. -/
  depth : Nat
  deriving DecidableEq

/-- The wording of a breach. -/
def Breach.message (breach : Breach) : String :=
  match breach.kind with
  | .tooDeep limit => s!"capsule tree exceeds max depth {limit} at '{breach.nodeId}'"
  | .cyclic => s!"capsule '{breach.nodeId}' appears among its own descendants"
  | .tooLarge limit => s!"capsule tree exceeds max size of {limit} nodes"

/-- Why a walk stopped: a guard, or a capsule whose results could not be combined. -/
inductive WalkError (ε : Type) where
  /-- A guard was run into. -/
  | breach (breach : Breach)
  /-- Combining failed. -/
  | combine (error : ε)

/-- What a walk keeps while it runs. -/
structure Walker (κ σ : Type) where
  /-- The places that were opened and not closed since, the last one first. -/
  ancestors : List κ
  /-- How many places were entered. -/
  entered : Nat
  /-- What combining works on. -/
  world : σ

/-- A step of combining, which may change a world and may fail. -/
abbrev Combining (σ ε α : Type) := ExceptT ε (StateM σ) α

/-- A step of a walk; what it did before it failed stays done. -/
abbrev Walking (κ σ ε α : Type) := ExceptT (WalkError ε) (StateM (Walker κ σ)) α

variable {κ σ ε α : Type}

namespace Walker

/-- Counts one more place. -/
def enter (walker : Walker κ σ) : Walker κ σ := { walker with entered := walker.entered + 1 }

/-- Opens a place. -/
def openAt (place : κ) (walker : Walker κ σ) : Walker κ σ :=
  { walker with ancestors := place :: walker.ancestors }

/-- Closes the place that was opened last. -/
def close (walker : Walker κ σ) : Walker κ σ :=
  { walker with ancestors := walker.ancestors.tail }

end Walker

/-- An outcome that depends on no world. -/
def Combining.ofExcept (outcome : Except ε α) : Combining σ ε α := fun world => (outcome, world)

namespace Walking

/-- Runs a step and closes the place that was opened last, whether the step fails or not. -/
def closing (step : Walking κ σ ε α) : Walking κ σ ε α := fun walker =>
  let (outcome, walker) := step walker
  (outcome, walker.close)

/-- Runs a step of combining on the world of the walk. -/
def combining (step : Combining σ ε α) : Walking κ σ ε α := fun walker =>
  let (outcome, world) := step walker.world
  (outcome.mapError .combine, { walker with world })

end Walking

/-- Runs `enter` on the places in order. -/
def visitEach (enter : κ → Walking κ σ ε α) : List κ → Walking κ σ ε (List α)
  | [] => return []
  | place :: rest => do
    let result ← enter place
    return result :: (← visitEach enter rest)

/-- Counts `place`, which is at `depth`, and opens it, unless it is open already or one too
many. -/
def enterPlace (outline : Outline κ) (limits : Limits) (depth : Nat) (place : κ) :
    Walking κ σ ε Unit := fun walker =>
  let breach (kind : BreachKind) : WalkError ε :=
    .breach ⟨kind, (outline.capsule place).id, depth⟩
  if walker.ancestors.any (outline.same place) then (.error (breach .cyclic), walker)
  else if limits.maxNodes < walker.enter.entered then
    (.error (breach (.tooLarge limits.maxNodes)), walker.enter)
  else (.ok (), walker.enter.openAt place)

/-- The walk from `place` on, which is at `depth`.  There is `room` for that many more levels. -/
def visit (outline : Outline κ) (limits : Limits) (combine : κ → List α → Combining σ ε α) :
    (room depth : Nat) → κ → Walking κ σ ε α
  | 0, depth, place =>
    throw (.breach ⟨.tooDeep limits.maxDepth, (outline.capsule place).id, depth⟩)
  | room + 1, depth, place => do
    enterPlace outline limits depth place
    let results ← .closing <|
      visitEach (visit outline limits combine room (depth + 1)) (outline.children place)
    .combining (combine place results)

/-- The walk from a root. -/
def walkWith (outline : Outline κ) (limits : Limits) (combine : κ → List α → Combining σ ε α)
    (root : κ) : StateM σ (Except (WalkError ε) α) := fun world =>
  let (outcome, walker) :=
    visit outline limits combine limits.maxDepth.toNat 1 root ⟨[], 0, world⟩
  (outcome, walker.world)

/-- The result of a walk in which combining works on nothing. -/
def walk (outline : Outline κ) (limits : Limits) (combine : κ → List α → Except ε α) (root : κ) :
    Except (WalkError ε) α :=
  (walkWith outline limits (fun place results => .ofExcept (combine place results)) root ()).1

/-- The outcome of a walk in which combining cannot fail. -/
def breachOnly : Except (WalkError Empty) α → Except Breach α
  | .ok result => .ok result
  | .error (.breach breach) => .error breach

/-- The result of a walk in which combining works on nothing and cannot fail. -/
def walkPure (outline : Outline κ) (limits : Limits) (combine : κ → List α → α) (root : κ) :
    Except Breach α :=
  breachOnly (walk outline limits (fun place results => .ok (combine place results)) root)

/-- The count of capsules from a root on, a capsule that is reached on several ways counting
once for each. -/
def countCapsules (outline : Outline κ) (limits : Limits) : Option κ → Except Breach Nat
  | none => .ok 0
  | some root => walkPure outline limits (fun _ counts => 1 + total counts) root

/-- Notes the identifier of a capsule as combined. -/
def noteCombined (outline : Outline κ) (place : κ) : Combining (List String) Empty Unit :=
  modify (· ++ [(outline.capsule place).id])

/-- The identifiers of the capsules from a root on, in the order in which they are combined. -/
def combineOrder (outline : Outline κ) (limits : Limits) (root : κ) :
    Except Breach (List String) :=
  let (outcome, order) :=
    walkWith outline limits (fun place _ => noteCombined outline place) root []
  (breachOnly outcome).map fun _ => order

end CapsuleLoom
