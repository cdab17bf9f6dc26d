/-!
# Problems of a document

What can be wrong with a document that should describe something, and where.

## Main definitions

* `Step`, `Cause`, `Problem` : a place, what is wrong, and both.
* `Checked` : a value, or all problems that stood in its way.
-/

namespace CapsuleLoom

/-- One step into a document. -/
inductive Step where
  /-- Into the field of an object. -/
  | key (name : String)
  /-- Into an item of a list. -/
  | index (position : Nat)
  deriving DecidableEq

/-- The wording of a step. -/
def Step.text : Step → String
  | key name => name
  | index position => toString position

/-- What is wrong at a place. -/
inductive Cause where
  /-- A field that must be there is not. -/
  | required
  /-- The value is no text. -/
  | notText
  /-- The value is no list. -/
  | notList
  /-- The value is no object. -/
  | notObject
  /-- The value is no object, where one is to describe a named thing. -/
  | notDescription (name : String)
  /-- The value is no object, where one is to bring fields. -/
  | notFields
  /-- The value stands too deep to be looked at. -/
  | tooDeep
  /-- The name of a project is blank. -/
  | blankName
  /-- The identifier of a screen is blank. -/
  | blankScreenId
  deriving DecidableEq

/-- The wording of a cause. -/
def Cause.message : Cause → String
  | required => "Field required"
  | notText => "Input should be a valid string"
  | notList => "Input should be a valid list"
  | notObject => "Input should be a valid dictionary"
  | notDescription name => s!"Input should be a valid dictionary or instance of {name}"
  | notFields => "Input should be a valid dictionary or object to extract fields from"
  | tooDeep => "Recursion error - maximum validation depth exceeded"
  | blankName => "Value error, name must be a non-empty string"
  | blankScreenId => "Value error, screens[].id is required"

/-- Something wrong at a place. -/
structure Problem where
  /-- The steps to the place. -/
  path : List Step
  /-- What is wrong there. -/
  cause : Cause
  deriving DecidableEq

namespace Problem

/-- The wording of the place. -/
def place (problem : Problem) : String := ".".intercalate (problem.path.map Step.text)

/-- The wording of a problem. -/
def line (problem : Problem) : String := s!"{problem.place}: {problem.cause.message}"

/-- The same problem, seen from one step further out. -/
def under (step : Step) (problem : Problem) : Problem := ⟨step :: problem.path, problem.cause⟩

end Problem

/-- A value, or all problems that stood in its way. -/
inductive Checked (α : Type) where
  /-- Nothing was wrong. -/
  | good (value : α)
  /-- These problems were found. -/
  | bad (problems : List Problem)

namespace Checked

variable {α β : Type}

/-- A value with one problem of its own. -/
def fail (cause : Cause) : Checked α := bad [⟨[], cause⟩]

/-- Applies `f` to a value without problems. -/
def map (f : α → β) : Checked α → Checked β
  | good value => good (f value)
  | bad problems => bad problems

/-- A checked function at a checked value; the problems of both are kept, in order. -/
def apply : Checked (α → β) → Checked α → Checked β
  | good f, good value => good (f value)
  | good _, bad problems => bad problems
  | bad problems, good _ => bad problems
  | bad problems, bad more => bad (problems ++ more)

instance : Applicative Checked where
  pure := good
  map := map
  seq f value := apply f (value ())

/-- Looks further at a value that has no problem so far. -/
def andThen (checked : Checked α) (check : α → Checked β) : Checked β :=
  match checked with
  | good value => check value
  | bad problems => bad problems

/-- The same outcome, seen from one step further out. -/
def under (step : Step) : Checked α → Checked α
  | good value => good value
  | bad problems => bad (problems.map (Problem.under step))

/-- Checks all items of a list, the first of which has a given position. -/
def eachFrom (check : α → Checked β) : Nat → List α → Checked (List β)
  | _, [] => good []
  | position, item :: rest =>
    apply (map List.cons (under (.index position) (check item)))
      (eachFrom check (position + 1) rest)

/-- Checks all items of a list. -/
def each (check : α → Checked β) (items : List α) : Checked (List β) := eachFrom check 0 items

end Checked

end CapsuleLoom
