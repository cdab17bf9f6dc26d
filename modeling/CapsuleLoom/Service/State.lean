import CapsuleLoom.Assistant.Chat
import CapsuleLoom.Doc.Reader
import CapsuleLoom.Log
import CapsuleLoom.Metrics.Board
import CapsuleLoom.Metrics.Registry

/-!
# The state of the service

## Main definitions

* `Service` : everything that one request leaves behind for the next.
* `Run` : a computation on the state that may fail; what it did before it failed stays done.
-/

namespace CapsuleLoom

/-- What the service did, as far as it can be seen from outside. -/
structure Journal where
  /-- The events that it told about. -/
  events : List LogEvent
  /-- The requests that it sent to the model. -/
  requests : List ChatRequest
  /-- The pauses that it made, in seconds. -/
  pauses : List Double
  /-- The clients that it built. -/
  clients : List ClientConfig

/-- The journal before anything happened. -/
def Journal.empty : Journal := ⟨[], [], [], []⟩

/-- Everything that one request leaves behind for the next. -/
structure Service where
  /-- The settings. -/
  settings : Settings
  /-- The metrics. -/
  board : Board
  /-- The clock that durations are measured with. -/
  clock : Clock
  /-- The client of the model, once it was needed. -/
  client : Option Client
  /-- What comes back from the model, in order. -/
  script : List Outcome
  /-- The time of day, in milliseconds. -/
  now : Int
  /-- The levels of compounds that the stack has room for when a text is read. -/
  room : Nat
  /-- What the service did. -/
  journal : Journal

/-- A computation on the state that may fail. -/
abbrev Run (ε α : Type) := ExceptT ε (StateM Service) α

namespace Run

variable {ε ε' α : Type}

/-- An outcome that does not depend on the state. -/
def ofExcept : Except ε α → Run ε α
  | .ok value => pure value
  | .error error => throw error

/-- The outcome of a computation, as a value. -/
def attempt (run : Run ε α) : Run ε' (Except ε α) := ExceptT.lift run.run

/-- A computation with its error seen from further out. -/
def mapError (f : ε → ε') (run : Run ε α) : Run ε' α := ExceptT.adapt f run

/-- The settings. -/
def settings : Run ε Settings := return (← get).settings

/-- Changes the journal. -/
def note (f : Journal → Journal) : Run ε Unit :=
  modify fun service => { service with journal := f service.journal }

/-- Tells about an event. -/
def log (level : Level) (logger message : String) : Run ε Unit :=
  note fun journal => { journal with events := journal.events ++ [⟨level, logger, message⟩] }

/-- Changes the metrics. -/
def meter (f : Board → Board) : Run ε Unit :=
  modify fun service => { service with board := f service.board }

/-- Reads the clock. -/
def readClock : Run ε Double := do
  modify fun service => { service with clock := service.clock.advance }
  return (← get).clock.now

end Run

/-- The service before the first request. -/
def Service.new (settings : Settings) (clock : Clock) (script : List Outcome) (now : Int) :
    Service :=
  ⟨settings, .new, clock, none, script, now, standardRoom, .empty⟩

end CapsuleLoom
